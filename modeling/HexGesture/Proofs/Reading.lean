import HexGesture.Save.Item
import Mathlib.Algebra.Order.Ring.Nat

/-! How readers are put together. A reader that takes some bytes for a value does so whatever
follows them, and one that refuses some bytes refuses them with any continuation; both are carried
from the parts of a reader to the whole. What is read of all the data must leave nothing. -/
namespace HexGesture

theorem ofLittleEndian_littleEndian (k n : Nat) :
    ofLittleEndian (littleEndian k n) = n % 256 ^ k := by
  induction k generalizing n with
  | zero => simp [littleEndian, ofLittleEndian, Nat.mod_one]
  | succ k ih =>
    simp only [littleEndian, ofLittleEndian, ih]
    rw [Nat.pow_succ', Nat.mod_mul]
    simp

theorem ofLittleEndian_bytes32 (n : UInt32) : (ofLittleEndian (bytes32 n)).toUInt32 = n := by
  have hn : n.toNat < 256 ^ 4 := n.toNat_lt
  rw [bytes32, ofLittleEndian_littleEndian, Nat.mod_eq_of_lt hn]
  simp

theorem ofLittleEndian_bytes64 (n : UInt64) : (ofLittleEndian (bytes64 n)).toUInt64 = n := by
  have hn : n.toNat < 256 ^ 8 := n.toNat_lt
  rw [bytes64, ofLittleEndian_littleEndian, Nat.mod_eq_of_lt hn]
  simp

theorem ofLittleEndian_lt (bs : List UInt8) : ofLittleEndian bs < 256 ^ bs.length := by
  have hmod := ofLittleEndian_littleEndian bs.length (ofLittleEndian bs)
  rw [littleEndian_ofLittleEndian] at hmod
  rw [hmod]
  exact Nat.mod_lt _ (Nat.pow_pos (by decide))

theorem bytes32_ofLittleEndian {bs : List UInt8} (h : bs.length = 4) :
    bytes32 (ofLittleEndian bs).toUInt32 = bs := by
  have hlt : ofLittleEndian bs < UInt32.size := by
    have hbound := ofLittleEndian_lt bs
    rwa [h] at hbound
  have hnat : (ofLittleEndian bs).toUInt32.toNat = ofLittleEndian bs := UInt32.toNat_ofNat_of_lt' hlt
  have hbytes := littleEndian_ofLittleEndian bs
  rwa [bytes32, hnat, ← h]

theorem bytes64_ofLittleEndian {bs : List UInt8} (h : bs.length = 8) :
    bytes64 (ofLittleEndian bs).toUInt64 = bs := by
  have hlt : ofLittleEndian bs < UInt64.size := by
    have hbound := ofLittleEndian_lt bs
    rwa [h] at hbound
  have hnat : (ofLittleEndian bs).toUInt64.toNat = ofLittleEndian bs := UInt64.toNat_ofNat_of_lt' hlt
  have hbytes := littleEndian_ofLittleEndian bs
  rwa [bytes64, hnat, ← h]

namespace Reader

variable {α β : Type}

/-- The reader takes these bytes for `x` and leaves all that comes after them. -/
def Yields (r : Reader α) (data : List UInt8) (x : α) : Prop :=
  ∀ rest, r.run (data ++ rest) = .ok (x, rest)

/-- The reader fails on these bytes, whatever comes after them. -/
def Refuses (r : Reader α) (data : List UInt8) (why : SaveError) : Prop :=
  ∀ rest, r.run (data ++ rest) = .error why

theorem yields_pure (x : α) : Yields (pure x) [] x := fun _ => rfl

/-- What follows the bytes of the first part is left to the second. -/
theorem Yields.run_bind {r : Reader α} {xs : List UInt8} {x : α} (hr : r.Yields xs x)
    (f : α → Reader β) (ys : List UInt8) : (r >>= f).run (xs ++ ys) = (f x).run ys := by
  rw [StateT.run_bind, hr]
  rfl

theorem Yields.bind {r : Reader α} {f : α → Reader β} {xs ys : List UInt8} {x : α} {y : β}
    (hr : r.Yields xs x) (hf : (f x).Yields ys y) : (r >>= f).Yields (xs ++ ys) y := by
  intro rest
  rw [List.append_assoc, hr.run_bind]
  exact hf rest

theorem Yields.bind_nil {r : Reader α} {f : α → Reader β} {xs : List UInt8} {x : α} {y : β}
    (hr : r.Yields xs x) (hf : (f x).Yields [] y) : (r >>= f).Yields xs y := by
  have h := hr.bind hf
  rwa [List.append_nil] at h

theorem Yields.map {r : Reader α} {xs : List UInt8} {x : α} (hr : r.Yields xs x) (f : α → β) :
    (f <$> r).Yields xs (f x) := by
  intro rest
  rw [StateT.run_map, hr]
  rfl

theorem Refuses.bind {r : Reader α} {xs : List UInt8} {why : SaveError} (hr : r.Refuses xs why)
    (f : α → Reader β) (ys : List UInt8) : (r >>= f).Refuses (xs ++ ys) why := by
  intro rest
  rw [StateT.run_bind, List.append_assoc, hr]
  rfl

theorem Refuses.bind_nil {r : Reader α} {xs : List UInt8} {why : SaveError}
    (hr : r.Refuses xs why) (f : α → Reader β) : (r >>= f).Refuses xs why := by
  have h := hr.bind f []
  rwa [List.append_nil] at h

theorem Yields.bind_refuses {r : Reader α} {f : α → Reader β} {xs ys : List UInt8} {x : α}
    {why : SaveError} (hr : r.Yields xs x) (hf : (f x).Refuses ys why) :
    (r >>= f).Refuses (xs ++ ys) why := by
  intro rest
  rw [List.append_assoc, hr.run_bind]
  exact hf rest

theorem Refuses.map {r : Reader α} {xs : List UInt8} {why : SaveError} (hr : r.Refuses xs why)
    (f : α → β) : (f <$> r).Refuses xs why := by
  intro rest
  rw [StateT.run_map, hr]
  rfl

theorem yields_byte (b : UInt8) : byte.Yields [b] b := fun _ => rfl

theorem yields_bytes {n : Nat} {data : List UInt8} (h : data.length = n) :
    (bytes n).Yields data data := by
  subst h
  intro rest
  change bytes data.length (data ++ rest) = _
  simp [bytes]

theorem yields_upTo {n : Nat} {data : List UInt8} (h : data.length = n) :
    (upTo n).Yields data data := by
  subst h
  intro rest
  change upTo data.length (data ++ rest) = _
  simp [upTo]

theorem yields_word32 (n : UInt32) : word32.Yields (bytes32 n) n := by
  have hb : (bytes 4).Yields (bytes32 n) (bytes32 n) := yields_bytes (length_littleEndian 4 _)
  refine hb.bind_nil ?_
  rw [ofLittleEndian_bytes32]
  exact yields_pure n

theorem yields_word64 (n : UInt64) : word64.Yields (bytes64 n) n := by
  have hb : (bytes 8).Yields (bytes64 n) (bytes64 n) := yields_bytes (length_littleEndian 8 _)
  refine hb.bind_nil ?_
  rw [ofLittleEndian_bytes64]
  exact yields_pure n

theorem yields_length {n : Nat} (h : n < UInt32.size) :
    word32.Yields (littleEndian 4 n) n.toUInt32 ∧ n.toUInt32.toNat = n := by
  have hn : n.toUInt32.toNat = n := by
    rw [Nat.toUInt32, UInt32.toNat_ofNat']
    exact Nat.mod_eq_of_lt h
  have hw := yields_word32 n.toUInt32
  rw [bytes32, hn] at hw
  exact ⟨hw, hn⟩

end Reader

namespace SecretTable

theorem ofBytes_eq_ok_iff_run {t : SecretTable} {data : List UInt8} :
    ofBytes data = .ok t ↔ read.run data = .ok (t, []) := by
  rw [ofBytes]
  cases read.run data with
  | error why => simp [bind, Except.bind]
  | ok r =>
    obtain ⟨u, rest⟩ := r
    cases rest with
    | nil => simp [bind, Except.bind, pure, Except.pure]
    | cons b rest => simp [bind, Except.bind, throw, throwThe, MonadExceptOf.throw]

theorem ofBytes_of_error {data : List UInt8} {why : SaveError} (h : read.run data = .error why) :
    ofBytes data = .error why := by
  rw [ofBytes, h]
  rfl

theorem ofBytes_of_left {t : SecretTable} {data rest : List UInt8}
    (h : read.run data = .ok (t, rest)) (hrest : rest ≠ []) :
    ofBytes data = .error (.malformed (.trailingBytes rest.length)) := by
  rw [ofBytes, h]
  change (if rest = [] then _ else _) = _
  rw [if_neg hrest]
  rfl

end SecretTable

end HexGesture
