import HexGesture.Proofs.Reading
import HexGesture.Secret.Alternate
import Mathlib.Data.List.Nodup
import Mathlib.Tactic.IntervalCases

/-! What tells the seeds of attempts apart. A step of the hash can be undone when its byte is known,
so bytes that differ in one place only never hash alike. The number of an attempt spreads over four
bytes, and there the argument is another one. Modulo `2 ^ 40` a step multiplies by 435, which
is more than a byte can count. So of two states that differ there, the greater one stays ahead
whatever bytes come in, and four bytes are too few for it to come round to the other. -/
namespace HexGesture

/-- The inverse of the prime modulo `2 ^ 64`. -/
def fnvInverse : UInt64 := 0xce965057aff6957b

theorem mul_fnvPrime_inj {x y : UInt64} : x * fnvPrime = y * fnvPrime ↔ x = y := by
  constructor
  · intro h
    have hinverse : fnvPrime * fnvInverse = 1 := by decide
    have hundone := congrArg (· * fnvInverse) h
    simpa only [UInt64.mul_assoc, hinverse, UInt64.mul_one] using hundone
  · rintro rfl
    rfl

theorem fnvByte_left_inj {h k : UInt64} {b : UInt8} : fnvByte h b = fnvByte k b ↔ h = k := by
  rw [fnvByte, fnvByte, mul_fnvPrime_inj, UInt64.xor_left_inj]

theorem fnvByte_right_inj {h : UInt64} {b c : UInt8} : fnvByte h b = fnvByte h c ↔ b = c := by
  rw [fnvByte, fnvByte, mul_fnvPrime_inj, UInt64.xor_right_inj, UInt8.toUInt64_inj]

theorem foldl_fnvByte_left_inj {h k : UInt64} {bs : List UInt8} :
    bs.foldl fnvByte h = bs.foldl fnvByte k ↔ h = k := by
  induction bs generalizing h k with
  | nil => rfl
  | cons b bs ih => rw [List.foldl_cons, List.foldl_cons, ih, fnvByte_left_inj]

theorem fnv_append (bs cs : List UInt8) : fnv (bs ++ cs) = cs.foldl fnvByte (fnv bs) :=
  List.foldl_append

/-- Lists that differ in one place only. -/
inductive DifferOnce {α : Type} : List α → List α → Prop
  | at (before after : List α) {a b : α} (hne : a ≠ b) :
    DifferOnce (before ++ a :: after) (before ++ b :: after)

namespace DifferOnce

variable {α β : Type} {xs ys : List α}

theorem length_eq (h : DifferOnce xs ys) : xs.length = ys.length := by
  obtain ⟨before, after, -⟩ := h
  simp

theorem map (h : DifferOnce xs ys) {f : α → β} (hf : Function.Injective f) :
    DifferOnce (xs.map f) (ys.map f) := by
  obtain ⟨before, after, hne⟩ := h
  rw [List.map_append, List.map_append]
  exact .at _ _ (hf.ne hne)

theorem append_left (h : DifferOnce xs ys) (before : List α) :
    DifferOnce (before ++ xs) (before ++ ys) := by
  obtain ⟨before', after, hne⟩ := h
  rw [← List.append_assoc, ← List.append_assoc]
  exact .at _ _ hne

theorem append_right (h : DifferOnce xs ys) (after : List α) :
    DifferOnce (xs ++ after) (ys ++ after) := by
  obtain ⟨before, after', hne⟩ := h
  rw [List.append_assoc, List.append_assoc]
  exact .at before (after' ++ after) hne

theorem fnv_ne {bs cs : List UInt8} (h : DifferOnce bs cs) : fnv bs ≠ fnv cs := by
  obtain ⟨before, after, hne⟩ := h
  rw [fnv_append, fnv_append, List.foldl_cons, List.foldl_cons, ne_eq, foldl_fnvByte_left_inj,
    fnvByte_right_inj]
  exact hne

end DifferOnce

/-! A state is looked at when a byte has come in and before the multiplication that follows. -/

def absorb (x : UInt64) (b : UInt8) : UInt64 := x * fnvPrime ^^^ b.toUInt64

theorem foldl_fnvByte_cons (h : UInt64) (b : UInt8) (bs : List UInt8) :
    (b :: bs).foldl fnvByte h = bs.foldl absorb (h ^^^ b.toUInt64) * fnvPrime := by
  induction bs generalizing h b with
  | nil => rfl
  | cons c bs ih =>
    have hstate : fnvByte h b ^^^ c.toUInt64 = absorb (h ^^^ b.toUInt64) c := rfl
    rw [List.foldl_cons, ih, hstate, List.foldl_cons]

/-- A byte that comes in changes nothing above the lowest byte. -/
theorem xor_toNat_div (n : Nat) (b : UInt8) : (n ^^^ b.toNat) / 256 = n / 256 := by
  have hsize : 256 = 2 ^ 8 := rfl
  have hb : b.toNat / 2 ^ 8 = 0 := Nat.div_eq_of_lt b.toNat_lt
  rw [hsize, Nat.xor_div_two_pow, hb, Nat.xor_zero]

/-- Numbers stand for states modulo `2 ^ 40`. There the prime is 435. -/
theorem absorb_mod {n : Nat} {x : UInt64} (h : n % 2 ^ 40 = x.toNat % 2 ^ 40) (b : UInt8) :
    (n * 435 ^^^ b.toNat) % 2 ^ 40 = (absorb x b).toNat % 2 ^ 40 := by
  have hprime : n * 435 % 2 ^ 40 = (x * fnvPrime).toNat % 2 ^ 40 := by
    have hmul : (x * fnvPrime).toNat = x.toNat * 0x100000001b3 % 2 ^ 64 := UInt64.toNat_mul _ _
    omega
  rw [absorb, UInt64.toNat_xor, UInt8.toNat_toUInt64, Nat.xor_mod_two_pow, Nat.xor_mod_two_pow,
    hprime]

/-- Modulo `2 ^ 40` the first state is greater, by at most so much. -/
def Ahead (gap : Nat) (x y : UInt64) : Prop :=
  ∃ m n : Nat, m % 2 ^ 40 = x.toNat % 2 ^ 40 ∧ n % 2 ^ 40 = y.toNat % 2 ^ 40 ∧ n < m ∧ m ≤ n + gap

/-- How far a state can get ahead by one byte and some more after it. -/
def greatestGap : Nat → Nat
  | 0 => 255
  | k + 1 => 435 * greatestGap k + 511

theorem greatestGap_lt {k : Nat} (h : k ≤ 3) : greatestGap k < 2 ^ 40 := by
  interval_cases k <;> decide

namespace Ahead

variable {gap : Nat} {x y : UInt64}

theorem ne (h : Ahead gap x y) (hgap : gap < 2 ^ 40) : x ≠ y := by
  rintro rfl
  obtain ⟨m, n, hm, hn, hlt, hle⟩ := h
  omega

/-- What is ahead stays so, whatever comes in. -/
theorem absorb (h : Ahead gap x y) (b c : UInt8) :
    Ahead (435 * gap + 511) (absorb x b) (absorb y c) := by
  obtain ⟨m, n, hm, hn, hlt, hle⟩ := h
  have hb := xor_toNat_div (m * 435) b
  have hc := xor_toNat_div (n * 435) c
  -- multiples of 435 that differ do so above the lowest byte, and no byte reaches higher
  exact ⟨m * 435 ^^^ b.toNat, n * 435 ^^^ c.toNat, absorb_mod hm b, absorb_mod hn c, by omega,
    by omega⟩

theorem foldl_absorb {k : Nat} (h : Ahead (greatestGap k) x y) {bs cs : List UInt8}
    (hlength : bs.length = cs.length) :
    Ahead (greatestGap (k + bs.length)) (bs.foldl HexGesture.absorb x)
      (cs.foldl HexGesture.absorb y) := by
  induction bs generalizing k x y cs with
  | nil =>
    obtain rfl := List.length_eq_zero_iff.mp hlength.symm
    exact h
  | cons b bs ih =>
    obtain ⟨c, cs, rfl⟩ := List.exists_cons_of_length_eq_add_one hlength.symm
    have hrest := ih (k := k + 1) (h.absorb b c) (Nat.succ.inj hlength)
    rwa [Nat.add_right_comm] at hrest

end Ahead

theorem ahead_or_ahead (h : UInt64) {b c : UInt8} (hne : b ≠ c) :
    Ahead 255 (h ^^^ b.toUInt64) (h ^^^ c.toUInt64) ∨
      Ahead 255 (h ^^^ c.toUInt64) (h ^^^ b.toUInt64) := by
  have hb := xor_toNat_div h.toNat b
  have hc := xor_toNat_div h.toNat c
  rw [← UInt8.toNat_toUInt64, ← UInt64.toNat_xor] at hb hc
  have hstates : (h ^^^ b.toUInt64).toNat ≠ (h ^^^ c.toUInt64).toNat := by
    rw [ne_eq, UInt64.toNat_inj, UInt64.xor_right_inj, UInt8.toUInt64_inj]
    exact hne
  obtain hlt | hlt := Nat.lt_or_gt_of_ne hstates
  · exact .inr ⟨_, _, rfl, rfl, hlt, by omega⟩
  · exact .inl ⟨_, _, rfl, rfl, hlt, by omega⟩

/-- Up to four bytes can be told from what they make of a state. -/
theorem foldl_fnvByte_right_inj {h : UInt64} {bs cs : List UInt8} (hlength : bs.length = cs.length)
    (hshort : bs.length ≤ 4) : bs.foldl fnvByte h = cs.foldl fnvByte h ↔ bs = cs := by
  refine ⟨fun heq => ?_, fun heq => by rw [heq]⟩
  induction bs generalizing h cs with
  | nil => exact (List.length_eq_zero_iff.mp hlength.symm).symm
  | cons b bs ih =>
    obtain ⟨c, cs, rfl⟩ := List.exists_cons_of_length_eq_add_one hlength.symm
    have hrest : bs.length = cs.length := Nat.succ.inj hlength
    have hthree : bs.length ≤ 3 := Nat.le_of_succ_le_succ hshort
    by_cases hbc : b = c
    · subst hbc
      rw [ih hrest (Nat.le_succ_of_le hthree) heq]
    · -- the first bytes that differ put one state ahead for good
      rw [foldl_fnvByte_cons, foldl_fnvByte_cons, mul_fnvPrime_inj] at heq
      have hgap : greatestGap (0 + bs.length) < 2 ^ 40 := greatestGap_lt (by omega)
      obtain hahead | hahead := ahead_or_ahead h hbc
      · exact absurd heq ((hahead.foldl_absorb (k := 0) hrest).ne hgap)
      · rw [hrest] at hgap
        exact absurd heq.symm ((hahead.foldl_absorb (k := 0) hrest.symm).ne hgap)

theorem Direction.toByte_injective : Function.Injective toByte := by
  intro d e h
  simpa using congrArg ofByte h

theorem Angle.toByte_injective : Function.Injective toByte := by
  intro a b h
  simpa using congrArg ofByte h

theorem littleEndian_inj {k m n : Nat} (hm : m < 256 ^ k) (hn : n < 256 ^ k) :
    littleEndian k m = littleEndian k n ↔ m = n := by
  refine ⟨fun h => ?_, fun h => by rw [h]⟩
  have hread := congrArg ofLittleEndian h
  rwa [ofLittleEndian_littleEndian, ofLittleEndian_littleEndian, Nat.mod_eq_of_lt hm,
    Nat.mod_eq_of_lt hn] at hread

theorem attemptSeed_inj (seed : UInt64) (p : Pattern) {m n : Nat} (hm : m < UInt32.size)
    (hn : n < UInt32.size) : attemptSeed seed p m = attemptSeed seed p n ↔ m = n := by
  rw [attemptSeed, attemptSeed, attemptBytes, attemptBytes, fnv_append _ (littleEndian 4 m),
    fnv_append _ (littleEndian 4 n), foldl_fnvByte_right_inj (by simp) (by simp),
    littleEndian_inj hm hn]

/-! In what is hashed the start, each angle and each byte of the world seed have places of their
own. -/

theorem attemptSeed_ne_of_start (seed : UInt64) (p : Pattern) (n : Nat) {d : Direction}
    (h : d ≠ p.start) : attemptSeed seed ⟨d, p.angles⟩ n ≠ attemptSeed seed p n := by
  have hbyte : DifferOnce [d.toByte] [p.start.toByte] :=
    .at [] [] (Direction.toByte_injective.ne h)
  exact ((((hbyte.append_left _).append_right _).append_right _).append_right _).fnv_ne

theorem attemptSeed_ne_of_angles (seed : UInt64) (p : Pattern) (n : Nat) {as : List Angle}
    (h : DifferOnce as p.angles) : attemptSeed seed ⟨p.start, as⟩ n ≠ attemptSeed seed p n := by
  have hlength : Pattern.length ⟨p.start, as⟩ = p.length := h.length_eq
  rw [attemptSeed, attemptBytes, hlength]
  exact (((h.map Angle.toByte_injective).append_left _).append_right _).fnv_ne

theorem attemptSeed_ne_of_seed (p : Pattern) (n : Nat) {seed seed' : UInt64}
    (h : DifferOnce (bytes64 seed') (bytes64 seed)) :
    attemptSeed seed' p n ≠ attemptSeed seed p n :=
  ((((h.append_right _).append_right _).append_right _).append_right _).fnv_ne

/-- Attempts that 32 bits can count start from different seeds, and so does an attempt at a
prototype that differs in its start, in one angle or in one byte of the world seed. -/
theorem attemptSeed_separates (seed : UInt64) (p : Pattern) (n : UInt32) :
    (∀ m : UInt32, m ≠ n → attemptSeed seed p m.toNat ≠ attemptSeed seed p n.toNat) ∧
    (∀ d, d ≠ p.start → attemptSeed seed ⟨d, p.angles⟩ n.toNat ≠ attemptSeed seed p n.toNat) ∧
    (∀ as, DifferOnce as p.angles →
      attemptSeed seed ⟨p.start, as⟩ n.toNat ≠ attemptSeed seed p n.toNat) ∧
    (∀ seed', DifferOnce (bytes64 seed') (bytes64 seed) →
      attemptSeed seed' p n.toNat ≠ attemptSeed seed p n.toNat) ∧
    ∀ b : Bounds, ((List.range (b.maxRetries.toNat + 1)).map (attemptSeed seed p)).Nodup := by
  refine ⟨?_, fun d => attemptSeed_ne_of_start seed p n.toNat,
    fun as => attemptSeed_ne_of_angles seed p n.toNat,
    fun seed' => attemptSeed_ne_of_seed p n.toNat, ?_⟩
  · intro m hm
    rw [ne_eq, attemptSeed_inj seed p m.toNat_lt n.toNat_lt, UInt32.toNat_inj]
    exact hm
  · intro b
    have hretries : b.maxRetries.toNat < UInt32.size := b.maxRetries.toNat_lt
    refine List.Nodup.map_on ?_ List.nodup_range
    intro i hi j hj h
    rw [List.mem_range] at hi hj
    exact (attemptSeed_inj seed p (by omega) (by omega)).mp h

theorem attemptSeed_separates_short :
    let p : Pattern := ⟨.northEast, [.left, .leftBack, .left]⟩
    attemptSeed 42 p 1 ≠ attemptSeed 42 p 0 ∧
    attemptSeed 42 ⟨.east, p.angles⟩ 0 ≠ attemptSeed 42 p 0 ∧
    attemptSeed 42 ⟨.northEast, [.left, .leftBack, .right]⟩ 0 ≠ attemptSeed 42 p 0 ∧
    attemptSeed 43 p 0 ≠ attemptSeed 42 p 0 := by
  intro p
  obtain ⟨hattempt, hstart, hangles, hseed, -⟩ := attemptSeed_separates 42 p 0
  have hturn : Angle.right ≠ Angle.left := by decide
  have has : DifferOnce [.left, .leftBack, .right] p.angles :=
    .at [Angle.left, .leftBack] [] hturn
  have hbyte : (43 : UInt8) ≠ 42 := by decide
  have hbytes : DifferOnce (bytes64 43) (bytes64 42) := .at [] [0, 0, 0, 0, 0, 0, 0] hbyte
  exact ⟨hattempt 1 (by decide), hstart .east (by decide), hangles _ has, hseed 43 hbytes⟩

end HexGesture
