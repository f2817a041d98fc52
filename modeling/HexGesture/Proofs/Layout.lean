import HexGesture.Proofs.Identifier
import HexGesture.Proofs.Reading

/-! The bytes of texts, patterns and tables. Each writer gives the bytes laid out here as long as
every length fits its four bytes, and the reader of the same kind takes exactly those bytes back,
except that it refuses a text beyond the limit as soon as it has seen the length. -/
namespace HexGesture

open Text

/-- How many bytes a text takes. -/
def textSize (s : String) : Nat := (utf8Encode s).length

theorem textSize_eq_utf8ByteSize (s : String) : textSize s = s.utf8ByteSize := by
  simp [textSize, utf8Encode]

def textLayout (s : String) : List UInt8 := littleEndian 4 (textSize s) ++ utf8Encode s

def Pattern.layout (p : Pattern) : List UInt8 :=
  [p.start.toByte] ++ (littleEndian 4 p.length ++ p.angles.map Angle.toByte)

def Secret.layout (signature : String) (s : Secret) : List UInt8 :=
  textLayout signature ++ (textLayout s.operator.display ++ littleEndian 4 s.start.ordinal)

def SecretTable.layout (t : SecretTable) : List UInt8 :=
  magic ++ ([formatVersion] ++ (bytes64 t.seed ++ (littleEndian 4 t.length ++
    t.entries.flatMap fun e => e.2.layout e.1)))

theorem maxTextLength_lt : maxTextLength < UInt32.size := by decide

theorem bind_eq_ok_iff {α β : Type} {x : Except SaveError α} {f : α → Except SaveError β} {y : β} :
    x >>= f = .ok y ↔ ∃ a, x = .ok a ∧ f a = .ok y := by
  cases x <;> simp [bind, Except.bind]

theorem writeLength_eq_ok_iff {n : Nat} {data : List UInt8} :
    writeLength n = .ok data ↔ n < UInt32.size ∧ data = littleEndian 4 n := by
  by_cases h : n < UInt32.size
  · simp [writeLength, h, eq_comm]
  · simp [writeLength, h]

theorem writeText_eq_ok_iff {s : String} {data : List UInt8} :
    writeText s = .ok data ↔ textSize s < UInt32.size ∧ data = textLayout s := by
  have hlen {front : List UInt8} : writeLength (utf8Encode s).length = .ok front ↔
      textSize s < UInt32.size ∧ front = littleEndian 4 (textSize s) := writeLength_eq_ok_iff
  simp only [writeText, bind_eq_ok_iff, hlen]
  constructor
  · rintro ⟨_, ⟨h, rfl⟩, hdata⟩
    cases hdata
    exact ⟨h, rfl⟩
  · rintro ⟨h, rfl⟩
    exact ⟨_, ⟨h, rfl⟩, rfl⟩

theorem writeText_eq {s : String} (h : textSize s < UInt32.size) :
    writeText s = .ok (textLayout s) := writeText_eq_ok_iff.mpr ⟨h, rfl⟩

theorem Pattern.write_eq_ok_iff {p : Pattern} {data : List UInt8} :
    p.write = .ok data ↔ p.length < UInt32.size ∧ data = p.layout := by
  have hlen : p.ordinals.angles.length = p.length := by simp [ordinals, length]
  simp only [write, hlen, bind_eq_ok_iff, writeLength_eq_ok_iff]
  constructor
  · rintro ⟨_, ⟨h, rfl⟩, hdata⟩
    cases hdata
    exact ⟨h, rfl⟩
  · rintro ⟨h, rfl⟩
    exact ⟨_, ⟨h, rfl⟩, rfl⟩

theorem Pattern.write_eq {p : Pattern} (h : p.length < UInt32.size) : p.write = .ok p.layout :=
  write_eq_ok_iff.mpr ⟨h, rfl⟩

def WritableEntry (e : String × Secret) : Prop :=
  textSize e.1 < UInt32.size ∧ textSize e.2.operator.display < UInt32.size

theorem Secret.write_eq_ok_iff {e : String × Secret} {data : List UInt8} :
    e.2.write e.1 = .ok data ↔ WritableEntry e ∧ data = e.2.layout e.1 := by
  simp only [write, bind_eq_ok_iff, writeText_eq_ok_iff]
  constructor
  · rintro ⟨_, ⟨hsig, rfl⟩, _, ⟨hid, rfl⟩, hdata⟩
    cases hdata
    exact ⟨⟨hsig, hid⟩, List.append_assoc _ _ _⟩
  · rintro ⟨⟨hsig, hid⟩, rfl⟩
    exact ⟨_, ⟨hsig, rfl⟩, _, ⟨hid, rfl⟩, congrArg _ (List.append_assoc _ _ _)⟩

theorem mapM_write_eq_ok_iff {es : List (String × Secret)} {datas : List (List UInt8)} :
    (es.mapM fun e => e.2.write e.1) = .ok datas ↔
      (∀ e ∈ es, WritableEntry e) ∧ datas = es.map fun e => e.2.layout e.1 := by
  induction es generalizing datas with
  | nil => simp [pure, Except.pure, eq_comm]
  | cons e es ih =>
    simp only [List.mapM_cons, bind_eq_ok_iff, Secret.write_eq_ok_iff, ih, List.forall_mem_cons,
      List.map_cons]
    constructor
    · rintro ⟨_, ⟨he, rfl⟩, _, ⟨hes, rfl⟩, hdatas⟩
      cases hdatas
      exact ⟨⟨he, hes⟩, rfl⟩
    · rintro ⟨⟨he, hes⟩, rfl⟩
      exact ⟨_, ⟨he, rfl⟩, _, ⟨hes, rfl⟩, rfl⟩

/-- A table can be written just when its length and all of its texts fit. -/
theorem SecretTable.write_eq_ok_iff {t : SecretTable} {data : List UInt8} :
    t.write = .ok data ↔
      (t.length < UInt32.size ∧ ∀ e ∈ t.entries, WritableEntry e) ∧ data = t.layout := by
  have hlayout : magic ++ [formatVersion] ++ bytes64 t.seed ++ littleEndian 4 t.length ++
      (t.entries.map fun e => e.2.layout e.1).flatten = t.layout := by
    simp [layout, List.flatMap_def]
  simp only [write, bind_eq_ok_iff, writeLength_eq_ok_iff, mapM_write_eq_ok_iff]
  constructor
  · rintro ⟨_, ⟨hlen, rfl⟩, _, ⟨htexts, rfl⟩, hdata⟩
    cases hdata
    exact ⟨⟨hlen, htexts⟩, hlayout⟩
  · rintro ⟨⟨hlen, htexts⟩, rfl⟩
    exact ⟨_, ⟨hlen, rfl⟩, _, ⟨htexts, rfl⟩, congrArg _ hlayout⟩

theorem SecretTable.write_eq {t : SecretTable} (hlen : t.length < UInt32.size)
    (htexts : ∀ e ∈ t.entries, WritableEntry e) : t.write = .ok t.layout :=
  write_eq_ok_iff.mpr ⟨⟨hlen, htexts⟩, rfl⟩

namespace Reader

theorem yields_text {s : String} (h : textSize s ≤ maxTextLength) :
    text.Yields (textLayout s) s := by
  obtain ⟨hlen, hnat⟩ := yields_length (Nat.lt_of_le_of_lt h maxTextLength_lt)
  refine hlen.bind ?_
  simp only [hnat, if_neg (Nat.not_lt.mpr h)]
  refine (yields_bytes rfl).bind_nil ?_
  rw [utf8Decode?_utf8Encode]
  exact yields_pure s

theorem refuses_text {s : String} (h : maxTextLength < textSize s) (hs : textSize s < UInt32.size) :
    text.Refuses (textLayout s) (.malformed (.textTooLong (textSize s))) := by
  obtain ⟨hlen, hnat⟩ := yields_length hs
  refine hlen.bind_refuses ?_
  simp only [hnat, if_pos h]
  exact fun _ => rfl

theorem angles_ofBytes (done : Array Angle) (as : List Angle) :
    Angle.ofBytes done (as.map Angle.toByte) = .ok (done.toList ++ as) := by
  induction as generalizing done with
  | nil => simp [Angle.ofBytes]
  | cons a as ih => simp [Angle.ofBytes, ih]

theorem ofOrdinals_ordinals (p : Pattern) : Pattern.ofOrdinals p.ordinals = .ok p := by
  have hangles := angles_ofBytes #[] p.angles
  rw [Pattern.ofOrdinals, Pattern.ordinals, Direction.ofByte_toByte]
  simp [hangles]

theorem yields_pattern {p : Pattern} (h : p.length < UInt32.size) : pattern.Yields p.layout p := by
  obtain ⟨hlen, hnat⟩ := yields_length h
  have hcount : (p.angles.map Angle.toByte).length = p.length := List.length_map _
  refine (yields_byte _).bind (hlen.bind ?_)
  simp only [hnat]
  refine (yields_upTo hcount).bind_nil ?_
  have hread : Pattern.ofOrdinals ⟨p.start.toByte, p.angles.map Angle.toByte⟩ = .ok p :=
    ofOrdinals_ordinals p
  simp only [hcount, Nat.lt_irrefl, if_false, hread]
  exact yields_pure p

theorem yields_operatorId {i : OperatorId} (h : textSize i.display ≤ maxTextLength) :
    operatorId.Yields (textLayout i.display) i := by
  refine (yields_text h).bind_nil ?_
  rw [OperatorId.ofString_display]
  exact yields_pure i

theorem yields_direction (d : Direction) : direction.Yields (littleEndian 4 d.ordinal) d := by
  have hd : d.ordinal.val < UInt32.size := Nat.lt_trans d.ordinal.isLt (by decide)
  obtain ⟨hlen, hnat⟩ := yields_length hd
  refine hlen.bind_nil ?_
  rw [hnat, Direction.ofOrdinal?_ordinal]
  exact yields_pure d

theorem yields_secret {signature : String} {s : Secret} (hsig : textSize signature ≤ maxTextLength)
    (hid : textSize s.operator.display ≤ maxTextLength) :
    secret.Yields (s.layout signature) (signature, s) :=
  (yields_text hsig).bind <| (yields_operatorId hid).bind <|
    (yields_direction s.start).bind_nil (yields_pure _)

end Reader

end HexGesture
