import HexGesture.Proofs.Truncation

/-! Which bytes are a pattern. A byte is an ordinal if it is below six, and only then; so a list of
bytes is the record of a pattern if it has a first byte and all of them are ordinals, and in the
binary format if a count stands after the first byte and as many bytes follow it. Each pattern has
one record and one binary form. What is wrong with other bytes is named in a fixed order: no start
and count, too few turns for the count, a start that is no ordinal, the first such turn. -/
namespace HexGesture

theorem Direction.toByte_lt (d : Direction) : d.toByte < 6 := by cases d <;> decide

theorem Angle.toByte_lt (a : Angle) : a.toByte < 6 := by cases a <;> decide

theorem Direction.ofByte_of_lt {b : UInt8} (h : b < 6) :
    ∃ d : Direction, b = d.toByte ∧ ofByte b = .ok d := by
  have hb : b.toNat < 6 := h
  have hd : b = (ofFin ⟨b.toNat, hb⟩).toByte := by simp [toByte]
  exact ⟨ofFin ⟨b.toNat, hb⟩, hd, by simp [ofByte, ofOrdinal?, hb]⟩

theorem Angle.ofByte_of_lt {b : UInt8} (h : b < 6) :
    ∃ a : Angle, b = a.toByte ∧ ofByte b = .ok a := by
  have hb : b.toNat < 6 := h
  have ha : b = (ofFin ⟨b.toNat, hb⟩).toByte := by simp [toByte]
  exact ⟨ofFin ⟨b.toNat, hb⟩, ha, by simp [ofByte, ofOrdinal?, hb]⟩

theorem Direction.ofByte_of_le {b : UInt8} (h : 6 ≤ b) :
    ofByte b = .error (.ordinalOutOfRange .direction b) := by
  have hb : ¬ b.toNat < 6 := Nat.not_lt.mpr h
  simp [ofByte, ofOrdinal?, hb]

theorem Angle.ofByte_of_le {b : UInt8} (h : 6 ≤ b) :
    ofByte b = .error (.ordinalOutOfRange .angle b) := by
  have hb : ¬ b.toNat < 6 := Nat.not_lt.mpr h
  simp [ofByte, ofOrdinal?, hb]

namespace Angle

theorem ofBytes_eq_ok {done : Array Angle} {bs : List UInt8} {as : List Angle}
    (h : ofBytes done bs = .ok as) : ∃ more, bs = more.map toByte ∧ as = done.toList ++ more := by
  induction bs generalizing done with
  | nil =>
    cases h
    exact ⟨[], rfl, by simp⟩
  | cons b bs ih =>
    by_cases hb : b < 6
    · obtain ⟨a, rfl, ha⟩ := ofByte_of_lt hb
      rw [ofBytes, ha] at h
      obtain ⟨more, rfl, rfl⟩ := ih h
      exact ⟨a :: more, rfl, by simp⟩
    · rw [ofBytes, ofByte_of_le (UInt8.not_lt.mp hb)] at h
      cases h

theorem ofBytes_eq_error_iff {done : Array Angle} {bs : List UInt8} {why : PatternError} :
    ofBytes done bs = .error why ↔
      ∃ b, bs.find? (6 ≤ ·) = some b ∧ why = .ordinalOutOfRange .angle b := by
  induction bs generalizing done with
  | nil => simp [ofBytes]
  | cons c bs ih =>
    by_cases hc : c < 6
    · obtain ⟨a, -, ha⟩ := ofByte_of_lt hc
      have hgood : ¬ 6 ≤ c := UInt8.not_le.mpr hc
      simp [ofBytes, ha, ih, hgood]
    · have hbad : 6 ≤ c := UInt8.not_lt.mp hc
      simp [ofBytes, ofByte_of_le hbad, hbad, eq_comm]

theorem exists_map_toByte_iff {bs : List UInt8} :
    (∃ as : List Angle, bs = as.map toByte) ↔ ∀ b ∈ bs, b < 6 := by
  constructor
  · rintro ⟨as, rfl⟩
    simpa using fun a _ => toByte_lt a
  · intro h
    cases hread : ofBytes #[] bs with
    | ok as =>
      obtain ⟨more, rfl, -⟩ := ofBytes_eq_ok hread
      exact ⟨more, rfl⟩
    | error why =>
      obtain ⟨b, hb, -⟩ := ofBytes_eq_error_iff.mp hread
      have hbad : 6 ≤ b := by simpa using List.find?_some hb
      exact absurd (h b (List.mem_of_find?_eq_some hb)) (UInt8.not_lt.mpr hbad)

end Angle

namespace Pattern

/-- What is wrong with a start byte and turn bytes: the start, or else the first bad turn. -/
inductive Ordinals.Spoilt : Ordinals → PatternError → Prop
  | start {o : Ordinals} (h : 6 ≤ o.start) : Spoilt o (.ordinalOutOfRange .direction o.start)
  | angle {o : Ordinals} {b : UInt8} (hstart : o.start < 6)
    (hb : o.angles.find? (6 ≤ ·) = some b) : Spoilt o (.ordinalOutOfRange .angle b)

theorem ofOrdinals_eq_ok_iff {o : Ordinals} {p : Pattern} :
    ofOrdinals o = .ok p ↔ p.ordinals = o := by
  constructor
  · intro h
    obtain ⟨s, bs⟩ := o
    by_cases hs : s < 6
    · obtain ⟨d, rfl, hd⟩ := Direction.ofByte_of_lt hs
      simp only [ofOrdinals, hd] at h
      split at h
      · cases h
      · next as has =>
        cases h
        obtain ⟨more, rfl, rfl⟩ := Angle.ofBytes_eq_ok has
        rfl
    · simp [ofOrdinals, Direction.ofByte_of_le (UInt8.not_lt.mp hs)] at h
  · rintro rfl
    exact Reader.ofOrdinals_ordinals p

theorem ofOrdinals_eq_error_iff {o : Ordinals} {why : PatternError} :
    ofOrdinals o = .error why ↔ o.Spoilt why := by
  constructor
  · intro h
    by_cases hs : o.start < 6
    · obtain ⟨d, -, hd⟩ := Direction.ofByte_of_lt hs
      simp only [ofOrdinals, hd] at h
      split at h
      · next e he =>
        cases h
        obtain ⟨b, hb, rfl⟩ := Angle.ofBytes_eq_error_iff.mp he
        exact .angle hs hb
      · cases h
    · have hbad : 6 ≤ o.start := UInt8.not_lt.mp hs
      simp only [ofOrdinals, Direction.ofByte_of_le hbad] at h
      cases h
      exact .start hbad
  · intro h
    cases h with
    | start hs => simp [ofOrdinals, Direction.ofByte_of_le hs]
    | angle hs hb =>
      obtain ⟨d, -, hd⟩ := Direction.ofByte_of_lt hs
      have hbs : Angle.ofBytes #[] o.angles = .error (.ordinalOutOfRange .angle _) :=
        Angle.ofBytes_eq_error_iff.mpr ⟨_, hb, rfl⟩
      simp [ofOrdinals, hd, hbs]

theorem exists_ordinals_iff {o : Ordinals} :
    (∃ p, Pattern.ordinals p = o) ↔ o.start < 6 ∧ ∀ b ∈ o.angles, b < 6 := by
  constructor
  · rintro ⟨p, rfl⟩
    exact ⟨p.start.toByte_lt, Angle.exists_map_toByte_iff.mp ⟨p.angles, rfl⟩⟩
  · rintro ⟨hs, hbs⟩
    obtain ⟨s, bs⟩ := o
    obtain ⟨d, rfl, -⟩ := Direction.ofByte_of_lt hs
    obtain ⟨as, rfl⟩ := Angle.exists_map_toByte_iff.mpr hbs
    exact ⟨⟨d, as⟩, rfl⟩

theorem bind_ofOrdinals_eq_ok_iff {data : List UInt8} {p : Pattern} :
    (Ordinals.ofBytes data >>= ofOrdinals) = .ok p ↔ p.ordinals.toBytes = data := by
  cases data with
  | nil => simp [Ordinals.ofBytes, Ordinals.toBytes, bind, Except.bind]
  | cons s bs =>
    have hread : (Ordinals.ofBytes (s :: bs) >>= ofOrdinals) = ofOrdinals ⟨s, bs⟩ := rfl
    rw [hread, ofOrdinals_eq_ok_iff]
    obtain ⟨d, as⟩ := p
    simp [ordinals, Ordinals.toBytes]

theorem exists_record_iff {data : List UInt8} :
    (∃ p, (Ordinals.ofBytes data >>= ofOrdinals) = .ok p) ↔ data ≠ [] ∧ ∀ b ∈ data, b < 6 := by
  simp only [bind_ofOrdinals_eq_ok_iff]
  cases data with
  | nil => simp [Ordinals.toBytes]
  | cons s bs =>
    have hrecord (p : Pattern) : p.ordinals.toBytes = s :: bs ↔ p.ordinals = ⟨s, bs⟩ := by
      simp [Ordinals.toBytes, ordinals]
    simp only [hrecord, exists_ordinals_iff, List.forall_mem_cons, ne_eq, reduceCtorEq,
      not_false_eq_true, true_and]

/-- What is wrong with data that does not start with the binary form of a pattern. -/
inductive Spoils : List UInt8 → SaveError → Prop
  | short {data : List UInt8} (h : data.length < 5) : Spoils data (.io .endOfData)
  | truncated (start : UInt8) {count : UInt32} {angles : List UInt8}
    (h : angles.length < count.toNat) :
    Spoils ([start] ++ (bytes32 count ++ angles))
      (.malformed (.truncatedPattern count.toNat angles.length))
  | ordinal {o : Ordinals} {count : UInt32} (rest : List UInt8) {why : PatternError}
    (hcount : o.angles.length = count.toNat) (h : o.Spoilt why) :
    Spoils ([o.start] ++ (bytes32 count ++ (o.angles ++ rest))) (.pattern why)

theorem exists_header {data : List UInt8} (h : ¬ data.length < 5) :
    ∃ start count tail, data = [start] ++ (bytes32 count ++ tail) := by
  cases data with
  | nil => simp at h
  | cons start tail =>
    have htake : (tail.take 4).length = 4 := by
      simp only [List.length_cons] at h
      simp only [List.length_take]
      omega
    refine ⟨start, (ofLittleEndian (tail.take 4)).toUInt32, tail.drop 4, ?_⟩
    rw [bytes32_ofLittleEndian htake, List.take_append_drop, List.singleton_append]

/-- The binary form of a pattern, spelled out. -/
theorem exists_layout_iff {data rest : List UInt8} :
    (∃ p : Pattern, p.length < UInt32.size ∧ data = p.layout ++ rest) ↔
      ∃ (start : UInt8) (count : UInt32) (angles : List UInt8), start < 6 ∧
        angles.length = count.toNat ∧ (∀ b ∈ angles, b < 6) ∧
        data = [start] ++ (bytes32 count ++ (angles ++ rest)) := by
  constructor
  · rintro ⟨p, h, rfl⟩
    have hcount : p.length.toUInt32.toNat = p.length := (Reader.yields_length h).2
    obtain ⟨hstart, hangles⟩ := exists_ordinals_iff.mp ⟨p, rfl⟩
    refine ⟨p.start.toByte, p.length.toUInt32, p.angles.map Angle.toByte, hstart, ?_, hangles, ?_⟩
    · rw [List.length_map, hcount, length]
    · simp only [layout, bytes32, hcount, List.append_assoc]
  · rintro ⟨start, count, angles, hstart, hcount, hangles, rfl⟩
    obtain ⟨p, hp⟩ := (exists_ordinals_iff (o := ⟨start, angles⟩)).mpr ⟨hstart, hangles⟩
    cases hp
    have hlength : p.length = count.toNat := by rw [← hcount, List.length_map, length]
    refine ⟨p, hlength ▸ count.toNat_lt, ?_⟩
    simp only [layout, bytes32, hlength, List.append_assoc]

/-- Data starts with the binary form of a pattern, or something is wrong with it. -/
theorem layout_or_spoils (data : List UInt8) :
    (∃ (p : Pattern) (rest : List UInt8), p.length < UInt32.size ∧ data = p.layout ++ rest) ∨
      ∃ why, Spoils data why := by
  by_cases hshort : data.length < 5
  · exact .inr ⟨_, .short hshort⟩
  · obtain ⟨start, count, tail, rfl⟩ := exists_header hshort
    by_cases hcount : tail.length < count.toNat
    · exact .inr ⟨_, .truncated start hcount⟩
    · have htake : (tail.take count.toNat).length = count.toNat := by
        rw [List.length_take]
        omega
      rw [← List.take_append_drop count.toNat tail]
      cases hread : ofOrdinals ⟨start, tail.take count.toNat⟩ with
      | ok p =>
        obtain ⟨hstart, hangles⟩ := exists_ordinals_iff.mp ⟨p, ofOrdinals_eq_ok_iff.mp hread⟩
        obtain ⟨q, hq⟩ := exists_layout_iff.mpr ⟨start, count, _, hstart, htake, hangles, rfl⟩
        exact .inl ⟨q, _, hq⟩
      | error why =>
        exact .inr ⟨_, .ordinal (tail.drop count.toNat) htake (ofOrdinals_eq_error_iff.mp hread)⟩

end Pattern

namespace Reader

theorem run_pattern_of_short {data : List UInt8} (h : data.length < 5) :
    pattern.run data = .error (.io .endOfData) := by
  cases data with
  | nil => rfl
  | cons start tail =>
    have htail : tail.length < 4 := by
      rw [List.length_cons] at h
      omega
    have hcount : word32.run tail = .error (.io .endOfData) :=
      run_bind_eq_error_iff.mpr (.inl (run_bytes_eq_error_iff.mpr ⟨htail, rfl⟩))
    refine run_bind_eq_error_iff.mpr (.inr ⟨start, tail, rfl, ?_⟩)
    exact run_bind_eq_error_iff.mpr (.inl hcount)

theorem run_pattern_of_header (start : UInt8) (count : UInt32) (tail : List UInt8) :
    pattern.run ([start] ++ (bytes32 count ++ tail)) =
      if tail.length < count.toNat then
        .error (.malformed (.truncatedPattern count.toNat tail.length))
      else match Pattern.ofOrdinals ⟨start, tail.take count.toNat⟩ with
        | .ok p => .ok (p, tail.drop count.toNat)
        | .error why => .error (.pattern why) := by
  have hupTo : (upTo count.toNat).run tail =
      .ok (tail.take count.toNat, tail.drop count.toNat) := rfl
  rw [pattern, (yields_byte start).run_bind, (yields_word32 count).run_bind, StateT.run_bind, hupTo]
  simp only [bind, Except.bind, List.length_take]
  by_cases hshort : tail.length < count.toNat
  · have hmin : min count.toNat tail.length = tail.length := by omega
    rw [hmin, if_pos hshort, if_pos hshort]
    rfl
  · have hmin : ¬ min count.toNat tail.length < count.toNat := by omega
    rw [if_neg hmin, if_neg hshort]
    cases Pattern.ofOrdinals ⟨start, tail.take count.toNat⟩ <;> rfl

theorem run_pattern_of_spoils {data : List UInt8} {why : SaveError}
    (h : Pattern.Spoils data why) : pattern.run data = .error why := by
  cases h with
  | short h => exact run_pattern_of_short h
  | truncated start h => rw [run_pattern_of_header, if_pos h]
  | @ordinal o count rest why hcount h =>
    have hlength : ¬ (o.angles ++ rest).length < count.toNat := by
      rw [List.length_append]
      omega
    have hread : Pattern.ofOrdinals ⟨o.start, o.angles⟩ = .error why :=
      Pattern.ofOrdinals_eq_error_iff.mpr h
    rw [run_pattern_of_header, if_neg hlength, ← hcount, List.take_left, hread]

theorem run_pattern_eq_ok_iff {p : Pattern} {data rest : List UInt8} :
    pattern.run data = .ok (p, rest) ↔ p.length < UInt32.size ∧ data = p.layout ++ rest := by
  constructor
  · intro h
    obtain ⟨q, more, hq, rfl⟩ | ⟨why, hspoils⟩ := Pattern.layout_or_spoils data
    · rw [yields_pattern hq more] at h
      cases h
      exact ⟨hq, rfl⟩
    · rw [run_pattern_of_spoils hspoils] at h
      cases h
  · rintro ⟨h, rfl⟩
    exact yields_pattern h rest

theorem run_pattern_eq_error_iff {data : List UInt8} {why : SaveError} :
    pattern.run data = .error why ↔ Pattern.Spoils data why := by
  constructor
  · intro h
    obtain ⟨q, more, hq, rfl⟩ | ⟨why, hspoils⟩ := Pattern.layout_or_spoils data
    · rw [yields_pattern hq more] at h
      cases h
    · rw [run_pattern_of_spoils hspoils] at h
      cases h
      exact hspoils
  · exact run_pattern_of_spoils

end Reader

namespace Pattern

/-- Bytes are read as a pattern just when they are its binary form, and written again they are the
same. Other data is refused for the first cause in a fixed order. -/
theorem bytes_exact :
    (∀ data, ((∃ p, (Ordinals.ofBytes data >>= ofOrdinals) = .ok p) ↔
        data ≠ [] ∧ ∀ b ∈ data, b < 6) ∧
      (∀ p, (Ordinals.ofBytes data >>= ofOrdinals) = .ok p → p.ordinals.toBytes = data)) ∧
    (∀ p : Pattern, (Ordinals.ofBytes p.ordinals.toBytes >>= ofOrdinals) = .ok p) ∧
    (∀ data rest, ((∃ p, Reader.pattern.run data = .ok (p, rest)) ↔
        ∃ (start : UInt8) (count : UInt32) (angles : List UInt8), start < 6 ∧
          angles.length = count.toNat ∧ (∀ b ∈ angles, b < 6) ∧
          data = [start] ++ (bytes32 count ++ (angles ++ rest))) ∧
      ∀ p, Reader.pattern.run data = .ok (p, rest) ↔
        ∃ front, p.write = .ok front ∧ front ++ rest = data) ∧
    ∀ data why, Reader.pattern.run data = .error why ↔ Spoils data why := by
  refine ⟨?_, ?_, ?_, ?_⟩
  · exact fun data => ⟨exists_record_iff, fun p hp => bind_ofOrdinals_eq_ok_iff.mp hp⟩
  · exact fun p => bind_ofOrdinals_eq_ok_iff.mpr rfl
  · intro data rest
    simp only [Reader.run_pattern_eq_ok_iff]
    refine ⟨exists_layout_iff, fun p => ?_⟩
    simp only [write_eq_ok_iff]
    constructor
    · rintro ⟨h, rfl⟩
      exact ⟨p.layout, ⟨h, rfl⟩, rfl⟩
    · rintro ⟨_, ⟨h, rfl⟩, rfl⟩
      exact ⟨h, rfl⟩
  · exact fun data why => Reader.run_pattern_eq_error_iff

/-- A count beyond the data is found before the start and the turn that are no ordinals. -/
example : Reader.pattern.run [6, 255, 255, 255, 255, 9] =
    .error (.malformed (.truncatedPattern 4294967295 1)) := by decide +kernel

end Pattern

end HexGesture
