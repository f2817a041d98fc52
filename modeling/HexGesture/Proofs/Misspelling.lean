import HexGesture.Proofs.Spelling
import Mathlib.Order.Bounds.Basic

/-! What is said of a text that is no signature. Letters are drawn one after another, so all that
counts is where the text first leaves what can be drawn: up to there its letters spell a drawing,
and with the next one they do not. That letter is named with its place, and it tells the cause by
itself. A character that is no letter is never drawn, the letter that turns straight back is
refused as such, and any other letter can only have met a segment that has ink. -/
namespace HexGesture

namespace Angle

theorem mem_letters_iff {c : Char} : c ∈ "wedsaq".toList ↔ ∃ a : Angle, c = a.toChar := by
  constructor
  · intro h
    have hall : "wedsaq".toList = [forward, right, rightBack, back, leftBack, left].map toChar := by
      decide
    rw [hall, List.mem_map] at h
    obtain ⟨a, -, ha⟩ := h
    exact ⟨a, ha.symm⟩
  · rintro ⟨a, rfl⟩
    cases a <;> decide

theorem ofChar?_eq_none_iff {c : Char} : ofChar? c = none ↔ c ∉ "wedsaq".toList := by
  rw [mem_letters_iff]
  constructor
  · rintro h ⟨a, rfl⟩
    simp at h
  · intro h
    cases hc : ofChar? c with
    | none => rfl
    | some a => exact absurd ⟨a, (ofChar?_eq_some hc).symm⟩ h

end Angle

def SignatureFault.ofChar (c : Char) : SignatureFault :=
  if c ∉ "wedsaq".toList then .unknownCharacter c
  else if c = 's' then .rejected .backtrack
  else .rejected .retrace

theorem SignatureFault.ofChar_toChar (a : Angle) : ofChar a.toChar =
    .rejected (if a = .back then .backtrack else .retrace) := by
  cases a <;> decide

namespace Pen

/-- A turn that is not drawn is refused for going straight back, or else for its ink. -/
theorem turn_eq_error {t : Pen} (h : t.Sighted) {a : Angle} {why : Rejection}
    (ht : t.turn a = .error why) :
    t.next a ∈ t.inked ∧ why = if a = .back then .backtrack else .retrace := by
  have hinked : t.next a ∈ t.inked := by
    by_contra hn
    rw [turn_eq_ok h hn] at ht
    cases ht
  refine ⟨hinked, ?_⟩
  have hcheck : t.check (t.head.heading + a) =
      .error (if a = .back then .backtrack else .retrace) := by
    rw [check, Direction.add_sub_cancel]
    by_cases ha : a = .back
    · simp [ha]
    · have hnext : t.head.onward (t.head.heading + a) ∈ t.inked := hinked
      simp [ha, hnext]
  simp only [turn, draw, hcheck, Except.map, Except.error.injEq] at ht
  exact ht.symm

theorem spell_eq_error {t : Pen} (h : t.Sighted) {c : Char} {cause : SignatureFault}
    (hc : t.spell c = .error cause) :
    cause = .ofChar c ∧ ∀ a : Angle, c = a.toChar → t.next a ∈ t.inked := by
  rw [spell] at hc
  split at hc
  · next hnone =>
    have hno := Angle.ofChar?_eq_none_iff.mp hnone
    cases hc
    refine ⟨by rw [SignatureFault.ofChar, if_pos hno], ?_⟩
    exact fun a ha => absurd (Angle.mem_letters_iff.mpr ⟨a, ha⟩) hno
  · next a ha =>
    obtain rfl := Angle.ofChar?_eq_some ha
    cases ht : t.turn a with
    | ok u =>
      rw [ht] at hc
      cases hc
    | error why =>
      obtain ⟨hinked, hwhy⟩ := turn_eq_error h ht
      rw [ht] at hc
      cases hc
      refine ⟨by rw [SignatureFault.ofChar_toChar, hwhy], ?_⟩
      intro b hb
      have hsame : a = b := by simpa using congrArg Angle.ofChar? hb
      exact hsame ▸ hinked

/-- Spelling fails at the first character that cannot be drawn after those before it. -/
theorem spellAll_eq_error {t : Pen} (h : t.Sighted) {cs : List Char} {index i : Nat}
    {cause : SignatureFault} (hs : t.spellAll index cs = .error (i, cause)) :
    ∃ (as : List Angle) (c : Char) (rest : List Char), cs = as.map Angle.toChar ++ c :: rest ∧
      i = index + as.length ∧ t.accepts as = true ∧
      (as.foldl push t).spell c = .error cause := by
  induction cs generalizing t index with
  | nil => cases hs
  | cons c cs ih =>
    cases hc : t.spell c with
    | error why =>
      simp only [spellAll, hc, Except.error.injEq, Prod.mk.injEq] at hs
      obtain ⟨rfl, rfl⟩ := hs
      exact ⟨[], c, cs, rfl, rfl, rfl, hc⟩
    | ok u =>
      simp only [spellAll, hc] at hs
      have hone : t.spellAll 0 [c] = .ok u := by simp [spellAll, hc]
      obtain ⟨as, hcs, hacc, rfl⟩ := spellAll_eq_ok h hone
      obtain ⟨bs, c', rest, rfl, rfl, hrest, hfault⟩ := ih (h.foldl_push as) hs
      refine ⟨as ++ bs, c', rest, ?_, ?_, ?_, ?_⟩
      · rw [List.map_append, ← hcs]
        rfl
      · have hlength : as.length = 1 := by simpa using (congrArg List.length hcs).symm
        rw [List.length_append]
        omega
      · rw [accepts_append h, hacc, hrest]
        rfl
      · rw [List.foldl_append]
        exact hfault

end Pen

namespace Pattern

/-- Letters of turns that can be drawn, one after another, from a start. -/
structure Spells (d : Direction) (cs : List Char) : Prop where
  letters : ∀ c ∈ cs, c ∈ "wedsaq".toList
  drawable : isDrawable ⟨d, cs.filterMap Angle.ofChar?⟩ = true

theorem filterMap_map_toChar (as : List Angle) :
    (as.map Angle.toChar).filterMap Angle.ofChar? = as := by
  have hread := congrArg angles (ofLetters_signature ⟨.east, as⟩)
  rw [ofLetters, toList_signature] at hread
  exact hread

theorem spells_iff {d : Direction} {cs : List Char} :
    Spells d cs ↔ ∃ as : List Angle, cs = as.map Angle.toChar ∧ isDrawable ⟨d, as⟩ = true := by
  constructor
  · intro h
    refine ⟨cs.filterMap Angle.ofChar?, ?_, h.drawable⟩
    have hletters := h.letters
    clear h
    induction cs with
    | nil => rfl
    | cons c cs ih =>
      obtain ⟨a, rfl⟩ := Angle.mem_letters_iff.mp (hletters c (by simp))
      have hrest := ih fun x hx => hletters x (by simp [hx])
      rw [List.filterMap_cons, Angle.ofChar?_toChar, List.map_cons, ← hrest]
  · rintro ⟨as, rfl, h⟩
    refine ⟨?_, ?_⟩
    · intro c hc
      obtain ⟨a, -, rfl⟩ := List.mem_map.mp hc
      exact Angle.mem_letters_iff.mpr ⟨a, rfl⟩
    · rw [filterMap_map_toChar]
      exact h

/-- What begins a text that can be drawn can be drawn. -/
theorem Spells.of_isPrefix {d : Direction} {bs cs : List Char} (h : Spells d cs) (hb : bs <+: cs) :
    Spells d bs := by
  obtain ⟨rest, rfl⟩ := hb
  refine ⟨fun c hc => h.letters c (List.mem_append_left rest hc), ?_⟩
  have hall := h.drawable
  rw [List.filterMap_append] at hall
  exact isDrawable_append_left hall

theorem ofSignature_eq_ok_iff_spells {s : String} {d : Direction} {p : Pattern} :
    ofSignature s d = .ok p ↔ Spells d s.toList ∧ p = ofLetters s d := by
  rw [ofSignature_eq_ok_iff]
  constructor
  · rintro ⟨rfl, rfl, h⟩
    exact ⟨spells_iff.mpr ⟨p.angles, p.toList_signature, h⟩, p.ofLetters_signature.symm⟩
  · rintro ⟨h, rfl⟩
    obtain ⟨as, hs, has⟩ := spells_iff.mp h
    have hangles : ofLetters s d = ⟨d, as⟩ := by rw [ofLetters, hs, filterMap_map_toChar]
    rw [hangles]
    refine ⟨rfl, ?_, has⟩
    rw [← String.toList_inj, toList_signature, hs]

/-- The place where a text leaves what can be drawn. -/
def Leaves (d : Direction) (cs : List Char) (k : Nat) : Prop :=
  Spells d (cs.take k) ∧ ¬ Spells d (cs.take (k + 1))

theorem Leaves.unique {d : Direction} {cs : List Char} {j k : Nat} (hj : Leaves d cs j)
    (hk : Leaves d cs k) : j = k := by
  have hle {i l : Nat} (hi : Leaves d cs i) (hl : Leaves d cs l) : l ≤ i := by
    by_contra hlt
    have hpre : cs.take (i + 1) <+: cs.take l := List.take_prefix_take_left (by omega)
    exact hi.2 (hl.1.of_isPrefix hpre)
  exact Nat.le_antisymm (hle hk hj) (hle hj hk)

theorem leaves_of_error {s : String} {d : Direction} {e : PatternError}
    (h : ofSignature s d = .error e) :
    ∃ k c, Leaves d s.toList k ∧ s.toList[k]? = some c ∧ e = .malformed s k (.ofChar c) := by
  rw [ofSignature] at h
  split at h
  · cases h
  · next i cause hs =>
    cases h
    have hsight := Pen.sighted_fresh d
    obtain ⟨as, c, rest, hcs, hi, hacc, hfault⟩ := Pen.spellAll_eq_error hsight hs
    obtain ⟨hcause, hinked⟩ := Pen.spell_eq_error (hsight.foldl_push as) hfault
    have hi : i = (as.map Angle.toChar).length := by simpa using hi
    have htake : s.toList.take i = as.map Angle.toChar := by rw [hcs, hi, List.take_left]
    have htake' : s.toList.take (i + 1) = as.map Angle.toChar ++ [c] := by
      rw [hcs, hi, List.take_length_add_append]
      rfl
    have hdrawn : Spells d (as.map Angle.toChar) := spells_iff.mpr ⟨as, rfl, hacc⟩
    have hnot : ¬ Spells d (as.map Angle.toChar ++ [c]) := by
      rintro h
      obtain ⟨a, rfl⟩ := Angle.mem_letters_iff.mp (h.letters c (by simp))
      have hall := h.drawable
      rw [← List.map_singleton, ← List.map_append, filterMap_map_toChar, isDrawable_concat,
        ← Pen.inked_ofPattern] at hall
      exact hall.2 (hinked a rfl)
    refine ⟨i, c, ⟨?_, ?_⟩, ?_, by rw [hcause]⟩
    · rw [htake]
      exact hdrawn
    · rw [htake']
      exact hnot
    · rw [hcs, hi]
      simp

/-- A text is read just when its characters are letters of turns that can be drawn. Any other text
is refused at the first place with which it cannot be drawn, for what is wrong there. -/
theorem ofSignature_letters (s : String) (d : Direction) :
    (∀ p, ofSignature s d = .ok p ↔ Spells d s.toList ∧ p = ofLetters s d) ∧
    (∀ p, ofSignature s d = .ok p → p.start = d ∧ p.signature = s) ∧
    (∀ q : Pattern, ofSignature q.signature q.start = .ok q ↔ q.isDrawable = true) ∧
    (∀ e, ofSignature s d = .error e ↔
      ∃ k c, IsLeast {k | Spells d (s.toList.take k) ∧ ¬ Spells d (s.toList.take (k + 1))} k ∧
        s.toList[k]? = some c ∧
        e = .malformed s k (if c ∉ "wedsaq".toList then .unknownCharacter c
          else if c = 's' then .rejected .backtrack else .rejected .retrace)) := by
  refine ⟨fun p => ofSignature_eq_ok_iff_spells, ?_, ?_, ?_⟩
  · intro p h
    obtain ⟨hstart, hsignature, -⟩ := ofSignature_eq_ok_iff.mp h
    exact ⟨hstart, hsignature⟩
  · intro q
    simp [ofSignature_eq_ok_iff]
  · intro e
    constructor
    · intro h
      obtain ⟨k, c, hk, hc, he⟩ := leaves_of_error h
      exact ⟨k, c, ⟨hk, fun j hj => (hk.unique hj).le⟩, hc, he⟩
    · rintro ⟨k, c, ⟨hk, -⟩, hc, rfl⟩
      cases h : ofSignature s d with
      | ok p =>
        obtain ⟨hs, -⟩ := ofSignature_eq_ok_iff_spells.mp h
        exact absurd (hs.of_isPrefix (List.take_prefix _ _)) hk.2
      | error e =>
        obtain ⟨k', c', hk', hc', rfl⟩ := leaves_of_error h
        obtain rfl := hk'.unique hk
        obtain rfl := Option.some.inj (hc'.symm.trans hc)
        rfl

/-- The turn straight back comes first, so nothing is said of the character after it. -/
example : ofSignature "ws!" .east = .error (.malformed "ws!" 1 (.rejected .backtrack)) := by
  decide +kernel

end Pattern

end HexGesture
