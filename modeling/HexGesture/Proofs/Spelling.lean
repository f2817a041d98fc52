import HexGesture.Proofs.Drawing

/-! Reading a signature from a start gives back the pattern with that start and those turns, just
when the pattern can be drawn. -/
namespace HexGesture

namespace Pen

theorem spellAll_map_toChar {t : Pen} (h : t.Sighted) {as : List Angle}
    (hacc : t.accepts as = true) (index : Nat) :
    t.spellAll index (as.map Angle.toChar) = .ok (as.foldl push t) := by
  induction as generalizing t index with
  | nil => rfl
  | cons a as ih =>
    have hsplit := accepts_append h [a] as
    rw [List.singleton_append, hacc, eq_comm, Bool.and_eq_true, accepts_singleton h] at hsplit
    obtain ⟨hn, hrest⟩ := hsplit
    have hspell : t.spell a.toChar = .ok (t.push a) := by
      simp [spell, turn_eq_ok h hn, Except.mapError]
    rw [List.map_cons, spellAll, hspell]
    exact ih (h.push a) hrest (index + 1)

theorem spellAll_eq_ok {t u : Pen} (h : t.Sighted) {cs : List Char} {index : Nat}
    (hs : t.spellAll index cs = .ok u) :
    ∃ as : List Angle, cs = as.map Angle.toChar ∧ t.accepts as = true ∧ u = as.foldl push t := by
  induction cs generalizing t index with
  | nil =>
    cases hs
    exact ⟨[], rfl, rfl, rfl⟩
  | cons c cs ih =>
    rw [spellAll] at hs
    split at hs
    · next t' ht' =>
      rw [spell] at ht'
      split at ht'
      · cases ht'
      · next a ha =>
        cases hturn : t.turn a with
        | error why =>
          rw [hturn] at ht'
          cases ht'
        | ok v =>
          rw [hturn] at ht'
          cases ht'
          obtain ⟨hn, rfl⟩ := (turn_eq_ok_iff h a).mp hturn
          obtain ⟨as, hcs, hacc, hu⟩ := ih (h.push a) hs
          refine ⟨a :: as, ?_, ?_, hu⟩
          · rw [List.map_cons, ← hcs, Angle.ofChar?_eq_some ha]
          · rw [accepts, hturn]
            exact hacc
    · cases hs

end Pen

namespace Pattern

theorem ofSignature_signature {p : Pattern} (h : p.isDrawable = true) :
    ofSignature p.signature p.start = .ok p := by
  have hspell := Pen.spellAll_map_toChar (Pen.sighted_fresh p.start) h 0
  have hpattern : (p.angles.foldl Pen.push (Pen.fresh p.start)).pattern = p :=
    Pen.pattern_ofPattern p
  rw [ofSignature, toList_signature, hspell]
  exact congrArg Except.ok hpattern

theorem ofSignature_eq_ok_iff {s : String} {d : Direction} {p : Pattern} :
    ofSignature s d = .ok p ↔ p.start = d ∧ p.signature = s ∧ p.isDrawable = true := by
  constructor
  · intro h
    rw [ofSignature] at h
    split at h
    · next t ht =>
      obtain ⟨as, hs, hacc, rfl⟩ := Pen.spellAll_eq_ok (Pen.sighted_fresh d) ht
      have hp : p = ⟨d, as⟩ := by
        have hpattern := Pen.pattern_ofPattern ⟨d, as⟩
        rw [Pen.ofPattern] at hpattern
        rw [hpattern] at h
        exact (Except.ok.inj h).symm
      subst hp
      refine ⟨rfl, ?_, hacc⟩
      rw [← String.toList_inj, toList_signature, hs]
    · cases h
  · rintro ⟨rfl, rfl, h⟩
    exact ofSignature_signature h

end Pattern

end HexGesture
