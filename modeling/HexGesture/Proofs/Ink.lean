import HexGesture.Pattern.Basic
import Mathlib.Data.List.Induction

/-! Sets of strokes that are made by inking. Such a set holds both strokes of each of its segments,
so inking a segment twice changes nothing, and its size tells whether that ever happened. -/
namespace HexGesture

@[simp] theorem Direction.add_back_ne (d : Direction) : d + Angle.back ≠ d := by
  cases d <;> decide

namespace Stroke

def Apart (s t : Stroke) : Prop := s ≠ t ∧ s ≠ t.reversed

theorem reversed_ne (s : Stroke) : s.reversed ≠ s := by
  intro h
  exact s.heading.add_back_ne (congrArg heading h)

theorem reversed_eq_iff {s t : Stroke} : s.reversed = t ↔ s = t.reversed := by
  constructor
  · rintro rfl
    simp
  · rintro rfl
    simp

@[simp] theorem onward_back (s : Stroke) : s.onward (s.heading + Angle.back) = s.reversed := rfl

end Stroke

namespace StrokeSet

/-- With a stroke also its reverse is a member. -/
def Symmetric (xs : StrokeSet) : Prop := ∀ s, s ∈ xs → s.reversed ∈ xs

theorem symmetric_empty : Symmetric ∅ := fun _ h => absurd h Std.ExtTreeSet.not_mem_empty

theorem Symmetric.mem_reversed {xs : StrokeSet} (h : xs.Symmetric) {s : Stroke} :
    s.reversed ∈ xs ↔ s ∈ xs := by
  constructor
  · intro hs
    simpa using h _ hs
  · exact h s

theorem Symmetric.ink {xs : StrokeSet} (h : xs.Symmetric) (s : Stroke) : (xs.ink s).Symmetric := by
  intro t ht
  rw [mem_ink] at ht ⊢
  rcases ht with rfl | rfl | ht
  · exact .inr (.inl rfl)
  · exact .inl s.reversed_reversed
  · exact .inr (.inr (h t ht))

theorem Symmetric.ink_of_mem {xs : StrokeSet} (h : xs.Symmetric) {s : Stroke} (hs : s ∈ xs) :
    xs.ink s = xs := by
  apply Std.ExtTreeSet.ext_mem
  intro t
  rw [mem_ink]
  constructor
  · rintro (rfl | rfl | ht)
    · exact hs
    · exact h s hs
    · exact ht
  · exact fun ht => .inr (.inr ht)

/-- Wiping a segment that was new when it was inked brings the set back. -/
theorem Symmetric.wipe_ink {xs : StrokeSet} (h : xs.Symmetric) {s : Stroke} (hs : s ∉ xs) :
    (xs.ink s).wipe s = xs := by
  apply Std.ExtTreeSet.ext_mem
  intro t
  rw [mem_wipe, mem_ink]
  constructor
  · rintro ⟨hne, hne', rfl | rfl | ht⟩
    · exact absurd rfl hne
    · exact absurd rfl hne'
    · exact ht
  · intro ht
    refine ⟨?_, ?_, .inr (.inr ht)⟩
    · rintro rfl
      exact hs ht
    · rintro rfl
      exact hs (h.mem_reversed.mp ht)

theorem Symmetric.reversed_not_mem_insert {xs : StrokeSet} (h : xs.Symmetric) {s : Stroke}
    (hs : s ∉ xs) : s.reversed ∉ xs.insert s := by
  rw [Std.ExtTreeSet.mem_insert, Std.LawfulEqCmp.compare_eq_iff_eq]
  rintro (he | he)
  · exact s.reversed_ne he.symm
  · exact hs (h.mem_reversed.mp he)

theorem Symmetric.size_ink {xs : StrokeSet} (h : xs.Symmetric) {s : Stroke} (hs : s ∉ xs) :
    (xs.ink s).size = xs.size + 2 := by
  have hr := h.reversed_not_mem_insert hs
  rw [← Std.ExtTreeSet.contains_iff_mem] at hr hs
  rw [StrokeSet.ink, Std.ExtTreeSet.size_insert, if_neg hr, Std.ExtTreeSet.size_insert, if_neg hs]

def ofStrokes (ss : List Stroke) : StrokeSet := ss.foldl ink ∅

@[simp] theorem ofStrokes_nil : ofStrokes [] = ∅ := rfl

@[simp] theorem ofStrokes_concat (ss : List Stroke) (s : Stroke) :
    ofStrokes (ss ++ [s]) = (ofStrokes ss).ink s := by simp [ofStrokes]

theorem symmetric_ofStrokes (ss : List Stroke) : (ofStrokes ss).Symmetric := by
  induction ss using List.reverseRecOn with
  | nil => exact symmetric_empty
  | append_singleton ss s ih =>
    rw [ofStrokes_concat]
    exact ih.ink s

theorem mem_ofStrokes {ss : List Stroke} {t : Stroke} :
    t ∈ ofStrokes ss ↔ t ∈ ss ∨ t.reversed ∈ ss := by
  induction ss using List.reverseRecOn with
  | nil => simp
  | append_singleton ss s ih =>
    rw [ofStrokes_concat, mem_ink, ih, List.mem_append, List.mem_append, List.mem_singleton,
      List.mem_singleton, Stroke.reversed_eq_iff]
    grind

theorem not_mem_ofStrokes {ss : List Stroke} {t : Stroke} :
    t ∉ ofStrokes ss ↔ ∀ s ∈ ss, s.Apart t := by
  rw [mem_ofStrokes, not_or]
  constructor
  · rintro ⟨h, hr⟩ s hs
    refine ⟨?_, ?_⟩
    · rintro rfl
      exact h hs
    · rintro rfl
      exact hr hs
  · intro h
    exact ⟨fun hs => (h t hs).1 rfl, fun hs => (h _ hs).2 rfl⟩

theorem size_ofStrokes_le (ss : List Stroke) : (ofStrokes ss).size ≤ 2 * ss.length := by
  induction ss using List.reverseRecOn with
  | nil => simp
  | append_singleton ss s ih =>
    rw [ofStrokes_concat, List.length_append, List.length_singleton]
    by_cases hs : s ∈ ofStrokes ss
    · rw [(symmetric_ofStrokes ss).ink_of_mem hs]
      omega
    · rw [(symmetric_ofStrokes ss).size_ink hs]
      omega

/-- Two strokes for each one inked, just when none shares its segment with another. -/
theorem size_ofStrokes_eq_iff (ss : List Stroke) :
    (ofStrokes ss).size = 2 * ss.length ↔ ss.Pairwise Stroke.Apart := by
  induction ss using List.reverseRecOn with
  | nil => simp
  | append_singleton ss s ih =>
    have hle := size_ofStrokes_le ss
    rw [List.pairwise_append, ← ih, ofStrokes_concat, List.length_append, List.length_singleton]
    simp only [List.pairwise_singleton, true_and, List.mem_singleton, forall_eq]
    rw [← not_mem_ofStrokes]
    by_cases hs : s ∈ ofStrokes ss
    · rw [(symmetric_ofStrokes ss).ink_of_mem hs]
      constructor
      · intro h
        omega
      · exact fun h => absurd hs h.2
    · rw [(symmetric_ofStrokes ss).size_ink hs]
      constructor
      · exact fun h => ⟨by omega, hs⟩
      · rintro ⟨h, -⟩
        omega

end StrokeSet

namespace Pattern

theorem inked_eq (p : Pattern) : p.inked = StrokeSet.ofStrokes p.strokes := rfl

end Pattern

end HexGesture
