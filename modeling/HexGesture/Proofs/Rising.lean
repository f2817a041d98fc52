import HexGesture.Pattern.Family
import HexGesture.Proofs.Drawing

/-! Drawings that only ever head east or south-east. Every stroke starts one step further along the
diagonal than the one before it, so no segment is met again, and there is a drawable pattern of
every length. -/
namespace HexGesture

namespace Stroke

def Rising (s : Stroke) : Prop := s.heading = .east ∨ s.heading = .southEast

/-- How far along the diagonal a stroke starts. -/
def height (s : Stroke) : Int := s.source.q + s.source.r

theorem Rising.height_onward {s : Stroke} (h : s.Rising) (d : Direction) :
    (s.onward d).height = s.height + 1 := by
  obtain h | h := h <;>
    simp only [height, source_onward, target, h, Coord.step, Direction.offset, Coord.add_q,
      Coord.add_r] <;> omega

theorem Rising.ne_reversed {s t : Stroke} (hs : s.Rising) (ht : t.Rising) : s ≠ t.reversed := by
  intro heq
  have hheading : s.heading = t.heading + Angle.back := congrArg heading heq
  obtain hs | hs := hs <;> obtain ht | ht := ht <;> rw [hs, ht] at hheading <;> cases hheading

theorem Rising.apart {s t : Stroke} (hs : s.Rising) (ht : t.Rising) (h : s.height < t.height) :
    s.Apart t := by
  refine ⟨?_, hs.ne_reversed ht⟩
  rintro rfl
  exact Int.lt_irrefl _ h

end Stroke

namespace Pattern

theorem height_le_of_mem_strokesFrom {s : Stroke} {as : List Angle}
    (h : ∀ t ∈ strokesFrom s [] as, t.Rising) :
    ∀ t ∈ strokesFrom s [] as, s.height ≤ t.height := by
  induction as generalizing s with
  | nil => simp [strokesFrom]
  | cons a as ih =>
    rw [strokesFrom_cons, List.forall_mem_cons] at h ⊢
    refine ⟨Int.le_refl _, fun t ht => ?_⟩
    have hnext := h.1.height_onward (s.heading + a)
    have hle := ih h.2 t ht
    omega

theorem pairwise_apart_of_rising {s : Stroke} {as : List Angle}
    (h : ∀ t ∈ strokesFrom s [] as, t.Rising) :
    (strokesFrom s [] as).Pairwise Stroke.Apart := by
  induction as generalizing s with
  | nil => simp [strokesFrom]
  | cons a as ih =>
    rw [strokesFrom_cons] at h ⊢
    obtain ⟨hs, hrest⟩ := List.forall_mem_cons.mp h
    refine List.pairwise_cons.mpr ⟨fun t ht => ?_, ih hrest⟩
    have hnext := hs.height_onward (s.heading + a)
    have hle := height_le_of_mem_strokesFrom hrest t ht
    exact hs.apart (hrest t ht) (by omega)

theorem isDrawable_of_rising {p : Pattern} (h : ∀ s ∈ p.strokes, s.Rising) :
    p.isDrawable = true :=
  (isDrawable_iff_pairwise p).mpr (pairwise_apart_of_rising h)

theorem rising_of_heading {s : Stroke} {i : Nat}
    (hs : s.heading = if i % 2 = 0 then .east else .southEast) : s.Rising := by
  rw [Stroke.Rising, hs]
  split
  · exact .inl rfl
  · exact .inr rfl

/-- Turns to the right and to the left, by turns, lead from east to south-east and back. -/
theorem rising_of_mem_zigzag {s : Stroke} {i n : Nat}
    (hs : s.heading = if i % 2 = 0 then .east else .southEast) :
    ∀ t ∈ strokesFrom s [] ((List.range' i n).map fun j => if j % 2 = 0 then .right else .left),
      t.Rising := by
  induction n generalizing s i with
  | zero => simpa [strokesFrom] using rising_of_heading hs
  | succ n ih =>
    rw [List.range'_succ, List.map_cons, strokesFrom_cons]
    refine List.forall_mem_cons.mpr ⟨rising_of_heading hs, ih ?_⟩
    rw [Stroke.heading_onward, hs]
    rcases Nat.mod_two_eq_zero_or_one i with hi | hi
    · rw [if_pos hi, if_pos hi, if_neg (by omega)]
      rfl
    · rw [if_neg (by omega), if_neg (by omega), if_pos (by omega)]
      rfl

theorem isDrawable_zigzag (n : Nat) : (zigzag n).isDrawable = true := by
  refine isDrawable_of_rising ?_
  rw [strokes, zigzag, List.range_eq_range']
  exact rising_of_mem_zigzag rfl

theorem length_zigzag (n : Nat) : (zigzag n).length = n := by simp [zigzag, length]

end Pattern

end HexGesture
