import HexGesture.Lattice.Coord
import Std.Data.ExtTreeSet

/-! A stroke is a unit segment of the lattice with a sense of direction. Every segment carries
two strokes, each the reverse of the other. Strokes are ordered by where they start, then by
heading, so that sets of strokes list in one fixed order. -/
namespace HexGesture

structure Stroke where
  source : Coord
  heading : Direction
  deriving DecidableEq

namespace Stroke

def target (s : Stroke) : Coord := s.source.step s.heading

/-- The same segment, drawn from its far end. -/
def reversed (s : Stroke) : Stroke := ⟨s.target, s.heading + Angle.back⟩

@[simp] theorem target_reversed (s : Stroke) : s.reversed.target = s.source := by
  simp [reversed, target]
@[simp] theorem reversed_reversed (s : Stroke) : s.reversed.reversed = s := by
  cases s; simp [reversed, target]

def onward (s : Stroke) (d : Direction) : Stroke := ⟨s.target, d⟩

@[simp] theorem source_onward (s : Stroke) (d : Direction) : (s.onward d).source = s.target := rfl
@[simp] theorem heading_onward (s : Stroke) (d : Direction) : (s.onward d).heading = d := rfl

def cmp : Stroke → Stroke → Ordering :=
  compareLex (compareOn fun s => s.source.q)
    (compareLex (compareOn fun s => s.source.r) (compareOn fun s => s.heading.ordinal))

instance : Std.TransCmp cmp :=
  inferInstanceAs (Std.TransCmp (compareLex (compareOn fun s : Stroke => s.source.q)
    (compareLex (compareOn fun s => s.source.r) (compareOn fun s => s.heading.ordinal))))

instance : Std.LawfulEqCmp cmp where
  eq_of_compare {s t} h := by
    have h' : s.source.q = t.source.q ∧ s.source.r = t.source.r ∧
        s.heading.ordinal = t.heading.ordinal := by
      simpa only [cmp, compareLex, compareOn, Ordering.then_eq_eq,
        Std.LawfulEqOrd.compare_eq_iff_eq] using h
    obtain ⟨⟨_, _⟩, _⟩ := s
    obtain ⟨⟨_, _⟩, _⟩ := t
    simp_all [Direction.ordinal_inj]

end Stroke

/-- A set of strokes; two of them are equal as soon as they have the same members. -/
abbrev StrokeSet := Std.ExtTreeSet Stroke Stroke.cmp

namespace StrokeSet

/-- Both strokes of the segment of `s` become members. -/
def ink (xs : StrokeSet) (s : Stroke) : StrokeSet := (xs.insert s).insert s.reversed

def wipe (xs : StrokeSet) (s : Stroke) : StrokeSet := (xs.erase s).erase s.reversed

theorem mem_ink {xs : StrokeSet} {s t : Stroke} :
    t ∈ xs.ink s ↔ t = s ∨ t = s.reversed ∨ t ∈ xs := by
  simp only [ink, Std.ExtTreeSet.mem_insert, Std.LawfulEqCmp.compare_eq_iff_eq]
  grind

theorem mem_wipe {xs : StrokeSet} {s t : Stroke} :
    t ∈ xs.wipe s ↔ t ≠ s ∧ t ≠ s.reversed ∧ t ∈ xs := by
  simp only [wipe, Std.ExtTreeSet.mem_erase, ne_eq, Std.LawfulEqCmp.compare_eq_iff_eq]
  grind

end StrokeSet

end HexGesture
