import HexGesture.Proofs.Geodesic
import HexGesture.Proofs.Handshake
import Mathlib.Data.List.Chain

/-! A drawing seen from its strokes, from its points and from a pen that follows it. Each of them
carries a point and a heading along the turns on its own. Whatever point and heading they start
from, they go the same way: strokes join end to end, one turn apart, and the points are those where
strokes start, with the end of the last one. -/
namespace HexGesture

namespace Coord

theorem distance_step (c : Coord) (d : Direction) : c.distance (c.step d) = 1 := by
  cases d <;> simp only [distance, step, Direction.offset, add_q, add_r] <;> omega

end Coord

namespace Stroke

def Follows (t s : Stroke) : Prop := t.source = s.target

theorem follows_onward (s : Stroke) (d : Direction) : (s.onward d).Follows s := rfl

def turns (ss : List Stroke) : List Angle :=
  List.zipWith (fun s t => t.heading - s.heading) ss ss.tail

end Stroke

namespace Pattern

section From

variable (s : Stroke) (c : Coord) (d : Direction) (as : List Angle)

theorem head?_strokesFrom : (strokesFrom s [] as).head? = some s := by
  cases as with
  | nil => rfl
  | cons a as => rw [strokesFrom_cons, List.head?_cons]

theorem isChain_strokesFrom : (strokesFrom s [] as).IsChain fun s t => t.Follows s := by
  induction as generalizing s with
  | nil => exact List.isChain_singleton s
  | cons a as ih =>
    rw [strokesFrom_cons, List.isChain_cons, head?_strokesFrom]
    refine ⟨?_, ih _⟩
    rintro t ⟨⟩
    exact s.follows_onward _

theorem turns_strokesFrom : Stroke.turns (strokesFrom s [] as) = as := by
  induction as generalizing s with
  | nil => rfl
  | cons a as ih =>
    obtain ⟨ss, hss⟩ : ∃ ss, strokesFrom (s.onward (s.heading + a)) [] as =
        s.onward (s.heading + a) :: ss := List.head?_eq_some_iff.mp (head?_strokesFrom _ as)
    have hrest := ih (s.onward (s.heading + a))
    rw [hss] at hrest
    rw [strokesFrom_cons, hss, Stroke.turns, List.tail_cons, List.zipWith_cons_cons,
      Stroke.heading_onward, Direction.add_sub_cancel]
    exact congrArg _ hrest

theorem positionsFrom_cons (a : Angle) :
    positionsFrom c d [] (a :: as) = c :: positionsFrom (c.step d) (d + a) [] as := by
  rw [positionsFrom, positionsFrom_eq]
  rfl

theorem head?_positionsFrom : (positionsFrom c d [] as).head? = some c := by
  cases as with
  | nil => rfl
  | cons a as => rw [positionsFrom_cons, List.head?_cons]

theorem isChain_positionsFrom : (positionsFrom c d [] as).IsChain fun b c => b.distance c = 1 := by
  induction as generalizing c d with
  | nil => exact List.isChain_pair.mpr (c.distance_step d)
  | cons a as ih =>
    rw [positionsFrom_cons, List.isChain_cons, head?_positionsFrom]
    refine ⟨?_, ih _ _⟩
    rintro b ⟨⟩
    exact c.distance_step d

/-- The pen stands where the next stroke starts, and at last where the last stroke ends. -/
theorem positionsFrom_eq_map : positionsFrom s.source s.heading [] as =
    (strokesFrom s [] as).map Stroke.source ++
      ((strokesFrom s [] as).getLast?.map Stroke.target).toList := by
  induction as generalizing s with
  | nil => rfl
  | cons a as ih =>
    have hrest := ih (s.onward (s.heading + a))
    have hne : strokesFrom (s.onward (s.heading + a)) [] as ≠ [] := by
      intro hnil
      have hhead := head?_strokesFrom (s.onward (s.heading + a)) as
      rw [hnil] at hhead
      cases hhead
    rw [positionsFrom_cons, strokesFrom_cons, List.map_cons, List.cons_append,
      List.getLast?_cons_of_ne_nil hne]
    exact congrArg _ hrest

end From

variable (p : Pattern) (c : Coord)

theorem head?_strokes : p.strokes.head? = some ⟨.origin, p.start⟩ := head?_strokesFrom _ _

theorem turns_strokes : Stroke.turns p.strokes = p.angles := turns_strokesFrom _ _

theorem strokes_inj {p q : Pattern} : p.strokes = q.strokes ↔ p = q := by
  constructor
  · intro h
    have hstart : p.start = q.start := by
      have hhead := congrArg List.head? h
      rw [head?_strokes, head?_strokes, Option.some.injEq, Stroke.mk.injEq] at hhead
      exact hhead.2
    have hangles : p.angles = q.angles := by rw [← turns_strokes, h, turns_strokes]
    cases p
    cases q
    simp_all
  · rintro rfl
    rfl

/-- A pen that follows the drawing has its last stroke at hand and those before it behind. -/
theorem strokes_eq_concat : p.strokes =
    (Pen.ofPattern p).trail.toList ++ [(Pen.ofPattern p).head] := (Pen.strokes_ofPattern p).symm

theorem trail_ofPattern : (Pen.ofPattern p).trail.toList = p.strokes.take p.length := by
  have hlength := p.length_strokes
  rw [strokes_eq_concat, List.length_append, List.length_singleton,
    Nat.add_right_cancel_iff] at hlength
  rw [strokes_eq_concat, ← hlength, List.take_left']
  rfl

theorem getLast?_strokes : p.strokes.getLast? = some (Pen.ofPattern p).head := by
  rw [strokes_eq_concat, List.getLast?_concat]

theorem heading_head_ofPattern : (Pen.ofPattern p).head.heading = p.finalHeading := by
  have hlast := p.getLast?_strokes_heading
  rw [getLast?_strokes] at hlast
  exact Option.some.inj hlast

theorem isChain_positions : (p.positions c).IsChain fun a b => a.distance b = 1 :=
  isChain_positionsFrom c p.start p.angles

theorem positions_eq_map :
    p.positions c = (p.strokes.map fun s => s.source + c) ++ [p.finish + c] := by
  have hpositions : p.positions .origin = p.strokes.map Stroke.source ++ [p.finish] := by
    have hfrom := positionsFrom_eq_map ⟨.origin, p.start⟩ p.angles
    rw [← strokes, getLast?_strokes] at hfrom
    exact hfrom
  rw [positions_eq, hpositions, List.map_append, List.map_map]
  rfl

theorem length_positions : (p.positions c).length = p.length + 2 := by
  rw [positions_eq_map, List.length_append, List.length_map, length_strokes]
  rfl

/-- All views of a drawing show one walk: its strokes, the points visited from any coordinate, and
the pen that follows it. The strokes determine the drawing. -/
theorem strokes_describe :
    p.strokes.length = p.length + 1 ∧
    p.strokes.head? = some ⟨.origin, p.start⟩ ∧
    (p.strokes.IsChain fun s t => t.Follows s) ∧
    Stroke.turns p.strokes = p.angles ∧
    (p.positions c).length = p.length + 2 ∧
    ((p.positions c).IsChain fun a b => a.distance b = 1) ∧
    (∃ last, p.strokes.getLast? = some last ∧ last.heading = p.finalHeading ∧
      p.positions c = (p.strokes.map fun s => s.source + c) ++ [last.target + c] ∧
      (Pen.ofPattern p).head = last) ∧
    (Pen.ofPattern p).trail.toList = p.strokes.take p.length ∧
    (Pen.ofPattern p).inked = p.inked ∧
    (∀ s, s ∈ p.inked ↔ s ∈ p.strokes ∨ s.reversed ∈ p.strokes) ∧
    (∀ q : Pattern, q.strokes = p.strokes ↔ q = p) ∧
    p.positions c = (p.positions .origin).map (· + c) := by
  refine ⟨p.length_strokes, p.head?_strokes, isChain_strokesFrom _ _, p.turns_strokes,
    p.length_positions c, p.isChain_positions c, ?_, p.trail_ofPattern, Pen.inked_ofPattern p, ?_,
    fun q => strokes_inj, p.positions_eq c⟩
  · exact ⟨(Pen.ofPattern p).head, p.getLast?_strokes, p.heading_head_ofPattern,
      p.positions_eq_map c, rfl⟩
  · intro s
    rw [inked_eq, StrokeSet.mem_ofStrokes]

end Pattern

end HexGesture
