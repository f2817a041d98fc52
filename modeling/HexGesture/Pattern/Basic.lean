import HexGesture.Lattice.Stroke

/-! A pattern is a drawing on the lattice: a first stroke along `start`, then one further stroke
after each turn. Any list of turns is a pattern, also one that no pen could draw. The signature
spells the turns and leaves the start out. -/
namespace HexGesture

structure Pattern where
  start : Direction
  angles : List Angle
  deriving DecidableEq

namespace Pattern

def length (p : Pattern) : Nat := p.angles.length

def isEmpty (p : Pattern) : Bool := p.angles.isEmpty

def finalHeading (p : Pattern) : Direction := p.angles.foldl (· + ·) p.start

/-- Strokes after `done`, which are listed last one first, up to the end of the turns. -/
def strokesFrom (s : Stroke) (done : List Stroke) : List Angle → List Stroke
  | [] => (s :: done).reverse
  | a :: as => strokesFrom (s.onward (s.heading + a)) (s :: done) as

theorem strokesFrom_eq (s : Stroke) (done : List Stroke) (as : List Angle) :
    strokesFrom s done as = done.reverse ++ strokesFrom s [] as := by
  induction as generalizing s done with
  | nil => simp [strokesFrom]
  | cons a as ih =>
    simp only [strokesFrom]
    rw [ih, ih _ [s]]
    simp

def strokes (p : Pattern) : List Stroke := strokesFrom ⟨.origin, p.start⟩ [] p.angles

def positionsFrom (c : Coord) (d : Direction) (done : List Coord) : List Angle → List Coord
  | [] => (c.step d :: c :: done).reverse
  | a :: as => positionsFrom (c.step d) (d + a) (c :: done) as

theorem positionsFrom_eq (c : Coord) (d : Direction) (done : List Coord) (as : List Angle) :
    positionsFrom c d done as = done.reverse ++ positionsFrom c d [] as := by
  induction as generalizing c d done with
  | nil => simp [positionsFrom]
  | cons a as ih =>
    simp only [positionsFrom]
    rw [ih, ih _ _ [c]]
    simp

/-- The points visited when drawing from `c`, both ends included. -/
def positions (p : Pattern) (c : Coord) : List Coord := positionsFrom c p.start [] p.angles

/-- Both strokes of every segment drawn. -/
def inked (p : Pattern) : StrokeSet := p.strokes.foldl StrokeSet.ink ∅

def signature (p : Pattern) : String := String.ofList (p.angles.map Angle.toChar)

@[simp] theorem toList_signature (p : Pattern) :
    p.signature.toList = p.angles.map Angle.toChar := by simp [signature]

theorem signature_inj {p q : Pattern} : p.signature = q.signature ↔ p.angles = q.angles := by
  refine ⟨fun h => ?_, fun h => by simp [signature, h]⟩
  have h' := congrArg (fun s : String => s.toList.filterMap Angle.ofChar?) h
  simpa [List.filterMap_map, Function.comp_def] using h'

/-- The pattern that some letters spell from a start. What is no letter is passed over. -/
def ofLetters (letters : String) (start : Direction) : Pattern :=
  ⟨start, letters.toList.filterMap Angle.ofChar?⟩

@[simp] theorem ofLetters_signature (p : Pattern) : ofLetters p.signature p.start = p := by
  have hletters : Angle.ofChar? ∘ Angle.toChar = some := funext fun a => Angle.ofChar?_toChar a
  rw [ofLetters, toList_signature, List.filterMap_map, hletters, List.filterMap_some]

def display (p : Pattern) : String := s!"Pattern[{p.start.name}, {p.signature}]"

end Pattern

end HexGesture
