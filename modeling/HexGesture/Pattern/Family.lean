import HexGesture.Pattern.Basic

/-! Drawable patterns of any length, and one for every number up to a power of two. Both keep
heading between east and south-east, so no point is visited twice. -/
namespace HexGesture.Pattern

/-- Right and left turns by turns. -/
def zigzag (length : Nat) : Pattern :=
  ⟨.east, (List.range length).map fun i => if i % 2 = 0 then .right else .left⟩

def indexBits : Nat := 10

/-- Turns for bit `bit` and those after it. A bit that is set swaps east and south-east; at any
other place the heading stays. -/
def bitAngles (index : Nat) (heading : Direction) (bit : Nat) : Nat → List Angle
  | 0 => []
  | n + 1 =>
    if bit < indexBits ∧ index.testBit bit then
      let a : Angle := if heading = .east then .right else .left
      a :: bitAngles index (heading + a) (bit + 1) n
    else .forward :: bitAngles index heading (bit + 1) n

/-- The pattern of a number; its length varies with the number. -/
def ofIndex (index : Nat) : Pattern := ⟨.east, bitAngles index .east 0 (indexBits + index % 4)⟩

end HexGesture.Pattern
