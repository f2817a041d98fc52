import HexGesture.Pattern.Pen

/-! Reading a signature back: the letters are drawn one after another from a given start, and the
first letter that cannot be drawn is named with its place. -/
namespace HexGesture

namespace Pen

def spell (t : Pen) (c : Char) : Except SignatureFault Pen :=
  match Angle.ofChar? c with
  | none => .error (.unknownCharacter c)
  | some a => (t.turn a).mapError .rejected

/-- Draw letters until one fails, which is returned with its index. -/
def spellAll (t : Pen) (index : Nat) : List Char → Except (Nat × SignatureFault) Pen
  | [] => .ok t
  | c :: cs =>
    match t.spell c with
    | .ok t' => t'.spellAll (index + 1) cs
    | .error cause => .error (index, cause)

/-- Whether all turns can be drawn. -/
def accepts (t : Pen) : List Angle → Bool
  | [] => true
  | a :: as =>
    match t.turn a with
    | .ok t' => t'.accepts as
    | .error _ => false

end Pen

namespace Pattern

def ofSignature (signature : String) (start : Direction) : Except PatternError Pattern :=
  match (Pen.fresh start).spellAll 0 signature.toList with
  | .ok t => .ok t.pattern
  | .error (index, cause) => .error (.malformed signature index cause)

def isDrawable (p : Pattern) : Bool := (Pen.fresh p.start).accepts p.angles

end Pattern

end HexGesture
