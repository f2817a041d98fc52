import HexGesture.Registry.Basic

/-! Numbers as drawings. Four turns give the sign; every turn after them acts on a count that
starts at zero: one, five or ten is added, or the count is doubled or halved. -/
namespace HexGesture

namespace Numeral

/-- What a letter does to the count. There is no letter but these five. -/
def count (x : Float) : Char → Option Float
  | 'w' => some (x + 1.0)
  | 'q' => some (x + 5.0)
  | 'e' => some (x + 10.0)
  | 'a' => some (x * 2.0)
  | 'd' => some (x / 2.0)
  | _ => none

def value? (sign : Float) (cs : List Char) : Option Float := (cs.foldlM count 0.0).map (sign * ·)

def ofSignature? (signature : String) : Option Float :=
  match signature.toList with
  | 'a' :: 'q' :: 'a' :: 'a' :: cs => value? 1.0 cs
  | 'd' :: 'e' :: 'd' :: 'd' :: cs => value? (-1.0) cs
  | _ => none

end Numeral

def Handler.numerals {V E : Type} (name : String) (convert : Float → V) : Handler V E :=
  ⟨name, fun p => (Numeral.ofSignature? p.signature).map fun x => .constant (convert x)⟩

end HexGesture
