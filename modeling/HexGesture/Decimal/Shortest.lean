/-! The shortest decimal that reads back as a given binary number. On each decimal grid the two
neighbours of the number are tried; the first grid with a neighbour that rounds to the number
wins, and of two such neighbours the nearer one, the greater on a tie. -/
namespace HexGesture

/-- The number `digits * 10 ^ exponent`. -/
structure Decimal where
  digits : Nat
  exponent : Int
  deriving DecidableEq

/-- A quotient of natural numbers with the quotients halfway to its binary neighbours. A decimal
between these two rounds to the number; `closed` says whether the two themselves do. -/
structure RoundingSpan where
  value : Nat
  low : Nat
  high : Nat
  unit : Nat
  closed : Bool

namespace RoundingSpan

/-- The span of `significand * 2 ^ exponent` among numbers of 53 binary digits. Below a power of
two the neighbours are twice as dense, except at the bottom of the range. -/
def ofBinary (significand : Nat) (exponent : Int) (bottom : Bool) : RoundingSpan :=
  let dense := significand = Nat.pow 2 52 ∧ ¬ bottom
  let up := Nat.pow 2 exponent.toNat
  let down := Nat.pow 2 (-exponent).toNat
  { value := 4 * significand * up
    low := (if dense then 4 * significand - 1 else 4 * significand - 2) * up
    high := (4 * significand + 2) * up
    unit := 4 * down
    closed := significand % 2 = 0 }

/-- Whether `n / unit`, in the scale of the span, reads back as the value. -/
def holds (s : RoundingSpan) (n : Nat) : Bool :=
  if s.closed then s.low ≤ n && n ≤ s.high else s.low < n && n < s.high

/-- The span seen on the grid of multiples of `10 ^ k`: one grid step is one unit. -/
def rescale (s : RoundingSpan) (k : Int) : RoundingSpan :=
  let up := Nat.pow 10 (-k).toNat
  let down := Nat.pow 10 k.toNat
  { s with value := s.value * up, low := s.low * up, high := s.high * up, unit := s.unit * down }

def nearest? (s : RoundingSpan) : Option Nat :=
  let below := s.value / s.unit
  let above := below + 1
  match s.holds (below * s.unit), s.holds (above * s.unit) with
  | true, true =>
    if s.value - below * s.unit < above * s.unit - s.value then some below else some above
  | true, false => some below
  | false, true => some above
  | false, false => none

def magnitude (s : RoundingSpan) : Int :=
  if s.unit ≤ s.value then ((Nat.toDigits 10 (s.value / s.unit)).length : Int)
  else 1 - (((List.range 400).find? fun j => s.unit ≤ s.value * Nat.pow 10 j).getD 400 : Nat)

/-- A neighbour above that is the next power of ten has its digit on the next grid. -/
def shortest (s : RoundingSpan) : Decimal :=
  let top := s.magnitude
  let grids := (List.range 17).map fun (n : Nat) => top - 1 - n
  let found := grids.findSome? fun k => (s.rescale k).nearest?.map fun n =>
    if n = 10 then ⟨1, k + 1⟩ else ⟨n, k⟩
  found.getD ⟨0, 0⟩

end RoundingSpan

namespace Decimal

def positional (d : Decimal) : String :=
  let ds := Nat.toDigits 10 d.digits
  let places := (-d.exponent).toNat
  if places = 0 then String.ofList (ds ++ List.replicate d.exponent.toNat '0')
  else
    let padded := List.replicate (places + 1 - ds.length) '0' ++ ds
    String.ofList (padded.take (padded.length - places) ++ '.' ::
      padded.drop (padded.length - places))

def ofFloat (x : Float) : String :=
  let bits := x.toBits.toNat
  let sign := if bits / Nat.pow 2 63 = 1 then "-" else ""
  let rank : Nat := bits / Nat.pow 2 52 % Nat.pow 2 11
  let fraction := bits % Nat.pow 2 52
  if rank = 2047 then if fraction = 0 then sign ++ "inf" else "NaN"
  else if rank = 0 ∧ fraction = 0 then sign ++ "0"
  else if rank = 0 then
    sign ++ (RoundingSpan.ofBinary fraction (-1074) true).shortest.positional
  else
    let span := RoundingSpan.ofBinary (Nat.pow 2 52 + fraction) ((rank : Int) - 1075) (rank = 1)
    sign ++ span.shortest.positional

/-- Shortest text with a point even in a whole number. -/
def withPoint (x : Float) : String :=
  let text := ofFloat x
  if x.isFinite ∧ ¬ text.toList.contains '.' then text ++ ".0" else text

end Decimal

end HexGesture
