/-! Headings and turns on the hexagonal lattice. Both are counted clockwise in sixths of a
circle, so turning is addition modulo six and a turn is the difference of two headings. -/
namespace HexGesture

inductive Direction
  | northEast | east | southEast | southWest | west | northWest
  deriving DecidableEq

inductive Angle
  | forward | right | rightBack | back | leftBack | left
  deriving DecidableEq

namespace Angle

def all : List Angle := [forward, right, rightBack, back, leftBack, left]

def ordinal : Angle → Fin 6
  | forward => 0 | right => 1 | rightBack => 2 | back => 3 | leftBack => 4 | left => 5

def ofFin : Fin 6 → Angle
  | 0 => forward | 1 => right | 2 => rightBack | 3 => back | 4 => leftBack | 5 => left

@[simp] theorem ofFin_ordinal (a : Angle) : ofFin a.ordinal = a := by cases a <;> rfl
@[simp] theorem ordinal_ofFin (i : Fin 6) : (ofFin i).ordinal = i := by revert i; decide

def ofOrdinal? (n : Nat) : Option Angle :=
  if h : n < 6 then some (ofFin ⟨n, h⟩) else none

@[simp] theorem ofOrdinal?_ordinal (a : Angle) : ofOrdinal? a.ordinal = some a := by
  cases a <;> rfl

/-- The letters lie on a keyboard around `s` in the direction of the turn. -/
def toChar : Angle → Char
  | forward => 'w' | right => 'e' | rightBack => 'd' | back => 's' | leftBack => 'a' | left => 'q'

def ofChar? : Char → Option Angle
  | 'w' => some forward | 'e' => some right | 'd' => some rightBack
  | 's' => some back | 'a' => some leftBack | 'q' => some left
  | _ => none

@[simp] theorem ofChar?_toChar (a : Angle) : ofChar? a.toChar = some a := by cases a <;> rfl

theorem ofChar?_eq_some {c : Char} {a : Angle} (h : ofChar? c = some a) : a.toChar = c := by
  unfold ofChar? at h
  split at h <;> simp_all [toChar] <;> subst a <;> rfl

/-- The constructor's name, as descriptions of values spell it. -/
def label : Angle → String
  | forward => "Forward" | right => "Right" | rightBack => "RightBack"
  | back => "Back" | leftBack => "LeftBack" | left => "Left"

end Angle

namespace Direction

def all : List Direction := [northEast, east, southEast, southWest, west, northWest]

def ordinal : Direction → Fin 6
  | northEast => 0 | east => 1 | southEast => 2 | southWest => 3 | west => 4 | northWest => 5

def ofFin : Fin 6 → Direction
  | 0 => northEast | 1 => east | 2 => southEast | 3 => southWest | 4 => west | 5 => northWest

@[simp] theorem ofFin_ordinal (d : Direction) : ofFin d.ordinal = d := by cases d <;> rfl
@[simp] theorem ordinal_ofFin (i : Fin 6) : (ofFin i).ordinal = i := by revert i; decide

theorem ordinal_inj {d e : Direction} : d.ordinal = e.ordinal ↔ d = e :=
  ⟨fun h => by simpa using congrArg ofFin h, fun h => h ▸ rfl⟩

def ofOrdinal? (n : Nat) : Option Direction :=
  if h : n < 6 then some (ofFin ⟨n, h⟩) else none

@[simp] theorem ofOrdinal?_ordinal (d : Direction) : ofOrdinal? d.ordinal = some d := by
  cases d <;> rfl

@[simp] theorem mem_all (d : Direction) : d ∈ all := by cases d <;> decide

/-- `d + a` is the heading after turning through `a`. -/
instance : HAdd Direction Angle Direction := ⟨fun d a => ofFin (d.ordinal + a.ordinal)⟩

/-- `d - e` is the turn that takes heading `e` to heading `d`. -/
instance : HSub Direction Direction Angle := ⟨fun d e => Angle.ofFin (d.ordinal - e.ordinal)⟩

@[simp] theorem add_sub_cancel (d : Direction) (a : Angle) : d + a - d = a := by
  cases d <;> cases a <;> rfl
@[simp] theorem add_sub_left (d e : Direction) : d + (e - d) = e := by
  cases d <;> cases e <;> rfl
@[simp] theorem add_back_back (d : Direction) : d + Angle.back + Angle.back = d := by
  cases d <;> rfl

def name : Direction → String
  | northEast => "north_east" | east => "east" | southEast => "south_east"
  | southWest => "south_west" | west => "west" | northWest => "north_west"

def label : Direction → String
  | northEast => "NorthEast" | east => "East" | southEast => "SouthEast"
  | southWest => "SouthWest" | west => "West" | northWest => "NorthWest"

end Direction

end HexGesture
