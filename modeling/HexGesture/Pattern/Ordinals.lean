import HexGesture.Pattern.Basic
import HexGesture.Pattern.Error

/-! Patterns as bytes: the ordinal of the start, then the ordinal of each turn. -/
namespace HexGesture

def Direction.toByte (d : Direction) : UInt8 := d.ordinal.val.toUInt8

def Direction.ofByte (b : UInt8) : Except PatternError Direction :=
  match ofOrdinal? b.toNat with
  | some d => .ok d
  | none => .error (.ordinalOutOfRange .direction b)

@[simp] theorem Direction.ofByte_toByte (d : Direction) : ofByte d.toByte = .ok d := by
  cases d <;> rfl

def Angle.toByte (a : Angle) : UInt8 := a.ordinal.val.toUInt8

def Angle.ofByte (b : UInt8) : Except PatternError Angle :=
  match ofOrdinal? b.toNat with
  | some a => .ok a
  | none => .error (.ordinalOutOfRange .angle b)

@[simp] theorem Angle.ofByte_toByte (a : Angle) : ofByte a.toByte = .ok a := by
  cases a <;> rfl

def Angle.ofBytes (done : Array Angle) : List UInt8 → Except PatternError (List Angle)
  | [] => .ok done.toList
  | b :: bs =>
    match ofByte b with
    | .ok a => ofBytes (done.push a) bs
    | .error e => .error e

namespace Pattern

/-- A start byte and turn bytes, not yet known to be ordinals. -/
structure Ordinals where
  start : UInt8
  angles : List UInt8
  deriving DecidableEq

def ordinals (p : Pattern) : Ordinals := ⟨p.start.toByte, p.angles.map Angle.toByte⟩

/-- The start is looked at before the turns. -/
def ofOrdinals (o : Ordinals) : Except PatternError Pattern :=
  match Direction.ofByte o.start with
  | .error e => .error e
  | .ok start =>
    match Angle.ofBytes #[] o.angles with
    | .error e => .error e
    | .ok angles => .ok ⟨start, angles⟩

def Ordinals.toBytes (o : Ordinals) : List UInt8 := o.start :: o.angles

def Ordinals.ofBytes : List UInt8 → Except PatternError Ordinals
  | [] => .error .emptyRecord
  | b :: bs => .ok ⟨b, bs⟩

end Pattern

end HexGesture
