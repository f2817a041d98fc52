import HexGesture.Text.Quoted

/-! Why a stroke is refused, and why a text or a list of bytes stands for no pattern. -/
namespace HexGesture

inductive Rejection
  | backtrack | retrace
  deriving DecidableEq

def Rejection.message : Rejection → String
  | backtrack => "reverses the previous stroke"
  | retrace => "retraces an existing stroke"

inductive SignatureFault
  | unknownCharacter (c : Char)
  | rejected (why : Rejection)
  deriving DecidableEq

def SignatureFault.message : SignatureFault → String
  | unknownCharacter c => s!"unknown angle character {Text.quoteChar c}"
  | rejected why => why.message

inductive OrdinalKind
  | direction | angle
  deriving DecidableEq

def OrdinalKind.name : OrdinalKind → String
  | direction => "direction"
  | angle => "angle"

inductive PatternError
  | malformed (signature : String) (index : Nat) (cause : SignatureFault)
  | ordinalOutOfRange (kind : OrdinalKind) (value : UInt8)
  | emptyRecord
  deriving DecidableEq

def PatternError.message : PatternError → String
  | malformed signature index cause =>
    s!"malformed pattern '{signature}' at index {index}: {cause.message}"
  | ordinalOutOfRange kind value => s!"{kind.name} ordinal {value.toNat} out of range 0..6"
  | emptyRecord => "empty pattern record"

end HexGesture
