import HexGesture.Operator.Id
import HexGesture.Pattern.Error
import HexGesture.Text.Utf8

/-! What can go wrong when a record is written, read or stored. -/
namespace HexGesture

/-- Longest text that is read back, in bytes. -/
def maxTextLength : Nat := 65536

inductive IoFault
  | endOfData | diskFull
  deriving DecidableEq

def IoFault.message : IoFault → String
  | endOfData => "failed to fill whole buffer"
  | diskFull => "disk full"

inductive Malformation
  | textTooLong (length : Nat)
  | notText (fault : Text.Utf8Fault)
  | lengthTooLarge (length : Nat)
  | truncatedPattern (expected found : Nat)
  | repeatedSignature (entry : Nat)
  | trailingBytes (count : Nat)
  deriving DecidableEq

def Malformation.message : Malformation → String
  | textTooLong length => s!"string length {length} exceeds limit {maxTextLength}"
  | notText fault => s!"invalid UTF-8 string: {fault.message}"
  | lengthTooLarge length => s!"length {length} does not fit in u32"
  | truncatedPattern expected found =>
    s!"truncated pattern: expected {expected} angles, got {found}"
  | repeatedSignature entry => s!"duplicate signature at entry {entry}"
  | trailingBytes count => s!"{count} trailing bytes after record"

inductive SaveError
  | io (fault : IoFault)
  | invalidMagic
  | unsupportedVersion (found : UInt8)
  | malformed (detail : Malformation)
  | directionOutOfRange (value : UInt32)
  | invalidOperatorId (why : IdError)
  | pattern (why : PatternError)
  deriving DecidableEq

def SaveError.message : SaveError → String
  | io fault => s!"I/O error: {fault.message}"
  | invalidMagic => "invalid magic bytes (expected b\"HXPW\")"
  | unsupportedVersion found => s!"unsupported format version {found.toNat}"
  | malformed detail => s!"malformed record: {detail.message}"
  | directionOutOfRange value => s!"direction ordinal {value.toNat} out of range 0..6"
  | invalidOperatorId why => s!"invalid operator id: {why.message}"
  | pattern why => s!"invalid pattern: {why.message}"

end HexGesture
