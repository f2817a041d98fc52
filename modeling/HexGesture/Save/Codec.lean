import HexGesture.Bytes.LittleEndian
import HexGesture.Pattern.Ordinals
import HexGesture.Save.Error
import HexGesture.Secret.Table

/-! The binary format of saved data. Numbers have their least byte first; texts, patterns and
tables of secrets carry their length in front. A reader takes what it needs from the front of the
data and leaves the rest. -/
namespace HexGesture

abbrev Reader := StateT (List UInt8) (Except SaveError)

abbrev Written := Except SaveError (List UInt8)

namespace Reader

def bytes (n : Nat) : Reader (List UInt8) := fun data =>
  let front := data.take n
  if front.length < n then .error (.io .endOfData) else .ok (front, data.drop n)

def byte : Reader UInt8 := fun data =>
  match data with
  | [] => .error (.io .endOfData)
  | b :: rest => .ok (b, rest)

def word32 : Reader UInt32 := do return (ofLittleEndian (← bytes 4)).toUInt32

def word64 : Reader UInt64 := do return (ofLittleEndian (← bytes 8)).toUInt64

/-- The length is held against the limit before any byte of the text is read. -/
def text : Reader String := do
  let length := (← word32).toNat
  if maxTextLength < length then throw (.malformed (.textTooLong length))
  let body ← bytes length
  match Text.utf8Decode? body with
  | some s => return s
  | none => throw (.malformed (.notText ((Text.Utf8Fault.find? body).getD ⟨0, none⟩)))

def upTo (n : Nat) : Reader (List UInt8) := fun data => .ok (data.take n, data.drop n)

def pattern : Reader Pattern := do
  let start ← byte
  let count := (← word32).toNat
  let angles ← upTo count
  if angles.length < count then throw (.malformed (.truncatedPattern count angles.length))
  match Pattern.ofOrdinals ⟨start, angles⟩ with
  | .ok p => return p
  | .error why => throw (.pattern why)

def operatorId : Reader OperatorId := do
  match OperatorId.ofString (← text) with
  | .ok id => return id
  | .error why => throw (.invalidOperatorId why)

def direction : Reader Direction := do
  let value ← word32
  match Direction.ofOrdinal? value.toNat with
  | some d => return d
  | none => throw (.directionOutOfRange value)

def secret : Reader (String × Secret) := do
  let signature ← text
  let operator ← operatorId
  let start ← direction
  return (signature, ⟨operator, start⟩)

def secrets : Nat → SecretTable → Reader SecretTable
  | 0, t => return t
  | n + 1, t => do
    let (signature, s) ← secret
    if t.contains signature then throw (.malformed (.repeatedSignature t.length))
    secrets n (t.insert signature s)

end Reader

namespace SecretTable

def magic : List UInt8 := [0x48, 0x58, 0x50, 0x57]

def formatVersion : UInt8 := 1

def read : Reader SecretTable := do
  if (← Reader.bytes 4) ≠ magic then throw .invalidMagic
  let version ← Reader.byte
  if version ≠ formatVersion then throw (.unsupportedVersion version)
  let seed ← Reader.word64
  let count ← Reader.word32
  Reader.secrets count.toNat (empty seed)

def ofBytes (data : List UInt8) : Except SaveError SecretTable := do
  let (t, rest) ← read.run data
  if rest = [] then return t else throw (.malformed (.trailingBytes rest.length))

end SecretTable

def writeLength (n : Nat) : Written :=
  if n < UInt32.size then .ok (littleEndian 4 n) else .error (.malformed (.lengthTooLarge n))

def writeText (s : String) : Written := do
  let body := Text.utf8Encode s
  return (← writeLength body.length) ++ body

def Pattern.write (p : Pattern) : Written := do
  let o := p.ordinals
  return o.start :: (← writeLength o.angles.length) ++ o.angles

def Secret.write (signature : String) (s : Secret) : Written := do
  return (← writeText signature) ++ (← writeText s.operator.display) ++
    littleEndian 4 s.start.ordinal

def SecretTable.write (t : SecretTable) : Written := do
  let count ← writeLength t.length
  let entries ← t.entries.mapM fun e => e.2.write e.1
  return magic ++ [formatVersion] ++ bytes64 t.seed ++ count ++ entries.flatten

end HexGesture
