import HexGesture.Save.Codec

/-! Items of the binary format, for data that mixes them. -/
namespace HexGesture

inductive ItemKind
  | byte | word32 | word64 | text | pattern | table
  deriving DecidableEq

inductive Item
  | byte (b : UInt8)
  | word32 (n : UInt32)
  | word64 (n : UInt64)
  | text (s : String)
  | pattern (p : Pattern)
  | table (t : SecretTable)
  deriving DecidableEq

namespace Item

def kind : Item → ItemKind
  | byte _ => .byte
  | word32 _ => .word32
  | word64 _ => .word64
  | text _ => .text
  | pattern _ => .pattern
  | table _ => .table

def write : Item → Written
  | byte b => .ok [b]
  | word32 n => .ok (bytes32 n)
  | word64 n => .ok (bytes64 n)
  | text s => writeText s
  | pattern p => p.write
  | table t => t.write

def writeAll (xs : List Item) : Written := do return (← xs.mapM write).flatten

end Item

def ItemKind.read : ItemKind → Reader Item
  | byte => .byte <$> Reader.byte
  | word32 => .word32 <$> Reader.word32
  | word64 => .word64 <$> Reader.word64
  | text => .text <$> Reader.text
  | pattern => .pattern <$> Reader.pattern
  | table => .table <$> SecretTable.read

def ItemKind.readAll (ks : List ItemKind) : Reader (List Item) := ks.mapM read

/-- Items up to the first error, each with the number of bytes left after it. -/
def ItemKind.readEach : List ItemKind → List UInt8 → List (Except SaveError (Item × Nat))
  | [], _ => []
  | k :: ks, data =>
    match k.read.run data with
    | .ok (x, rest) => .ok (x, rest.length) :: readEach ks rest
    | .error why => [.error why]

end HexGesture
