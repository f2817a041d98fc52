import HexGesture.Bytes.LittleEndian
import HexGesture.Pattern.Ordinals

/-! The seed of one attempt to derive a secret: the FNV-1a hash of everything the attempt
depends on. -/
namespace HexGesture

def fnvOffset : UInt64 := 0xcbf29ce484222325
def fnvPrime : UInt64 := 0x100000001b3

def fnvByte (hash : UInt64) (b : UInt8) : UInt64 := (hash ^^^ b.toUInt64) * fnvPrime

def fnv (bytes : List UInt8) : UInt64 := bytes.foldl fnvByte fnvOffset

def attemptBytes (seed : UInt64) (p : Pattern) (attempt : Nat) : List UInt8 :=
  bytes64 seed ++ [p.start.toByte] ++ littleEndian 4 p.length ++
    p.angles.map Angle.toByte ++ littleEndian 4 attempt

def attemptSeed (seed : UInt64) (p : Pattern) (attempt : Nat) : UInt64 :=
  fnv (attemptBytes seed p attempt)

end HexGesture
