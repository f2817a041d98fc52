import HexGesture.Save.Codec
import Std.Data.ExtTreeMap

/-! A store keeps one encoded table of secrets per world. It counts how often it is asked to load
and to save, and it can be made to fail every save. -/
namespace HexGesture

structure Store where
  records : Std.ExtTreeMap UInt64 (List UInt8)
  loads : Nat
  saves : Nat
  failing : Bool

namespace Store

def empty : Store := ⟨∅, 0, 0, false⟩

def bytes? (st : Store) (world : UInt64) : Option (List UInt8) := st.records[world]?

def length (st : Store) : Nat := st.records.size

def overwrite (st : Store) (world : UInt64) (data : List UInt8) : Store :=
  { st with records := st.records.insert world data }

def remove (st : Store) (world : UInt64) : Bool × Store :=
  (st.records.contains world, { st with records := st.records.erase world })

def peek (st : Store) (world : UInt64) : Except SaveError (Option SecretTable) :=
  match st.bytes? world with
  | none => .ok none
  | some data => (SecretTable.ofBytes data).map some

def load (st : Store) (world : UInt64) : Except SaveError (Option SecretTable) × Store :=
  (st.peek world, { st with loads := st.loads + 1 })

/-- Put a table in place of what is kept for a world, not counted as a save. -/
def keep (st : Store) (world : UInt64) (t : SecretTable) : Except SaveError Unit × Store :=
  match t.write with
  | .ok data => (.ok (), st.overwrite world data)
  | .error why => (.error why, st)

def save (st : Store) (world : UInt64) (t : SecretTable) : Except SaveError Unit × Store :=
  let counted := { st with saves := st.saves + 1 }
  if st.failing then (.error (.io .diskFull), counted) else counted.keep world t

end Store

/-- Where a registry keeps its tables: nowhere, or in the store. -/
inductive Backing
  | nothing | store
  deriving DecidableEq

namespace Backing

def load (b : Backing) (st : Store) (world : UInt64) :
    Except SaveError (Option SecretTable) × Store :=
  match b with
  | nothing => (.ok none, st)
  | store => st.load world

def save (b : Backing) (st : Store) (world : UInt64) (t : SecretTable) :
    Except SaveError Unit × Store :=
  match b with
  | nothing => (.ok (), st)
  | store => st.save world t

end Backing

end HexGesture
