import HexGesture.Save.Store

/-! Commands to a store and their replies. -/
namespace HexGesture

inductive StoreCommand
  | load (world : UInt64)
  | save (world : UInt64) (t : SecretTable)
  | bytes (world : UInt64)
  | overwrite (world : UInt64) (data : List UInt8)
  | keep (world : UInt64) (t : SecretTable)
  | remove (world : UInt64)
  | failSaves (fail : Bool)
  | counts

inductive StoreReply
  | table (t : Option SecretTable)
  | saved
  | bytes (data : Option (List UInt8))
  | stored (records : Nat)
  | removed (existed : Bool)
  | done
  | counts (loads saves records : Nat)

/-- Loads and saves go to the backing, all else to the store itself. -/
def Store.perform (b : Backing) (st : Store) : StoreCommand → Except SaveError StoreReply × Store
  | .load world => let r := b.load st world; (r.1.map .table, r.2)
  | .save world t => let r := b.save st world t; (r.1.map fun _ => .saved, r.2)
  | .bytes world => (.ok (.bytes (st.bytes? world)), st)
  | .overwrite world data =>
    let st := st.overwrite world data
    (.ok (.stored st.length), st)
  | .keep world t =>
    let r := st.keep world t
    (r.1.map fun _ => .stored r.2.length, r.2)
  | .remove world => let r := st.remove world; (.ok (.removed r.1), r.2)
  | .failSaves fail => (.ok .done, { st with failing := fail })
  | .counts => (.ok (.counts st.loads st.saves st.length), st)

end HexGesture
