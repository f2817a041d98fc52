import HexGesture.Registry.Resolve
import HexGesture.Save.Command

/-! Questions that a registry answers in the light of what it remembers, and what may happen to
the store between two of them. -/
namespace HexGesture

inductive Query
  | resolve (p : Pattern) (w : World)
  | table (w : World)
  | secret (w : World) (id : OperatorId)
  | unload (world : UInt64)
  | store (c : StoreCommand)

inductive Answer (V E : Type)
  | resolved (found : Except ResolveError (Resolution V E))
  | table (t : SecretTable)
  | secret (found : Except LookupError Pattern)
  | unloaded (existed : Bool)
  | store (reply : Except SaveError StoreReply)

def Memory.perform (m : Memory) (c : StoreCommand) : Except SaveError StoreReply × Memory :=
  let a := m.store.perform .store c
  (a.1, { m with store := a.2 })

namespace Registry

variable {V E : Type}

def answer (r : Registry V E) (q : Query) (m : Memory) : Answer V E × Memory :=
  match q with
  | .resolve p w => let a := r.resolve p w m; (.resolved a.1, a.2)
  | .table w => let a := r.table w m; (.table a.1, a.2)
  | .secret w id => let a := r.secretPattern w id m; (.secret a.1, a.2)
  | .unload world => let a := m.unload world; (.unloaded a.1, a.2)
  | .store c => let a := m.perform c; (.store a.1, a.2)

def answers (r : Registry V E) : List Query → Memory → List (Answer V E) × Memory
  | [], m => ([], m)
  | q :: qs, m =>
    let a := r.answer q m
    let rest := r.answers qs a.2
    (a.1 :: rest.1, rest.2)

end Registry

end HexGesture
