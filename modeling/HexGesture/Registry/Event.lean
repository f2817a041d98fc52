import HexGesture.Save.Error
import HexGesture.Secret.Alternate

/-! What a registry reports while it works. -/
namespace HexGesture

inductive Level
  | debug | info | warn | error
  deriving DecidableEq

def Level.name : Level → String
  | debug => "DEBUG" | info => "INFO" | warn => "WARN" | error => "ERROR"

inductive Event
  | frozen (operators global perWorld handlers : Nat)
  | byHandler (name : String)
  | byGlobal (id : OperatorId)
  | byWorld (id : OperatorId) (world : UInt64)
  | unloaded (world : UInt64)
  | loaded (world : UInt64) (entries : Nat)
  | absent (world : UInt64)
  | otherSeed (world stored seed : UInt64)
  | stale (world : UInt64)
  | unreadable (world : UInt64) (why : SaveError)
  | unsaved (world : UInt64) (why : SaveError)
  | omitted (id : OperatorId) (seed : UInt64) (why : Exhausted)
  | built (world : UInt64) (entries : Nat)
  deriving DecidableEq

namespace Event

def level : Event → Level
  | frozen .. | built .. => .info
  | byHandler .. | byGlobal .. | byWorld .. | unloaded .. | loaded .. | absent .. => .debug
  | otherSeed .. | stale .. | unreadable .. | unsaved .. => .warn
  | omitted .. => .error

def message : Event → String
  | frozen .. => "registry frozen"
  | byHandler .. => "resolved by special handler"
  | byGlobal .. => "resolved by global table"
  | byWorld .. => "resolved by per-world table"
  | unloaded .. => "per-world table unloaded"
  | loaded .. => "per-world record loaded"
  | absent .. => "no stored per-world record"
  | otherSeed .. => "stored per-world record has a different seed; regenerating"
  | stale .. => "stored per-world record is stale; regenerating"
  | unreadable .. => "stored per-world record is unreadable; regenerating"
  | unsaved .. => "failed to save per-world record"
  | omitted .. => "per-world pattern omitted"
  | built .. => "per-world table built"

def fields : Event → List (String × String)
  | frozen operators global perWorld handlers =>
    [("operators", toString operators), ("global", toString global),
      ("per_world", toString perWorld), ("handlers", toString handlers)]
  | byHandler name => [("handler", name)]
  | byGlobal id => [("operator", id.display)]
  | byWorld id world => [("operator", id.display), ("world", toString world.toNat)]
  | unloaded world | absent world | stale world => [("world", toString world.toNat)]
  | loaded world entries | built world entries =>
    [("world", toString world.toNat), ("entries", toString entries)]
  | otherSeed world stored seed =>
    [("world", toString world.toNat), ("stored_seed", toString stored.toNat),
      ("seed", toString seed.toNat)]
  | unreadable world why | unsaved world why =>
    [("world", toString world.toNat), ("error", why.message)]
  | omitted id seed why =>
    [("operator", id.display), ("seed", toString seed.toNat), ("error", why.message)]

end Event

end HexGesture
