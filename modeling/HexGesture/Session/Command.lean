import HexGesture.Operator.Stock
import HexGesture.Registry.Query
import HexGesture.Registry.Rule
import HexGesture.Session.Failure

/-! The commands of a session and its replies. Values are floating-point numbers, and casting an
effect does nothing but count. -/
namespace HexGesture

/-- What casting an effect does: the operator's casts go up, unless the operator was registered
anew since. -/
structure Ticket where
  operator : String
  number : Nat
  deriving DecidableEq

structure Tally where
  number : Nat
  casts : Nat

/-- The operators that a session can register. -/
inductive Recipe
  | constant (v : Float)
  | add
  | rejecting (arity : Nat)
  | scheduling
  | reversing (arity : Nat) (further : List Float)
  | breaking (arity : Nat) (reason : String)
  | surroundings

def Recipe.operator (t : Ticket) : Recipe → Operator Float Ticket
  | constant v => .constant v
  | add => .add
  | rejecting arity => .rejecting arity
  | scheduling => .scheduling t
  | reversing arity further => .reversing arity further
  | breaking arity reason => .breaking arity reason
  | surroundings => .surroundings

def Recipe.schedules : Recipe → Bool
  | scheduling => true
  | _ => false

inductive Command
  | new (bounds : Bounds) (backing : Backing)
  | register (p : Pattern) (id : OperatorId) (tier : Tier) (recipe : Recipe)
  | numerals (name : String)
  | rule (name : String) (u : Rule) (value : Float)
  | build
  | info
  | entry (id : OperatorId)
  | lookup (id : OperatorId)
  | ask (q : Query)
  | resolveSecret (w : World) (id : OperatorId)
  | derive (seed : UInt64)
  | cached
  | setStack (vs : List Float)
  | run (p : Pattern) (w : World)
  | runSecret (w : World) (id : OperatorId)
  | call (p : Pattern) (w : World) (args : List Float)
  | cast

inductive Reply
  | done
  | registered (result : Except RegisterError Unit) (length : Nat)
  | built (length : Nat)
  | info (length : Nat) (secrets : List OperatorId) (cached : Nat) (bounds : Bounds)
  | entry (e : Option (Entry Float Ticket))
  | found (e : Entry Float Ticket)
  | resolved (s : Resolution Float Ticket)
  | secret (p : Pattern)
  | table (t : SecretTable)
  | unloaded (existed : Bool)
  | store (s : StoreReply)
  | cached (worlds : Nat)
  | stack (vs : List Float)
  | ran (result : Except CallError (Option (Scheduled Ticket))) (stack : List Float)
      (casts : List (String × Nat))
  | called (out : Outcome Float Ticket)
  | nothingToCast
  | cast (casts : List (String × Nat)) (pending : Nat)

def Answer.reply : Answer Float Ticket → Except Failure Reply
  | .resolved found => (found.mapError .resolve).map .resolved
  | .table t => .ok (.table t)
  | .secret found => (found.mapError .lookup).map .secret
  | .unloaded existed => .ok (.unloaded existed)
  | .store reply => (reply.mapError .save).map .store

end HexGesture
