import HexGesture.Registry.Numeral
import HexGesture.Session.Command

/-! A session drives one registry at a time by commands. It lives through the draft and the
freezing of several registries, and keeps one store, one stack of values, the effects that wait to
be cast, and for every effect operator the number of its casts. -/
namespace HexGesture

structure Session where
  memory : Memory
  draft : Option (Draft Float Ticket)
  registry : Option (Registry Float Ticket)
  stack : List Float
  pending : List (Scheduled Ticket)
  tallies : Std.ExtTreeMap String Tally
  tickets : Nat

namespace Session

def empty : Session := ⟨.empty, none, none, [], [], ∅, 0⟩

def casts (s : Session) : List (String × Nat) :=
  s.tallies.toList.map fun t => (t.1, t.2.casts)

/-- A registration that succeeds starts the casts of an effect operator anew. -/
def register (s : Session) (d : Draft Float Ticket) (p : Pattern) (id : OperatorId) (tier : Tier)
    (recipe : Recipe) : Reply × Session :=
  let ticket : Ticket := ⟨id.display, s.tickets⟩
  let (answer, d) := d.register ⟨id, tier, p, recipe.operator ticket⟩
  let s := { s with draft := some d }
  let s := match answer with
    | .error _ => s
    | .ok () =>
      let tallies :=
        if recipe.schedules then s.tallies.insert ticket.operator ⟨ticket.number, 0⟩
        else s.tallies
      { s with tallies := tallies, tickets := s.tickets + 1 }
  (.registered answer d.catalogue.length, s)

/-- A draft that cannot be frozen is gone all the same. -/
def build (s : Session) (d : Draft Float Ticket) : Except Failure Reply × Session :=
  match d.freeze with
  | .error why => (.error (.bounds why), { s with draft := none })
  | .ok r =>
    let memory := { s.memory with cache := ∅ }.tell [r.frozenEvent]
    (.ok (.built r.length), { s with draft := none, registry := some r, memory := memory })

def resolve (s : Session) (r : Registry Float Ticket) (p : Pattern) (w : World) :
    Except Failure (Resolution Float Ticket) × Session :=
  let a := r.resolve p w s.memory
  (a.1.mapError .resolve, { s with memory := a.2 })

def withSecret (s : Session) (r : Registry Float Ticket) (w : World) (id : OperatorId)
    (act : Session → Pattern → Except Failure Reply × Session) : Except Failure Reply × Session :=
  let a := r.secretPattern w id s.memory
  let s := { s with memory := a.2 }
  match a.1 with
  | .error why => (.error (.lookup why), s)
  | .ok p => act s p

/-- Run the operator that a drawing reaches on the stack; an effect joins the queue. -/
def run (s : Session) (r : Registry Float Ticket) (p : Pattern) (w : World) :
    Except Failure Reply × Session :=
  match s.resolve r p w with
  | (.error why, s) => (.error why, s)
  | (.ok found, s) =>
    let (result, stack) := found.operator.runOn s.stack ⟨1, w⟩
    let pending := match result with
      | .ok (some e) => s.pending ++ [e]
      | _ => s.pending
    let s := { s with stack := stack, pending := pending }
    (.ok (.ran result stack s.casts), s)

/-- Call the operator that a drawing reaches; an effect is dropped. -/
def call (s : Session) (r : Registry Float Ticket) (p : Pattern) (w : World) (args : List Float) :
    Except Failure Reply × Session :=
  match s.resolve r p w with
  | (.error why, s) => (.error why, s)
  | (.ok found, s) => (((found.operator.call args ⟨1, w⟩).mapError .call).map .called, s)

def cast (s : Session) : Reply × Session :=
  match s.pending with
  | [] => (.nothingToCast, s)
  | e :: rest =>
    let tallies := s.tallies.modify e.action.operator fun t =>
      if t.number = e.action.number then { t with casts := t.casts + 1 } else t
    let s := { s with pending := rest, tallies := tallies }
    (.cast s.casts rest.length, s)

def performDraft (s : Session) (d : Draft Float Ticket) (c : Command) :
    Except Failure Reply × Session :=
  match c with
  | .register p id tier recipe => let a := s.register d p id tier recipe; (.ok a.1, a.2)
  | .numerals name =>
    (.ok .done, { s with draft := some (d.addHandler (.numerals name fun x => x)) })
  | .rule name u value =>
    (.ok .done, { s with draft := some (d.addHandler (u.handler name (.constant value))) })
  | .build => s.build d
  | _ => (.error .unready, s)

def performFrozen (s : Session) (r : Registry Float Ticket) (c : Command) :
    Except Failure Reply × Session :=
  match c with
  | .info => (.ok (.info r.length r.secretIds s.memory.cache.size r.bounds), s)
  | .entry id => (.ok (.entry (r.catalogue.find? id)), s)
  | .lookup id => (((r.lookup id).mapError .lookup).map .found, s)
  | .ask q => let a := r.answer q s.memory; (a.1.reply, { s with memory := a.2 })
  | .resolveSecret w id =>
    s.withSecret r w id fun s p => let a := s.resolve r p w; (a.1.map .resolved, a.2)
  | .derive seed =>
    let d := r.derive seed
    (.ok (.table d.table), { s with memory := s.memory.tell d.events })
  | .cached => (.ok (.cached s.memory.cache.size), s)
  | .run p w => s.run r p w
  | .runSecret w id => s.withSecret r w id fun s p => s.run r p w
  | .call p w args => s.call r p w args
  | _ => (.error .unready, s)

def perform (s : Session) (c : Command) : Except Failure Reply × Session :=
  match c, s.draft, s.registry with
  | .new bounds backing, _, _ => (.ok .done, { s with draft := some (.new bounds backing) })
  | .setStack vs, _, _ => (.ok (.stack vs), { s with stack := vs })
  | .cast, _, _ => let a := s.cast; (.ok a.1, a.2)
  | .register .., some d, _ | .numerals _, some d, _ | .rule .., some d, _ | .build, some d, _ =>
    s.performDraft d c
  | .ask (.store q), _, _ =>
    let a := s.memory.perform q
    ((a.1.mapError .save).map .store, { s with memory := a.2 })
  | _, _, some r => s.performFrozen r c
  | _, _, none => (.error .unready, s)

def step (s : Session) (c : Command) : (Except Failure Reply × List Event) × Session :=
  let a := s.perform c
  ((a.1, a.2.memory.log.toList), { a.2 with memory := { a.2.memory with log := #[] } })

end Session

end HexGesture
