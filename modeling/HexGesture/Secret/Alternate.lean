import HexGesture.Pattern.Pen
import HexGesture.Random.Choice
import HexGesture.Random.Fnv

/-! A secret is drawn from its prototype by a random walk: depth first, each stroke tried in the
order of a fresh deck of headings, until the walk has as many turns as the prototype. A walk that
cannot go on takes strokes back. A search makes one walk after another and settles for the first
one that is neither the prototype's drawing nor taken. -/
namespace HexGesture

/-- How many headings one walk may try, and how many walks may follow the first. -/
structure Bounds where
  maxSteps : UInt32
  maxRetries : UInt32
  deriving DecidableEq

def Bounds.default : Bounds := ⟨4096, 64⟩

/-- A walk under way: the headings not tried yet after each stroke, the last stroke's first. -/
structure Walk (σ : Type) where
  pen : Pen
  decks : List (List Direction)
  budget : Nat
  source : σ

/-- How a walk fails: its budget is spent, or it has nothing left to take back. -/
inductive WalkFailure
  | overBudget | stuck
  deriving DecidableEq

namespace Walk

variable {σ : Type}

def begin (ch : Chooser σ) (budget : Nat) (source : σ) : Walk σ :=
  let d := ch.first source
  let deck := ch.deck d.2
  ⟨.fresh d.1, [deck.1], budget, deck.2⟩

def step (ch : Chooser σ) (w : Walk σ) : Except WalkFailure (Walk σ) :=
  match w with
  | ⟨_, [], _, _⟩ => .error .stuck
  | ⟨pen, [] :: decks, budget, source⟩ =>
    match pen.pop with
    | none => .error .stuck
    | some (_, pen) => .ok ⟨pen, decks, budget, source⟩
  | ⟨_, (_ :: _) :: _, 0, _⟩ => .error .overBudget
  | ⟨pen, (d :: ds) :: decks, budget + 1, source⟩ =>
    match pen.check d with
    | .error _ => .ok ⟨pen, ds :: decks, budget, source⟩
    | .ok a =>
      let deck := ch.deck source
      .ok ⟨pen.push a, deck.1 :: ds :: decks, budget, deck.2⟩

/-- Falls with every step. -/
def measure (w : Walk σ) : Nat := 2 * w.budget + w.decks.length

theorem measure_step {ch : Chooser σ} {w w' : Walk σ} (h : w.step ch = .ok w') :
    w'.measure < w.measure := by
  unfold step at h
  split at h <;> (try split at h) <;> cases h
  all_goals simp only [measure, List.length_cons]; omega

/-- Go on until the drawing has `length` turns. -/
def run (ch : Chooser σ) (length : Nat) (w : Walk σ) : Except WalkFailure (Walk σ) :=
  if length ≤ w.pen.length then .ok w
  else
    match _h : w.step ch with
    | .ok w' => run ch length w'
    | .error why => .error why
termination_by w.measure
decreasing_by exact measure_step ‹_›

end Walk

def Generator.candidate? {σ : Type} (g : Generator σ) (b : Bounds) (seed : UInt64)
    (prototype : Pattern) (attempt : Nat) : Option Pattern :=
  let source := g.ofSeed (attemptSeed seed prototype attempt)
  let walk := Walk.begin g.toChooser b.maxSteps.toNat source
  (walk.run g.toChooser prototype.length).toOption.map (·.pen.pattern)

structure Exhausted where
  signature : String
  attempts : Nat
  deriving DecidableEq

def Exhausted.message (e : Exhausted) : String :=
  s!"no free alternate for \"{e.signature}\" after {e.attempts} attempts"

/-- What a search found, and the drawings it asked about on the way. -/
structure Search where
  asked : List Pattern
  found : Except Exhausted Pattern

namespace Search

/-- Attempts are counted up to the greatest 32-bit number. -/
def attempts (b : Bounds) : Nat := min (b.maxRetries.toNat + 1) (UInt32.size - 1)

/-- Look at so many candidates, from number `attempt` on. Nobody is asked about the prototype's
own drawing. -/
def first? (candidate? : Nat → Option Pattern) (own : List Angle) (taken : Pattern → Bool)
    (attempt : Nat) (asked : Array Pattern) : Nat → Array Pattern × Option Pattern
  | 0 => (asked, none)
  | n + 1 =>
    match candidate? attempt with
    | none => first? candidate? own taken (attempt + 1) asked n
    | some c =>
      if c.angles = own then first? candidate? own taken (attempt + 1) asked n
      else if taken c then first? candidate? own taken (attempt + 1) (asked.push c) n
      else (asked.push c, some c)

/-- Find a drawing for a secret that stands in for its prototype. -/
def runWith {σ : Type} (g : Generator σ) (b : Bounds) (seed : UInt64) (prototype : Pattern)
    (taken : Pattern → Bool) : Search :=
  let r := first? (g.candidate? b seed prototype) prototype.angles taken 0 #[]
    (b.maxRetries.toNat + 1)
  { asked := r.1.toList
    found := match r.2 with
      | some c => .ok c
      | none => .error ⟨prototype.signature, attempts b⟩ }

def run (b : Bounds) (seed : UInt64) (prototype : Pattern) (taken : Pattern → Bool) : Search :=
  runWith ChaCha8.generator b seed prototype taken

end Search

end HexGesture
