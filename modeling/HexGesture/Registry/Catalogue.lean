import HexGesture.Keyed.Insertion
import HexGesture.Operator.Basic
import HexGesture.Pattern.Signature
import HexGesture.Registry.Error

/-! The operators of a registry, in two tables. The first has them by id, in the order in which they
were registered. A global operator is reached by drawing its signature, anywhere and from any start;
the second table binds the signatures of these to their ids. A per-world operator is a secret: it
keeps a pattern as the prototype from which every world derives a drawing of its own. Tables make a
catalogue if they agree with each other, ids and bound signatures are distinct, patterns are
drawable, and every prototype turns at least once. -/
namespace HexGesture

inductive Tier
  | global | perWorld
  deriving DecidableEq

inductive Route
  | global (signature : String) (start : Direction)
  | perWorld (prototype : Pattern)

namespace Route

def tier : Route → Tier
  | global .. => .global
  | perWorld _ => .perWorld

/-- The pattern to show. A global one is spelled back from its signature. -/
def pattern : Route → Pattern
  | global signature start => .ofLetters signature start
  | perWorld prototype => prototype

end Route

structure Entry (V E : Type) where
  id : OperatorId
  tier : Tier
  pattern : Pattern
  operator : Operator V E

structure Registered (V E : Type) where
  route : Route
  operator : Operator V E

def Registered.entry {V E : Type} (id : OperatorId) (r : Registered V E) : Entry V E :=
  ⟨id, r.route.tier, r.route.pattern, r.operator⟩

structure Tables (V E : Type) where
  operators : List (OperatorId × Registered V E)
  index : List (String × OperatorId)

namespace Tables

variable {V E : Type}

def empty : Tables V E := ⟨[], []⟩

def length (t : Tables V E) : Nat := t.operators.length

def entries (t : Tables V E) : List (Entry V E) := t.operators.map fun x => x.2.entry x.1

def find? (t : Tables V E) (id : OperatorId) : Option (Entry V E) :=
  (t.operators.lookup id).map (Registered.entry id)

def bound? (t : Tables V E) (signature : String) : Option OperatorId := t.index.lookup signature

/-- The entry that a signature leads to. One that is bound to an unknown id leads nowhere. -/
def globalFor? (t : Tables V E) (signature : String) : Option (Entry V E) :=
  (t.bound? signature).bind t.find?

def globals (t : Tables V E) : List (Entry V E) := t.entries.filter fun e => e.tier = .global

def prototypes (t : Tables V E) : List (Entry V E) := t.entries.filter fun e => e.tier = .perWorld

/-- What to keep of an entry's pattern. The signature of a global entry is bound at once. -/
def bind (t : Tables V E) (e : Entry V E) : Except RegisterError Route × Tables V E :=
  match e.tier with
  | .perWorld =>
    if e.pattern.isEmpty then (.error (.emptyPrototype e.id), t)
    else (.ok (.perWorld e.pattern), t)
  | .global =>
    let signature := e.pattern.signature
    match t.bound? signature with
    | some other => (.error (.signatureConflict signature other e.id), t)
    | none =>
      (.ok (.global signature e.pattern.start),
        { t with index := Keyed.put signature e.id t.index })

/-- The answer to a registration and the tables that it leaves. A taken id is found before a pattern
that cannot be drawn, and that before what is wrong for the tier. -/
def register (t : Tables V E) (e : Entry V E) : Except RegisterError Unit × Tables V E :=
  if (t.find? e.id).isSome then (.error (.duplicateOperator e.id), t)
  else if !e.pattern.isDrawable then
    (.error (.malformedPattern e.id e.pattern.signature), t)
  else
    match t.bind e with
    | (.error why, t) => (.error why, t)
    | (.ok route, t) =>
      (.ok (), { t with operators := Keyed.put e.id ⟨route, e.operator⟩ t.operators })

/-- An entry that nothing in the tables stands against. -/
structure Fits (t : Tables V E) (e : Entry V E) : Prop where
  id_new : t.find? e.id = none
  drawable : e.pattern.isDrawable = true
  turns : e.tier = .perWorld → e.pattern.angles ≠ []
  signature_new : e.tier = .global → t.bound? e.pattern.signature = none

/-- Tables with one more entry, which comes last in both if it is global. -/
def add (t : Tables V E) (e : Entry V E) : Tables V E :=
  match e.tier with
  | .perWorld => { t with operators := t.operators ++ [(e.id, ⟨.perWorld e.pattern, e.operator⟩)] }
  | .global =>
    let signature := e.pattern.signature
    ⟨t.operators ++ [(e.id, ⟨.global signature e.pattern.start, e.operator⟩)],
      t.index ++ [(signature, e.id)]⟩

theorem not_mem_ids_of_find? {t : Tables V E} {id : OperatorId} (h : t.find? id = none) :
    id ∉ t.operators.map Prod.fst :=
  Keyed.lookup_eq_none_iff.mp (Option.map_eq_none_iff.mp h)

/-- A registration either adds the entry to both tables or leaves both as they were. -/
theorem register_cases (t : Tables V E) (e : Entry V E) :
    (t.Fits e ∧ t.register e = (.ok (), t.add e)) ∨
      ∃ why, ¬ t.Fits e ∧ t.register e = (.error why, t) := by
  cases hid : t.find? e.id with
  | some x =>
    exact .inr ⟨_, fun h => by simp [h.id_new] at hid, by simp [register, hid]; rfl⟩
  | none =>
    have hkey (r : Registered V E) := Keyed.put_of_not_mem r (not_mem_ids_of_find? hid)
    cases hdraw : e.pattern.isDrawable with
    | false =>
      exact .inr ⟨_, fun h => by simp [h.drawable] at hdraw, by simp [register, hid, hdraw]; rfl⟩
    | true =>
      cases htier : e.tier with
      | perWorld =>
        by_cases hturn : e.pattern.angles = []
        · exact .inr ⟨_, fun h => h.turns htier hturn,
            by simp [register, bind, hid, hdraw, htier, hturn, Pattern.isEmpty]; rfl⟩
        · refine .inl ⟨⟨hid, hdraw, fun _ => hturn, by simp [htier]⟩, ?_⟩
          simp [register, bind, add, hid, hdraw, htier, hturn, Pattern.isEmpty, hkey]
      | global =>
        cases hbound : t.bound? e.pattern.signature with
        | some other =>
          exact .inr ⟨_, fun h => by simp [h.signature_new htier] at hbound,
            by simp [register, bind, hid, hdraw, htier, hbound]; rfl⟩
        | none =>
          refine .inl ⟨⟨hid, hdraw, by simp [htier], fun _ => hbound⟩, ?_⟩
          have hsignature := Keyed.put_of_not_mem e.id (Keyed.lookup_eq_none_iff.mp hbound)
          simp [register, bind, add, hid, hdraw, htier, hbound, hkey, hsignature]

/-! Agreement of the two tables, which every registration keeps. -/

structure Coherent (t : Tables V E) : Prop where
  ids_distinct : (t.entries.map Entry.id).Nodup
  index_eq : t.index = t.globals.map fun e => (e.pattern.signature, e.id)
  signatures_distinct : (t.index.map Prod.fst).Nodup
  drawable : ∀ e ∈ t.entries, e.pattern.isDrawable = true
  prototypes_turn : ∀ e ∈ t.entries, e.tier = .perWorld → e.pattern.angles ≠ []

theorem ids_entries (t : Tables V E) : t.entries.map Entry.id = t.operators.map Prod.fst := by
  rw [entries, List.map_map]
  rfl

/-- An entry is told as it was added, though a global pattern is spelled back. -/
theorem entries_add (t : Tables V E) (e : Entry V E) : (t.add e).entries = t.entries ++ [e] := by
  obtain ⟨id, tier, p, op⟩ := e
  cases tier <;> simp [entries, add, Registered.entry, Route.tier, Route.pattern]

theorem index_add (t : Tables V E) (e : Entry V E) : (t.add e).index =
    t.index ++ if e.tier = .global then [(e.pattern.signature, e.id)] else [] := by
  cases htier : e.tier <;> simp [add, htier]

theorem Coherent.add {t : Tables V E} (h : t.Coherent) {e : Entry V E} (he : t.Fits e) :
    (t.add e).Coherent where
  ids_distinct := by
    have hids : (t.operators.map Prod.fst).Nodup := t.ids_entries ▸ h.ids_distinct
    have hput (r : Registered V E) := Keyed.put_of_not_mem r (not_mem_ids_of_find? he.id_new)
    rw [ids_entries]
    cases htier : e.tier with
    | global =>
      simp only [Tables.add, htier, ← hput]
      exact Keyed.nodup_put _ _ hids
    | perWorld =>
      simp only [Tables.add, htier, ← hput]
      exact Keyed.nodup_put _ _ hids
  index_eq := by
    rw [index_add, globals, entries_add, List.filter_append, List.map_append, ← globals, h.index_eq]
    by_cases htier : e.tier = .global <;> simp [htier]
  signatures_distinct := by
    rw [index_add]
    by_cases htier : e.tier = .global
    · have hnew : e.pattern.signature ∉ t.index.map Prod.fst :=
        Keyed.lookup_eq_none_iff.mp (he.signature_new htier)
      rw [if_pos htier, ← Keyed.put_of_not_mem e.id hnew]
      exact Keyed.nodup_put _ _ h.signatures_distinct
    · simpa [htier] using h.signatures_distinct
  drawable x hx := by
    rw [entries_add, List.mem_append, List.mem_singleton] at hx
    obtain hx | rfl := hx
    · exact h.drawable x hx
    · exact he.drawable
  prototypes_turn x hx := by
    rw [entries_add, List.mem_append, List.mem_singleton] at hx
    obtain hx | rfl := hx
    · exact h.prototypes_turn x hx
    · exact he.turns

theorem Coherent.register {t : Tables V E} (h : t.Coherent) (e : Entry V E) :
    (t.register e).2.Coherent := by
  obtain ⟨hfits, hreg⟩ | ⟨why, -, hreg⟩ := t.register_cases e
  · rw [hreg]
    exact h.add hfits
  · rw [hreg]
    exact h

end Tables

structure Catalogue (V E : Type) extends Tables V E, Tables.Coherent toTables

namespace Catalogue

variable {V E : Type}

def empty : Catalogue V E where
  toTables := .empty
  ids_distinct := List.nodup_nil
  index_eq := rfl
  signatures_distinct := List.nodup_nil
  drawable _ h := by cases h
  prototypes_turn _ h := by cases h

def register (c : Catalogue V E) (e : Entry V E) : Except RegisterError Unit × Catalogue V E :=
  ((c.toTables.register e).1, ⟨(c.toTables.register e).2, c.toCoherent.register e⟩)

end Catalogue

end HexGesture
