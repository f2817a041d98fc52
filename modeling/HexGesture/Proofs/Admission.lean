import HexGesture.Proofs.Registration

/-! Drafts in which nothing was refused. Whether all of some calls succeed is a question about the
entries that they bring in, taken together with those that are there; the order in which they come
has no part in it, and what they leave is just what they bring. -/
namespace HexGesture

variable {V E : Type}

/-- The conditions that the entries of a catalogue meet. -/
structure Admissible (es : List (Entry V E)) : Prop where
  ids_distinct : (es.map Entry.id).Nodup
  drawable : ∀ e ∈ es, e.pattern.isDrawable = true
  signatures_distinct :
    ((es.filter fun e => e.tier = .global).map fun e => e.pattern.signature).Nodup
  prototypes_turn : ∀ e ∈ es, e.tier = .perWorld → e.pattern.angles ≠ []

namespace Admissible

variable {es es' : List (Entry V E)}

theorem perm (h : Admissible es) (hp : es.Perm es') : Admissible es' where
  ids_distinct := (hp.map Entry.id).nodup_iff.mp h.ids_distinct
  drawable e he := h.drawable e (hp.mem_iff.mpr he)
  signatures_distinct := ((hp.filter _).map _).nodup_iff.mp h.signatures_distinct
  prototypes_turn e he := h.prototypes_turn e (hp.mem_iff.mpr he)

theorem sublist (h : Admissible es) (hs : es'.Sublist es) : Admissible es' where
  ids_distinct := h.ids_distinct.sublist (hs.map Entry.id)
  drawable e he := h.drawable e (hs.subset he)
  signatures_distinct := h.signatures_distinct.sublist ((hs.filter _).map _)
  prototypes_turn e he := h.prototypes_turn e (hs.subset he)

theorem not_refused {e : Entry V E} (h : Admissible (es ++ [e])) (why : RegisterError) :
    ¬ Refused es e why := by
  have he : e ∈ es ++ [e] := by simp
  have hids := h.ids_distinct
  have hglobals := h.signatures_distinct
  rw [List.map_append, List.nodup_append] at hids
  rw [List.filter_append, List.map_append, List.nodup_append] at hglobals
  rintro (hid | ⟨-, hdraw⟩ | ⟨-, -, htier, hturn⟩ | @⟨-, -, htier, other, hother, hglobal, hsame⟩)
  · obtain ⟨x, hx, hxe⟩ := hid
    exact hids.2.2 x.id (List.mem_map_of_mem hx) e.id (by simp) hxe
  · rw [h.drawable e he] at hdraw
    cases hdraw
  · exact h.prototypes_turn e he htier hturn
  · refine hglobals.2.2 other.pattern.signature ?_ e.pattern.signature ?_ hsame
    · exact List.mem_map_of_mem (List.mem_filter.mpr ⟨hother, decide_eq_true hglobal⟩)
    · simp [htier]

end Admissible

theorem Catalogue.admissible (c : Catalogue V E) : Admissible c.entries :=
  ⟨c.ids_distinct, c.drawable, c.nodup_globals_signatures, c.prototypes_turn⟩

namespace Draft

namespace Call

def entry? : Call V E → Option (Entry V E)
  | register e => some e
  | handler _ => none

def handler? : Call V E → Option (Handler V E)
  | register _ => none
  | handler h => some h

def entries (cs : List (Call V E)) : List (Entry V E) := cs.filterMap entry?

def handlers (cs : List (Call V E)) : List (Handler V E) := cs.filterMap handler?

def prototypes (cs : List (Call V E)) : List (Entry V E) :=
  (entries cs).filter fun e => e.tier = .perWorld

theorem entries_cons (c : Call V E) (cs : List (Call V E)) :
    entries (c :: cs) = c.entry?.toList ++ entries cs := by
  cases c <;> rfl

theorem handlers_cons (c : Call V E) (cs : List (Call V E)) :
    handlers (c :: cs) = c.handler?.toList ++ handlers cs := by
  cases c <;> rfl

end Call

/-- None of some calls is refused. -/
def Succeeds (d : Draft V E) : List (Call V E) → Prop
  | [] => True
  | c :: cs => (d.perform c).1 = .ok () ∧ (d.perform c).2.Succeeds cs

theorem accepted?_of_ok {d : Draft V E} {c : Call V E} (h : (d.perform c).1 = .ok ()) :
    d.accepted? c = c.entry? := by
  cases c with
  | register e => simp [accepted?, h, Except.toOption, Call.entry?]
  | handler _ => rfl

theorem perform_register_eq_ok_iff {d : Draft V E} {e : Entry V E} :
    (d.perform (.register e)).1 = .ok () ↔ Admissible (d.catalogue.entries ++ [e]) := by
  constructor
  · intro hok
    have hentries := d.entries_perform (.register e)
    rw [accepted?_of_ok hok] at hentries
    exact hentries ▸ Catalogue.admissible _
  · intro h
    cases hperform : (d.perform (.register e)).1 with
    | ok u => rfl
    | error why => exact absurd (perform_eq_error_iff.mp hperform) (h.not_refused why)

/-- Calls succeed one after another just when all they bring in is admissible at once. -/
theorem succeeds_iff {d : Draft V E} {cs : List (Call V E)} :
    d.Succeeds cs ↔ Admissible (d.catalogue.entries ++ Call.entries cs) := by
  induction cs generalizing d with
  | nil =>
    have hnow : Admissible (d.catalogue.entries ++ Call.entries []) := by
      simpa [Call.entries] using d.catalogue.admissible
    exact iff_of_true trivial hnow
  | cons c cs ih =>
    rw [Succeeds, ih, Call.entries_cons, ← List.append_assoc]
    cases c with
    | handler h =>
      rw [entries_perform]
      exact and_iff_right rfl
    | register e =>
      constructor
      · rintro ⟨hok, hrest⟩
        rwa [entries_perform, accepted?_of_ok hok] at hrest
      · intro h
        -- The entries up to this one are part of an admissible whole.
        have hok := perform_register_eq_ok_iff.mpr (h.sublist (List.sublist_append_left _ _))
        refine ⟨hok, ?_⟩
        rwa [entries_perform, accepted?_of_ok hok]

theorem accepted_of_succeeds {d : Draft V E} {cs : List (Call V E)} (h : d.Succeeds cs) :
    d.accepted cs = Call.entries cs := by
  induction cs generalizing d with
  | nil => rfl
  | cons c cs ih =>
    obtain ⟨hok, hrest⟩ := h
    rw [accepted, accepted?_of_ok hok, ih hrest, Call.entries_cons]

theorem backing_perform (d : Draft V E) (c : Call V E) :
    (d.perform c).2.backing = d.backing := by
  obtain ⟨e, c', -, -, hperform⟩ | ⟨why, -, hperform⟩ | ⟨h, -, hperform⟩ := d.perform_cases c
  · rw [hperform]
  · rw [hperform]
  · rw [hperform]
    rfl

theorem backing_after (d : Draft V E) (cs : List (Call V E)) :
    (d.after cs).backing = d.backing := by
  induction cs generalizing d with
  | nil => rfl
  | cons c cs ih => exact (ih (d.perform c).2).trans (d.backing_perform c)

theorem handlers_perform (d : Draft V E) (c : Call V E) :
    (d.perform c).2.handlers = d.handlers ++ c.handler?.toList := by
  cases c with
  | handler h => rfl
  | register e =>
    exact (List.append_nil _).symm

theorem handlers_after (d : Draft V E) (cs : List (Call V E)) :
    (d.after cs).handlers = d.handlers ++ Call.handlers cs := by
  induction cs generalizing d with
  | nil => simp [after, Call.handlers]
  | cons c cs ih =>
    have hrest : (d.after (c :: cs)).handlers =
        (d.perform c).2.handlers ++ Call.handlers cs := ih (d.perform c).2
    rw [hrest, handlers_perform, List.append_assoc, Call.handlers_cons]

theorem exists_freeze_after {d : Draft V E} (h : d.bounds.maxSteps ≠ 0) (cs : List (Call V E)) :
    ∃ r, (d.after cs).freeze = .ok r := by
  rw [← d.bounds_after cs] at h
  exact ⟨⟨_, h⟩, freeze_eq_ok_iff.mpr rfl⟩

/-! What a registry is made of that was frozen when nothing had been refused. -/
section Frozen

variable {bounds : Bounds} {backing : Backing} {cs : List (Call V E)} {r : Registry V E}

theorem bounds_of_freeze (h : ((new bounds backing).after cs).freeze = .ok r) :
    r.bounds = bounds := by
  rw [freeze_eq_ok_iff.mp h, bounds_after]
  rfl

theorem backing_of_freeze (h : ((new bounds backing).after cs).freeze = .ok r) :
    r.backing = backing := by
  rw [freeze_eq_ok_iff.mp h, backing_after]
  rfl

theorem handlers_of_freeze (h : ((new bounds backing).after cs).freeze = .ok r) :
    r.handlers = Call.handlers cs := by
  rw [freeze_eq_ok_iff.mp h, handlers_after]
  rfl

theorem entries_of_freeze (h : ((new bounds backing).after cs).freeze = .ok r)
    (hok : (new bounds backing).Succeeds cs) : r.catalogue.entries = Call.entries cs := by
  rw [freeze_eq_ok_iff.mp h, entries_after, accepted_of_succeeds hok]
  rfl

theorem prototypes_of_freeze (h : ((new bounds backing).after cs).freeze = .ok r)
    (hok : (new bounds backing).Succeeds cs) :
    r.catalogue.prototypes = Call.prototypes cs := by
  rw [Tables.prototypes, entries_of_freeze h hok]
  rfl

end Frozen

end Draft

end HexGesture
