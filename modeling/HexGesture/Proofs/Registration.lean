import HexGesture.Proofs.Catalogue
import HexGesture.Registry.Resolve

/-! Drafting a registry. Entries come in one after another, with handlers in between, and each is
let in or refused in the light of those let in before it. Refused entries leave no trace: what the
frozen registry looks up and resolves are the entries let in, just as they came. -/
namespace HexGesture

variable {V E : Type}

/-- Why an entry is refused after some others. Each cause counts only if none before it does. -/
inductive Refused (earlier : List (Entry V E)) (e : Entry V E) : RegisterError → Prop
  | duplicate (hid : ∃ x ∈ earlier, x.id = e.id) : Refused earlier e (.duplicateOperator e.id)
  | malformed (hnew : ∀ x ∈ earlier, x.id ≠ e.id) (hdraw : e.pattern.isDrawable = false) :
    Refused earlier e (.malformedPattern e.id e.pattern.signature)
  | empty (hnew : ∀ x ∈ earlier, x.id ≠ e.id) (hdraw : e.pattern.isDrawable = true)
      (htier : e.tier = .perWorld) (hturn : e.pattern.angles = []) :
    Refused earlier e (.emptyPrototype e.id)
  | conflict (hnew : ∀ x ∈ earlier, x.id ≠ e.id) (hdraw : e.pattern.isDrawable = true)
      (htier : e.tier = .global) {other : Entry V E} (hother : other ∈ earlier)
      (hglobal : other.tier = .global) (hsame : other.pattern.signature = e.pattern.signature) :
    Refused earlier e (.signatureConflict e.pattern.signature other.id e.id)

namespace Catalogue

variable {c : Catalogue V E} {e : Entry V E}

/-- Whatever stands against an entry is a cause to refuse it. -/
theorem refused_of_not_fits (h : ¬ c.Fits e) : ∃ why, Refused c.entries e why := by
  by_cases hid : ∃ x ∈ c.entries, x.id = e.id
  · exact ⟨_, .duplicate hid⟩
  have hnew : ∀ x ∈ c.entries, x.id ≠ e.id := fun x hx hxe => hid ⟨x, hx, hxe⟩
  cases hdraw : e.pattern.isDrawable with
  | false => exact ⟨_, .malformed hnew hdraw⟩
  | true =>
    by_cases hturn : e.tier = .perWorld ∧ e.pattern.angles = []
    · exact ⟨_, .empty hnew hdraw hturn.1 hturn.2⟩
    by_cases hbound : e.tier = .global ∧ ∃ x ∈ c.globals, x.pattern.signature = e.pattern.signature
    · obtain ⟨htier, x, hx, hsame⟩ := hbound
      obtain ⟨hmem, hglobal⟩ := mem_globals.mp hx
      exact ⟨_, .conflict hnew hdraw htier hmem hglobal hsame⟩
    · refine absurd ⟨find?_eq_none_iff.mpr hnew, hdraw, fun htier h => hturn ⟨htier, h⟩, ?_⟩ h
      exact fun htier => bound?_eq_none_iff.mpr fun x hx h => hbound ⟨htier, x, hx, h⟩

theorem fst_register_of_refused {why : RegisterError} (h : Refused c.entries e why) :
    (c.register e).1 = .error why := by
  cases h with
  | duplicate hid =>
    obtain ⟨x, hx⟩ := hid
    have hfind : c.find? e.id = some x := find?_eq_some_iff.mpr hx
    simp [register, Tables.register, hfind]
  | malformed hnew hdraw =>
    have hfind : c.find? e.id = none := find?_eq_none_iff.mpr hnew
    simp [register, Tables.register, hfind, hdraw]
  | empty hnew hdraw htier hturn =>
    have hfind : c.find? e.id = none := find?_eq_none_iff.mpr hnew
    simp [register, Tables.register, Tables.bind, hfind, hdraw, htier, Pattern.isEmpty, hturn]
  | @conflict hnew hdraw htier other hother hglobal hsame =>
    have hfind : c.find? e.id = none := find?_eq_none_iff.mpr hnew
    have hbound : c.bound? e.pattern.signature = some other.id :=
      bound?_eq_some_iff.mpr
        (mem_index.mpr ⟨other, mem_globals.mpr ⟨hother, hglobal⟩, hsame, rfl⟩)
    simp [register, Tables.register, Tables.bind, hfind, hdraw, htier, hbound]

/-- An entry is added to both tables, or it is refused and both are left as they were. -/
theorem register_cases (c : Catalogue V E) (e : Entry V E) :
    (∃ c', c.register e = (.ok (), c') ∧ c.Fits e ∧ c'.toTables = c.toTables.add e) ∨
      ∃ why, c.register e = (.error why, c) ∧ Refused c.entries e why := by
  obtain ⟨hfits, hreg⟩ | ⟨why, hfits, hreg⟩ := c.toTables.register_cases e
  · exact .inl ⟨⟨c.add e, c.toCoherent.add hfits⟩, by simp [register, hreg], hfits, rfl⟩
  · obtain ⟨why', hwhy⟩ := refused_of_not_fits hfits
    have herror : (c.register e).1 = .error why := congrArg Prod.fst hreg
    obtain rfl : why' = why := Except.error.inj ((fst_register_of_refused hwhy).symm.trans herror)
    exact .inr ⟨why', by simp [register, hreg], hwhy⟩

theorem register_eq_error_iff {why : RegisterError} :
    (c.register e).1 = .error why ↔ Refused c.entries e why := by
  refine ⟨fun h => ?_, fst_register_of_refused⟩
  obtain ⟨c', hreg, -⟩ | ⟨why', hreg, hwhy⟩ := c.register_cases e
  · simp [hreg] at h
  · rw [hreg] at h
    exact Except.error.inj h ▸ hwhy

theorem nodup_index_ids (c : Catalogue V E) : (c.index.map Prod.snd).Nodup := by
  have hids : c.index.map Prod.snd = c.globals.map Entry.id := by
    rw [c.index_eq, List.map_map]
    rfl
  rw [hids]
  exact c.ids_distinct.sublist (List.filter_sublist.map Entry.id)

end Catalogue

namespace Registry

variable {r : Registry V E} {id : OperatorId} {e : Entry V E}

/-- An entry is looked up as it is, though a global pattern is spelled back from its signature. -/
theorem lookup_eq_ok_iff : r.lookup id = .ok e ↔ e ∈ r.catalogue.entries ∧ e.id = id := by
  rw [← Catalogue.find?_eq_some_iff, lookup]
  cases r.catalogue.find? id with
  | none => simp
  | some x => simp

theorem lookup_eq_error_iff :
    r.lookup id = .error (.unknownOperator id) ↔ ∀ e ∈ r.catalogue.entries, e.id ≠ id := by
  rw [← Catalogue.find?_eq_none_iff, lookup]
  cases r.catalogue.find? id with
  | none => simp
  | some x => simp

/-- A drawing with the turns of a global entry reaches it, from any start and in any world. -/
theorem resolve_of_global (he : e ∈ r.catalogue.globals) {p : Pattern}
    (hclaim : ∀ h ∈ r.handlers, h.claim p = none) (hsame : e.pattern.signature = p.signature)
    (w : World) (m : Memory) : (r.resolve p w m).1 = .ok ⟨e.operator, .global e.id⟩ := by
  have hunclaimed : r.claim? p = none := claim?_eq_none_iff.mpr hclaim
  have hglobal : r.catalogue.globalFor? p.signature = some e :=
    Catalogue.globalFor?_eq_some_iff.mpr ⟨he, hsame⟩
  simp [resolve, hunclaimed, hglobal]

end Registry

namespace Draft

inductive Call (V E : Type)
  | register (e : Entry V E)
  | handler (h : Handler V E)

def perform (d : Draft V E) : Call V E → Except RegisterError Unit × Draft V E
  | .register e => d.register e
  | .handler h => (.ok (), d.addHandler h)

def after (d : Draft V E) (cs : List (Call V E)) : Draft V E :=
  cs.foldl (fun d c => (d.perform c).2) d

/-- The entry that a call brings in. -/
def accepted? (d : Draft V E) : Call V E → Option (Entry V E)
  | .register e => (d.perform (.register e)).1.toOption.map fun _ => e
  | .handler _ => none

/-- The entries that some calls bring in. -/
def accepted (d : Draft V E) : List (Call V E) → List (Entry V E)
  | [] => []
  | c :: cs => (d.accepted? c).toList ++ (d.perform c).2.accepted cs

/-- A call brings in its entry, or is refused and changes nothing, or adds a handler. -/
theorem perform_cases (d : Draft V E) (c : Call V E) :
    (∃ e c', d.accepted? c = some e ∧ c'.toTables = d.catalogue.toTables.add e ∧
      d.perform c = (.ok (), { d with catalogue := c' })) ∨
    (∃ why, d.accepted? c = none ∧ d.perform c = (.error why, d)) ∨
    ∃ h, d.accepted? c = none ∧ d.perform c = (.ok (), d.addHandler h) := by
  cases c with
  | register e =>
    obtain ⟨c', hreg, -, hadd⟩ | ⟨why, hreg, -⟩ := d.catalogue.register_cases e
    · have hperform : d.perform (.register e) = (.ok (), { d with catalogue := c' }) := by
        simp [perform, register, hreg]
      exact .inl ⟨e, c', by simp [accepted?, hperform, Except.toOption], hadd, hperform⟩
    · have hperform : d.perform (.register e) = (.error why, d) := by
        simp [perform, register, hreg]
      exact .inr (.inl ⟨why, by simp [accepted?, hperform, Except.toOption], hperform⟩)
  | handler h => exact .inr (.inr ⟨h, rfl, rfl⟩)

theorem perform_eq_error_iff {d : Draft V E} {e : Entry V E} {why : RegisterError} :
    (d.perform (.register e)).1 = .error why ↔ Refused d.catalogue.entries e why :=
  Catalogue.register_eq_error_iff

theorem perform_of_error {d : Draft V E} {c : Call V E} {why : RegisterError}
    (h : (d.perform c).1 = .error why) : (d.perform c).2 = d := by
  obtain ⟨e, c', -, -, hperform⟩ | ⟨why', -, hperform⟩ | ⟨h', -, hperform⟩ := d.perform_cases c
  · rw [hperform] at h
    cases h
  · rw [hperform]
  · rw [hperform] at h
    cases h

theorem bounds_perform (d : Draft V E) (c : Call V E) :
    (d.perform c).2.bounds = d.bounds := by
  obtain ⟨e, c', -, -, hperform⟩ | ⟨why, -, hperform⟩ | ⟨h, -, hperform⟩ := d.perform_cases c
  · rw [hperform]
  · rw [hperform]
  · rw [hperform]
    rfl

theorem entries_perform (d : Draft V E) (c : Call V E) :
    (d.perform c).2.catalogue.entries = d.catalogue.entries ++ (d.accepted? c).toList := by
  obtain ⟨e, c', hin, hadd, hperform⟩ | ⟨why, hin, hperform⟩ | ⟨h, hin, hperform⟩ :=
    d.perform_cases c
  · rw [hperform, hin, Option.toList_some, ← Tables.entries_add, ← hadd]
  · rw [hperform, hin]
    exact (List.append_nil _).symm
  · rw [hperform, hin]
    exact (List.append_nil _).symm

theorem bounds_after (d : Draft V E) (cs : List (Call V E)) : (d.after cs).bounds = d.bounds := by
  induction cs generalizing d with
  | nil => rfl
  | cons c cs ih => exact (ih (d.perform c).2).trans (d.bounds_perform c)

theorem entries_after (d : Draft V E) (cs : List (Call V E)) :
    (d.after cs).catalogue.entries = d.catalogue.entries ++ d.accepted cs := by
  induction cs generalizing d with
  | nil => simp [after, accepted]
  | cons c cs ih =>
    have hrest : (d.after (c :: cs)).catalogue.entries =
        (d.perform c).2.catalogue.entries ++ (d.perform c).2.accepted cs := ih (d.perform c).2
    rw [hrest, entries_perform, accepted, List.append_assoc]

theorem freeze_eq_ok_iff {d : Draft V E} {r : Registry V E} :
    d.freeze = .ok r ↔ r.toDraft = d := by
  rw [freeze]
  by_cases h : d.bounds.maxSteps = 0
  · rw [dif_pos h]
    constructor
    · exact fun hr => by cases hr
    · rintro rfl
      exact absurd h r.walkable
  · rw [dif_neg h, Except.ok.injEq]
    constructor
    · rintro rfl
      rfl
    · rintro rfl
      rfl

/-- Calls to a new draft fail for the causes given by the entries let in before, and then change
nothing. The frozen registry binds the signatures of its global entries one to one to their ids, and
looks up and resolves all that was let in, and nothing else, as it came. -/
theorem registry_of_accepted (bounds : Bounds) (backing : Backing) (cs : List (Call V E)) :
    let d : Draft V E := .new bounds backing
    (∀ e why, ((d.after cs).perform (.register e)).1 = .error why ↔
      Refused (d.accepted cs) e why) ∧
    (∀ c why, ((d.after cs).perform c).1 = .error why → ((d.after cs).perform c).2 = d.after cs) ∧
    ((∃ r, (d.after cs).freeze = .ok r) ↔ bounds.maxSteps ≠ 0) ∧
    ∀ r, (d.after cs).freeze = .ok r →
      (∀ signature id, (signature, id) ∈ r.catalogue.index ↔
        ∃ e ∈ d.accepted cs, e.tier = .global ∧ e.pattern.signature = signature ∧ e.id = id) ∧
      (∀ signature id, r.catalogue.bound? signature = some id ↔
        (signature, id) ∈ r.catalogue.index) ∧
      (r.catalogue.index.map Prod.fst).Nodup ∧
      (r.catalogue.index.map Prod.snd).Nodup ∧
      (∀ id e, r.lookup id = .ok e ↔ e ∈ d.accepted cs ∧ e.id = id) ∧
      (∀ id, r.lookup id = .error (.unknownOperator id) ↔ ∀ e ∈ d.accepted cs, e.id ≠ id) ∧
      (∀ e ∈ d.accepted cs, e.tier = .global → ∀ p : Pattern,
        (∀ h ∈ r.handlers, h.claim p = none) → p.signature = e.pattern.signature →
          ∀ w m, (r.resolve p w m).1 = .ok ⟨e.operator, .global e.id⟩) := by
  intro d
  have hentries : (d.after cs).catalogue.entries = d.accepted cs := d.entries_after cs
  have hbounds : (d.after cs).bounds = bounds := d.bounds_after cs
  refine ⟨?_, ?_, ?_, ?_⟩
  · intro e why
    rw [perform_eq_error_iff, hentries]
  · exact fun c why => perform_of_error
  · constructor
    · rintro ⟨r, hr⟩
      rw [← hbounds, ← freeze_eq_ok_iff.mp hr]
      exact r.walkable
    · intro h
      exact ⟨⟨d.after cs, hbounds ▸ h⟩, freeze_eq_ok_iff.mpr rfl⟩
  · intro r hr
    have hcatalogue : r.catalogue.entries = d.accepted cs := by
      rw [freeze_eq_ok_iff.mp hr, hentries]
    rw [← hcatalogue]
    refine ⟨?_, fun _ _ => Catalogue.bound?_eq_some_iff, r.catalogue.signatures_distinct,
      r.catalogue.nodup_index_ids, fun _ _ => Registry.lookup_eq_ok_iff,
      fun _ => Registry.lookup_eq_error_iff, ?_⟩
    · simp only [Catalogue.mem_index, Catalogue.mem_globals, and_assoc, implies_true]
    · intro e he hglobal p hclaim hsame w m
      have hmem : e ∈ r.catalogue.globals := Catalogue.mem_globals.mpr ⟨he, hglobal⟩
      exact Registry.resolve_of_global hmem hclaim hsame.symm w m

end Draft

end HexGesture
