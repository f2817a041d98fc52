import HexGesture.Registry.Basic
import Mathlib.Data.List.Nodup

/-! Looking things up in a catalogue. Ids are distinct, and so are bound signatures, and the tables
agree; so whatever is looked up by an id or by a signature is the entry that has it. -/
namespace HexGesture

variable {V E : Type}

namespace Catalogue

theorem mem_globals {c : Catalogue V E} {e : Entry V E} :
    e ∈ c.globals ↔ e ∈ c.entries ∧ e.tier = .global := by simp [Tables.globals]

theorem mem_prototypes {c : Catalogue V E} {e : Entry V E} :
    e ∈ c.prototypes ↔ e ∈ c.entries ∧ e.tier = .perWorld := by simp [Tables.prototypes]

theorem eq_of_id_eq {c : Catalogue V E} {e f : Entry V E} (he : e ∈ c.entries)
    (hf : f ∈ c.entries) (h : e.id = f.id) : e = f :=
  List.inj_on_of_nodup_map c.ids_distinct he hf h

theorem find?_eq_some_iff {c : Catalogue V E} {id : OperatorId} {e : Entry V E} :
    c.find? id = some e ↔ e ∈ c.entries ∧ e.id = id := by
  have hd : (c.operators.map Prod.fst).Nodup := c.ids_entries ▸ c.ids_distinct
  simp only [Tables.find?, Option.map_eq_some_iff, Keyed.lookup_eq_some_iff hd, Tables.entries,
    List.mem_map]
  constructor
  · rintro ⟨x, hx, rfl⟩
    exact ⟨⟨(id, x), hx, rfl⟩, rfl⟩
  · rintro ⟨⟨⟨id', x⟩, hx, rfl⟩, rfl⟩
    exact ⟨x, hx, rfl⟩

theorem find?_eq_none_iff {c : Catalogue V E} {id : OperatorId} :
    c.find? id = none ↔ ∀ e ∈ c.entries, e.id ≠ id := by
  rw [Option.eq_none_iff_forall_ne_some]
  simp only [ne_eq, find?_eq_some_iff, not_and]

theorem find?_id {c : Catalogue V E} {e : Entry V E} (he : e ∈ c.entries) :
    c.find? e.id = some e := find?_eq_some_iff.mpr ⟨he, rfl⟩

theorem nodup_prototypes_ids (c : Catalogue V E) : (c.prototypes.map Entry.id).Nodup :=
  List.Nodup.sublist (List.filter_sublist.map Entry.id) c.ids_distinct

theorem nodup_globals_signatures (c : Catalogue V E) :
    (c.globals.map fun e => e.pattern.signature).Nodup := by
  have h := c.signatures_distinct
  rwa [c.index_eq, List.map_map] at h

theorem mem_index {c : Catalogue V E} {signature : String} {id : OperatorId} :
    (signature, id) ∈ c.index ↔ ∃ e ∈ c.globals, e.pattern.signature = signature ∧ e.id = id := by
  simp only [c.index_eq, List.mem_map, Prod.mk.injEq]

theorem bound?_eq_some_iff {c : Catalogue V E} {signature : String} {id : OperatorId} :
    c.bound? signature = some id ↔ (signature, id) ∈ c.index :=
  Keyed.lookup_eq_some_iff c.signatures_distinct

theorem bound?_eq_none_iff {c : Catalogue V E} {signature : String} :
    c.bound? signature = none ↔ ∀ e ∈ c.globals, e.pattern.signature ≠ signature := by
  rw [Option.eq_none_iff_forall_ne_some]
  simp only [ne_eq, bound?_eq_some_iff, mem_index]
  exact ⟨fun h e he hs => h e.id ⟨e, he, hs, rfl⟩, fun h id ⟨e, he, hs, _⟩ => h e he hs⟩

theorem bound?_isSome_iff {c : Catalogue V E} {signature : String} :
    (c.bound? signature).isSome = true ↔ ∃ e ∈ c.globals, e.pattern.signature = signature := by
  simp [Option.isSome_iff_ne_none, bound?_eq_none_iff]

/-- No signature is bound to an id that the other table lacks. -/
theorem globalFor?_eq_some_iff {c : Catalogue V E} {signature : String} {e : Entry V E} :
    c.globalFor? signature = some e ↔ e ∈ c.globals ∧ e.pattern.signature = signature := by
  simp only [Tables.globalFor?, Option.bind_eq_some_iff, bound?_eq_some_iff, mem_index,
    find?_eq_some_iff]
  constructor
  · rintro ⟨id, ⟨f, hf, hsignature, rfl⟩, he, hid⟩
    obtain rfl := eq_of_id_eq he (mem_globals.mp hf).1 hid
    exact ⟨hf, hsignature⟩
  · rintro ⟨he, hsignature⟩
    exact ⟨e.id, ⟨e, he, hsignature, rfl⟩, (mem_globals.mp he).1, rfl⟩

theorem globalFor?_eq_none_iff {c : Catalogue V E} {signature : String} :
    c.globalFor? signature = none ↔ c.bound? signature = none := by
  rw [bound?_eq_none_iff, Option.eq_none_iff_forall_ne_some]
  simp only [ne_eq, globalFor?_eq_some_iff, not_and]

end Catalogue

namespace Registry

theorem claim?_eq_none_iff {r : Registry V E} {p : Pattern} :
    r.claim? p = none ↔ ∀ h ∈ r.handlers, h.claim p = none := by
  simp [claim?, List.findSome?_eq_none_iff]

theorem isClaimed_eq_false_iff {r : Registry V E} {p : Pattern} :
    r.isClaimed p = false ↔ ∀ h ∈ r.handlers, h.claim p = none := by
  rw [isClaimed, ← claim?_eq_none_iff, Option.isSome_eq_false_iff, Option.isNone_iff_eq_none]

theorem isClaimed_iff {r : Registry V E} {p : Pattern} :
    r.isClaimed p = true ↔ ∃ h ∈ r.handlers, (h.claim p).isSome = true := by
  rw [← Bool.not_eq_false, isClaimed_eq_false_iff]
  simp [Option.isSome_iff_ne_none]

theorem nodup_secretIds (r : Registry V E) : r.secretIds.Nodup := r.catalogue.nodup_prototypes_ids

theorem mem_secretIds {r : Registry V E} {id : OperatorId} :
    id ∈ r.secretIds ↔ ∃ e ∈ r.catalogue.prototypes, e.id = id := by simp [secretIds]

end Registry

end HexGesture
