import HexGesture.Proofs.Admission
import HexGesture.Proofs.Isolation

/-! Registries that differ in the order of their registrations. Of the entries of a catalogue only
the prototypes are ever gone through in order; all others are looked up, by ids and by signatures
that are distinct. So what a registry answers depends on the order of its prototypes and handlers
and on no other order. -/
namespace HexGesture

namespace Catalogue

variable {V E : Type} {c c' : Catalogue V E}

theorem find?_of_mem_iff (h : ∀ e, e ∈ c'.entries ↔ e ∈ c.entries) (id : OperatorId) :
    c'.find? id = c.find? id := by
  ext e
  simp only [find?_eq_some_iff, h]

theorem bound?_of_mem_iff (h : ∀ e, e ∈ c'.entries ↔ e ∈ c.entries) (signature : String) :
    c'.bound? signature = c.bound? signature := by
  ext e
  simp only [bound?_eq_some_iff, mem_index, mem_globals, h]

end Catalogue

namespace Registry

variable {V E : Type}

/-- Registries with the same settings, the same entries, and their prototypes and handlers in the
same order. -/
structure Alike (r r' : Registry V E) : Prop where
  bounds : r'.bounds = r.bounds
  backing : r'.backing = r.backing
  handlers : r'.handlers = r.handlers
  entries : ∀ e, e ∈ r'.catalogue.entries ↔ e ∈ r.catalogue.entries
  prototypes : r'.catalogue.prototypes = r.catalogue.prototypes

namespace Alike

variable {r r' : Registry V E}

theorem find? (h : r.Alike r') (id : OperatorId) :
    r'.catalogue.find? id = r.catalogue.find? id := Catalogue.find?_of_mem_iff h.entries id

theorem bound? (h : r.Alike r') (signature : String) :
    r'.catalogue.bound? signature = r.catalogue.bound? signature :=
  Catalogue.bound?_of_mem_iff h.entries signature

theorem globalFor? (h : r.Alike r') (signature : String) :
    r'.catalogue.globalFor? signature = r.catalogue.globalFor? signature := by
  have hfind : r'.catalogue.find? = r.catalogue.find? := funext h.find?
  rw [Tables.globalFor?, h.bound?, hfind, Tables.globalFor?]

theorem secretIds (h : r.Alike r') : r'.secretIds = r.secretIds := by
  rw [Registry.secretIds, h.prototypes, Registry.secretIds]

theorem lookup (h : r.Alike r') (id : OperatorId) : r'.lookup id = r.lookup id := by
  rw [Registry.lookup, h.find?, Registry.lookup]

theorem claim? (h : r.Alike r') (p : Pattern) : r'.claim? p = r.claim? p := by
  rw [Registry.claim?, h.handlers, Registry.claim?]

theorem isTaken (h : r.Alike r') : r'.isTaken = r.isTaken := by
  funext t p
  simp only [Registry.isTaken, isClaimed, h.bound?, h.claim?]

theorem deriveWith {σ : Type} (h : r.Alike r') (g : Generator σ) (seed : UInt64) :
    r'.deriveWith g seed = r.deriveWith g seed := by
  have hplace : r'.placeWith g = r.placeWith g := by
    funext d e
    rw [placeWith, h.bounds, h.isTaken, placeWith]
  rw [Registry.deriveWith, h.prototypes, hplace, Registry.deriveWith]

theorem derive (h : r.Alike r') (seed : UInt64) : r'.derive seed = r.derive seed :=
  h.deriveWith ChaCha8.generator seed

theorem isReachable (h : r.Alike r') : r'.isReachable = r.isReachable := by
  funext x
  simp only [Registry.isReachable, isClaimed, h.bound?, h.claim?, h.secretIds]

theorem review (h : r.Alike r') (t : SecretTable) : r'.review t = r.review t := by
  simp only [Registry.review, h.isReachable, h.secretIds, h.derive]

theorem judge (h : r.Alike r') (w : World) (loaded : Except SaveError (Option SecretTable)) :
    r'.judge w loaded = r.judge w loaded := by
  match loaded with
  | .error why => rfl
  | .ok none => rfl
  | .ok (some t) => simp only [Registry.judge, h.review]

theorem fetch (h : r.Alike r') (w : World) (m : Memory) : r'.fetch w m = r.fetch w m := by
  simp only [Registry.fetch, Registry.rebuild, h.backing, h.judge, h.derive]

theorem table (h : r.Alike r') (w : World) (m : Memory) : r'.table w m = r.table w m := by
  simp only [Registry.table, h.fetch]

theorem resolve (h : r.Alike r') (p : Pattern) (w : World) (m : Memory) :
    r'.resolve p w m = r.resolve p w m := by
  simp only [Registry.resolve, h.claim?, h.globalFor?, h.table, h.find?]

theorem secretPattern (h : r.Alike r') (w : World) (id : OperatorId) (m : Memory) :
    r'.secretPattern w id m = r.secretPattern w id m := by
  simp only [Registry.secretPattern, h.table]

theorem respond (h : r.Alike r') (x : Request) (m : Memory) :
    r'.respond x m = r.respond x m := by
  match x with
  | .lookup id => simp only [Registry.respond, h.lookup]
  | .ask (.resolve p w) => simp only [Registry.respond, answer, h.resolve]
  | .ask (.table w) => simp only [Registry.respond, answer, h.table]
  | .ask (.secret w id) => simp only [Registry.respond, answer, h.secretPattern]
  | .ask (.unload gone) => rfl
  | .ask (.store c) => rfl

theorem exchange (h : r.Alike r') (xs : List Request) (m : Memory) :
    r'.exchange xs m = r.exchange xs m := by
  induction xs generalizing m with
  | nil => rfl
  | cons x xs ih => rw [Registry.exchange, h.respond, ih, Registry.exchange]

end Alike

def mixed.plain : Entry Unit Unit :=
  ⟨mixed.common, .global, ⟨.east, [.left, .leftBack, .left]⟩, .constant ()⟩

def mixed.hidden : Entry Unit Unit :=
  ⟨mixed.secret, .perWorld, ⟨.east, [.right, .rightBack, .right]⟩, .constant ()⟩

end Registry

namespace Draft

variable {V E : Type}

/-- A registry that is frozen after calls that bring in the parts of another one. -/
theorem alike_of_freeze {r r' : Registry V E} {cs : List (Call V E)}
    (hr : ((new r.bounds r.backing).after cs).freeze = .ok r')
    (hok : (new r.bounds r.backing).Succeeds cs)
    (hentries : Call.entries cs = r.catalogue.entries)
    (hhandlers : Call.handlers cs = r.handlers) : r.Alike r' where
  bounds := bounds_of_freeze hr
  backing := backing_of_freeze hr
  handlers := (handlers_of_freeze hr).trans hhandlers
  entries e := by rw [entries_of_freeze hr hok, hentries]
  prototypes := by
    rw [prototypes_of_freeze hr hok, Call.prototypes, hentries]
    rfl

/-- A new draft takes the same entries in any order, and registries with their prototypes and
handlers in the same order cannot be told apart by any run. -/
theorem registry_of_reordered (bounds : Bounds) (backing : Backing) {cs cs' : List (Call V E)}
    (hcalls : (Call.entries cs).Perm (Call.entries cs'))
    (hok : (new bounds backing).Succeeds cs) :
    (new bounds backing).Succeeds cs' ∧
    (Call.prototypes cs' = Call.prototypes cs → Call.handlers cs' = Call.handlers cs →
      ∀ r, ((new bounds backing).after cs).freeze = .ok r →
        ∃ r', ((new bounds backing).after cs').freeze = .ok r' ∧
          (∀ seed, r'.derive seed = r.derive seed) ∧
          (∀ id, r'.lookup id = r.lookup id) ∧
          (∀ w m, r'.table w m = r.table w m) ∧
          (∀ p w m, r'.resolve p w m = r.resolve p w m) ∧
          ∀ xs m, r'.exchange xs m = r.exchange xs m) := by
  have hadmissible : Admissible (Call.entries cs) := succeeds_iff.mp hok
  have hok' : (new bounds backing).Succeeds cs' := succeeds_iff.mpr (hadmissible.perm hcalls)
  refine ⟨hok', ?_⟩
  intro hprototypes hhandlers r hr
  have hwalkable : (new bounds backing : Draft V E).bounds.maxSteps ≠ 0 := by
    rw [← (new bounds backing).bounds_after cs, ← freeze_eq_ok_iff.mp hr]
    exact r.walkable
  obtain ⟨r', hr'⟩ := exists_freeze_after hwalkable cs'
  refine ⟨r', hr', ?_⟩
  have halike : r.Alike r' := by
    refine ⟨?_, ?_, ?_, ?_, ?_⟩
    · rw [bounds_of_freeze hr', bounds_of_freeze hr]
    · rw [backing_of_freeze hr', backing_of_freeze hr]
    · rw [handlers_of_freeze hr', handlers_of_freeze hr, hhandlers]
    · intro e
      rw [entries_of_freeze hr' hok', entries_of_freeze hr hok]
      exact hcalls.mem_iff.symm
    · rw [prototypes_of_freeze hr' hok', prototypes_of_freeze hr hok, hprototypes]
  exact ⟨halike.derive, halike.lookup, halike.table, halike.resolve, halike.exchange⟩

theorem registry_of_reordered_mixed :
    let h : Handler Unit Unit := ⟨"idle", fun _ => none⟩
    let cs : List (Call Unit Unit) :=
      [.register Registry.mixed.plain, .handler h, .register Registry.mixed.hidden]
    let cs' : List (Call Unit Unit) :=
      [.register Registry.mixed.hidden, .register Registry.mixed.plain, .handler h]
    (new .default .store).Succeeds cs ∧ (new .default .store).Succeeds cs' ∧
      ∃ r r', ((new .default .store).after cs).freeze = .ok r ∧
        ((new .default .store).after cs').freeze = .ok r' ∧
        (r.derive 42).table.entries = [("weq", ⟨Registry.mixed.secret, .west⟩)] ∧
        r'.derive 42 = r.derive 42 := by
  intro h cs cs'
  have hok : (new .default .store).Succeeds cs :=
    succeeds_iff.mpr Registry.mixed.catalogue.admissible
  have hcalls : (Call.entries cs).Perm (Call.entries cs') := List.Perm.swap _ _ []
  obtain ⟨r, hr⟩ := exists_freeze_after (d := new .default .store) Bounds.maxSteps_default_ne cs
  obtain ⟨hok', hsame⟩ := registry_of_reordered .default .store hcalls hok
  obtain ⟨r', hr', hderive, -⟩ := hsame rfl rfl r hr
  have hmixed : Registry.Alike { Registry.mixed with handlers := [h] } r :=
    alike_of_freeze hr hok rfl rfl
  have hentries : (r.derive 42).table.entries = [("weq", ⟨Registry.mixed.secret, .west⟩)] := by
    rw [hmixed.derive]
    decide +kernel
  exact ⟨hok, hok', r, r', hr, hr', hentries, hderive 42⟩

end Draft

end HexGesture
