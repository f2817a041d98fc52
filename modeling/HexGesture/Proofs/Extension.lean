import HexGesture.Proofs.Reordering
import HexGesture.Proofs.Stored

/-! Registries with more entries and handlers than another. A search is disturbed only by what takes
the drawing that it settles for; it makes no difference that more of the others are taken. So as
long as nothing new takes the drawings of the secrets that there were, each of these is found as
before in its turn, and the secrets that are new come after them. -/
namespace HexGesture

/-- `zs` is made of `xs` and `ys`, each in its own order. -/
inductive Woven {α : Type} : List α → List α → List α → Prop
  | nil : Woven [] [] []
  | left (x : α) {xs ys zs : List α} (h : Woven xs ys zs) : Woven (x :: xs) ys (x :: zs)
  | right (y : α) {xs ys zs : List α} (h : Woven xs ys zs) : Woven xs (y :: ys) (y :: zs)

namespace Woven

variable {α β : Type} {xs ys zs : List α}

theorem mem_iff (h : Woven xs ys zs) {z : α} : z ∈ zs ↔ z ∈ xs ∨ z ∈ ys := by
  induction h with
  | nil => simp
  | left x h ih => simp [ih, or_assoc]
  | right y h ih => simp [ih, or_left_comm]

theorem sublist (h : Woven xs ys zs) : xs.Sublist zs := by
  induction h with
  | nil => exact List.Sublist.refl _
  | left x h ih => exact ih.cons_cons x
  | right y h ih => exact ih.cons y

theorem filterMap (h : Woven xs ys zs) (f : α → Option β) :
    Woven (xs.filterMap f) (ys.filterMap f) (zs.filterMap f) := by
  induction h with
  | nil => exact nil
  | left x h ih =>
    cases hx : f x with
    | none => simpa [hx] using ih
    | some b => simpa [hx] using ih.left b
  | right y h ih =>
    cases hy : f y with
    | none => simpa [hy] using ih
    | some b => simpa [hy] using ih.right b

end Woven

namespace Registry

variable {V E σ : Type}

/-- An entry of a table that neither a global signature nor a handler takes away. -/
structure LeavesFree (r : Registry V E) (x : String × Secret) : Prop where
  not_global : ∀ e ∈ r.catalogue.globals, e.pattern.signature ≠ x.1
  unclaimed : ∀ p, Pattern.ofSignature x.1 x.2.start = .ok p → ∀ h ∈ r.handlers, h.claim p = none

/-- A registry leaves the entries of its own tables free. -/
theorem leavesFree_deriveWith (r : Registry V E) (g : Generator σ) (seed : UInt64) :
    ∀ x ∈ (r.deriveWith g seed).table.entries, r.LeavesFree x := by
  intro x hx
  obtain ⟨e, -, p, hp, rfl⟩ := standsIn_of_mem_afterTurns hx
  refine ⟨hp.not_global, ?_⟩
  intro q hq
  obtain rfl : p = q := Except.ok.inj ((Pattern.ofSignature_signature hp.drawable).symm.trans hq)
  exact hp.unclaimed

/-- A registry with the same bounds that takes all that another one takes. -/
structure Covers (r' r : Registry V E) : Prop where
  bounds : r'.bounds = r.bounds
  globals : ∀ e ∈ r.catalogue.globals, e ∈ r'.catalogue.globals
  handlers : ∀ h ∈ r.handlers, h ∈ r'.handlers

section Covers

variable {r r' : Registry V E} {g : Generator σ} {d d' : Derivation}

theorem Covers.isTaken (h : r'.Covers r) {t : SecretTable} {p : Pattern}
    (htaken : r.isTaken t p = true) : r'.isTaken t p = true := by
  by_contra hfree
  obtain ⟨hglobal, hnew, hclaim⟩ := isTaken_eq_false_iff.mp (by simpa using hfree)
  have hfree' : r.isTaken t p = false :=
    isTaken_eq_false_iff.mpr ⟨fun e he => hglobal e (h.globals e he), hnew,
      fun x hx => hclaim x (h.handlers x hx)⟩
  rw [htaken] at hfree'
  cases hfree'

/-- A prototype gets the same entry in its turn if nothing takes that entry. -/
theorem Covers.table_placeWith (h : r'.Covers r) (hd : d'.table = d.table) (e : Entry V E)
    (hfree : ∀ x ∈ (r.placeWith g d e).table.entries, r'.LeavesFree x) :
    (r'.placeWith g d' e).table = (r.placeWith g d e).table := by
  have hsame : (Search.runWith g r'.bounds d'.table.seed e.pattern (r'.isTaken d'.table)).found =
      (Search.runWith g r.bounds d.table.seed e.pattern (r.isTaken d.table)).found := by
    rw [h.bounds, hd]
    refine Search.found_of_le g r.bounds d.table.seed e.pattern (fun _ => h.isTaken) ?_
    intro p hp
    -- What `r` finds becomes an entry of its table, and those are left free.
    obtain ⟨q, hq, hstands, hnew, hentries⟩ | ⟨hnone, -⟩ := r.placeWith_cases g d e
    · obtain rfl : p = q := Except.ok.inj (hp.symm.trans hq)
      have hplace : r'.LeavesFree (secretEntry e p) := hfree _ (by simp [hentries])
      have hcontains : d.table.contains p.signature = false := by
        rwa [← Bool.not_eq_true, SecretTable.contains_iff]
      exact isTaken_eq_false_iff.mpr ⟨hplace.not_global, hcontains,
        hplace.unclaimed p (Pattern.ofSignature_signature hstands.drawable)⟩
    · cases hnone.symm.trans hp
  simp only [placeWith, hsame]
  split
  · rw [hd]
  · exact hd

theorem Covers.table_foldl_placeWith (h : r'.Covers r) (hd : d'.table = d.table)
    (es : List (Entry V E))
    (hfree : ∀ x ∈ (es.foldl (r.placeWith g) d).table.entries, r'.LeavesFree x) :
    (es.foldl (r'.placeWith g) d').table = (es.foldl (r.placeWith g) d).table := by
  induction es generalizing d d' with
  | nil => exact hd
  | cons e es ih =>
    obtain ⟨added, hadded, -, -⟩ := r.entries_foldl_placeWith g es (r.placeWith g d e)
    -- Entries are never taken out again, so what is free in the end is free in this turn.
    have hnow : ∀ x ∈ (r.placeWith g d e).table.entries, r'.LeavesFree x := by
      intro x hx
      refine hfree x ?_
      rw [List.foldl_cons, hadded]
      exact List.mem_append_left added hx
    exact ih (h.table_placeWith hd e hnow) hfree

theorem Covers.entries_deriveWith (h : r'.Covers r) {more : List (Entry V E)}
    (hmore : r'.catalogue.prototypes = r.catalogue.prototypes ++ more) (seed : UInt64)
    (hfree : ∀ x ∈ (r.deriveWith g seed).table.entries, r'.LeavesFree x) :
    ∃ added, (r'.deriveWith g seed).table.entries =
        (r.deriveWith g seed).table.entries ++ added ∧
      ∀ x ∈ added, x.2.operator ∉ r.secretIds := by
  have htable : (r'.afterTurns g seed r.catalogue.prototypes).table = (r.deriveWith g seed).table :=
    h.table_foldl_placeWith rfl _ hfree
  obtain ⟨added, hadded, hsub, -⟩ :=
    r'.entries_foldl_placeWith g more (r'.afterTurns g seed r.catalogue.prototypes)
  refine ⟨added, ?_, ?_⟩
  · rw [deriveWith, hmore, List.foldl_append, ← htable]
    exact hadded
  · intro x hx hold
    have hids := r'.nodup_secretIds
    rw [secretIds, hmore, List.map_append, List.nodup_append] at hids
    exact hids.2.2 _ hold _ (hsub.subset (List.mem_map_of_mem hx)) rfl

end Covers

end Registry

namespace Draft

variable {V E : Type}

/-! Calls are added to those of one draft, and nothing is refused. -/
section Added

variable {bounds : Bounds} {backing backing' : Backing} {cs added cs' : List (Call V E)}
  {r r' : Registry V E}

theorem succeeds_of_woven (h : Woven cs added cs') (hok : (new bounds backing').Succeeds cs') :
    (new bounds backing).Succeeds cs := by
  have hadmissible : Admissible (Call.entries cs') := succeeds_iff.mp hok
  exact succeeds_iff.mpr (hadmissible.sublist (h.filterMap Call.entry?).sublist)

theorem mem_entries_of_woven (h : Woven cs added cs') (hok : (new bounds backing').Succeeds cs')
    (hr : ((new bounds backing).after cs).freeze = .ok r)
    (hr' : ((new bounds backing').after cs').freeze = .ok r') {e : Entry V E} :
    e ∈ r'.catalogue.entries ↔ e ∈ r.catalogue.entries ∨ e ∈ Call.entries added := by
  rw [entries_of_freeze hr' hok, entries_of_freeze hr (succeeds_of_woven h hok)]
  exact (h.filterMap Call.entry?).mem_iff

theorem mem_handlers_of_woven (h : Woven cs added cs')
    (hr : ((new bounds backing).after cs).freeze = .ok r)
    (hr' : ((new bounds backing').after cs').freeze = .ok r') {x : Handler V E} :
    x ∈ r'.handlers ↔ x ∈ r.handlers ∨ x ∈ Call.handlers added := by
  rw [handlers_of_freeze hr', handlers_of_freeze hr]
  exact (h.filterMap Call.handler?).mem_iff

theorem covers_of_woven (h : Woven cs added cs') (hok : (new bounds backing').Succeeds cs')
    (hr : ((new bounds backing).after cs).freeze = .ok r)
    (hr' : ((new bounds backing').after cs').freeze = .ok r') : r'.Covers r where
  bounds := (bounds_of_freeze hr').trans (bounds_of_freeze hr).symm
  globals e he := by
    obtain ⟨hmem, htier⟩ := Catalogue.mem_globals.mp he
    exact Catalogue.mem_globals.mpr ⟨(mem_entries_of_woven h hok hr hr').mpr (.inl hmem), htier⟩
  handlers x hx := (mem_handlers_of_woven h hr hr').mpr (.inl hx)

/-- An entry that was left free still is, unless something that was added takes it. -/
theorem leavesFree_of_woven (h : Woven cs added cs') (hok : (new bounds backing').Succeeds cs')
    (hr : ((new bounds backing).after cs).freeze = .ok r)
    (hr' : ((new bounds backing').after cs').freeze = .ok r') {x : String × Secret}
    (hfree : r.LeavesFree x)
    (hglobals : ∀ e ∈ Call.entries added, e.tier = .global → e.pattern.signature ≠ x.1)
    (hhandlers : ∀ y ∈ Call.handlers added, ∀ p, Pattern.ofSignature x.1 x.2.start = .ok p →
      y.claim p = none) : r'.LeavesFree x where
  not_global e he := by
    obtain ⟨hmem, htier⟩ := Catalogue.mem_globals.mp he
    rcases (mem_entries_of_woven h hok hr hr').mp hmem with hold | hnew
    · exact hfree.not_global e (Catalogue.mem_globals.mpr ⟨hold, htier⟩)
    · exact hglobals e hnew htier
  unclaimed p hp y hy := by
    rcases (mem_handlers_of_woven h hr hr').mp hy with hold | hnew
    · exact hfree.unclaimed p hp y hold
    · exact hhandlers y hnew p hp

end Added

/-- Calls added to those of a draft, with their prototypes last, keep a derived table as the first
part of the new one, as long as nothing that is added takes one of its drawings. -/
theorem derive_of_added (bounds : Bounds) (backing backing' : Backing)
    {cs added cs' : List (Call V E)} (hwoven : Woven cs added cs')
    (hok : (new bounds backing').Succeeds cs')
    (hlast : Call.prototypes cs' = Call.prototypes cs ++ Call.prototypes added)
    {r r' : Registry V E} (hr : ((new bounds backing).after cs).freeze = .ok r)
    (hr' : ((new bounds backing').after cs').freeze = .ok r') (seed : UInt64)
    (hglobals : ∀ e ∈ Call.entries added, e.tier = .global →
      e.pattern.signature ∉ (r.derive seed).table.entries.map Prod.fst)
    (hhandlers : ∀ h ∈ Call.handlers added, ∀ x ∈ (r.derive seed).table.entries, ∀ p,
      Pattern.ofSignature x.1 x.2.start = .ok p → h.claim p = none) :
    (r.derive seed).table.seed = (r'.derive seed).table.seed ∧
    (r.derive seed).table.entries <+: (r'.derive seed).table.entries ∧
    ∀ id ∈ r.secretIds, id ∉ (r.derive seed).table.operators →
      id ∉ (r'.derive seed).table.operators := by
  have hfree : ∀ x ∈ (r.derive seed).table.entries, r'.LeavesFree x := by
    intro x hx
    have hold := r.leavesFree_deriveWith ChaCha8.generator seed x hx
    refine leavesFree_of_woven hwoven hok hr hr' hold ?_ fun h hh => hhandlers h hh x hx
    intro e he htier hsame
    exact hglobals e he htier (hsame ▸ List.mem_map_of_mem hx)
  have hmore : r'.catalogue.prototypes = r.catalogue.prototypes ++ Call.prototypes added := by
    rw [prototypes_of_freeze hr' hok, prototypes_of_freeze hr (succeeds_of_woven hwoven hok), hlast]
  have hcovers := covers_of_woven hwoven hok hr hr'
  obtain ⟨later, hlater, hnew⟩ := hcovers.entries_deriveWith hmore seed hfree
  refine ⟨by rw [Registry.seed_derive, Registry.seed_derive], ⟨later, hlater.symm⟩, ?_⟩
  intro id hid hout hin
  obtain ⟨x, hx, rfl⟩ := List.mem_map.mp hin
  have hx' : x ∈ (r.derive seed).table.entries ++ later := hlater ▸ hx
  rcases List.mem_append.mp hx' with hmem | hmem
  · exact hout (List.mem_map_of_mem hmem)
  · exact hnew x hmem hid

theorem derive_of_added_mixed :
    let short : Entry Unit Unit :=
      ⟨Registry.pair.first, .global, ⟨.east, [.left, .left]⟩, .constant ()⟩
    let other : Entry Unit Unit :=
      ⟨Registry.pair.second, .perWorld, ⟨.east, [.left, .left, .left]⟩, .constant ()⟩
    let h : Handler Unit Unit :=
      ⟨"stroke", fun p => if p.angles = [] then some (.constant ()) else none⟩
    let cs : List (Call Unit Unit) :=
      [.register Registry.mixed.plain, .register Registry.mixed.hidden]
    let added : List (Call Unit Unit) := [.handler h, .register short, .register other]
    let cs' : List (Call Unit Unit) :=
      [.handler h, .register Registry.mixed.plain, .register short,
        .register Registry.mixed.hidden, .register other]
    Woven cs added cs' ∧ (new .default .store).Succeeds cs' ∧
      Call.prototypes cs' = Call.prototypes cs ++ Call.prototypes added ∧
      ∃ r r', ((new .default .store).after cs).freeze = .ok r ∧
        ((new .default .store).after cs').freeze = .ok r' ∧
        (r.derive 42).table.entries = [("weq", ⟨Registry.mixed.secret, .west⟩)] ∧
        (r.derive 42).table.entries <+: (r'.derive 42).table.entries := by
  intro short other h cs added cs'
  have hwoven : Woven cs added cs' :=
    .right _ (.left _ (.right _ (.left _ (.right _ .nil))))
  have hadmissible : Admissible (Call.entries cs') :=
    ⟨by decide, by decide, by decide, by decide⟩
  have hok : (new .default .store).Succeeds cs' := succeeds_iff.mpr hadmissible
  obtain ⟨r, hr⟩ := exists_freeze_after (d := new .default .store) Bounds.maxSteps_default_ne cs
  obtain ⟨r', hr'⟩ := exists_freeze_after (d := new .default .store) Bounds.maxSteps_default_ne cs'
  have hmixed : Registry.mixed.Alike r := alike_of_freeze hr (succeeds_of_woven hwoven hok) rfl rfl
  have hentries : (r.derive 42).table.entries = [("weq", ⟨Registry.mixed.secret, .west⟩)] := by
    rw [hmixed.derive, Registry.entries_derive_mixed]
  have hglobals : ∀ e ∈ Call.entries added, e.tier = .global →
      e.pattern.signature ∉ (r.derive 42).table.entries.map Prod.fst := by
    rw [hentries]
    decide
  have hhandlers : ∀ y ∈ Call.handlers added, ∀ x ∈ (r.derive 42).table.entries, ∀ p,
      Pattern.ofSignature x.1 x.2.start = .ok p → y.claim p = none := by
    rw [hentries]
    intro y hy x hx p hp
    obtain rfl := List.mem_singleton.mp hy
    obtain rfl := List.mem_singleton.mp hx
    have hdrawn : Pattern.ofSignature "weq" .west = .ok ⟨.west, [.forward, .right, .left]⟩ := by
      decide
    obtain rfl : _ = p := Except.ok.inj (hdrawn.symm.trans hp)
    rfl
  have hadded := derive_of_added .default .store .store hwoven hok rfl hr hr' 42 hglobals hhandlers
  exact ⟨hwoven, hok, rfl, r, r', hr, hr', hentries, hadded.2.1⟩

end Draft

end HexGesture
