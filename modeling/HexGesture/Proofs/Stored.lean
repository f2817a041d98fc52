import HexGesture.Pattern.Family
import HexGesture.Proofs.Identifier
import HexGesture.Proofs.Secrets

/-! Tables from the store. Of the tables found there those are used as they are that are sound and
reach all secrets, or just those that can be derived from their seed. This asks both too much and
too little. A table that leaves out only what cannot be derived is replaced nevertheless if it
reaches another secret that cannot be derived either. And a table may reach a secret by the very
turns of its prototype, which no derived table does; that is the only way in which the published
drawing of a prototype ever leads to its secret. -/
namespace HexGesture

theorem Backing.saves_load (b : Backing) (st : Store) (world : UInt64) :
    (b.load st world).2.saves = st.saves := by cases b <;> rfl

theorem Backing.saves_save (st : Store) (world : UInt64) (t : SecretTable) :
    (Backing.store.save st world t).2.saves = st.saves + 1 := by
  simp only [Backing.save, Store.save]
  split
  · rfl
  · simp only [Store.keep]
    split <;> rfl

namespace Registry

variable {V E : Type}

theorem Sound.operators_subset {r : Registry V E} {t : SecretTable} (h : r.Sound t) :
    t.operators ⊆ r.secretIds := by
  intro id hid
  obtain ⟨x, hx, rfl⟩ := List.mem_map.mp hid
  obtain ⟨p, -, -, -, hsecret⟩ := isReachable_iff.mp (h.reachable x hx)
  exact hsecret

/-- Of the sound tables that leave out nothing that can be derived, the review passes those that
leave out nothing at all and those that reach nothing else. -/
theorem Sound.usable_iff {r : Registry V E} {t : SecretTable} (h : r.Sound t)
    (hmissing : ∀ id ∈ r.secretIds, id ∉ t.operators →
      id ∉ (r.derive t.seed).table.operators) :
    (r.review t).usable = true ↔
      r.secretIds ⊆ t.operators ∨ t.operators ⊆ (r.derive t.seed).table.operators := by
  have hderived : (r.derive t.seed).table.operators ⊆ t.operators := by
    intro id hid
    by_contra hno
    exact hmissing id ((r.operators_derive_sublist t.seed).subset hid) hno hid
  rw [usable_review_iff]
  constructor
  · rintro ⟨-, hall | hplaced⟩
    · exact .inl fun id hid => (hall id).mpr hid
    · exact .inr fun id hid => (hplaced id).mp hid
  · rintro (hall | hplaced)
    · exact ⟨h, .inl fun id => ⟨fun hid => h.operators_subset hid, fun hid => hall hid⟩⟩
    · exact ⟨h, .inr fun id => ⟨fun hid => hplaced hid, fun hid => hderived hid⟩⟩

theorem table_of_usable {r : Registry V E} {w : World} {m : Memory} {t : SecretTable}
    (hnew : m.cache[w.id]? = none) (hload : (r.backing.load m.store w.id).1 = .ok (some t))
    (hseed : t.seed = w.seed) (husable : (r.review t).usable = true) :
    (r.table w m).1 = t ∧ (r.table w m).2.store = (r.backing.load m.store w.id).2 :=
  table_of_verdict hnew (judge_eq_usable_iff.mpr ⟨hload, hseed, husable⟩)

theorem table_of_not_usable {r : Registry V E} {w : World} {m : Memory} {t : SecretTable}
    (hnew : m.cache[w.id]? = none) (hload : (r.backing.load m.store w.id).1 = .ok (some t))
    (husable : (r.review t).usable ≠ true) :
    (r.table w m).1 = (r.derive w.seed).table ∧
      (r.table w m).2.store =
        (r.backing.save (r.backing.load m.store w.id).2 w.id (r.derive w.seed).table).2 := by
  refine table_of_no_verdict hnew fun u hu => ?_
  obtain ⟨hloaded, -, hpassed⟩ := judge_eq_usable_iff.mp hu
  obtain rfl : t = u := by simpa [hload] using hloaded
  exact husable hpassed

/-- A sound table in the store that leaves out only what cannot be derived is reused if it leaves
out nothing or reaches only what can be derived, and otherwise replaced. -/
theorem table_of_stored (r : Registry V E) {w : World} {m : Memory} {t : SecretTable}
    (hnew : m.cache[w.id]? = none) (hload : (r.backing.load m.store w.id).1 = .ok (some t))
    (hseed : t.seed = w.seed) (hsound : r.Sound t)
    (hmissing : ∀ id ∈ r.secretIds, id ∉ t.operators →
      id ∉ (r.derive w.seed).table.operators) :
    (r.secretIds ⊆ t.operators ∨ t.operators ⊆ (r.derive w.seed).table.operators →
      (r.table w m).1 = t ∧ (r.table w m).2.store = (r.backing.load m.store w.id).2 ∧
        (r.table w m).2.store.saves = m.store.saves) ∧
    (¬ (r.secretIds ⊆ t.operators ∨ t.operators ⊆ (r.derive w.seed).table.operators) →
      (r.table w m).1 ≠ t ∧ (r.table w m).1 = (r.derive w.seed).table ∧
        (r.table w m).2.store =
          (r.backing.save (r.backing.load m.store w.id).2 w.id (r.derive w.seed).table).2) := by
  rw [← hseed] at hmissing ⊢
  have husable := hsound.usable_iff hmissing
  constructor
  · intro hcovers
    obtain ⟨htable, hstore⟩ := table_of_usable hnew hload hseed (husable.mpr hcovers)
    refine ⟨htable, hstore, ?_⟩
    rw [hstore, Backing.saves_load]
  · intro hcovers
    obtain ⟨htable, hstore⟩ := table_of_not_usable hnew hload fun h => hcovers (husable.mp h)
    rw [← hseed] at htable hstore
    refine ⟨?_, htable, hstore⟩
    intro hsame
    refine hcovers (.inr ?_)
    rw [← htable, hsame]
    exact List.Subset.refl _

def pair.first : OperatorId := ⟨"hexcasting", "first", OperatorId.fault?_defaultScope, by decide⟩

def pair.second : OperatorId := ⟨"hexcasting", "second", OperatorId.fault?_defaultScope, by decide⟩

/-- Two secrets, the second of which has more turns than a walk may try headings. -/
def uneven : Registry Unit Unit where
  bounds := ⟨4, 0⟩
  backing := .store
  catalogue :=
    { operators :=
        [(pair.first, ⟨.perWorld ⟨.east, [.left, .leftBack, .left]⟩, .constant ()⟩),
          (pair.second, ⟨.perWorld (.zigzag 5), .constant ()⟩)]
      index := []
      ids_distinct := by decide
      index_eq := rfl
      signatures_distinct := List.nodup_nil
      drawable := by decide
      prototypes_turn := by decide }
  handlers := []
  walkable := by decide

/-- A table that lacks the second secret, and has another drawing for the first than is derived, is
reused. -/
theorem table_of_stored_uneven :
    let t : SecretTable := ⟨42, [("eee", ⟨pair.first, .west⟩)], by decide⟩
    let m : Memory := ⟨∅, (Store.empty.keep 7 t).2, #[]⟩
    (uneven.derive 42).table ≠ t ∧ pair.second ∈ uneven.secretIds ∧
      (uneven.table ⟨7, 42⟩ m).1 = t ∧ (uneven.table ⟨7, 42⟩ m).2.store.saves = m.store.saves := by
  intro t m
  have hderived : (uneven.derive 42).table.entries = [("dwa", ⟨pair.first, .northWest⟩)] := by
    decide +kernel
  have hoperators : (uneven.derive 42).table.operators = [pair.first] := by
    rw [SecretTable.operators, hderived]
    rfl
  have hsound : uneven.Sound t := ⟨by decide +kernel, by decide⟩
  have hmissing : ∀ id ∈ uneven.secretIds, id ∉ t.operators →
      id ∉ (uneven.derive 42).table.operators := by
    intro id _ hid
    rwa [hoperators]
  have hreused := (uneven.table_of_stored (w := ⟨7, 42⟩) (m := m) (t := t) (by decide +kernel)
    (by decide +kernel) rfl hsound hmissing).1 (.inr (hoperators ▸ List.Subset.refl _))
  refine ⟨fun h => ?_, by decide, hreused.1, hreused.2.2⟩
  rw [h] at hderived
  exact absurd hderived (by decide)

def pair (bounds : Bounds) (h : bounds.maxSteps ≠ 0) : Registry Unit Unit where
  bounds := bounds
  backing := .store
  catalogue :=
    { operators :=
        [(pair.first, ⟨.perWorld ⟨.east, [.left, .leftBack, .left]⟩, .constant ()⟩),
          (pair.second, ⟨.perWorld ⟨.east, [.right, .rightBack, .right]⟩, .constant ()⟩)]
      index := []
      ids_distinct := by decide
      index_eq := rfl
      signatures_distinct := List.nodup_nil
      drawable := by decide
      prototypes_turn := by decide }
  handlers := []
  walkable := h

theorem not_mem_derive_pair {bounds : Bounds} (h : bounds.maxSteps ≠ 0)
    (hshort : bounds.maxSteps.toNat < 3) (seed : UInt64) (id : OperatorId) :
    id ∉ ((pair bounds h).derive seed).table.operators := by
  intro hid
  have hsecret := ((pair bounds h).operators_derive_sublist seed).subset hid
  obtain ⟨e, he, rfl⟩ := mem_secretIds.mp hsecret
  have hlength : ∀ e ∈ (pair bounds h).catalogue.prototypes, e.pattern.length = 3 := by
    simp [pair, Tables.prototypes, Tables.entries, Registered.entry, Route.tier, Route.pattern,
      Pattern.length]
  exact not_mem_deriveWith_of_long _ seed he (by rw [hlength e he]; exact hshort) hid

/-- A table that reaches one of the two secrets, neither of which can be derived, is dropped. -/
theorem table_of_stored_partial :
    let r := pair ⟨1, 0⟩ (by decide)
    let t : SecretTable := ⟨42, [("eee", ⟨pair.first, .west⟩)], by decide⟩
    let m : Memory := ⟨∅, (Store.empty.keep 7 t).2, #[]⟩
    m.cache[(7 : UInt64)]? = none ∧ (r.backing.load m.store 7).1 = .ok (some t) ∧ r.Sound t ∧
      (∀ id ∈ r.secretIds, id ∉ t.operators → id ∉ (r.derive 42).table.operators) ∧
      (r.table ⟨7, 42⟩ m).1 ≠ t ∧ (r.table ⟨7, 42⟩ m).2.store.saves = m.store.saves + 1 := by
  intro r t m
  have hnew : m.cache[(7 : UInt64)]? = none := by decide +kernel
  have hload : (r.backing.load m.store 7).1 = .ok (some t) := by decide +kernel
  have hsound : r.Sound t := ⟨by decide +kernel, by decide⟩
  have hderived : ∀ id, id ∉ (r.derive 42).table.operators :=
    fun id => not_mem_derive_pair (by decide) (by decide) 42 id
  have hfirst : pair.first ∈ t.operators := by decide
  have husable : (r.review t).usable ≠ true := by
    rw [ne_eq, hsound.usable_iff fun id _ _ => hderived id]
    rintro (hall | hplaced)
    · exact absurd hall (by decide)
    · exact hderived _ (hplaced hfirst)
  obtain ⟨htable, hstore⟩ := table_of_not_usable (w := ⟨7, 42⟩) hnew hload husable
  refine ⟨hnew, hload, hsound, fun id _ _ => hderived id, ?_, ?_⟩
  · intro hsame
    rw [← hsame, htable] at hfirst
    exact hderived _ hfirst
  · rw [hstore]
    exact Backing.saves_save _ 7 _

/-! The published drawing of a prototype. -/

theorem derive_ne_prototype {r : Registry V E} {seed : UInt64} {x : String × Secret}
    {e : Entry V E} (hx : x ∈ (r.derive seed).table.entries) (he : e ∈ r.catalogue.prototypes)
    (hid : x.2.operator = e.id) : x.1 ≠ e.pattern.signature := by
  obtain ⟨e', he', p, hp, rfl⟩ := standsIn_of_mem_afterTurns hx
  obtain rfl : e' = e := Catalogue.eq_of_id_eq (Catalogue.mem_prototypes.mp he').1
    (Catalogue.mem_prototypes.mp he).1 hid
  exact hp.differs

/-- A drawing reaches a secret just when neither a handler nor a global signature answers for it
and the table has it. -/
theorem resolve_eq_perWorld_iff {r : Registry V E} {p : Pattern} {w : World} {m : Memory}
    {e : Entry V E} (he : e ∈ r.catalogue.prototypes) :
    (r.resolve p w m).1.map Resolution.origin = .ok (.perWorld e.id) ↔
      r.claim? p = none ∧ r.catalogue.bound? p.signature = none ∧
        ∃ start, (p.signature, ⟨e.id, start⟩) ∈ (r.table w m).1.entries := by
  rw [← Catalogue.globalFor?_eq_none_iff]
  cases hclaim : r.claim? p with
  | some c => simp [resolve, hclaim, Except.map]
  | none =>
    cases hglobal : r.catalogue.globalFor? p.signature with
    | some g => simp [resolve, hclaim, hglobal, Except.map]
    | none =>
      simp only [resolve, hclaim, hglobal, true_and, ← SecretTable.get?_eq_some_iff]
      cases hget : (r.table w m).1.get? p.signature with
      | none => simp [Except.map]
      | some s =>
        simp only [Option.bind_some, Option.some.injEq]
        constructor
        · intro h
          cases hfind : r.catalogue.find? s.operator with
          | none => simp [hfind, Except.map] at h
          | some e' =>
            have hid : e'.id = s.operator := (Catalogue.find?_eq_some_iff.mp hfind).2
            have he' : e'.id = e.id := by simpa [hfind, Except.map] using h
            exact ⟨s.start, by rw [← he', hid]⟩
        · rintro ⟨start, rfl⟩
          simp [Catalogue.find?_id (Catalogue.mem_prototypes.mp he).1, Except.map]

/-- A table that was found usable in the store when one of some questions asked for the world, or
is found so when the world is asked for after them. -/
def FromStore (r : Registry V E) (st : Store) (qs : List Query) (w : World) (t : SecretTable) :
    Prop :=
  ∃ before q later w', qs ++ [.table w] = before ++ q :: later ∧ q.world? = some w' ∧
    w'.id = w.id ∧ (r.backing.load (r.after st before).store w'.id).1 = .ok (some t) ∧
    t.seed = w'.seed ∧ (r.review t).usable = true

/-- The table that answers for a world was taken from the store or derived. -/
theorem table_after_cases (r : Registry V E) (st : Store) (qs : List Query) (w : World) :
    r.FromStore st qs w (r.table w (r.after st qs)).1 ∨
      ∃ seed, (r.table w (r.after st qs)).1 = (r.derive seed).table := by
  obtain ⟨before, q, later, w', hqs, hq, hid, ht⟩ := r.table_after st qs w
  rw [ht]
  obtain ⟨t, hv, hfetch⟩ | ⟨-, hfetch⟩ := r.fetch_cases w' (r.after st before)
  · rw [hfetch]
    obtain hstored := judge_eq_usable_iff.mp hv
    exact .inl ⟨before, q, later, w', hqs, hq, hid, hstored⟩
  · rw [hfetch, rebuild_fst]
    exact .inr ⟨w'.seed, rfl⟩

/-- The published drawing of a prototype, whatever its start, leads to its own secret only through
a table that was taken from the store and has that very drawing for it. -/
theorem resolve_prototype_after (r : Registry V E) (st : Store) (qs : List Query) (w : World)
    {e : Entry V E} (he : e ∈ r.catalogue.prototypes) {p : Pattern}
    (hp : p.signature = e.pattern.signature) :
    (r.resolve p w (r.after st qs)).1.map Resolution.origin = .ok (.perWorld e.id) ↔
      r.claim? p = none ∧ r.catalogue.bound? p.signature = none ∧
        ∃ t start, r.FromStore st qs w t ∧ (r.table w (r.after st qs)).1 = t ∧
          (e.pattern.signature, ⟨e.id, start⟩) ∈ t.entries := by
  rw [resolve_eq_perWorld_iff he, hp]
  refine and_congr_right fun _ => and_congr_right fun _ => ?_
  constructor
  · rintro ⟨start, hentry⟩
    obtain hstored | ⟨seed, hderived⟩ := r.table_after_cases st qs w
    · exact ⟨_, start, hstored, rfl, hentry⟩
    · rw [hderived] at hentry
      exact absurd rfl (derive_ne_prototype hentry he rfl)
  · rintro ⟨t, start, -, rfl, hentry⟩
    exact ⟨start, hentry⟩

/-- A table that reaches the first of two secrets by the turns of its prototype. -/
def pair.published : SecretTable :=
  ⟨42, [("qaq", ⟨pair.first, .east⟩), ("eee", ⟨pair.second, .west⟩)], by decide⟩

theorem resolve_prototype_of_stored :
    let r := pair .default (by decide)
    let p : Pattern := ⟨.east, [.left, .leftBack, .left]⟩
    let st := (Store.empty.keep 7 pair.published).2
    (∃ e ∈ r.catalogue.prototypes, e.id = pair.first ∧ p.signature = e.pattern.signature) ∧
      (r.resolve p ⟨7, 42⟩ (r.after st [])).1.map Resolution.origin =
        .ok (.perWorld pair.first) :=
  ⟨⟨_, List.mem_cons_self, rfl, rfl⟩, by decide +kernel⟩

theorem resolve_prototype_after_nil :
    let r := pair .default (by decide)
    let st := (Store.empty.keep 7 pair.published).2
    ∃ t start, r.FromStore st [] ⟨7, 42⟩ t ∧ (r.table ⟨7, 42⟩ (r.after st [])).1 = t ∧
      ("qaq", ⟨pair.first, start⟩) ∈ t.entries := by
  intro r st
  let e : Entry Unit Unit :=
    ⟨pair.first, .perWorld, ⟨.east, [.left, .leftBack, .left]⟩, .constant ()⟩
  have he : e ∈ r.catalogue.prototypes := List.mem_cons_self
  have hreached : (r.resolve e.pattern ⟨7, 42⟩ (r.after st [])).1.map Resolution.origin =
      .ok (.perWorld e.id) := by decide +kernel
  exact ((r.resolve_prototype_after st [] ⟨7, 42⟩ he rfl).mp hreached).2.2

end Registry

end HexGesture
