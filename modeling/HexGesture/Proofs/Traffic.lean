import HexGesture.Proofs.Seeds
import HexGesture.Proofs.Stored
import HexGesture.Proofs.Isolation
import Mathlib.Data.Set.Card

/-! What a registry asks of its store. A world's table is loaded once when it is first needed, and
not again until the world is unloaded; a save follows such a load, and only if what was loaded is of
no use. Nothing else that is asked of a registry reaches the store. -/
namespace HexGesture

/-- What is done with a registry: a request, or a derivation that nobody remembers. -/
inductive Access
  | request (x : Request)
  | derive (seed : UInt64)

namespace Access

def query? : Access → Option Query
  | request (.ask q) => some q
  | request (.lookup _) => none
  | derive _ => none

def Outside (x : Access) : Prop := ∃ c, x = request (.ask (.store c))

theorem query?_eq_some {x : Access} {q : Query} (h : x.query? = some q) : x = request (.ask q) := by
  match x with
  | request (.ask q') =>
    cases h
    rfl
  | request (.lookup id) => cases h
  | derive seed => cases h

def queries (xs : List Access) : List Query := xs.filterMap query?

theorem queries_concat (xs : List Access) (x : Access) :
    queries (xs ++ [x]) = queries xs ++ x.query?.toList := by
  cases h : x.query? <;> simp [queries, h]

end Access

namespace Store

variable (st : Store) (world : UInt64) (t : SecretTable)

@[simp] theorem loads_save : (st.save world t).2.loads = st.loads := by
  simp only [save, keep]
  split
  · rfl
  · split <;> rfl

variable {st t}

theorem records_save (hworks : st.failing = false) {data : List UInt8}
    (hwrite : t.write = .ok data) :
    (st.save world t).2.records = st.records.insert world data := by
  simp [save, keep, hworks, hwrite, overwrite]

theorem records_save_of_failing (h : st.failing = true ∨ ∃ why, t.write = .error why) :
    (st.save world t).2.records = st.records := by
  obtain hfailing | ⟨why, hwrite⟩ := h
  · simp [save, hfailing]
  · simp only [save, keep, hwrite]
    split <;> rfl

end Store

namespace Registry

variable {V E : Type}

def serve (r : Registry V E) (m : Memory) : Access → Memory
  | .request x => (r.respond x m).2
  | .derive seed => m.tell (r.derive seed).events

/-- Memory after a run, if at first there is nothing but a store. -/
def served (r : Registry V E) (st : Store) (xs : List Access) : Memory :=
  xs.foldl r.serve ⟨∅, st, #[]⟩

theorem served_concat (r : Registry V E) (st : Store) (xs : List Access) (x : Access) :
    r.served st (xs ++ [x]) = r.serve (r.served st xs) x := by simp [served]

/-- The world whose table is needed and was not needed since the world was last unloaded. -/
def opens? (r : Registry V E) (xs : List Access) (x : Access) : Option World :=
  (x.query?.bind r.needed?).filter fun w => (r.opener? w.id (Access.queries xs)).isNone

/-- The worlds whose tables are needed anew in a run that comes after another one. -/
def openings (r : Registry V E) (past : List Access) : List Access → List World
  | [] => []
  | x :: xs => (r.opens? past x).toList ++ r.openings (past ++ [x]) xs

/-- What the store has for a world cannot be used: there is nothing, or nothing that can be read,
or a table of another seed or one that does not pass the review. -/
def Rejects (r : Registry V E) (w : World) (found : Except SaveError (Option SecretTable)) : Prop :=
  found = .ok none ∨ (∃ why, found = .error why) ∨
    ∃ t, found = .ok (some t) ∧ (t.seed ≠ w.seed ∨ (r.review t).usable = false)

theorem rejects_iff {r : Registry V E} {w : World}
    {found : Except SaveError (Option SecretTable)} :
    r.Rejects w found ↔ ∀ t, (r.judge w found).1 ≠ .usable t := by
  simp only [ne_eq, judge_eq_usable_iff]
  match found with
  | .error why => simp [Rejects]
  | .ok none => simp [Rejects]
  | .ok (some t) => simp [Rejects, or_iff_not_imp_left]

theorem not_needed_of_origin {r : Registry V E} {p : Pattern} {w : World} {m : Memory}
    {origin : Origin} (h : (r.resolve p w m).1.map Resolution.origin = .ok origin)
    (horigin : ∀ id, origin ≠ .perWorld id) : r.needed? (.resolve p w) = none := by
  cases hclaim : r.claim? p with
  | some c => simp [needed?, hclaim]
  | none =>
    cases hglobal : r.catalogue.globalFor? p.signature with
    | some e => simp [needed?, hclaim, hglobal]
    | none =>
      simp only [resolve, hclaim, hglobal] at h
      split at h
      · next e _ =>
        cases h
        exact absurd rfl (horigin e.id)
      · cases h

theorem store_answer_of_not_needed {r : Registry V E} {q : Query} (h : r.needed? q = none)
    (hq : ∀ c, q ≠ .store c) (m : Memory) : (r.answer q m).2.store = m.store := by
  cases q with
  | resolve p w =>
    obtain ⟨events, hresolve⟩ := resolve_of_not_needed h m
    rw [answer, hresolve, Memory.store_tell]
  | table w => cases h
  | secret w id => cases h
  | unload gone => exact store_unload m gone
  | store c => exact absurd rfl (hq c)

theorem serve_of_query {x : Access} {q : Query} (h : x.query? = some q) (r : Registry V E)
    (m : Memory) : r.serve m x = (r.answer q m).2 := by
  rw [Access.query?_eq_some h]
  rfl

theorem serve_of_no_query {x : Access} (h : x.query? = none) (r : Registry V E) (m : Memory) :
    ∃ events, r.serve m x = m.tell events := by
  match x with
  | .request (.ask q) => cases h
  | .request (.lookup id) => exact ⟨[], by simp [serve, respond, Memory.tell]⟩
  | .derive seed => exact ⟨_, rfl⟩

theorem seed?_served (r : Registry V E) (st : Store) (xs : List Access) (world : UInt64) :
    (r.served st xs).seed? world = (r.opener? world (Access.queries xs)).map World.seed := by
  induction xs using List.reverseRecOn with
  | nil => simp [served, Access.queries, Memory.seed?, opener?]
  | append_singleton xs x ih =>
    rw [served_concat, Access.queries_concat]
    cases hx : x.query? with
    | none =>
      obtain ⟨events, hserve⟩ := r.serve_of_no_query hx (r.served st xs)
      rw [hserve, Option.toList_none, List.append_nil]
      exact ih
    | some q =>
      rw [serve_of_query hx]
      exact seed?_answer_of_opener ih q

theorem isSome_cache_served (r : Registry V E) (st : Store) (xs : List Access) (world : UInt64) :
    (r.served st xs).cache[world]?.isSome = (r.opener? world (Access.queries xs)).isSome := by
  have hseed := congrArg Option.isSome (r.seed?_served st xs world)
  simpa [Memory.seed?] using hseed

theorem opens?_eq_some {r : Registry V E} {xs : List Access} {x : Access} {w : World}
    (h : r.opens? xs x = some w) :
    (∃ q, x.query? = some q ∧ r.needed? q = some w) ∧
      r.opener? w.id (Access.queries xs) = none := by
  simpa [opens?, Option.filter_eq_some_iff, Option.bind_eq_some_iff] using h

/-- Whatever opens a world finds no table at hand and asks for one. -/
theorem serve_of_opens {r : Registry V E} {xs : List Access} {x : Access} {w : World}
    (h : r.opens? xs x = some w) (st : Store) :
    (r.served st xs).cache[w.id]? = none ∧
      ∃ events, r.serve (r.served st xs) x = (r.table w (r.served st xs)).2.tell events := by
  obtain ⟨⟨q, hq, hneed⟩, hnew⟩ := opens?_eq_some h
  have hcache := r.isSome_cache_served st xs w.id
  rw [hnew, Option.isSome_none, Option.isSome_eq_false_iff, Option.isNone_iff_eq_none] at hcache
  rw [serve_of_query hq]
  exact ⟨hcache, answer_of_needed hneed _⟩

theorem store_serve_of_not_opens {r : Registry V E} {xs : List Access} {x : Access}
    (hx : ¬ x.Outside) (h : r.opens? xs x = none) (st : Store) :
    (r.serve (r.served st xs) x).store = (r.served st xs).store := by
  cases hq : x.query? with
  | none =>
    obtain ⟨events, hserve⟩ := r.serve_of_no_query hq (r.served st xs)
    rw [hserve, Memory.store_tell]
  | some q =>
    rw [serve_of_query hq]
    cases hneed : r.needed? q with
    | none =>
      refine store_answer_of_not_needed hneed ?_ _
      rintro c rfl
      exact hx ⟨c, Access.query?_eq_some hq⟩
    | some w =>
      have hcache := r.isSome_cache_served st xs w.id
      have hopener : (r.opener? w.id (Access.queries xs)).isSome = true := by
        simpa [opens?, hq, hneed, Option.filter_eq_none_iff, Option.isSome_iff_ne_none] using h
      rw [hopener, Option.isSome_iff_exists] at hcache
      obtain ⟨t, ht⟩ := hcache
      obtain ⟨events, hanswer⟩ := answer_of_needed hneed (r.served st xs)
      rw [hanswer, Memory.store_tell, table_of_cached ht]

section Opening

variable {r : Registry V E} {w : World} {m : Memory}

/-- What is of no use is replaced, and the store is asked once to load and once to save. -/
theorem store_table_of_rejects (hstore : r.backing = .store) (hnew : m.cache[w.id]? = none)
    (hreject : r.Rejects w (m.store.peek w.id)) :
    (r.table w m).1 = (r.derive w.seed).table ∧ (r.table w m).2.store =
      ((m.store.load w.id).2.save w.id (r.derive w.seed).table).2 := by
  have hno : ∀ t, (r.verdict w m).1 ≠ .usable t := by
    rw [verdict, hstore]
    exact rejects_iff.mp hreject
  have htable := table_of_no_verdict hnew hno
  rw [hstore] at htable
  exact htable

theorem store_table_of_not_rejects (hstore : r.backing = .store) (hnew : m.cache[w.id]? = none)
    (hreject : ¬ r.Rejects w (m.store.peek w.id)) :
    m.store.peek w.id = .ok (some (r.table w m).1) ∧
      (r.table w m).2.store = (m.store.load w.id).2 := by
  rw [rejects_iff] at hreject
  push Not at hreject
  obtain ⟨t, ht⟩ := hreject
  have hverdict : (r.verdict w m).1 = .usable t := by
    rw [verdict, hstore]
    exact ht
  obtain ⟨htable, hload⟩ := table_of_verdict hnew hverdict
  rw [hstore] at hload
  rw [htable]
  exact ⟨(judge_eq_usable_iff.mp ht).1, hload⟩

end Opening

/-- Opening a world costs one load. It costs one save if what is loaded is of no use, and none
otherwise. -/
theorem store_serve_of_opens {r : Registry V E} (hstore : r.backing = .store) {xs : List Access}
    {x : Access} {w : World} (h : r.opens? xs x = some w) (st : Store) :
    let m := r.served st xs
    (r.Rejects w (m.store.peek w.id) → (r.table w m).1 = (r.derive w.seed).table ∧
      (r.serve m x).store = ((m.store.load w.id).2.save w.id (r.derive w.seed).table).2) ∧
    (¬ r.Rejects w (m.store.peek w.id) → m.store.peek w.id = .ok (some (r.table w m).1) ∧
      (r.serve m x).store = (m.store.load w.id).2) := by
  intro m
  obtain ⟨hnew, events, hserve⟩ := serve_of_opens h st
  rw [hserve, Memory.store_tell]
  exact ⟨store_table_of_rejects hstore hnew, store_table_of_not_rejects hstore hnew⟩

theorem loads_serve_of_opens {r : Registry V E} (hstore : r.backing = .store) {xs : List Access}
    {x : Access} {w : World} (h : r.opens? xs x = some w) (st : Store) :
    (r.serve (r.served st xs) x).store.loads = (r.served st xs).store.loads + 1 ∧
      (r.serve (r.served st xs) x).store.saves ≤ (r.served st xs).store.saves + 1 := by
  obtain ⟨hreject, huse⟩ := store_serve_of_opens hstore h st
  by_cases hr : r.Rejects w ((r.served st xs).store.peek w.id)
  · rw [(hreject hr).2, Store.loads_save]
    exact ⟨rfl, (Backing.saves_save _ _ _).le⟩
  · rw [(huse hr).2]
    exact ⟨rfl, Nat.le_succ _⟩

theorem openings_concat (r : Registry V E) (past xs : List Access) (x : Access) :
    r.openings past (xs ++ [x]) = r.openings past xs ++ (r.opens? (past ++ xs) x).toList := by
  induction xs generalizing past with
  | nil => simp [openings]
  | cons y xs ih => simp [openings, ih]

/-- In a run in which nobody else uses the store, it is asked to load once for each opening, and to
save no more often than that. -/
theorem loads_served {r : Registry V E} (hstore : r.backing = .store) (st : Store)
    {xs : List Access} (hxs : ∀ x ∈ xs, ¬ x.Outside) :
    (r.served st xs).store.loads = st.loads + (r.openings [] xs).length ∧
      (r.served st xs).store.saves ≤ st.saves + (r.openings [] xs).length := by
  induction xs using List.reverseRecOn with
  | nil => exact ⟨rfl, Nat.le_refl _⟩
  | append_singleton xs x ih =>
    obtain ⟨hloads, hsaves⟩ := ih fun y hy => hxs y (List.mem_append_left _ hy)
    rw [served_concat, openings_concat, List.nil_append, List.length_append]
    cases hopens : r.opens? xs x with
    | none =>
      rw [store_serve_of_not_opens (hxs x (by simp)) hopens]
      exact ⟨hloads, hsaves⟩
    | some w =>
      obtain ⟨hload, hsave⟩ := loads_serve_of_opens hstore hopens st
      simp only [Option.toList_some, List.length_singleton]
      omega

/-- As many worlds are at hand as there are ids with an opener. -/
theorem size_cache_served (r : Registry V E) (st : Store) (xs : List Access) :
    (r.served st xs).cache.size =
      {world | (r.opener? world (Access.queries xs)).isSome = true}.ncard := by
  have hids : {world | (r.opener? world (Access.queries xs)).isSome = true} =
      ((r.served st xs).cache.keys.toFinset : Set UInt64) := by
    ext world
    rw [Set.mem_ofPred_eq, ← r.isSome_cache_served st, List.coe_toFinset, Set.mem_ofPred_eq,
      Std.ExtTreeMap.mem_keys, Std.ExtTreeMap.isSome_getElem?_iff_mem]
  rw [hids, Set.ncard_coe_finset, List.toFinset_card_of_nodup Std.ExtTreeMap.nodup_keys,
    Std.ExtTreeMap.length_keys]

theorem unload_served (r : Registry V E) (st : Store) (xs : List Access) (world : UInt64) :
    ((r.served st xs).unload world).1 = (r.opener? world (Access.queries xs)).isSome := by
  rw [← r.isSome_cache_served st, Std.ExtTreeMap.isSome_getElem?_eq_contains, Memory.unload]
  split
  · next h => exact h.symm
  · next h => exact (Bool.eq_false_iff.mpr h).symm

/-- A request reaches the store only if it opens a world: then there is one load, and one save just
when what is loaded is of no use. Worlds at hand are those opened and not unloaded since. -/
theorem store_traffic (r : Registry V E) (hstore : r.backing = .store) (st : Store)
    (xs : List Access) :
    (∀ x, ¬ x.Outside → r.opens? xs x = none →
      (r.serve (r.served st xs) x).store = (r.served st xs).store) ∧
    (∀ x w, r.opens? xs x = some w →
      let m := r.served st xs
      let m' := r.serve m x
      let t := (r.table w m).1
      m'.cache[w.id]? = some t ∧ m'.store.loads = m.store.loads + 1 ∧
      (r.Rejects w (m.store.peek w.id) →
        t = (r.derive w.seed).table ∧ m'.store.saves = m.store.saves + 1 ∧
        (∀ data, m.store.failing = false → t.write = .ok data →
          m'.store.records = m.store.records.insert w.id data) ∧
        (m.store.failing = true ∨ (∃ why, t.write = .error why) →
          m'.store.records = m.store.records)) ∧
      (¬ r.Rejects w (m.store.peek w.id) →
        m.store.peek w.id = .ok (some t) ∧ m'.store.saves = m.store.saves ∧
        m'.store.records = m.store.records)) ∧
    (∀ p w origin, (r.resolve p w (r.served st xs)).1.map Resolution.origin = .ok origin →
      (∀ id, origin ≠ .perWorld id) →
      (r.resolve p w (r.served st xs)).2.store = (r.served st xs).store ∧
        (r.resolve p w (r.served st xs)).2.cache = (r.served st xs).cache) ∧
    (r.served st xs).cache.size =
      {world | (r.opener? world (Access.queries xs)).isSome = true}.ncard ∧
    (∀ world, ((r.served st xs).unload world).1 =
      (r.opener? world (Access.queries xs)).isSome) ∧
    ((∀ x ∈ xs, ¬ x.Outside) →
      (r.served st xs).store.loads = st.loads + (r.openings [] xs).length ∧
        (r.served st xs).store.saves ≤ st.saves + (r.openings [] xs).length) := by
  refine ⟨fun x hx h => store_serve_of_not_opens hx h st, ?_, ?_, r.size_cache_served st xs,
    r.unload_served st xs, fun hxs => loads_served hstore st hxs⟩
  · intro x w h m m' t
    obtain ⟨hreject, huse⟩ := store_serve_of_opens hstore h st
    obtain ⟨-, events, hserve⟩ := serve_of_opens h st
    refine ⟨?_, (loads_serve_of_opens hstore h st).1, ?_, ?_⟩
    · change (r.serve (r.served st xs) x).cache[w.id]? = some t
      rw [hserve]
      exact r.cached_table w m
    · intro hr
      obtain ⟨htable, hsave⟩ := hreject hr
      have ht : t = (r.derive w.seed).table := htable
      have hafter : m'.store = ((m.store.load w.id).2.save w.id t).2 := by
        rw [ht]
        exact hsave
      rw [hafter]
      refine ⟨ht, Backing.saves_save _ _ _, ?_, ?_⟩
      · intro data hworks hwrite
        have hloaded : (m.store.load w.id).2.failing = false := hworks
        exact Store.records_save w.id hloaded hwrite
      · intro hfails
        have hloaded : (m.store.load w.id).2.failing = true ∨ ∃ why, t.write = .error why := hfails
        exact Store.records_save_of_failing w.id hloaded
    · intro hr
      obtain ⟨hpeek, hload⟩ := huse hr
      have hafter : m'.store = (m.store.load w.id).2 := hload
      rw [hafter]
      exact ⟨hpeek, rfl, rfl⟩
  · intro p w origin horigin hnot
    obtain ⟨events, hresolve⟩ :=
      resolve_of_not_needed (not_needed_of_origin horigin hnot) (r.served st xs)
    rw [hresolve]
    exact ⟨rfl, rfl⟩

theorem store_traffic_mixed :
    let xs : List Access := [.request (.ask (.table ⟨7, 42⟩)), .derive 3,
      .request (.lookup mixed.secret), .request (.ask (.unload 7))]
    let x : Access := .request (.ask (.secret ⟨7, 42⟩ mixed.secret))
    mixed.opens? xs x = some ⟨7, 42⟩ ∧
      ((mixed.served .empty xs).unload 7).1 = false ∧
      (mixed.serve (mixed.served .empty xs) x).store.loads = 2 := by
  intro xs x
  have hopens : mixed.opens? xs x = some ⟨7, 42⟩ := by decide +kernel
  have hinside : ∀ y ∈ xs, ¬ y.Outside := by
    simp [xs, Access.Outside]
  have hopenings : (mixed.openings [] xs).length = 1 := by decide +kernel
  obtain ⟨-, hopen, -, -, hunload, hcount⟩ := mixed.store_traffic rfl .empty xs
  refine ⟨hopens, (hunload 7).trans (by decide +kernel), ?_⟩
  rw [(hopen x _ hopens).2.1, (hcount hinside).1, hopenings]
  rfl

end Registry

end HexGesture
