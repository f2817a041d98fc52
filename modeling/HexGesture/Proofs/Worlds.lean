import HexGesture.Proofs.Review
import HexGesture.Registry.Query

/-! Tables in use. A table gets into memory in one way only: it is fetched when its world is first
asked for. What holds of every table that can be fetched therefore holds of every table that
answers a question, whatever was asked before and whatever became of the store. -/
namespace HexGesture

def Query.world? : Query → Option World
  | resolve _ w => some w
  | table w => some w
  | secret w _ => some w
  | unload _ => none
  | store _ => none

namespace Registry

variable {V E : Type}

/-- What a registry remembers after some questions, if at first it has nothing but a store. -/
def after (r : Registry V E) (st : Store) (qs : List Query) : Memory :=
  (r.answers qs ⟨∅, st, #[]⟩).2

/-- The store has something usable just when it has a table of the world's seed that passes the
review. -/
theorem judge_eq_usable_iff {r : Registry V E} {w : World}
    {loaded : Except SaveError (Option SecretTable)} {t : SecretTable} :
    (r.judge w loaded).1 = .usable t ↔
      loaded = .ok (some t) ∧ t.seed = w.seed ∧ (r.review t).usable = true := by
  match loaded with
  | .error why => simp [judge]
  | .ok none => simp [judge]
  | .ok (some u) =>
    simp only [judge, Except.ok.injEq, Option.some.injEq]
    by_cases hseed : u.seed = w.seed
    · by_cases husable : (r.review u).usable = true
      · simp only [hseed, husable, ne_eq, not_true_eq_false, if_false, if_true,
          Verdict.usable.injEq]
        constructor
        · rintro rfl
          exact ⟨rfl, hseed, husable⟩
        · exact fun h => h.1
      · simp only [hseed, husable, ne_eq, not_true_eq_false, if_false, reduceCtorEq, false_iff]
        rintro ⟨rfl, -, h⟩
        exact husable h
    · simp only [ne_eq, hseed, not_false_eq_true, if_true, reduceCtorEq, false_iff]
      rintro ⟨rfl, h, -⟩
      exact hseed h

def verdict (r : Registry V E) (w : World) (m : Memory) : Verdict × List Event :=
  r.judge w (r.backing.load m.store w.id).1

/-- Memory when the store has been asked for a world and before anything is derived. -/
def consulted (r : Registry V E) (w : World) (m : Memory) : Memory :=
  { m with store := (r.backing.load m.store w.id).2 }.tell
    ((r.verdict w m).2 ++ [(r.verdict w m).1.event w])

@[simp] theorem cache_consulted (r : Registry V E) (w : World) (m : Memory) :
    (r.consulted w m).cache = m.cache := rfl

@[simp] theorem rebuild_fst (r : Registry V E) (w : World) (m : Memory) :
    (r.rebuild w m).1 = (r.derive w.seed).table := rfl

@[simp] theorem cache_rebuild (r : Registry V E) (w : World) (m : Memory) :
    (r.rebuild w m).2.cache = m.cache := rfl

/-- A table is fetched by taking what the store has, if it is usable, or by making it anew. -/
theorem fetch_cases (r : Registry V E) (w : World) (m : Memory) :
    (∃ t, (r.verdict w m).1 = .usable t ∧ r.fetch w m = (t, r.consulted w m)) ∨
    ((∀ t, (r.verdict w m).1 ≠ .usable t) ∧ r.fetch w m = r.rebuild w (r.consulted w m)) := by
  simp only [fetch]
  split
  · next t ht => exact .inl ⟨t, ht, rfl⟩
  · next hno => exact .inr ⟨hno, rfl⟩

theorem sound_fetch (r : Registry V E) (w : World) (m : Memory) : r.Sound (r.fetch w m).1 := by
  obtain ⟨t, hv, hfetch⟩ | ⟨-, hfetch⟩ := r.fetch_cases w m
  · rw [hfetch]
    exact (usable_review_iff.mp (judge_eq_usable_iff.mp hv).2.2).1
  · rw [hfetch, rebuild_fst]
    exact r.sound_derive w.seed

theorem derive_subset_fetch (r : Registry V E) (w : World) (m : Memory) :
    (r.derive w.seed).table.operators ⊆ (r.fetch w m).1.operators := by
  obtain ⟨t, hv, hfetch⟩ | ⟨-, hfetch⟩ := r.fetch_cases w m
  · obtain ⟨-, hseed, husable⟩ := judge_eq_usable_iff.mp hv
    rw [hfetch, ← hseed]
    exact derive_subset_of_usable husable
  · rw [hfetch, rebuild_fst]
    exact List.Subset.refl _

@[simp] theorem cache_fetch (r : Registry V E) (w : World) (m : Memory) :
    (r.fetch w m).2.cache = m.cache := by
  obtain ⟨t, -, hfetch⟩ | ⟨-, hfetch⟩ := r.fetch_cases w m
  · rw [hfetch, cache_consulted]
  · rw [hfetch, cache_rebuild, cache_consulted]

theorem table_of_cached {r : Registry V E} {w : World} {m : Memory} {t : SecretTable}
    (h : m.cache[w.id]? = some t) : r.table w m = (t, m) := by simp [table, h]

theorem table_of_not_cached {r : Registry V E} {w : World} {m : Memory}
    (h : m.cache[w.id]? = none) :
    r.table w m = ((r.fetch w m).1,
      { (r.fetch w m).2 with cache := m.cache.insert w.id (r.fetch w m).1 }) := by
  simp [table, h]

theorem table_of_verdict {r : Registry V E} {w : World} {m : Memory} {t : SecretTable}
    (hnew : m.cache[w.id]? = none) (hverdict : (r.verdict w m).1 = .usable t) :
    (r.table w m).1 = t ∧ (r.table w m).2.store = (r.backing.load m.store w.id).2 := by
  obtain ⟨u, hu, hfetch⟩ | ⟨hno, -⟩ := r.fetch_cases w m
  · obtain rfl : t = u := Verdict.usable.inj (hverdict.symm.trans hu)
    rw [table_of_not_cached hnew, hfetch]
    exact ⟨rfl, rfl⟩
  · exact absurd hverdict (hno t)

theorem table_of_no_verdict {r : Registry V E} {w : World} {m : Memory}
    (hnew : m.cache[w.id]? = none) (hno : ∀ t, (r.verdict w m).1 ≠ .usable t) :
    (r.table w m).1 = (r.derive w.seed).table ∧
      (r.table w m).2.store =
        (r.backing.save (r.backing.load m.store w.id).2 w.id (r.derive w.seed).table).2 := by
  obtain ⟨t, hverdict, -⟩ | ⟨-, hfetch⟩ := r.fetch_cases w m
  · exact absurd hverdict (hno t)
  · rw [table_of_not_cached hnew, hfetch]
    exact ⟨rfl, rfl⟩

theorem cached_table (r : Registry V E) (w : World) (m : Memory) :
    (r.table w m).2.cache[w.id]? = some (r.table w m).1 := by
  cases h : m.cache[w.id]? with
  | some t => rw [table_of_cached h, h]
  | none =>
    rw [table_of_not_cached h]
    exact Std.ExtTreeMap.getElem?_insert_self

theorem table_table (r : Registry V E) (w : World) (m : Memory) :
    r.table w (r.table w m).2 = r.table w m := table_of_cached (r.cached_table w m)

theorem table_cases (r : Registry V E) (w : World) (m : Memory) :
    m.cache[w.id]? = some (r.table w m).1 ∨ (r.table w m).1 = (r.fetch w m).1 := by
  cases h : m.cache[w.id]? with
  | some t => exact .inl (by rw [table_of_cached h])
  | none => exact .inr (by rw [table_of_not_cached h])

theorem cached_table_cases {r : Registry V E} {w : World} {m : Memory} {world : UInt64}
    {t : SecretTable} (h : (r.table w m).2.cache[world]? = some t) :
    m.cache[world]? = some t ∨ w.id = world ∧ t = (r.fetch w m).1 := by
  cases hm : m.cache[w.id]? with
  | some u =>
    rw [table_of_cached hm] at h
    exact .inl h
  | none =>
    rw [table_of_not_cached hm] at h
    by_cases hw : w.id = world
    · subst hw
      have ht : (r.fetch w m).1 = t := by simpa using h
      exact .inr ⟨rfl, ht.symm⟩
    · have hkept : m.cache[world]? = some t := by
        simpa [Std.ExtTreeMap.getElem?_insert, hw] using h
      exact .inl hkept

/-- A drawing is looked up in the world's table only if nothing else answers for it. -/
theorem resolve_snd_cases (r : Registry V E) (p : Pattern) (w : World) (m : Memory) :
    ∃ events, (r.resolve p w m).2 = m.tell events ∨
      (r.resolve p w m).2 = (r.table w m).2.tell events := by
  cases hclaim : r.claim? p with
  | some h => exact ⟨[.byHandler h.1], .inl (by simp [resolve, hclaim])⟩
  | none =>
    cases hglobal : r.catalogue.globalFor? p.signature with
    | some e => exact ⟨[.byGlobal e.id], .inl (by simp [resolve, hclaim, hglobal])⟩
    | none =>
      simp only [resolve, hclaim, hglobal]
      split
      · exact ⟨_, .inr rfl⟩
      · exact ⟨[], .inr (by simp [Memory.tell])⟩

theorem secretPattern_snd (r : Registry V E) (w : World) (id : OperatorId) (m : Memory) :
    (r.secretPattern w id m).2 = (r.table w m).2 := by
  simp only [secretPattern]
  split <;> rfl

theorem cache_unload (m : Memory) (gone world : UInt64) :
    (m.unload gone).2.cache[world]? = if gone == world then none else m.cache[world]? := by
  rw [Memory.unload]
  split
  · simp [Memory.tell, Std.ExtTreeMap.getElem?_erase]
  · next hno =>
    have hnone : m.cache[gone]? = none := by simpa using hno
    by_cases hid : gone = world
    · subst hid
      simp [hnone]
    · simp [hid]

@[simp] theorem store_unload (m : Memory) (gone : UInt64) :
    (m.unload gone).2.store = m.store := by
  rw [Memory.unload]
  split <;> rfl

theorem cached_unload {m : Memory} {gone world : UInt64} {t : SecretTable}
    (h : (m.unload gone).2.cache[world]? = some t) : m.cache[world]? = some t := by
  rw [cache_unload] at h
  split at h
  · cases h
  · exact h

theorem cached_answer_cases {r : Registry V E} {q : Query} {m : Memory} {world : UInt64}
    {t : SecretTable} (h : (r.answer q m).2.cache[world]? = some t) :
    m.cache[world]? = some t ∨
      ∃ w, q.world? = some w ∧ w.id = world ∧ t = (r.fetch w m).1 := by
  cases q with
  | resolve p w =>
    have hcache : (r.resolve p w m).2.cache[world]? = some t := h
    obtain ⟨events, hsame | htable⟩ := r.resolve_snd_cases p w m
    · rw [hsame] at hcache
      exact .inl hcache
    · rw [htable] at hcache
      exact (cached_table_cases hcache).imp_right fun hw => ⟨w, rfl, hw⟩
  | table w => exact (cached_table_cases h).imp_right fun hw => ⟨w, rfl, hw⟩
  | secret w id =>
    have hcache : (r.secretPattern w id m).2.cache[world]? = some t := h
    rw [secretPattern_snd] at hcache
    exact (cached_table_cases hcache).imp_right fun hw => ⟨w, rfl, hw⟩
  | unload gone => exact .inl (cached_unload h)
  | store c => exact .inl h

/-- After any number of questions, a table in memory was there before or one of them fetched it. -/
theorem cached_answers_cases {r : Registry V E} {qs : List Query} {m : Memory} {world : UInt64}
    {t : SecretTable} (h : (r.answers qs m).2.cache[world]? = some t) :
    m.cache[world]? = some t ∨
      ∃ before q later w, qs = before ++ q :: later ∧ q.world? = some w ∧ w.id = world ∧
        t = (r.fetch w (r.answers before m).2).1 := by
  induction qs generalizing m with
  | nil => exact .inl h
  | cons q qs ih =>
    rcases ih h with hcached | ⟨before, q', later, w, hqs, hfetched⟩
    · obtain hbefore | ⟨w, hw⟩ := cached_answer_cases hcached
      · exact .inl hbefore
      · exact .inr ⟨[], q, qs, w, rfl, hw⟩
    · exact .inr ⟨q :: before, q', later, w, by rw [hqs, List.cons_append], hfetched⟩

/-- The table that answers for a world was fetched by the first question about it since it was
last forgotten, which may be the one that is asked now. -/
theorem table_after (r : Registry V E) (st : Store) (qs : List Query) (w : World) :
    ∃ before q later w', qs ++ [.table w] = before ++ q :: later ∧ q.world? = some w' ∧
      w'.id = w.id ∧ (r.table w (r.after st qs)).1 = (r.fetch w' (r.after st before)).1 := by
  obtain hcached | hfetched := r.table_cases w (r.after st qs)
  · obtain hempty | ⟨before, q, later, w', rfl, hq, hid, ht⟩ := cached_answers_cases hcached
    · simp at hempty
    · exact ⟨before, q, later ++ [.table w], w', by simp, hq, hid, ht⟩
  · exact ⟨qs, .table w, [], w, rfl, rfl, rfl, hfetched⟩

theorem sound_table_after (r : Registry V E) (st : Store) (qs : List Query) (w : World) :
    r.Sound (r.table w (r.after st qs)).1 := by
  obtain ⟨before, q, later, w', -, -, -, ht⟩ := r.table_after st qs w
  rw [ht]
  exact r.sound_fetch w' (r.after st before)

end Registry

end HexGesture
