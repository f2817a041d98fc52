import HexGesture.Proofs.Resolution
import Mathlib.Data.List.DropRight

/-! Whose seed a table has. A table is fetched for the seed that is named at that moment and kept
under the id of its world alone. It then answers for the id until that world is unloaded, whatever
seeds are named meanwhile. So a world's table has the seed of the first question that needed it
since the world was last unloaded, and no other. -/
namespace HexGesture

def Query.unloads (world : UInt64) : Query → Bool
  | unload gone => gone == world
  | _ => false

def Memory.seed? (m : Memory) (world : UInt64) : Option UInt64 :=
  m.cache[world]?.map SecretTable.seed

@[simp] theorem Memory.store_tell (m : Memory) (events : List Event) :
    (m.tell events).store = m.store := rfl

namespace Registry

variable {V E : Type}

/-- The world whose table a question is answered from. A drawing that a handler claims, or that has
the turns of a global entry, needs no table. -/
def needed? (r : Registry V E) : Query → Option World
  | .resolve p w =>
    if (r.claim? p).isNone && (r.catalogue.globalFor? p.signature).isNone then some w else none
  | .table w => some w
  | .secret w _ => some w
  | .unload _ => none
  | .store _ => none

/-- The world for which the table of an id was needed first since the id was last unloaded. -/
def opener? (r : Registry V E) (world : UInt64) (qs : List Query) : Option World :=
  ((qs.rtakeWhile fun q => !q.unloads world).filterMap r.needed?).find? (·.id == world)

theorem world?_of_needed {r : Registry V E} {q : Query} {w : World} (h : r.needed? q = some w) :
    q.world? = some w := by
  cases q with
  | resolve p w' =>
    simp only [needed?] at h
    split at h
    · exact h
    · cases h
  | table w' => exact h
  | secret w' id => exact h
  | unload gone => cases h
  | store c => cases h

theorem exists_of_opener {r : Registry V E} {world : UInt64} {qs : List Query} {w : World}
    (h : r.opener? world qs = some w) :
    w.id = world ∧ ∃ q ∈ qs.rtakeWhile fun q => !q.unloads world, q.world? = some w := by
  have hid : w.id = world := by simpa using List.find?_some h
  obtain ⟨q, hq, hneed⟩ := List.mem_filterMap.mp (List.mem_of_find?_eq_some h)
  exact ⟨hid, q, hq, world?_of_needed hneed⟩

theorem opener?_concat (r : Registry V E) (world : UInt64) (qs : List Query) (q : Query) :
    r.opener? world (qs ++ [q]) =
      if q.unloads world then none
      else (r.opener? world qs).or ((r.needed? q).filter (·.id == world)) := by
  rw [opener?, List.rtakeWhile_concat]
  by_cases hq : q.unloads world = true
  · simp [hq]
  · have hlast : (List.filterMap r.needed? [q]).find? (·.id == world) =
        (r.needed? q).filter (·.id == world) := by
      cases hneed : r.needed? q with
      | none => simp [hneed]
      | some w => by_cases hid : w.id = world <;> simp [hneed, hid, Option.filter]
    simp only [hq, Bool.not_false, if_true, List.filterMap_append, List.find?_append, hlast]
    rfl

theorem seed_fetch (r : Registry V E) (w : World) (m : Memory) :
    (r.fetch w m).1.seed = w.seed := by
  obtain ⟨t, hverdict, hfetch⟩ | ⟨-, hfetch⟩ := r.fetch_cases w m
  · rw [hfetch]
    exact (judge_eq_usable_iff.mp hverdict).2.1
  · rw [hfetch, rebuild_fst, seed_derive]

theorem seed_table (r : Registry V E) (w : World) (m : Memory) :
    (r.table w m).1.seed = (m.seed? w.id).getD w.seed := by
  cases hm : m.cache[w.id]? with
  | some t => simp [table_of_cached hm, Memory.seed?, hm]
  | none => simp [table_of_not_cached hm, Memory.seed?, hm, seed_fetch]

/-- Asking for a table puts one at hand if there is none, and never exchanges one. -/
theorem seed?_table (r : Registry V E) (w : World) (m : Memory) (world : UInt64) :
    (r.table w m).2.seed? world =
      (m.seed? world).or (((some w).filter (·.id == world)).map World.seed) := by
  cases hm : m.cache[w.id]? with
  | some t =>
    rw [table_of_cached hm]
    by_cases hid : w.id = world
    · subst hid
      simp [Memory.seed?, hm]
    · simp [Option.filter, hid]
  | none =>
    rw [table_of_not_cached hm]
    by_cases hid : w.id = world
    · subst hid
      simp [Memory.seed?, hm, seed_fetch]
    · simp [Memory.seed?, Option.filter, hid, Std.ExtTreeMap.getElem?_insert]

theorem resolve_of_needed {r : Registry V E} {p : Pattern} {w w' : World}
    (h : r.needed? (.resolve p w) = some w') (m : Memory) :
    ∃ events, (r.resolve p w m).2 = (r.table w' m).2.tell events := by
  simp only [needed?] at h
  split at h
  · next hfree =>
    cases h
    simp only [Bool.and_eq_true, Option.isNone_iff_eq_none] at hfree
    simp only [resolve, hfree.1, hfree.2]
    split
    · exact ⟨_, rfl⟩
    · exact ⟨[], by simp [Memory.tell]⟩
  · cases h

theorem resolve_of_not_needed {r : Registry V E} {p : Pattern} {w : World}
    (h : r.needed? (.resolve p w) = none) (m : Memory) :
    ∃ events, (r.resolve p w m).2 = m.tell events := by
  cases hclaim : r.claim? p with
  | some c => exact ⟨[.byHandler c.1], by simp [resolve, hclaim]⟩
  | none =>
    cases hglobal : r.catalogue.globalFor? p.signature with
    | some e => exact ⟨[.byGlobal e.id], by simp [resolve, hclaim, hglobal]⟩
    | none => simp [needed?, hclaim, hglobal] at h

theorem answer_of_needed {r : Registry V E} {q : Query} {w : World} (h : r.needed? q = some w)
    (m : Memory) : ∃ events, (r.answer q m).2 = (r.table w m).2.tell events := by
  cases q with
  | resolve p w' => exact resolve_of_needed h m
  | table w' =>
    cases h
    exact ⟨[], by simp [answer, Memory.tell]⟩
  | secret w' id =>
    cases h
    exact ⟨[], by simp [answer, secretPattern_snd, Memory.tell]⟩
  | unload gone => cases h
  | store c => cases h

theorem cache_answer_of_not_needed {r : Registry V E} {q : Query} (h : r.needed? q = none)
    (m : Memory) (world : UInt64) :
    (r.answer q m).2.cache[world]? = if q.unloads world then none else m.cache[world]? := by
  cases q with
  | resolve p w =>
    obtain ⟨events, hresolve⟩ := resolve_of_not_needed h m
    rw [answer, hresolve]
    rfl
  | table w => cases h
  | secret w id => cases h
  | unload gone => exact cache_unload m gone world
  | store c => rfl

theorem seed?_answer (r : Registry V E) (q : Query) (m : Memory) (world : UInt64) :
    (r.answer q m).2.seed? world =
      if q.unloads world then none
      else (m.seed? world).or (((r.needed? q).filter (·.id == world)).map World.seed) := by
  cases hneed : r.needed? q with
  | none =>
    rw [Memory.seed?, cache_answer_of_not_needed hneed]
    split
    · rfl
    · simp [Memory.seed?]
  | some w =>
    obtain ⟨events, hanswer⟩ := answer_of_needed hneed m
    have hkeeps : q.unloads world = false := by
      cases q with
      | unload gone => cases hneed
      | _ => rfl
    rw [hanswer, hkeeps]
    exact r.seed?_table w m world

theorem answers_concat (r : Registry V E) (qs : List Query) (q : Query) (m : Memory) :
    (r.answers (qs ++ [q]) m).2 = (r.answer q (r.answers qs m).2).2 := by
  induction qs generalizing m with
  | nil => rfl
  | cons x qs ih => exact ih (r.answer x m).2

theorem seed?_answer_of_opener {r : Registry V E} {qs : List Query} {m : Memory} {world : UInt64}
    (h : m.seed? world = (r.opener? world qs).map World.seed) (q : Query) :
    (r.answer q m).2.seed? world = (r.opener? world (qs ++ [q])).map World.seed := by
  rw [seed?_answer, h, opener?_concat]
  by_cases hq : q.unloads world = true
  · simp [hq]
  · simp only [hq, if_false, Bool.false_eq_true]
    cases r.opener? world qs <;> rfl

/-- After any questions, what is at hand for an id has the seed that its opener named, and nothing
is at hand if there is no opener. -/
theorem seed?_after (r : Registry V E) (st : Store) (qs : List Query) (world : UInt64) :
    (r.after st qs).seed? world = (r.opener? world qs).map World.seed := by
  induction qs using List.reverseRecOn with
  | nil => simp [after, answers, Memory.seed?, opener?]
  | append_singleton qs q ih =>
    have hstep : r.after st (qs ++ [q]) = (r.answer q (r.after st qs)).2 := r.answers_concat qs q _
    rw [hstep]
    exact seed?_answer_of_opener ih q

/-- The table that answers for a world has the seed that was named when it was first needed since
the world was last unloaded. That is the seed named now just when the opener named the same. -/
theorem seed_table_after (r : Registry V E) (st : Store) (qs : List Query) (w : World) :
    (r.table w (r.after st qs)).1.seed = ((r.opener? w.id qs).getD w).seed ∧
    ((r.table w (r.after st qs)).1.seed = w.seed ↔
      ∀ w', r.opener? w.id qs = some w' → w'.seed = w.seed) ∧
    ((∀ q ∈ qs.rtakeWhile fun q => !q.unloads w.id, ∀ w',
        q.world? = some w' → w'.id = w.id → w'.seed = w.seed) →
      (r.table w (r.after st qs)).1.seed = w.seed) ∧
    ∀ p id, (r.resolve p w (r.after st qs)).1.map Resolution.origin = .ok (.perWorld id) →
      ∃ start, (p.signature, ⟨id, start⟩) ∈ (r.table w (r.after st qs)).1.entries := by
  have hseed : (r.table w (r.after st qs)).1.seed = ((r.opener? w.id qs).getD w).seed := by
    rw [seed_table, seed?_after]
    cases r.opener? w.id qs <;> rfl
  have hiff : (r.table w (r.after st qs)).1.seed = w.seed ↔
      ∀ w', r.opener? w.id qs = some w' → w'.seed = w.seed := by
    rw [hseed]
    cases r.opener? w.id qs <;> simp
  refine ⟨hseed, hiff, ?_, ?_⟩
  · intro hsame
    refine hiff.mpr fun w' hw' => ?_
    obtain ⟨hid, q, hq, hworld⟩ := exists_of_opener hw'
    exact hsame q hq w' hworld hid
  · intro p id h
    obtain ⟨name, op, -, hres⟩ | ⟨e, -, -, hres⟩ | ⟨e, s, hentry, hfind, hres⟩ | hres :=
      r.resolve_cases p w (r.after st qs)
    · simp [hres, Except.map] at h
    · simp [hres, Except.map] at h
    · have hid : e.id = id := by simpa [hres, Except.map] using h
      have hoperator : e.id = s.operator := (Catalogue.find?_eq_some_iff.mp hfind).2
      refine ⟨s.start, ?_⟩
      rw [← hid, hoperator]
      exact hentry
    · simp [hres, Except.map] at h

/-- A world is asked for under one seed and then under another. Its table is still the one made for
the first seed, and the drawing that reached the secret under that seed goes on reaching it. -/
theorem seed_table_of_reseeded :
    let m := mixed.after Store.empty [.table ⟨7, 42⟩]
    let p : Pattern := ⟨.west, [.forward, .right, .left]⟩
    (table mixed ⟨7, 43⟩ m).1.seed = 42 ∧
      (mixed.resolve p ⟨7, 43⟩ m).1.map Resolution.origin = .ok (.perWorld mixed.secret) ∧
      (mixed.resolve p ⟨7, 43⟩ (mixed.after Store.empty [])).1.map Resolution.origin =
        .error (.unrecognized p) := by
  decide +kernel

end Registry

end HexGesture
