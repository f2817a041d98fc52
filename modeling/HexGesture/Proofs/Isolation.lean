import HexGesture.Proofs.Reload
import HexGesture.Proofs.Resolution

/-! Worlds apart. What a world answers depends on what the store had for it at first and on nothing
that happens later: its table may be forgotten and fetched again at any time, saves may fail, and
other worlds may be asked for, forgotten and stored in between. Two runs in which the same is asked
of a world therefore give it the same answers. -/
namespace HexGesture

def StoreCommand.target? : StoreCommand → Option UInt64
  | save world _ | overwrite world _ | keep world _ | remove world => some world
  | load _ | bytes _ | failSaves _ | counts => none

theorem Store.bytes?_keep_of_ne (st : Store) {world other : UInt64} (h : world ≠ other)
    (t : SecretTable) : (st.keep world t).2.bytes? other = st.bytes? other := by
  obtain hsame | ⟨data, -, hkeep⟩ := st.keep_cases world t
  · rw [hsame]
  · rw [hkeep, bytes?_overwrite_of_ne _ h]

theorem Store.bytes?_perform (b : Backing) (st : Store) {c : StoreCommand} {world : UInt64}
    (h : c.target? ≠ some world) : (st.perform b c).2.bytes? world = st.bytes? world := by
  have hne {other : UInt64} (ho : c.target? = some other) : other ≠ world := by
    rintro rfl
    exact h ho
  cases c with
  | load other => exact b.bytes?_load st other world
  | save other t => exact b.bytes?_save_of_ne st (hne rfl) t
  | bytes other => rfl
  | overwrite other data => exact st.bytes?_overwrite_of_ne (hne rfl) data
  | keep other t => exact st.bytes?_keep_of_ne (hne rfl) t
  | remove other => exact st.bytes?_remove_of_ne (hne rfl)
  | failSaves fail => rfl
  | counts => rfl

/-- What may be asked of a registry: questions, and the entry of an operator. -/
inductive Request
  | ask (q : Query)
  | lookup (id : OperatorId)

inductive Response (V E : Type)
  | answer (a : Answer V E)
  | entry (found : Except LookupError (Entry V E))

namespace Request

def world? : Request → Option World
  | ask q => q.world?
  | lookup _ => none

/-- Whether a drawing, the table or a secret of a world is asked for. -/
def asksOf (world : UInt64) (x : Request) : Bool := x.world?.any (·.id == world)

/-- A request made at this moment names the world, if at all, with its own seed, and what the store
has for the world is not changed behind the registry's back. -/
structure Spares (w : World) (m : Memory) (x : Request) : Prop where
  seed : ∀ w', x.world? = some w' → w'.id = w.id → w'.seed = w.seed
  bytes : ∀ c, x = ask (.store c) → (m.perform c).2.store.bytes? w.id = m.store.bytes? w.id

theorem Spares.world?_eq {w w' : World} {m : Memory} {x : Request} (h : x.Spares w m)
    (hw : x.world? = some w') (hid : w'.id = w.id) : w' = w := by
  have hseed := h.seed w' hw hid
  cases w; cases w'; simp_all

theorem asksOf_iff {world : UInt64} {x : Request} :
    x.asksOf world = true ↔ ∃ w, x.world? = some w ∧ w.id = world := by
  simp [asksOf, Option.any_eq_true]

end Request

namespace Registry

variable {V E : Type}

def respond (r : Registry V E) (x : Request) (m : Memory) : Response V E × Memory :=
  match x with
  | .ask q => let a := r.answer q m; (.answer a.1, a.2)
  | .lookup id => (.entry (r.lookup id), m)

def exchange (r : Registry V E) : List Request → Memory → List (Request × Response V E)
  | [], _ => []
  | x :: xs, m => (x, (r.respond x m).1) :: r.exchange xs (r.respond x m).2

/-- What a world sees of a run: what is asked of it and what it answers. -/
def seen (r : Registry V E) (world : UInt64) (xs : List Request) (m : Memory) :
    List (Request × Response V E) :=
  (r.exchange xs m).filter fun x => x.1.asksOf world

def Spares (r : Registry V E) (w : World) : List Request → Memory → Prop
  | [], _ => True
  | x :: xs, m => x.Spares w m ∧ r.Spares w xs (r.respond x m).2

theorem spares_of_target (r : Registry V E) {w : World} {xs : List Request}
    (hseed : ∀ x ∈ xs, ∀ w', x.world? = some w' → w'.id = w.id → w'.seed = w.seed)
    (htarget : ∀ x ∈ xs, ∀ c, x = .ask (.store c) → c.target? ≠ some w.id) (m : Memory) :
    r.Spares w xs m := by
  induction xs generalizing m with
  | nil => trivial
  | cons x xs ih =>
    have hbytes : ∀ c, x = .ask (.store c) →
        (m.perform c).2.store.bytes? w.id = m.store.bytes? w.id :=
      fun c hc => Store.bytes?_perform .store m.store (htarget x (by simp) c hc)
    have hx : x.Spares w m := ⟨hseed x (by simp), hbytes⟩
    have hxs := ih (fun y hy => hseed y (by simp [hy])) fun y hy => htarget y (by simp [hy])
    exact ⟨hx, hxs _⟩

/-- Memory in which it is settled what the world's table is: it is what is at hand, if anything is,
and what would be fetched otherwise. -/
structure Settled (r : Registry V E) (w : World) (t : SecretTable) (m : Memory) : Prop where
  cached : ∀ u, m.cache[w.id]? = some u → u = t
  fetched : (r.fetch w m).1 = t

section Settled

variable {r : Registry V E} {w : World} {t : SecretTable} {m : Memory}

theorem settled_of_cache_empty (r : Registry V E) (w : World) {m : Memory} (h : m.cache = ∅) :
    r.Settled w (r.fetch w m).1 m where
  cached u hu := by simp [h] at hu
  fetched := rfl

theorem Settled.table_eq (h : r.Settled w t m) : (r.table w m).1 = t := by
  obtain hcached | hfetched := r.table_cases w m
  · exact h.cached _ hcached
  · rw [hfetched, h.fetched]

/-- What is settled stays so as long as nothing is put at hand for the world and its bytes in the
store are the same. -/
theorem Settled.congr (h : r.Settled w t m) {m' : Memory}
    (hcache : ∀ u, m'.cache[w.id]? = some u → m.cache[w.id]? = some u)
    (hbytes : m'.store.bytes? w.id = m.store.bytes? w.id) : r.Settled w t m' where
  cached u hu := h.cached u (hcache u hu)
  fetched := (r.fetch_congr hbytes).trans h.fetched

theorem Settled.tell (h : r.Settled w t m) (events : List Event) :
    r.Settled w t (m.tell events) := h.congr (fun _ hu => hu) rfl

/-- Asking for a table settles nothing anew: the world's own is fetched as before, and that of
another world has its own place in memory and in the store. -/
theorem Settled.table (h : r.Settled w t m) {w' : World} (hw : w'.id = w.id → w' = w) :
    r.Settled w t (r.table w' m).2 := by
  cases hm : m.cache[w'.id]? with
  | some u =>
    rw [table_of_cached hm]
    exact h
  | none =>
    have htable := table_of_not_cached (r := r) hm
    by_cases hid : w'.id = w.id
    · -- What is put at hand was fetched just now, and the next fetch would give it again.
      obtain rfl := hw hid
      have hcached := r.cached_table w' m
      have hbytes : (r.table w' m).2.store.bytes? w'.id =
          (r.fetch w' m).2.store.bytes? w'.id := by rw [htable]
      have hagain := (r.fetch_congr hbytes).trans (r.fetch_fetch w' m)
      refine ⟨fun u hu => ?_, hagain.trans h.fetched⟩
      rw [hcached, h.table_eq] at hu
      exact (Option.some.inj hu).symm
    · rw [htable]
      refine h.congr (fun u hu => ?_) (r.bytes?_fetch_of_ne hid m)
      simpa [Std.ExtTreeMap.getElem?_insert, hid] using hu

theorem Settled.unload (h : r.Settled w t m) (gone : UInt64) :
    r.Settled w t (m.unload gone).2 :=
  h.congr (fun _ => cached_unload) (by rw [store_unload])

theorem Settled.respond (h : r.Settled w t m) {x : Request} (hx : x.Spares w m) :
    r.Settled w t (r.respond x m).2 := by
  cases x with
  | lookup id => exact h
  | ask q =>
    cases q with
    | resolve p w' =>
      have htable := h.table (hx.world?_eq rfl)
      have hmemory : r.Settled w t (r.resolve p w' m).2 := by
        obtain ⟨events, hsame | htell⟩ := r.resolve_snd_cases p w' m
        · rw [hsame]
          exact h.tell events
        · rw [htell]
          exact htable.tell events
      exact hmemory
    | table w' => exact h.table (hx.world?_eq rfl)
    | secret w' id =>
      have hmemory : r.Settled w t (r.secretPattern w' id m).2 := by
        rw [secretPattern_snd]
        exact h.table (hx.world?_eq rfl)
      exact hmemory
    | unload gone => exact h.unload gone
    | store c => exact h.congr (fun _ hu => hu) (hx.bytes c rfl)

end Settled

theorem resolve_congr (r : Registry V E) (p : Pattern) {w : World} {m m' : Memory}
    (h : (r.table w m).1 = (r.table w m').1) : (r.resolve p w m).1 = (r.resolve p w m').1 := by
  simp only [resolve, h]
  cases r.claim? p with
  | some c => rfl
  | none =>
    cases r.catalogue.globalFor? p.signature with
    | some e => rfl
    | none =>
      cases ((r.table w m').1.get? p.signature).bind fun s => r.catalogue.find? s.operator with
      | some e => rfl
      | none => rfl

theorem secretPattern_congr (r : Registry V E) (id : OperatorId) {w : World} {m m' : Memory}
    (h : (r.table w m).1 = (r.table w m').1) :
    (r.secretPattern w id m).1 = (r.secretPattern w id m').1 := by
  simp only [secretPattern, h]
  cases (r.table w m').1.patternOf? id with
  | none => rfl
  | some found => cases found <;> rfl

/-- A question in a world is answered from the world's table and from nothing else in memory. -/
theorem answer_congr (r : Registry V E) {q : Query} {w : World} (hq : q.world? = some w)
    {m m' : Memory} (h : (r.table w m).1 = (r.table w m').1) :
    (r.answer q m).1 = (r.answer q m').1 := by
  cases q with
  | resolve p w' =>
    obtain rfl : w' = w := Option.some.inj hq
    exact congrArg Answer.resolved (r.resolve_congr p h)
  | table w' =>
    obtain rfl : w' = w := Option.some.inj hq
    exact congrArg Answer.table h
  | secret w' id =>
    obtain rfl : w' = w := Option.some.inj hq
    exact congrArg Answer.secret (r.secretPattern_congr id h)
  | unload gone => cases hq
  | store c => cases hq

theorem respond_congr (r : Registry V E) {x : Request} {w : World} (hx : x.world? = some w)
    {m m' : Memory} (h : (r.table w m).1 = (r.table w m').1) :
    (r.respond x m).1 = (r.respond x m').1 := by
  cases x with
  | ask q => exact congrArg Response.answer (r.answer_congr hx h)
  | lookup id => cases hx

/-- In a run that spares a world, whatever is asked of it is answered as it would be answered in
any other memory that has the same table settled for it. -/
theorem seen_of_settled {r : Registry V E} {w : World} {t : SecretTable} {m first : Memory}
    {xs : List Request} (h : r.Settled w t m) (hfirst : r.Settled w t first)
    (hxs : r.Spares w xs m) :
    r.seen w.id xs m =
      (xs.filter (Request.asksOf w.id)).map fun x => (x, (r.respond x first).1) := by
  -- Memory changes with every request, but what is settled does not.
  induction xs generalizing m with
  | nil => rfl
  | cons x xs ih =>
    obtain ⟨hx, hrest⟩ := hxs
    have htail := ih (h.respond hx) hrest
    rw [seen] at htail
    by_cases hask : x.asksOf w.id = true
    · obtain ⟨w', hw', hid⟩ := Request.asksOf_iff.mp hask
      obtain rfl := hx.world?_eq hw' hid
      have hsame : (r.respond x m).1 = (r.respond x first).1 :=
        r.respond_congr hw' (h.table_eq.trans hfirst.table_eq.symm)
      simp only [seen, exchange, List.filter_cons, hask, if_true, List.map_cons, hsame, htail]
    · simp only [seen, exchange, List.filter_cons, hask, if_false, htail, Bool.false_eq_true]

/-- Two runs that spare a world and ask the same of it show it the same, whatever the store holds at
first and whatever else they do. -/
theorem seen_eq_of_asked_eq (r : Registry V E) (st : Store) (w : World) {xs ys : List Request}
    (hxs : r.Spares w xs ⟨∅, st, #[]⟩) (hys : r.Spares w ys ⟨∅, st, #[]⟩)
    (hsame : xs.filter (Request.asksOf w.id) = ys.filter (Request.asksOf w.id)) :
    r.seen w.id xs ⟨∅, st, #[]⟩ = r.seen w.id ys ⟨∅, st, #[]⟩ := by
  have hsettled := r.settled_of_cache_empty w (m := ⟨∅, st, #[]⟩) rfl
  rw [seen_of_settled hsettled hsettled hxs, seen_of_settled hsettled hsettled hys, hsame]

def mixed.quiet : List Request :=
  [.ask (.resolve ⟨.northEast, [.right, .right, .right]⟩ ⟨7, 42⟩), .ask (.table ⟨7, 42⟩)]

/-- What `mixed.quiet` asks, while the world is forgotten, saves fail for a time, and another world
comes and goes. -/
def mixed.busy : List Request :=
  [.lookup mixed.secret, .ask (.store (.failSaves true)),
    .ask (.resolve ⟨.northEast, [.right, .right, .right]⟩ ⟨7, 42⟩), .ask (.unload 7),
    .ask (.table ⟨8, 1⟩), .ask (.store (.remove 8)), .ask (.unload 8),
    .ask (.store (.failSaves false)), .ask (.table ⟨7, 42⟩)]

/-- The world does not notice, although what the store had for it was no table. -/
theorem seen_eq_of_asked_eq_busy :
    let st := Store.empty.overwrite 7 [72, 88, 80]
    mixed.Spares ⟨7, 42⟩ mixed.quiet ⟨∅, st, #[]⟩ ∧ mixed.Spares ⟨7, 42⟩ mixed.busy ⟨∅, st, #[]⟩ ∧
      mixed.quiet.filter (Request.asksOf 7) = mixed.busy.filter (Request.asksOf 7) ∧
      mixed.seen 7 mixed.quiet ⟨∅, st, #[]⟩ = mixed.seen 7 mixed.busy ⟨∅, st, #[]⟩ := by
  intro st
  have hquiet : mixed.Spares ⟨7, 42⟩ mixed.quiet ⟨∅, st, #[]⟩ :=
    mixed.spares_of_target (by simp [mixed.quiet, Request.world?, Query.world?])
      (by simp [mixed.quiet]) _
  have hbusy : mixed.Spares ⟨7, 42⟩ mixed.busy ⟨∅, st, #[]⟩ :=
    mixed.spares_of_target (by simp [mixed.busy, Request.world?, Query.world?])
      (by simp [mixed.busy, StoreCommand.target?]) _
  exact ⟨hquiet, hbusy, rfl, mixed.seen_eq_of_asked_eq st ⟨7, 42⟩ hquiet hbusy rfl⟩

end Registry

end HexGesture
