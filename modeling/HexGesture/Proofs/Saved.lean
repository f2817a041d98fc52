import HexGesture.Proofs.Isolation
import HexGesture.Proofs.Stored

/-! What becomes of a table that was saved. It is found usable whenever the world is asked for
again, and nothing is ever saved in its place, provided that it can be read. The one thing that can
stand in the way is a text beyond the limit of the reader, which the writer does not have: such a
table is refused, made again and saved again each time. -/
namespace HexGesture

theorem Pattern.textSize_signature (p : Pattern) : textSize p.signature = p.length := by
  obtain ⟨start, angles⟩ := p
  rw [textSize_eq_utf8ByteSize, signature, length]
  induction angles using List.reverseRecOn with
  | nil => rfl
  | append_singleton as a ih =>
    have hletter : (String.ofList [a.toChar]).utf8ByteSize = 1 := by cases a <;> rfl
    rw [List.map_append, String.ofList_append, String.utf8ByteSize_append, ih, List.map_singleton,
      hletter, List.length_append, List.length_singleton]

theorem Backing.bytes?_of_saved {st : Store} {world : UInt64} {t : SecretTable}
    (h : (store.save st world t).1 = .ok ()) :
    ∃ data, t.write = .ok data ∧ (store.save st world t).2.bytes? world = some data := by
  simp only [save, Store.save] at h ⊢
  split at h
  · cases h
  · next hfailing =>
    rw [if_neg hfailing]
    cases hwrite : t.write with
    | error why => simp [Store.keep, hwrite] at h
    | ok data => exact ⟨data, rfl, by simp [Store.keep, hwrite]⟩

namespace Registry

variable {V E : Type}

/-- Asked for a world, the registry has no use for what the store has, and the table that it derives
is saved. -/
structure Saves (r : Registry V E) (w : World) (m : Memory) : Prop where
  new : m.cache[w.id]? = none
  unusable : ∀ t, (r.verdict w m).1 ≠ .usable t
  saved : (r.backing.save (r.consulted w m).store w.id (r.derive w.seed).table).1 = .ok ()

theorem unusable_of_no_bytes {r : Registry V E} {w : World} {m : Memory}
    (h : m.store.bytes? w.id = none) (t : SecretTable) : (r.verdict w m).1 ≠ .usable t := by
  intro hverdict
  obtain ⟨hload, -, -⟩ := judge_eq_usable_iff.mp hverdict
  obtain ⟨data, hbytes, -⟩ := Backing.bytes_of_load hload
  rw [h] at hbytes
  cases hbytes

/-- A saved table can be read again: there is a store, and no text of the table is too long. -/
def Rereads (r : Registry V E) (t : SecretTable) : Prop :=
  r.backing = .store ∧ ∀ e ∈ t.entries, Reader.ReadableEntry e

def afterRequests (r : Registry V E) : List Request → Memory → Memory
  | [], m => m
  | x :: xs, m => r.afterRequests xs (r.respond x m).2

section Saves

variable {r : Registry V E} {w : World} {m m' : Memory}

theorem Saves.table_eq (h : r.Saves w m) : (r.table w m).1 = (r.derive w.seed).table :=
  (table_of_no_verdict h.new h.unusable).1

theorem Saves.store_eq (h : r.Saves w m) : (r.table w m).2.store =
    (r.backing.save (r.consulted w m).store w.id (r.derive w.seed).table).2 :=
  (table_of_no_verdict h.new h.unusable).2

theorem Saves.load_eq (h : r.Saves w m) (hstore : r.backing = .store)
    (hkept : m'.store.bytes? w.id = (r.table w m).2.store.bytes? w.id) :
    ∃ data, (r.derive w.seed).table.write = .ok data ∧
      (r.backing.load m'.store w.id).1 = (SecretTable.ofBytes data).map some := by
  have hsaved := h.saved
  have hafter := h.store_eq
  rw [hstore] at hsaved hafter
  obtain ⟨data, hwrite, hbytes⟩ := Backing.bytes?_of_saved hsaved
  rw [hafter, hbytes] at hkept
  exact ⟨data, hwrite, by simp [hstore, Backing.load, Store.load, Store.peek, hkept]⟩

theorem Saves.verdict_of_rereads (h : r.Saves w m) (hr : r.Rereads (r.table w m).1)
    (hkept : m'.store.bytes? w.id = (r.table w m).2.store.bytes? w.id) :
    (r.verdict w m').1 = .usable (r.table w m).1 := by
  obtain ⟨hstore, hread⟩ := hr
  obtain ⟨data, hwrite, hload⟩ := h.load_eq hstore hkept
  rw [h.table_eq] at hread ⊢
  rw [SecretTable.ofBytes_of_write hwrite hread] at hload
  exact judge_eq_usable_iff.mpr ⟨hload, r.seed_derive w.seed, r.usable_review_derive w.seed⟩

/-- Without a store nothing is found; otherwise the saved bytes are refused. -/
theorem Saves.verdict_of_not_rereads (h : r.Saves w m) (hr : ¬ r.Rereads (r.table w m).1)
    (hkept : m'.store.bytes? w.id = (r.table w m).2.store.bytes? w.id) :
    r.backing = .nothing ∧ (r.verdict w m').1 = .absent ∨
      r.backing = .store ∧ ∃ n, maxTextLength < n ∧
        (r.verdict w m').1 = .unreadable (.malformed (.textTooLong n)) := by
  cases hstore : r.backing with
  | nothing => exact .inl ⟨rfl, by simp [verdict, hstore, Backing.load, judge]⟩
  | store =>
    obtain ⟨data, hwrite, hload⟩ := h.load_eq hstore hkept
    have hread : ¬ ∀ e ∈ (r.derive w.seed).table.entries, Reader.ReadableEntry e := by
      rw [← h.table_eq]
      exact fun hread => hr ⟨hstore, hread⟩
    obtain ⟨n, hlong, hrefused⟩ := SecretTable.refused_of_write hwrite hread
    rw [hrefused] at hload
    exact .inr ⟨rfl, n, hlong, by rw [verdict, hload]; rfl⟩

theorem Saves.unusable_of_not_rereads (h : r.Saves w m) (hr : ¬ r.Rereads (r.table w m).1)
    (hkept : m'.store.bytes? w.id = (r.table w m).2.store.bytes? w.id) (t : SecretTable) :
    (r.verdict w m').1 ≠ .usable t := by
  obtain ⟨-, hverdict⟩ | ⟨-, n, -, hverdict⟩ := h.verdict_of_not_rereads hr hkept
  · simp [hverdict]
  · simp [hverdict]

theorem Saves.again (h : r.Saves w m) (hnew : m'.cache[w.id]? = none)
    (hno : ∀ t, (r.verdict w m').1 ≠ .usable t) (hworks : m'.store.failing = false) :
    r.Saves w m' := by
  refine ⟨hnew, hno, ?_⟩
  have hsaved := h.saved
  cases hstore : r.backing with
  | nothing => rfl
  | store =>
    rw [hstore] at hsaved
    obtain ⟨data, hwrite, -⟩ := Backing.bytes?_of_saved hsaved
    have hfailing : (r.consulted w m').store.failing = false := by
      simp [consulted, hstore, Backing.load, Store.load, Memory.tell, hworks]
    simp [Backing.save, Store.save, Store.keep, hfailing, hwrite]

end Saves

/-- Names and prototypes within the limit make tables within the limit. -/
theorem readable_derive (r : Registry V E) (seed : UInt64)
    (h : ∀ e ∈ r.catalogue.prototypes,
      textSize e.id.display ≤ maxTextLength ∧ e.pattern.length ≤ maxTextLength) :
    ∀ x ∈ (r.derive seed).table.entries, Reader.ReadableEntry x := by
  intro x hx
  obtain ⟨e, he, p, hp, rfl⟩ := standsIn_of_mem_afterTurns hx
  obtain ⟨hid, hlength⟩ := h e he
  refine ⟨?_, hid⟩
  rw [secretEntry, p.textSize_signature, hp.length_eq]
  exact hlength

section Usable

variable {r : Registry V E} {w : World} {m : Memory} {t : SecretTable}

/-- What the store has for a world, if it is usable, is not replaced when a table is asked for. -/
theorem bytes?_table_of_usable (hverdict : (r.verdict w m).1 = .usable t) {w' : World}
    (hw : w'.id = w.id → w' = w) :
    (r.table w' m).2.store.bytes? w.id = m.store.bytes? w.id := by
  cases hm : m.cache[w'.id]? with
  | some u => rw [table_of_cached hm]
  | none =>
    by_cases hid : w'.id = w.id
    · obtain rfl := hw hid
      rw [(table_of_verdict hm hverdict).2, Backing.bytes?_load]
    · rw [table_of_not_cached hm]
      exact r.bytes?_fetch_of_ne hid m

theorem bytes?_respond_of_usable (hverdict : (r.verdict w m).1 = .usable t) {x : Request}
    (hx : x.Spares w m) : (r.respond x m).2.store.bytes? w.id = m.store.bytes? w.id := by
  cases x with
  | lookup id => rfl
  | ask q =>
    cases q with
    | resolve p w' =>
      have htable := bytes?_table_of_usable hverdict (hx.world?_eq rfl)
      obtain ⟨events, hsame | htell⟩ := r.resolve_snd_cases p w' m
      · simp [respond, answer, hsame, Memory.tell]
      · simpa [respond, answer, htell, Memory.tell] using htable
    | table w' => exact bytes?_table_of_usable hverdict (hx.world?_eq rfl)
    | secret w' id =>
      have hmemory : (r.respond (.ask (.secret w' id)) m).2 = (r.table w' m).2 :=
        r.secretPattern_snd w' id m
      rw [hmemory]
      exact bytes?_table_of_usable hverdict (hx.world?_eq rfl)
    | unload gone => simp [respond, answer]
    | store c => exact hx.bytes c rfl

theorem bytes?_afterRequests_of_usable (hverdict : (r.verdict w m).1 = .usable t)
    {xs : List Request} (hxs : r.Spares w xs m) :
    (r.afterRequests xs m).store.bytes? w.id = m.store.bytes? w.id := by
  induction xs generalizing m with
  | nil => rfl
  | cons x xs ih =>
    obtain ⟨hx, hrest⟩ := hxs
    have hbytes := bytes?_respond_of_usable hverdict hx
    have hstill : (r.verdict w (r.respond x m).2).1 = .usable t := by
      rw [r.verdict_congr hbytes, hverdict]
    exact (ih hstill hrest).trans hbytes

end Usable

/-- A table that was derived and saved answers again for its world. It is found in the store if it
can be read again; if it cannot, it is derived and saved once more, each time. -/
theorem table_of_saved {r : Registry V E} {w : World} {m m' : Memory} (h : r.Saves w m)
    (hnew : m'.cache[w.id]? = none)
    (hkept : m'.store.bytes? w.id = (r.table w m).2.store.bytes? w.id) :
    (r.table w m').1 = (r.table w m).1 ∧
    (r.Rereads (r.table w m).1 →
      (r.verdict w m').1 = .usable (r.table w m).1 ∧
      (r.table w m').2.store.saves = m'.store.saves ∧
      ∀ xs, r.Spares w xs m' →
        (r.afterRequests xs m').store.bytes? w.id = m'.store.bytes? w.id) ∧
    (r.backing = .store → (∀ e ∈ r.catalogue.prototypes,
      textSize e.id.display ≤ maxTextLength ∧ e.pattern.length ≤ maxTextLength) →
        r.Rereads (r.table w m).1) ∧
    (¬ r.Rereads (r.table w m).1 →
      (r.backing = .nothing ∧ (r.verdict w m').1 = .absent ∨
        r.backing = .store ∧ (∃ n, maxTextLength < n ∧
          (r.verdict w m').1 = .unreadable (.malformed (.textTooLong n))) ∧
        (r.table w m').2.store.saves = m'.store.saves + 1) ∧
      (m'.store.failing = false → r.Saves w m')) := by
  refine ⟨?_, ?_, ?_, ?_⟩
  · by_cases hr : r.Rereads (r.table w m).1
    · exact (table_of_verdict hnew (h.verdict_of_rereads hr hkept)).1
    · rw [(table_of_no_verdict hnew (h.unusable_of_not_rereads hr hkept)).1, h.table_eq]
  · intro hr
    have hverdict := h.verdict_of_rereads hr hkept
    refine ⟨hverdict, ?_, fun xs hxs => bytes?_afterRequests_of_usable hverdict hxs⟩
    rw [(table_of_verdict hnew hverdict).2, Backing.saves_load]
  · intro hstore hshort
    rw [h.table_eq]
    exact ⟨hstore, r.readable_derive w.seed hshort⟩
  · intro hr
    have hno := h.unusable_of_not_rereads hr hkept
    refine ⟨?_, fun hworks => h.again hnew hno hworks⟩
    obtain hnothing | ⟨hstore, hlong⟩ := h.verdict_of_not_rereads hr hkept
    · exact .inl hnothing
    · refine .inr ⟨hstore, hlong, ?_⟩
      rw [(table_of_no_verdict hnew hno).2, hstore, Backing.saves_save]
      rfl

theorem table_of_saved_mixed :
    let m : Memory := ⟨∅, .empty, #[]⟩
    let m' := ((table mixed ⟨7, 42⟩ m).2.unload 7).2
    mixed.Saves ⟨7, 42⟩ m ∧ m'.cache[(7 : UInt64)]? = none ∧
      m'.store.bytes? 7 = (table mixed ⟨7, 42⟩ m).2.store.bytes? 7 ∧
      (table mixed ⟨7, 42⟩ m').1 = (table mixed ⟨7, 42⟩ m).1 ∧
      (table mixed ⟨7, 42⟩ m).1.entries = [("weq", ⟨mixed.secret, .west⟩)] ∧
      (table mixed ⟨7, 42⟩ m').2.store.saves = m'.store.saves := by
  intro m m'
  have hsaves : mixed.Saves ⟨7, 42⟩ m :=
    ⟨by decide +kernel, unusable_of_no_bytes (by decide +kernel), by decide +kernel⟩
  have hnew : m'.cache[(7 : UInt64)]? = none := by simp [m', cache_unload]
  have hkept : m'.store.bytes? 7 = (table mixed ⟨7, 42⟩ m).2.store.bytes? 7 := by
    rw [store_unload]
  have hshort : ∀ e ∈ mixed.catalogue.prototypes,
      textSize e.id.display ≤ maxTextLength ∧ e.pattern.length ≤ maxTextLength := by
    decide +kernel
  have hentries : (table mixed ⟨7, 42⟩ m).1.entries = [("weq", ⟨mixed.secret, .west⟩)] := by
    rw [hsaves.table_eq, entries_derive_mixed]
  obtain ⟨htable, hreads, hwithin, -⟩ := table_of_saved hsaves hnew hkept
  exact ⟨hsaves, hnew, hkept, htable, hentries, (hreads (hwithin rfl hshort)).2.1⟩

def lone.prototype : Pattern := ⟨.east, [.right, .rightBack, .right]⟩

def lone (id : OperatorId) : Registry Unit Unit where
  bounds := .default
  backing := .store
  catalogue :=
    { operators := [(id, ⟨.perWorld lone.prototype, .constant ()⟩)]
      index := []
      ids_distinct := List.nodup_singleton _
      index_eq := rfl
      signatures_distinct := List.nodup_nil
      drawable := List.forall_mem_singleton.mpr (by decide : lone.prototype.isDrawable = true)
      prototypes_turn := List.forall_mem_singleton.mpr fun _ => List.cons_ne_nil _ _ }
  handlers := []
  walkable := Bounds.maxSteps_default_ne

theorem found_lone : (Search.runWith ChaCha8.generator .default 42 lone.prototype
    fun _ => false).found = .ok ⟨.west, [.forward, .right, .left]⟩ := by decide +kernel

theorem entries_derive_lone (id : OperatorId) :
    ((lone id).derive 42).table.entries = [("weq", ⟨id, .west⟩)] := by
  have hfree : (lone id).isTaken (.empty 42) = fun _ => false := by
    funext p
    simp [isTaken, lone, Tables.bound?, isClaimed, claim?, SecretTable.contains, SecretTable.get?,
      SecretTable.empty]
  let e : Entry Unit Unit := ⟨id, .perWorld, lone.prototype, .constant ()⟩
  have hfound : (Search.runWith ChaCha8.generator (lone id).bounds 42 e.pattern
      fun _ => false).found = .ok ⟨.west, [.forward, .right, .left]⟩ := found_lone
  have hturn : (lone id).derive 42 = (lone id).placeWith ChaCha8.generator (.empty 42) e := rfl
  rw [← hfree] at hfound
  obtain ⟨p, hp, -, -, hentries⟩ | ⟨hnone, -⟩ :=
    (lone id).placeWith_cases ChaCha8.generator (.empty 42) e
  · obtain rfl := Except.ok.inj (hp.symm.trans hfound)
    rw [hturn, hentries]
    rfl
  · cases hnone.symm.trans hfound

/-- If the name of the secret can be written and not read, the table is saved each time the world is
asked for, although nobody touched it. -/
theorem saves_lone {id : OperatorId} (hlong : maxTextLength < textSize id.display)
    (hfits : textSize id.display < UInt32.size) :
    let m : Memory := ⟨∅, .empty, #[]⟩
    let m' := (((lone id).table ⟨7, 42⟩ m).2.unload 7).2
    (lone id).Saves ⟨7, 42⟩ m ∧ m'.cache[(7 : UInt64)]? = none ∧
      m'.store.bytes? 7 = ((lone id).table ⟨7, 42⟩ m).2.store.bytes? 7 ∧
      (∀ t, ((lone id).verdict ⟨7, 42⟩ m').1 ≠ .usable t) ∧
      ((lone id).table ⟨7, 42⟩ m').2.store.saves = m'.store.saves + 1 := by
  intro m m'
  have hwrite : ((lone id).derive 42).table.write = .ok ((lone id).derive 42).table.layout := by
    refine SecretTable.write_eq ?_ ?_
    · rw [SecretTable.length, entries_derive_lone]
      simp [UInt32.size]
    · rw [entries_derive_lone]
      intro e he
      obtain rfl := List.mem_singleton.mp he
      have hsignature : textSize "weq" < UInt32.size := by decide
      exact ⟨hsignature, hfits⟩
  have hsaves : (lone id).Saves ⟨7, 42⟩ m := by
    have hworks : ((lone id).consulted ⟨7, 42⟩ m).store.failing = false := rfl
    have hstore : (lone id).backing = .store := rfl
    refine ⟨by simp [m], unusable_of_no_bytes (by decide), ?_⟩
    simp [hstore, Backing.save, Store.save, Store.keep, hworks, hwrite]
  have hnew : m'.cache[(7 : UInt64)]? = none := by simp [m', cache_unload]
  have hkept : m'.store.bytes? 7 = ((lone id).table ⟨7, 42⟩ m).2.store.bytes? 7 := by
    rw [store_unload]
  have hunread : ¬ (lone id).Rereads ((lone id).table ⟨7, 42⟩ m).1 := by
    rintro ⟨-, hread⟩
    rw [hsaves.table_eq, entries_derive_lone] at hread
    have hname : textSize id.display ≤ maxTextLength := (hread _ (List.mem_singleton.mpr rfl)).2
    omega
  have hno := hsaves.unusable_of_not_rereads hunread hkept
  refine ⟨hsaves, hnew, hkept, hno, ?_⟩
  rw [(table_of_no_verdict hnew hno).2]
  exact Backing.saves_save _ 7 _

def lone.name (n : Nat) : OperatorId where
  scope := OperatorId.defaultScope
  path := String.ofList (List.replicate (n + 1) 'a')
  scope_ok := OperatorId.fault?_defaultScope
  path_ok := by
    rw [OperatorId.fault?_eq_none_iff, String.toList_ofList]
    refine ⟨by simp, ?_⟩
    intro c hc
    obtain rfl := List.eq_of_mem_replicate hc
    decide

theorem lone.textSize_name (n : Nat) : textSize (name n).display = n + 12 := by
  have hdisplay : (name n).display =
      "hexcasting:" ++ String.ofList (List.replicate (n + 1) 'a') := by
    rw [← String.toList_inj, OperatorId.toList_display]
    simp [name, OperatorId.defaultScope]
  have hpath := Item.textSize_replicate (n + 1) 'a'
  rw [textSize_eq_utf8ByteSize] at hpath ⊢
  have hscope : "hexcasting:".utf8ByteSize = 11 := rfl
  have hletter : 'a'.utf8Size = 1 := rfl
  rw [hdisplay, String.utf8ByteSize_append, hpath, hscope, hletter]
  omega

theorem table_of_saved_long :
    let r := lone (lone.name maxTextLength)
    let m : Memory := ⟨∅, .empty, #[]⟩
    let m' := ((r.table ⟨7, 42⟩ m).2.unload 7).2
    r.Saves ⟨7, 42⟩ m ∧ m'.cache[(7 : UInt64)]? = none ∧
      m'.store.bytes? 7 = (r.table ⟨7, 42⟩ m).2.store.bytes? 7 ∧
      (∀ t, (r.verdict ⟨7, 42⟩ m').1 ≠ .usable t) ∧
      (r.table ⟨7, 42⟩ m').2.store.saves = m'.store.saves + 1 := by
  have hsize := lone.textSize_name maxTextLength
  refine saves_lone ?_ ?_
  · omega
  · rw [hsize]
    decide

end Registry

end HexGesture
