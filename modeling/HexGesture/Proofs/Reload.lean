import HexGesture.Proofs.RoundTrip
import HexGesture.Proofs.Worlds

/-! Fetching a world's table once more. What is fetched depends on nothing but the bytes that the
store has for the world, and fetching leaves such bytes there that the same table is fetched next
time: a usable table stays as it is, and one that was derived is read back as it was or, if it
could not be saved or cannot be read, derived again. -/
namespace HexGesture

theorem SecretTable.ofBytes_of_write {t : SecretTable} {data : List UInt8}
    (hw : t.write = .ok data) (hr : ∀ e ∈ t.entries, Reader.ReadableEntry e) :
    ofBytes data = .ok t := by
  obtain ⟨⟨hlen, -⟩, rfl⟩ := write_eq_ok_iff.mp hw
  have hrun : read.run t.layout = .ok (t, []) := by simpa using yields_read hlen hr []
  exact ofBytes_eq_ok_iff_run.mpr hrun

/-- A written table with texts beyond the limit is refused for the first of them. -/
theorem SecretTable.refused_of_write {t : SecretTable} {data : List UInt8}
    (hw : t.write = .ok data) (hr : ¬ ∀ e ∈ t.entries, Reader.ReadableEntry e) :
    ∃ n, maxTextLength < n ∧ ofBytes data = .error (.malformed (.textTooLong n)) := by
  obtain ⟨⟨hlen, htexts⟩, rfl⟩ := write_eq_ok_iff.mp hw
  obtain ⟨s, -, hlong, hrefuse⟩ := refuses_read hlen htexts hr
  have hrun : read.run t.layout = .error (.malformed (.textTooLong (textSize s))) := by
    simpa using hrefuse []
  exact ⟨textSize s, hlong, ofBytes_of_error hrun⟩

theorem SecretTable.eq_of_ofBytes_write {t u : SecretTable} {data : List UInt8}
    (hw : t.write = .ok data) (hr : ofBytes data = .ok u) : u = t := by
  by_cases hread : ∀ e ∈ t.entries, Reader.ReadableEntry e
  · rw [ofBytes_of_write hw hread] at hr
    cases hr
    rfl
  · obtain ⟨n, -, hrefused⟩ := refused_of_write hw hread
    rw [hrefused] at hr
    cases hr

namespace Store

@[simp] theorem bytes?_overwrite_self (st : Store) (world : UInt64) (data : List UInt8) :
    (st.overwrite world data).bytes? world = some data := Std.ExtTreeMap.getElem?_insert_self

theorem bytes?_overwrite_of_ne (st : Store) {world other : UInt64} (h : world ≠ other)
    (data : List UInt8) : (st.overwrite world data).bytes? other = st.bytes? other := by
  simp [overwrite, bytes?, Std.ExtTreeMap.getElem?_insert, h]

theorem bytes?_remove_of_ne (st : Store) {world other : UInt64} (h : world ≠ other) :
    (st.remove world).2.bytes? other = st.bytes? other := by
  simp [remove, bytes?, Std.ExtTreeMap.getElem?_erase, h]

theorem keep_cases (st : Store) (world : UInt64) (t : SecretTable) :
    (st.keep world t).2 = st ∨
      ∃ data, t.write = .ok data ∧ (st.keep world t).2 = st.overwrite world data := by
  rw [keep]
  cases h : t.write with
  | error why => exact .inl rfl
  | ok data => exact .inr ⟨data, rfl, rfl⟩

end Store

namespace Backing

@[simp] theorem bytes?_load (b : Backing) (st : Store) (world other : UInt64) :
    (b.load st world).2.bytes? other = st.bytes? other := by cases b <;> rfl

theorem load_congr (b : Backing) {st st' : Store} {world : UInt64}
    (h : st.bytes? world = st'.bytes? world) : (b.load st world).1 = (b.load st' world).1 := by
  cases b with
  | nothing => rfl
  | store => simp only [load, Store.load, Store.peek, h]

theorem bytes_of_load {b : Backing} {st : Store} {world : UInt64} {t : SecretTable}
    (h : (b.load st world).1 = .ok (some t)) :
    ∃ data, st.bytes? world = some data ∧ SecretTable.ofBytes data = .ok t := by
  cases b with
  | nothing => cases h
  | store =>
    simp only [load, Store.load, Store.peek] at h
    cases hbytes : st.bytes? world with
    | none => simp [hbytes] at h
    | some data =>
      rw [hbytes] at h
      cases hread : SecretTable.ofBytes data with
      | error why => simp [hread, Except.map] at h
      | ok u =>
        obtain rfl : u = t := by simpa [hread, Except.map] using h
        exact ⟨data, rfl, hread⟩

theorem save_cases (b : Backing) (st : Store) (world : UInt64) (t : SecretTable) :
    (∀ other, (b.save st world t).2.bytes? other = st.bytes? other) ∨
      ∃ data, t.write = .ok data ∧ (b.save st world t).2.bytes? world = some data ∧
        ∀ other, world ≠ other → (b.save st world t).2.bytes? other = st.bytes? other := by
  cases b with
  | nothing => exact .inl fun _ => rfl
  | store =>
    let counted : Store := { st with saves := st.saves + 1 }
    simp only [save, Store.save]
    split
    · exact .inl fun _ => rfl
    · obtain hsame | ⟨data, hdata, hkeep⟩ := counted.keep_cases world t
      · rw [hsame]
        exact .inl fun _ => rfl
      · rw [hkeep]
        exact .inr ⟨data, hdata, Store.bytes?_overwrite_self _ _ _,
          fun other hne => Store.bytes?_overwrite_of_ne _ hne data⟩

theorem bytes?_save_of_ne (b : Backing) (st : Store) {world other : UInt64} (h : world ≠ other)
    (t : SecretTable) : (b.save st world t).2.bytes? other = st.bytes? other := by
  obtain hsame | ⟨-, -, -, hother⟩ := b.save_cases st world t
  · exact hsame other
  · exact hother other h

end Backing

namespace Registry

variable {V E : Type}

@[simp] theorem bytes?_consulted (r : Registry V E) (w : World) (m : Memory) (world : UInt64) :
    (r.consulted w m).store.bytes? world = m.store.bytes? world :=
  Backing.bytes?_load r.backing m.store w.id world

theorem store_rebuild (r : Registry V E) (w : World) (m : Memory) :
    (r.rebuild w m).2.store = (r.backing.save m.store w.id (r.derive w.seed).table).2 := rfl

theorem verdict_congr (r : Registry V E) {w : World} {m m' : Memory}
    (h : m.store.bytes? w.id = m'.store.bytes? w.id) : r.verdict w m = r.verdict w m' :=
  congrArg (r.judge w) (r.backing.load_congr h)

/-- What is fetched for a world depends on its own bytes in the store and nothing else. -/
theorem fetch_congr (r : Registry V E) {w : World} {m m' : Memory}
    (h : m.store.bytes? w.id = m'.store.bytes? w.id) : (r.fetch w m).1 = (r.fetch w m').1 := by
  have hverdict := r.verdict_congr h
  obtain ⟨t, ht, hfetch⟩ | ⟨hno, hfetch⟩ := r.fetch_cases w m
  · obtain ⟨t', ht', hfetch'⟩ | ⟨hno', -⟩ := r.fetch_cases w m'
    · rw [hfetch, hfetch']
      exact Verdict.usable.inj (ht.symm.trans (by rw [hverdict, ht']))
    · exact absurd (hverdict ▸ ht) (hno' t)
  · obtain ⟨t', ht', -⟩ | ⟨-, hfetch'⟩ := r.fetch_cases w m'
    · exact absurd (hverdict ▸ ht') (hno t')
    · rw [hfetch, hfetch', rebuild_fst, rebuild_fst]

/-- The next fetch of a world gives what this one gave. -/
theorem fetch_fetch (r : Registry V E) (w : World) (m : Memory) :
    (r.fetch w (r.fetch w m).2).1 = (r.fetch w m).1 := by
  obtain ⟨t, -, hfetch⟩ | ⟨-, hfetch⟩ := r.fetch_cases w m
  · refine r.fetch_congr ?_
    rw [hfetch, bytes?_consulted]
  · obtain hkept | ⟨data, hdata, hsaved, -⟩ :=
      r.backing.save_cases (r.consulted w m).store w.id (r.derive w.seed).table
    · refine r.fetch_congr ?_
      rw [hfetch, store_rebuild, hkept, bytes?_consulted]
    · -- The new bytes are those of the derived table, so it matters little whether they are used.
      rw [hfetch, rebuild_fst]
      obtain ⟨u, hu, hagain⟩ | ⟨-, hagain⟩ := r.fetch_cases w (r.rebuild w (r.consulted w m)).2
      · obtain ⟨hload, -, -⟩ := judge_eq_usable_iff.mp hu
        obtain ⟨data', hbytes, hread⟩ := Backing.bytes_of_load hload
        rw [store_rebuild, hsaved] at hbytes
        obtain rfl := Option.some.inj hbytes
        rw [hagain]
        exact SecretTable.eq_of_ofBytes_write hdata hread
      · rw [hagain, rebuild_fst]

/-- Fetching one world leaves the bytes of another alone. -/
theorem bytes?_fetch_of_ne (r : Registry V E) {w : World} {world : UInt64} (h : w.id ≠ world)
    (m : Memory) : (r.fetch w m).2.store.bytes? world = m.store.bytes? world := by
  obtain ⟨t, -, hfetch⟩ | ⟨-, hfetch⟩ := r.fetch_cases w m
  · rw [hfetch, bytes?_consulted]
  · rw [hfetch, store_rebuild, Backing.bytes?_save_of_ne _ _ h, bytes?_consulted]

end Registry

end HexGesture
