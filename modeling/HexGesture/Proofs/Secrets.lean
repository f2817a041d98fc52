import HexGesture.Proofs.Worlds

/-! Secrets in use. In a sound table the drawing of a secret can be drawn, nothing that is asked
before the table answers for it, and the table leads back from it to the secret. -/
namespace HexGesture

namespace SecretTable

theorem entryOf?_eq_some {t : SecretTable} {id : OperatorId} {x : String × Secret}
    (h : t.entryOf? id = some x) : x ∈ t.entries ∧ x.2.operator = id :=
  ⟨List.mem_of_find?_eq_some h, by simpa using List.find?_some h⟩

theorem entryOf?_eq_none_iff {t : SecretTable} {id : OperatorId} :
    t.entryOf? id = none ↔ id ∉ t.operators := by
  rw [entryOf?, List.find?_eq_none, operators, List.mem_map]
  simp

end SecretTable

namespace Registry

variable {V E : Type}

/-- A drawing that is left to the table, and that the table has for a secret. -/
structure Reaches (r : Registry V E) (t : SecretTable) (p : Pattern) (id : OperatorId) : Prop where
  drawable : p.isDrawable = true
  unclaimed : r.claim? p = none
  not_global : r.catalogue.bound? p.signature = none
  listed : t.get? p.signature = some ⟨id, p.start⟩
  secret : id ∈ r.secretIds

theorem Sound.reaches {r : Registry V E} {t : SecretTable} (h : r.Sound t) {id : OperatorId}
    {found : Except PatternError Pattern} (hfound : t.patternOf? id = some found) :
    ∃ p, found = .ok p ∧ r.Reaches t p id := by
  obtain ⟨⟨signature, s⟩, hentry, rfl⟩ := Option.map_eq_some_iff.mp hfound
  obtain ⟨hx, hid⟩ := SecretTable.entryOf?_eq_some hentry
  obtain ⟨p, hp, hglobal, hclaim, hsecret⟩ := isReachable_iff.mp (h.reachable _ hx)
  obtain ⟨hstart, hsignature, hdrawable⟩ := Pattern.ofSignature_eq_ok_iff.mp hp
  have hlisted : t.get? p.signature = some ⟨id, p.start⟩ := by
    rw [SecretTable.get?_eq_some_iff, hsignature, hstart, ← hid]
    exact hx
  rw [hid] at hsecret
  exact ⟨p, hp, hdrawable, hclaim, hsignature ▸ hglobal, hlisted, hsecret⟩

theorem find?_of_mem_secretIds {r : Registry V E} {id : OperatorId} (h : id ∈ r.secretIds) :
    ∃ e ∈ r.catalogue.prototypes, e.id = id ∧ r.catalogue.find? id = some e := by
  obtain ⟨e, he, hid⟩ := mem_secretIds.mp h
  refine ⟨e, he, hid, ?_⟩
  rw [← hid]
  exact Catalogue.find?_id (Catalogue.mem_prototypes.mp he).1

theorem Reaches.resolve {r : Registry V E} {w : World} {m : Memory} {p : Pattern} {id : OperatorId}
    (h : r.Reaches (r.table w m).1 p id) :
    ∃ e, r.catalogue.find? id = some e ∧
      (r.resolve p w m).1 = .ok ⟨e.operator, .perWorld id⟩ := by
  obtain ⟨e, -, hid, hfind⟩ := find?_of_mem_secretIds h.secret
  refine ⟨e, hfind, ?_⟩
  have hglobal := Catalogue.globalFor?_eq_none_iff.mpr h.not_global
  simp [Registry.resolve, h.unclaimed, hglobal, h.listed, hfind, hid]

theorem secretPattern_cases (r : Registry V E) (w : World) (id : OperatorId) (m : Memory) :
    (∃ p, (r.table w m).1.patternOf? id = some (.ok p) ∧ (r.secretPattern w id m).1 = .ok p) ∨
    (∃ why, (r.table w m).1.patternOf? id = some (.error why) ∧
      (r.secretPattern w id m).1 = .error (.invalidPattern why)) ∨
    (id ∉ (r.table w m).1.operators ∧
      (r.secretPattern w id m).1 = .error (.unknownOperator id)) := by
  cases hfound : (r.table w m).1.patternOf? id with
  | none =>
    have hid : id ∉ (r.table w m).1.operators :=
      SecretTable.entryOf?_eq_none_iff.mp (Option.map_eq_none_iff.mp hfound)
    exact .inr (.inr ⟨hid, by simp [secretPattern, hfound]⟩)
  | some found =>
    cases found with
    | ok p => exact .inl ⟨p, rfl, by simp [secretPattern, hfound]⟩
    | error why => exact .inr (.inl ⟨why, rfl, by simp [secretPattern, hfound]⟩)

/-- With a sound table, what a world hands out for a secret works there and then. -/
theorem secretPattern_cases_of_sound {r : Registry V E} {w : World} {m : Memory}
    (h : r.Sound (r.table w m).1) (id : OperatorId) :
    (∃ p, (r.secretPattern w id m).1 = .ok p ∧ r.Reaches (r.table w m).1 p id) ∨
    (id ∉ (r.table w m).1.operators ∧
      (r.secretPattern w id m).1 = .error (.unknownOperator id)) := by
  obtain ⟨p, hfound, hanswer⟩ | ⟨why, hfound, -⟩ | hunknown := r.secretPattern_cases w id m
  · obtain ⟨q, hq, hreaches⟩ := h.reaches hfound
    cases hq
    exact .inl ⟨p, hanswer, hreaches⟩
  · obtain ⟨q, hq, -⟩ := h.reaches hfound
    cases hq
  · exact .inr hunknown

/-- If a world is only ever named with one seed, its table reaches all that can be derived. -/
theorem derive_subset_table_after (r : Registry V E) (st : Store) {qs : List Query} {w : World}
    (h : ∀ q ∈ qs, ∀ w', q.world? = some w' → w'.id = w.id → w'.seed = w.seed) :
    (r.derive w.seed).table.operators ⊆ (r.table w (r.after st qs)).1.operators := by
  obtain ⟨before, q, later, w', hqs, hq, hid, ht⟩ := r.table_after st qs w
  have hmem : q ∈ qs ++ [.table w] := by
    rw [hqs]
    simp
  have hseed : w'.seed = w.seed := by
    rcases List.mem_append.mp hmem with hmem | hmem
    · exact h q hmem w' hq hid
    · obtain rfl := List.mem_singleton.mp hmem
      obtain rfl : w = w' := Option.some.inj hq
      rfl
  rw [ht, ← hseed]
  exact r.derive_subset_fetch w' (r.after st before)

/-- Whatever was asked and done before, a drawing that a world hands out for a secret can be drawn
and reaches the secret's own operator there. A world named with one seed only knows every secret
that can be derived. -/
theorem secretPattern_after (r : Registry V E) (st : Store) (qs : List Query) (w : World)
    (id : OperatorId) :
    (∀ p, (r.secretPattern w id (r.after st qs)).1 = .ok p →
      p.isDrawable = true ∧ ∃ e, r.catalogue.find? id = some e ∧
        (r.resolve p w (r.secretPattern w id (r.after st qs)).2).1 =
          .ok ⟨e.operator, .perWorld id⟩) ∧
    (∀ why, (r.secretPattern w id (r.after st qs)).1 ≠ .error (.invalidPattern why)) ∧
    ((∀ q ∈ qs, ∀ w', q.world? = some w' → w'.id = w.id → w'.seed = w.seed) →
      ∀ unknown, (r.secretPattern w id (r.after st qs)).1 = .error (.unknownOperator unknown) →
        unknown = id ∧ (id ∉ r.secretIds ∨ id ∉ (r.derive w.seed).table.operators)) := by
  have hsound := r.sound_table_after st qs w
  obtain ⟨p, hanswer, hreaches⟩ | ⟨hid, hanswer⟩ := secretPattern_cases_of_sound hsound id
  · have htable : r.Reaches (r.table w (r.secretPattern w id (r.after st qs)).2).1 p id := by
      rw [secretPattern_snd, table_table]
      exact hreaches
    rw [hanswer]
    refine ⟨?_, by simp, by simp⟩
    intro q hq
    cases hq
    exact ⟨hreaches.drawable, htable.resolve⟩
  · rw [hanswer]
    refine ⟨by simp, by simp, ?_⟩
    intro hseeds unknown hunknown
    cases hunknown
    exact ⟨rfl, .inr fun hderived => hid (r.derive_subset_table_after st hseeds hderived)⟩

end Registry

end HexGesture
