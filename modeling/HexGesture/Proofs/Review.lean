import HexGesture.Proofs.Derivation

/-! Which tables may be used. A sound table is one whose secrets all work: every entry can be
drawn, nothing is asked before the table that would answer for it, and it reaches a per-world
operator that no other entry reaches. Tables that the registry derives are sound and pass the
review, and of those from elsewhere only sound ones pass it. -/
namespace HexGesture

theorem OperatorId.sameSet_iff {xs ys : List OperatorId} :
    sameSet xs ys = true ↔ ∀ id, id ∈ xs ↔ id ∈ ys := by
  rw [sameSet, Bool.and_eq_true, List.all_eq_true, List.all_eq_true]
  simp only [List.contains_iff_mem]
  constructor
  · rintro ⟨hx, hy⟩ id
    exact ⟨hx id, hy id⟩
  · intro h
    exact ⟨fun id => (h id).mp, fun id => (h id).mpr⟩

namespace Registry

variable {V E : Type}

theorem isReachable_iff {r : Registry V E} {x : String × Secret} :
    r.isReachable x = true ↔ ∃ p, Pattern.ofSignature x.1 x.2.start = .ok p ∧
      r.catalogue.bound? x.1 = none ∧ r.claim? p = none ∧ x.2.operator ∈ r.secretIds := by
  rw [isReachable]
  cases hp : Pattern.ofSignature x.1 x.2.start with
  | error why => simp
  | ok p =>
    simp only [Except.ok.injEq, exists_eq_left', Bool.and_eq_true, Option.isNone_iff_eq_none,
      Bool.not_eq_true', decide_eq_true_eq, isClaimed_eq_false_iff, claim?_eq_none_iff, and_assoc]

theorem StandsIn.isReachable {r : Registry V E} {e : Entry V E} {p : Pattern}
    (h : r.StandsIn e p) (he : e ∈ r.catalogue.prototypes) :
    r.isReachable (secretEntry e p) = true := by
  have hglobal : r.catalogue.bound? p.signature = none :=
    Catalogue.bound?_eq_none_iff.mpr h.not_global
  have hid : e.id ∈ r.secretIds := mem_secretIds.mpr ⟨e, he, rfl⟩
  exact isReachable_iff.mpr
    ⟨p, Pattern.ofSignature_signature h.drawable, hglobal, claim?_eq_none_iff.mpr h.unclaimed, hid⟩

structure Sound (r : Registry V E) (t : SecretTable) : Prop where
  reachable : ∀ x ∈ t.entries, r.isReachable x = true
  distinct : t.operators.Nodup

theorem operators_derive_sublist (r : Registry V E) (seed : UInt64) :
    (r.derive seed).table.operators.Sublist r.secretIds :=
  r.operators_afterTurns ChaCha8.generator seed r.catalogue.prototypes

theorem sound_derive (r : Registry V E) (seed : UInt64) : r.Sound (r.derive seed).table where
  reachable x hx := by
    obtain ⟨e, he, p, hp, rfl⟩ := standsIn_of_mem_afterTurns hx
    exact hp.isReachable he
  distinct := r.nodup_secretIds.sublist (r.operators_derive_sublist seed)

/-- A table from elsewhere is usable just when it is sound and reaches all secrets, or all that
can be derived from its seed and no others. -/
theorem usable_review_iff {r : Registry V E} {t : SecretTable} :
    (r.review t).usable = true ↔ r.Sound t ∧
      ((∀ id, id ∈ t.operators ↔ id ∈ r.secretIds) ∨
        ∀ id, id ∈ t.operators ↔ id ∈ (r.derive t.seed).table.operators) := by
  have hsound : r.Sound t ↔ t.entries.all r.isReachable = true ∧ t.operators.Nodup := by
    rw [List.all_eq_true]
    exact ⟨fun h => ⟨h.reachable, h.distinct⟩, fun h => ⟨h.1, h.2⟩⟩
  rw [hsound, ← OperatorId.sameSet_iff, ← OperatorId.sameSet_iff, review]
  by_cases hall : t.entries.all r.isReachable = true
  · by_cases hd : t.operators.Nodup
    · by_cases hs : OperatorId.sameSet t.operators r.secretIds = true
      · simp [hall, hd, hs]
      · simp [hall, hd, hs]
    · simp [hd]
  · simp [hall]

@[simp] theorem seed_derive (r : Registry V E) (seed : UInt64) :
    (r.derive seed).table.seed = seed := r.seed_afterTurns ChaCha8.generator seed _

theorem usable_review_derive (r : Registry V E) (seed : UInt64) :
    (r.review (r.derive seed).table).usable = true := by
  rw [usable_review_iff, seed_derive]
  exact ⟨r.sound_derive seed, .inr fun _ => Iff.rfl⟩

/-- A usable table leaves out no secret that can be derived from its seed. -/
theorem derive_subset_of_usable {r : Registry V E} {t : SecretTable}
    (h : (r.review t).usable = true) : (r.derive t.seed).table.operators ⊆ t.operators := by
  intro id hid
  obtain ⟨-, hall | hplaced⟩ := usable_review_iff.mp h
  · exact (hall id).mpr ((r.operators_derive_sublist t.seed).subset hid)
  · exact (hplaced id).mpr hid

/-- For a sound table a derivation settles it where the ids do not. -/
theorem derivation_review {r : Registry V E} {t : SecretTable} (h : r.Sound t) :
    (r.review t).derivation =
      if OperatorId.sameSet t.operators r.secretIds then none else some (r.derive t.seed) := by
  have hreachable : t.entries.all r.isReachable = true := List.all_eq_true.mpr h.reachable
  have hdistinct : decide t.operators.Nodup = true := decide_eq_true h.distinct
  simp only [review, hreachable, hdistinct, Bool.not_true, Bool.or_false]
  rw [if_neg Bool.false_ne_true]
  split <;> rfl

/-- A registry never finds fault with a table that it has derived itself, whatever secrets could not
be placed. If all were placed, comparing their ids is enough. If some or all of them were left out,
it is not, and the table is derived once more from its seed, which places the same ones again. -/
theorem review_derive (r : Registry V E) (seed : UInt64) :
    (r.review (r.derive seed).table).usable = true ∧
    ((r.derive seed).omitted = [] → (r.review (r.derive seed).table).derivation = none) ∧
    ((r.derive seed).omitted ≠ [] → ¬ r.secretIds ⊆ (r.derive seed).table.operators ∧
      (r.review (r.derive seed).table).derivation = some (r.derive seed)) := by
  have hids : OperatorId.sameSet (r.derive seed).table.operators r.secretIds = true ↔
      (r.derive seed).omitted = [] := by
    rw [OperatorId.sameSet_iff, derive, omitted_eq_nil_iff]
    constructor
    · exact fun h id => (h id).mpr
    · exact fun h id => ⟨fun hid => (r.operators_derive_sublist seed).subset hid, fun hid => h hid⟩
  have hderivation := derivation_review (r.sound_derive seed)
  rw [seed_derive] at hderivation
  refine ⟨r.usable_review_derive seed, ?_, ?_⟩
  · intro hall
    rw [hderivation, if_pos (hids.mpr hall)]
  · intro hsome
    refine ⟨fun hsub => hsome (omitted_eq_nil_iff.mpr hsub), ?_⟩
    rw [hderivation, if_neg fun hsame => hsome (hids.mp hsame)]

end Registry

end HexGesture
