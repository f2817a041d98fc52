import HexGesture.Proofs.Resolution
import HexGesture.Registry.Numeral

/-! Numbers and secrets. Whether a drawing reads as a number is settled by its first four turns,
unless it turns straight back after them, which no pen does. So with the handler for numerals, at
whatever place among the others, every drawing that opens like a number is spoken for. A secret is
never given such a drawing, and a stored table that has one for a secret is not used. -/
namespace HexGesture

theorem Angle.toChar_injective : Function.Injective Angle.toChar :=
  fun _ _ h => by simpa using congrArg ofChar? h

namespace Numeral

theorem isSome_count_iff (x : Float) (c : Char) :
    (count x c).isSome = true ↔ c ∈ "wqead".toList := by
  unfold count
  split <;> simp_all

theorem isSome_value?_iff (sign : Float) (cs : List Char) :
    (value? sign cs).isSome = true ↔ ∀ c ∈ cs, c ∈ "wqead".toList := by
  rw [value?, Option.isSome_map]
  generalize (0.0 : Float) = x
  induction cs generalizing x with
  | nil => simp
  | cons c cs ih =>
    rw [List.foldlM_cons, List.forall_mem_cons, ← isSome_count_iff x]
    cases count x c with
    | none => simp
    | some y => simpa using ih y

/-- The first four letters give a sign. -/
def Opens (signature : String) : Prop :=
  "aqaa".toList <+: signature.toList ∨ "dedd".toList <+: signature.toList

/-- A sign and then letters that count make a number, whatever they count to. -/
theorem isSome_ofSignature?_iff (signature : String) : (ofSignature? signature).isSome = true ↔
    Opens signature ∧ ∀ c ∈ signature.toList.drop 4, c ∈ "wqead".toList := by
  rw [ofSignature?]
  split
  · next cs h => simp only [isSome_value?_iff, Opens, h]; simp
  · next cs h => simp only [isSome_value?_iff, Opens, h]; simp
  · next hpositive hnegative =>
    have hno : ¬ Opens signature := by
      rintro (⟨cs, hcs⟩ | ⟨cs, hcs⟩)
      · exact hpositive cs hcs.symm
      · exact hnegative cs hcs.symm
    simp [hno]

/-- Of the letters of a drawing all count but the turn straight back. -/
theorem forall_mem_digits_iff (as : List Angle) :
    (∀ c ∈ as.map Angle.toChar, c ∈ "wqead".toList) ↔ 's' ∉ as.map Angle.toChar := by
  have hletter : ∀ a : Angle, a.toChar ∈ "wqead".toList ↔ a.toChar ≠ 's' := by
    intro a
    cases a <;> decide
  rw [List.forall_mem_map]
  simp only [hletter, List.mem_map, not_exists, not_and, ne_eq]

end Numeral

namespace Handler

variable {V E : Type} (name : String) (convert : Float → V)

theorem numerals_claim_iff (p : Pattern) :
    ((numerals name convert : Handler V E).claim p).isSome = true ↔
      Numeral.Opens p.signature ∧ 's' ∉ p.signature.toList.drop 4 := by
  rw [numerals, Option.isSome_map, Numeral.isSome_ofSignature?_iff, Pattern.toList_signature,
    ← List.map_drop, Numeral.forall_mem_digits_iff]

theorem numerals_claim_iff_of_isDrawable {p : Pattern} (h : p.isDrawable = true) :
    ((numerals name convert : Handler V E).claim p).isSome = true ↔
      Numeral.Opens p.signature := by
  have hback : 's' ∉ p.signature.toList.drop 4 := by
    intro hs
    have hmem : Angle.back.toChar ∈ p.angles.map Angle.toChar := by
      rw [← Pattern.toList_signature]
      exact List.mem_of_mem_drop hs
    exact Pattern.back_not_mem h ((List.mem_map_of_injective Angle.toChar_injective).mp hmem)
  rw [numerals_claim_iff, and_iff_left hback]

end Handler

namespace Registry

variable {V E : Type}

/-- In a sound table no secret has a drawing that a handler claims. -/
theorem Sound.unclaimed {r : Registry V E} {t : SecretTable} (ht : r.Sound t)
    {x : String × Secret} (hx : x ∈ t.entries) :
    ∃ p : Pattern, p.signature = x.1 ∧ p.isDrawable = true ∧
      ∀ h ∈ r.handlers, h.claim p = none := by
  obtain ⟨p, hp, -, hclaim, -⟩ := isReachable_iff.mp (ht.reachable x hx)
  obtain ⟨-, hsignature, hdrawable⟩ := Pattern.ofSignature_eq_ok_iff.mp hp
  exact ⟨p, hsignature, hdrawable, claim?_eq_none_iff.mp hclaim⟩

theorem Sound.not_opens {r : Registry V E} {t : SecretTable} (ht : r.Sound t) {name : String}
    {convert : Float → V} (h : Handler.numerals name convert ∈ r.handlers) :
    ∀ x ∈ t.entries, ¬ Numeral.Opens x.1 := by
  intro x hx hopens
  obtain ⟨p, hsignature, hdrawable, hunclaimed⟩ := ht.unclaimed hx
  rw [← hsignature] at hopens
  have hclaim : ((Handler.numerals name convert : Handler V E).claim p).isSome = true :=
    (Handler.numerals_claim_iff_of_isDrawable name convert hdrawable).mpr hopens
  rw [hunclaimed _ h] at hclaim
  cases hclaim

/-- A registry with the handler for numerals never has a secret under a signature that opens like a
number, neither in a table that is derived nor in one that answers for a world. -/
theorem table_of_numerals (name : String) (convert : Float → V) :
    (∀ p, ((Handler.numerals name convert : Handler V E).claim p).isSome = true ↔
      Numeral.Opens p.signature ∧ 's' ∉ p.signature.toList.drop 4) ∧
    (∀ p, p.isDrawable = true →
      (((Handler.numerals name convert : Handler V E).claim p).isSome = true ↔
        Numeral.Opens p.signature)) ∧
    ∀ r : Registry V E, Handler.numerals name convert ∈ r.handlers →
      (∀ seed, ∀ x ∈ (r.derive seed).table.entries, ¬ Numeral.Opens x.1) ∧
      ∀ st qs w, ∀ x ∈ (r.table w (r.after st qs)).1.entries, ¬ Numeral.Opens x.1 := by
  refine ⟨Handler.numerals_claim_iff name convert, ?_, ?_⟩
  · exact fun p hp => Handler.numerals_claim_iff_of_isDrawable name convert hp
  · intro r h
    constructor
    · exact fun seed => (r.sound_derive seed).not_opens h
    · exact fun st qs w => (r.sound_table_after st qs w).not_opens h

def mixed.zero : Pattern := ⟨.east, [.leftBack, .left, .leftBack, .leftBack]⟩

/-- A table that has the drawing of zero for the secret is of no use: the secret gets another. -/
theorem table_of_numerals_mixed :
    let h : Handler Unit Unit := .numerals "numeral" fun _ => ()
    let r := { mixed with handlers := [h] }
    let t : SecretTable := ⟨42, [("aqaa", ⟨mixed.secret, .east⟩)], by decide⟩
    let st := (Store.empty.keep 7 t).2
    mixed.zero.isDrawable = true ∧ mixed.zero.signature = "aqaa" ∧
      (h.claim mixed.zero).isSome = true ∧ h ∈ r.handlers ∧
      (r.backing.load st 7).1 = .ok (some t) ∧
      (r.table ⟨7, 42⟩ (r.after st [])).1.entries = [("weq", ⟨mixed.secret, .west⟩)] ∧
      ∀ x ∈ (r.table ⟨7, 42⟩ (r.after st [])).1.entries, ¬ Numeral.Opens x.1 := by
  intro h r t st
  have hdrawable : mixed.zero.isDrawable = true := by decide
  have hsignature : mixed.zero.signature = "aqaa" := by decide
  have hmem : h ∈ r.handlers := List.mem_singleton_self h
  have hload : (r.backing.load st 7).1 = .ok (some t) := by decide +kernel
  have hentries : (r.table ⟨7, 42⟩ (r.after st [])).1.entries =
      [("weq", ⟨mixed.secret, .west⟩)] := by decide +kernel
  obtain ⟨-, hclaim, htable⟩ := table_of_numerals (E := Unit) "numeral" fun _ => ()
  have hopens : Numeral.Opens mixed.zero.signature := .inl (hsignature ▸ List.prefix_refl _)
  exact ⟨hdrawable, hsignature, (hclaim _ hdrawable).mpr hopens, hmem, hload, hentries,
    (htable r hmem).2 st [] ⟨7, 42⟩⟩

end Registry

end HexGesture
