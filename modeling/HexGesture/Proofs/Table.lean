import HexGesture.Secret.Table

/-! Looking things up in a table of secrets. No signature occurs twice, so what is found under the
signature of an entry is that entry, and a new signature always makes a new entry. -/
namespace HexGesture.SecretTable

theorem get?_eq_some_iff {t : SecretTable} {signature : String} {s : Secret} :
    t.get? signature = some s ↔ (signature, s) ∈ t.entries :=
  Keyed.lookup_eq_some_iff t.distinct

theorem contains_iff {t : SecretTable} {signature : String} :
    t.contains signature = true ↔ signature ∈ t.entries.map Prod.fst := by
  rw [contains, Option.isSome_iff_exists, List.mem_map]
  constructor
  · rintro ⟨s, hs⟩
    exact ⟨(signature, s), get?_eq_some_iff.mp hs, rfl⟩
  · rintro ⟨⟨_, s⟩, he, rfl⟩
    exact ⟨s, get?_eq_some_iff.mpr he⟩

theorem entries_insert {t : SecretTable} {signature : String} (s : Secret)
    (h : t.contains signature = false) :
    (t.insert signature s).entries = t.entries ++ [(signature, s)] := by
  apply Keyed.put_of_not_mem
  intro hm
  rw [contains_iff.mpr hm] at h
  cases h

theorem insert_of_append {t u : SecretTable} {e : String × Secret} {es : List (String × Secret)}
    (h : u.entries = t.entries ++ e :: es) :
    t.contains e.1 = false ∧ u.entries = (t.insert e.1 e.2).entries ++ es := by
  have hnew : t.contains e.1 = false := by
    have hd := u.distinct
    rw [h, List.map_append, List.nodup_append] at hd
    rw [← Bool.not_eq_true, contains_iff]
    exact fun hm => hd.2.2 e.1 hm e.1 (by simp) rfl
  refine ⟨hnew, ?_⟩
  rw [entries_insert _ hnew, h, List.append_assoc]
  rfl

end HexGesture.SecretTable
