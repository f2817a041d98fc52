import HexGesture.Operator.Id
import Mathlib.Data.List.TakeDrop
import Mathlib.Data.List.TakeWhile

/-! Operator ids and their texts. A scope holds no colon, so the first colon of a displayed id is
the one between its halves, and what is displayed reads back. A text reads as an id just when both
halves of it are words of their kind; otherwise the first half that is none is at fault. -/
namespace HexGesture

theorem IdError.message_eq (e : IdError) : e.message =
    "invalid operator id '" ++ (e.scope ++ ":" ++ e.path) ++ "': " ++ e.fault.message := by
  have hparts : e.message = "invalid operator id '" ++ e.scope ++ ":" ++ e.path ++ "': " ++
      e.fault.message := rfl
  rw [hparts]
  simp only [String.append_assoc]

namespace OperatorId

theorem fault?_eq_none_iff (ok : Char → Bool) (part : String) :
    fault? ok part = none ↔ part.toList ≠ [] ∧ ∀ c ∈ part.toList, ok c = true := by
  rw [← List.all_eq_true]
  by_cases he : part.toList = []
  · simp [fault?, he]
  · by_cases ha : part.toList.all ok = true
    · simp [fault?, he, ha]
    · simp [fault?, he, ha]

theorem fault?_defaultScope : fault? isScopeChar defaultScope = none := by decide

theorem ne_colon_of_mem_scope (i : OperatorId) {c : Char} (h : c ∈ i.scope.toList) : c ≠ ':' := by
  have hok := ((fault?_eq_none_iff _ _).mp i.scope_ok).2 c h
  rintro rfl
  revert hok
  decide

theorem display_eq (i : OperatorId) : i.display = i.scope ++ ":" ++ i.path := by
  simp [display, toString]

theorem toList_display (i : OperatorId) :
    i.display.toList = i.scope.toList ++ ':' :: i.path.toList := by
  simp [display_eq]

theorem make_scope_path (i : OperatorId) : make i.scope i.path = .ok i := by
  unfold make
  split
  · next f hf =>
    rw [i.scope_ok] at hf
    cases hf
  · split
    · next f hf =>
      rw [i.path_ok] at hf
      cases hf
    · rfl

theorem ne_colon_of_not_mem {cs : List Char} (h : ':' ∉ cs) : ∀ c ∈ cs, decide (c ≠ ':') = true :=
  fun _ hc => decide_eq_true fun heq => h (heq ▸ hc)

theorem span_append_colon {before after : List Char} (h : ':' ∉ before) :
    (before ++ ':' :: after).span (· ≠ ':') = (before, ':' :: after) := by
  have hbefore := ne_colon_of_not_mem h
  rw [List.span_eq_takeWhile_dropWhile, List.takeWhile_append_of_pos hbefore,
    List.dropWhile_append_of_pos hbefore]
  simp

theorem span_of_not_mem {cs : List Char} (h : ':' ∉ cs) : cs.span (· ≠ ':') = (cs, []) := by
  have hall := ne_colon_of_not_mem h
  rw [List.span_eq_takeWhile_dropWhile, List.takeWhile_eq_self_iff.mpr hall,
    List.dropWhile_eq_nil_iff.mpr hall]

/-- A text and its halves. The first colon parts them; a text without one is a path in the default
scope. -/
inductive Halves : String → String → String → Prop
  | named {scope : String} (path : String) (h : ':' ∉ scope.toList) :
    Halves (scope ++ ":" ++ path) scope path
  | bare {text : String} (h : ':' ∉ text.toList) : Halves text defaultScope text

theorem exists_halves (text : String) : ∃ scope path, Halves text scope path := by
  by_cases hcolon : ':' ∈ text.toList
  · obtain ⟨before, after, hsplit, hbefore⟩ := List.eq_append_cons_of_mem hcolon
    have htext : text = String.ofList before ++ ":" ++ String.ofList after := by
      rw [← String.toList_inj, hsplit]
      simp
    rw [htext]
    exact ⟨_, _, .named _ (by simpa using hbefore)⟩
  · exact ⟨_, _, .bare hcolon⟩

theorem Halves.ofString_eq {text scope path : String} (h : Halves text scope path) :
    ofString text = make scope path := by
  cases h with
  | named path h =>
    have hsplit : (scope ++ ":" ++ path).toList = scope.toList ++ ':' :: path.toList := by simp
    rw [ofString, hsplit, span_append_colon h]
    simp
  | bare h => rw [ofString, span_of_not_mem h]

/-- The text that names the scope also where it is the default. -/
def fullText (text : String) : String :=
  if ':' ∈ text.toList then text else defaultScope ++ ":" ++ text

theorem Halves.fullText_eq {text scope path : String} (h : Halves text scope path) :
    fullText text = scope ++ ":" ++ path := by
  cases h with
  | named path h => rw [fullText, if_pos (by simp)]
  | bare h => rw [fullText, if_neg h]

theorem halves_display (i : OperatorId) : Halves i.display i.scope i.path := by
  rw [display_eq]
  exact .named i.path fun hmem => i.ne_colon_of_mem_scope hmem rfl

theorem ofString_display (i : OperatorId) : ofString i.display = .ok i := by
  rw [i.halves_display.ofString_eq, i.make_scope_path]

theorem make_eq_ok {scope path : String} {i : OperatorId} (h : make scope path = .ok i) :
    i.scope = scope ∧ i.path = path := by
  unfold make at h
  split at h
  · cases h
  · split at h
    · cases h
    · cases h
      exact ⟨rfl, rfl⟩

theorem display_of_ofString {text : String} {i : OperatorId} (h : ofString text = .ok i) :
    i.display = fullText text := by
  obtain ⟨scope, path, hhalves⟩ := exists_halves text
  rw [hhalves.ofString_eq] at h
  obtain ⟨rfl, rfl⟩ := make_eq_ok h
  rw [hhalves.fullText_eq, display_eq]

def ScopeLetter (c : Char) : Prop :=
  ('a' ≤ c ∧ c ≤ 'z') ∨ ('0' ≤ c ∧ c ≤ '9') ∨ c = '_' ∨ c = '.' ∨ c = '-'

def IsScope (s : String) : Prop := s ≠ "" ∧ ∀ c ∈ s.toList, ScopeLetter c

def IsPath (s : String) : Prop := s ≠ "" ∧ ∀ c ∈ s.toList, ScopeLetter c ∨ c = '/'

theorem isScopeChar_iff {c : Char} : isScopeChar c = true ↔ ScopeLetter c := by
  have hl : c.isLower = true ↔ 'a' ≤ c ∧ c ≤ 'z' :=
    Bool.and_eq_true_iff.trans (by simp [Char.le_def])
  have hd : c.isDigit = true ↔ '0' ≤ c ∧ c ≤ '9' :=
    Bool.and_eq_true_iff.trans (by simp [Char.le_def])
  simp [isScopeChar, ScopeLetter, hl, hd, or_assoc]

theorem isPathChar_iff {c : Char} : isPathChar c = true ↔ ScopeLetter c ∨ c = '/' := by
  simp [isPathChar, isScopeChar_iff]

theorem fault?_scope_eq_none_iff {s : String} : fault? isScopeChar s = none ↔ IsScope s := by
  simp [fault?_eq_none_iff, IsScope, isScopeChar_iff]

theorem fault?_path_eq_none_iff {s : String} : fault? isPathChar s = none ↔ IsPath s := by
  simp [fault?_eq_none_iff, IsPath, isPathChar_iff]

instance : DecidablePred IsScope := fun _ => decidable_of_iff _ fault?_scope_eq_none_iff

theorem message_of_fault? {ok : Char → Bool} {part : String} {f : IdFault}
    (h : fault? ok part = some f) :
    f.message = if part = "" then "empty namespace or path" else "illegal character" := by
  rw [fault?] at h
  split at h
  · next he =>
    cases h
    rw [if_pos (by simpa using he)]
    rfl
  · next he =>
    split at h
    · cases h
    · cases h
      rw [if_neg (by simpa using he)]
      rfl

theorem exists_make_iff {scope path : String} :
    (∃ i, make scope path = .ok i) ↔ IsScope scope ∧ IsPath path := by
  constructor
  · rintro ⟨i, hi⟩
    obtain ⟨rfl, rfl⟩ := make_eq_ok hi
    exact ⟨fault?_scope_eq_none_iff.mp i.scope_ok, fault?_path_eq_none_iff.mp i.path_ok⟩
  · rintro ⟨hscope, hpath⟩
    exact ⟨_, make_scope_path ⟨scope, path, fault?_scope_eq_none_iff.mpr hscope,
      fault?_path_eq_none_iff.mpr hpath⟩⟩

/-- The half at fault when a scope and a path make no id: the path only if the scope is good. -/
def culprit (scope path : String) : String := if IsScope scope then path else scope

theorem make_eq_error {scope path : String} {e : IdError} (h : make scope path = .error e) :
    e.scope = scope ∧ e.path = path ∧ e.fault.message =
      if culprit scope path = "" then "empty namespace or path" else "illegal character" := by
  unfold make at h
  split at h
  · next f hf =>
    cases h
    have hscope : ¬ IsScope scope := by
      rw [← fault?_scope_eq_none_iff, hf]
      simp
    exact ⟨rfl, rfl, by rw [culprit, if_neg hscope, message_of_fault? hf]⟩
  · next hs =>
    split at h
    · next f hf =>
      cases h
      have hscope : IsScope scope := fault?_scope_eq_none_iff.mp hs
      exact ⟨rfl, rfl, by rw [culprit, if_pos hscope, message_of_fault? hf]⟩
    · cases h

theorem ofString_eq_ok_iff {text : String} {i : OperatorId} :
    ofString text = .ok i ↔ Halves text i.scope i.path := by
  constructor
  · intro h
    obtain ⟨scope, path, hhalves⟩ := exists_halves text
    rw [hhalves.ofString_eq] at h
    obtain ⟨rfl, rfl⟩ := make_eq_ok h
    exact hhalves
  · intro h
    rw [h.ofString_eq, i.make_scope_path]

theorem exists_ofString_iff {text : String} :
    (∃ i, ofString text = .ok i) ↔ (':' ∉ text.toList ∧ IsPath text) ∨
      ∃ scope path, ':' ∉ scope.toList ∧ text = scope ++ ":" ++ path ∧ IsScope scope ∧
        IsPath path := by
  constructor
  · rintro ⟨i, hi⟩
    have hhalves := ofString_eq_ok_iff.mp hi
    obtain ⟨hscope, hpath⟩ := exists_make_iff.mp ⟨i, i.make_scope_path⟩
    generalize i.scope = scope, i.path = path at hhalves hscope hpath
    cases hhalves with
    | named path h => exact .inr ⟨scope, path, h, rfl, hscope, hpath⟩
    | bare h => exact .inl ⟨h, hpath⟩
  · rintro (⟨h, hpath⟩ | ⟨scope, path, h, rfl, hscope, hpath⟩)
    · have hdefault : IsScope defaultScope := fault?_scope_eq_none_iff.mp fault?_defaultScope
      rw [(Halves.bare h).ofString_eq]
      exact exists_make_iff.mpr ⟨hdefault, hpath⟩
    · rw [(Halves.named path h).ofString_eq]
      exact exists_make_iff.mpr ⟨hscope, hpath⟩

theorem ofString_eq_error {text : String} {e : IdError} (h : ofString text = .error e) :
    Halves text e.scope e.path ∧ e.message = "invalid operator id '" ++ fullText text ++ "': " ++
      if culprit e.scope e.path = "" then "empty namespace or path" else "illegal character" := by
  obtain ⟨scope, path, hhalves⟩ := exists_halves text
  rw [hhalves.ofString_eq] at h
  obtain ⟨rfl, rfl, hreason⟩ := make_eq_error h
  exact ⟨hhalves, by rw [e.message_eq, hreason, hhalves.fullText_eq]⟩

/-- A text reads as an id just when its halves are a scope and a path, and is otherwise refused for
the half at fault. What is displayed reads as the id again. -/
theorem ofString_exact :
    (∀ text, ((∃ i, ofString text = .ok i) ↔ (':' ∉ text.toList ∧ IsPath text) ∨
        ∃ scope path, ':' ∉ scope.toList ∧ text = scope ++ ":" ++ path ∧ IsScope scope ∧
          IsPath path) ∧
      (∀ i, ofString text = .ok i ↔ Halves text i.scope i.path) ∧
      (∀ i, ofString text = .ok i →
        i.display = if ':' ∈ text.toList then text else "hexcasting:" ++ text) ∧
      ∀ e, ofString text = .error e → Halves text e.scope e.path ∧
        e.message = "invalid operator id '" ++ fullText text ++ "': " ++
          if culprit e.scope e.path = "" then "empty namespace or path"
          else "illegal character") ∧
    (∀ i : OperatorId, ofString i.display = .ok i) ∧
    ∀ i j : OperatorId, i.display = j.display → i = j := by
  refine ⟨fun text => ⟨exists_ofString_iff, fun i => ofString_eq_ok_iff, ?_, ?_⟩, ?_, ?_⟩
  · exact fun i hi => display_of_ofString hi
  · exact fun e he => ofString_eq_error he
  · exact ofString_display
  · intro i j hdisplay
    have hj := ofString_display j
    rw [← hdisplay, ofString_display] at hj
    exact Except.ok.inj hj

/-- Only the first colon parts the text, and the scope is looked at first. -/
example : ofString "a:b:c" = .error ⟨"a", "b:c", .illegalCharacter⟩ ∧
    ofString "A:" = .error ⟨"A", "", .illegalCharacter⟩ ∧
    ofString ":" = .error ⟨"", "", .empty⟩ := by decide

end OperatorId

end HexGesture
