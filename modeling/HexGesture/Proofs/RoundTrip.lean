import HexGesture.Proofs.Layout
import HexGesture.Proofs.Table

/-! Reading back what was written. Items in any mix are told apart by their own bytes alone, so a
run of readers gives back exactly the items that were written and stops where they stop. A text
beyond the limit is written all the same, and its item is then refused. -/
namespace HexGesture

namespace Reader

def ReadableEntry (e : String × Secret) : Prop :=
  textSize e.1 ≤ maxTextLength ∧ textSize e.2.operator.display ≤ maxTextLength

/-- Entries with new signatures are added one by one. -/
theorem yields_secrets {t u : SecretTable} {es : List (String × Secret)} (hseed : u.seed = t.seed)
    (hu : u.entries = t.entries ++ es) (hes : ∀ e ∈ es, ReadableEntry e) :
    (secrets es.length t).Yields (es.flatMap fun e => e.2.layout e.1) u := by
  induction es generalizing t with
  | nil =>
    have htu : t = u := SecretTable.ext hseed.symm (by simpa using hu.symm)
    rw [htu]
    exact yields_pure u
  | cons e es ih =>
    obtain ⟨hsig, hid⟩ := hes e (by simp)
    obtain ⟨hnew, htail⟩ := SecretTable.insert_of_append hu
    have hrest : (secrets es.length (t.insert e.1 e.2)).Yields
        (es.flatMap fun e => e.2.layout e.1) u := ih hseed htail fun x hx => hes x (by simp [hx])
    refine (yields_secret hsig hid).bind ?_
    simp only [hnew]
    exact hrest

theorem refuses_secret {e : String × Secret} (hsig : textSize e.1 < UInt32.size)
    (hid : textSize e.2.operator.display < UInt32.size) (h : ¬ ReadableEntry e) :
    ∃ s ∈ [e.1, e.2.operator.display], maxTextLength < textSize s ∧
      secret.Refuses (e.2.layout e.1) (.malformed (.textTooLong (textSize s))) := by
  by_cases hs : textSize e.1 ≤ maxTextLength
  · have hlong : maxTextLength < textSize e.2.operator.display :=
      Nat.not_le.mp fun hle => h ⟨hs, hle⟩
    have hop : operatorId.Refuses (textLayout e.2.operator.display)
        (.malformed (.textTooLong (textSize e.2.operator.display))) :=
      (refuses_text hlong hid).bind_nil _
    exact ⟨_, by simp, hlong, (yields_text hs).bind_refuses (hop.bind _ _)⟩
  · have hlong : maxTextLength < textSize e.1 := Nat.not_le.mp hs
    exact ⟨_, by simp, hlong, (refuses_text hlong hsig).bind _ _⟩

/-- The first entry with a text beyond the limit ends the reading. -/
theorem refuses_secrets {t u : SecretTable} {es : List (String × Secret)}
    (hu : u.entries = t.entries ++ es) (hw : ∀ e ∈ es, WritableEntry e)
    (hes : ¬ ∀ e ∈ es, ReadableEntry e) :
    ∃ s ∈ es.flatMap fun e => [e.1, e.2.operator.display], maxTextLength < textSize s ∧
      (secrets es.length t).Refuses (es.flatMap fun e => e.2.layout e.1)
        (.malformed (.textTooLong (textSize s))) := by
  induction es generalizing t with
  | nil => exact absurd (fun _ he => absurd he List.not_mem_nil) hes
  | cons e es ih =>
    obtain ⟨hsig, hid⟩ := hw e (by simp)
    by_cases he : ReadableEntry e
    · obtain ⟨hnew, htail⟩ := SecretTable.insert_of_append hu
      have hbad : ¬ ∀ x ∈ es, ReadableEntry x := fun hall => hes (by simpa [he] using hall)
      obtain ⟨s, hs, hlong, hrefuse⟩ := ih htail (fun x hx => hw x (by simp [hx])) hbad
      obtain ⟨x, hx, hsx⟩ := List.mem_flatMap.mp hs
      refine ⟨s, List.mem_flatMap.mpr ⟨x, by simp [hx], hsx⟩, hlong, ?_⟩
      refine (yields_secret he.1 he.2).bind_refuses ?_
      simp only [hnew]
      exact hrefuse
    · obtain ⟨s, hs, hlong, hrefuse⟩ := refuses_secret hsig hid he
      exact ⟨s, List.mem_flatMap.mpr ⟨e, by simp, hs⟩, hlong, hrefuse.bind _ _⟩

end Reader

theorem SecretTable.run_read_layout {t : SecretTable} (h : t.length < UInt32.size)
    (rest : List UInt8) :
    read.run (t.layout ++ rest) = (Reader.secrets t.length (empty t.seed)).run
      ((t.entries.flatMap fun e => e.2.layout e.1) ++ rest) := by
  obtain ⟨hlen, hnat⟩ := Reader.yields_length h
  have hmagic : (Reader.bytes 4).Yields magic magic := Reader.yields_bytes rfl
  simp only [layout, List.append_assoc]
  rw [read, hmagic.run_bind]
  simp only [ne_eq, not_true_eq_false, if_false]
  rw [(Reader.yields_byte formatVersion).run_bind]
  simp only [not_true_eq_false, if_false]
  rw [(Reader.yields_word64 t.seed).run_bind, hlen.run_bind, hnat]

theorem SecretTable.yields_read {t : SecretTable} (hlen : t.length < UInt32.size)
    (hr : ∀ e ∈ t.entries, Reader.ReadableEntry e) : read.Yields t.layout t := by
  have hsecrets : (Reader.secrets t.length (empty t.seed)).Yields
      (t.entries.flatMap fun e => e.2.layout e.1) t := Reader.yields_secrets rfl rfl hr
  intro rest
  rw [run_read_layout hlen]
  exact hsecrets rest

theorem SecretTable.refuses_read {t : SecretTable} (hlen : t.length < UInt32.size)
    (hw : ∀ e ∈ t.entries, WritableEntry e) (hr : ¬ ∀ e ∈ t.entries, Reader.ReadableEntry e) :
    ∃ s ∈ t.entries.flatMap fun e => [e.1, e.2.operator.display], maxTextLength < textSize s ∧
      read.Refuses t.layout (.malformed (.textTooLong (textSize s))) := by
  obtain ⟨s, hs, hlong, hsecrets⟩ := Reader.refuses_secrets (t := empty t.seed) rfl hw hr
  refine ⟨s, hs, hlong, ?_⟩
  intro rest
  rw [run_read_layout hlen]
  exact hsecrets rest

namespace Item

def texts : Item → List String
  | text s => [s]
  | table t => t.entries.flatMap fun e => [e.1, e.2.operator.display]
  | _ => []

def count : Item → Nat
  | pattern p => p.length
  | table t => t.length
  | _ => 0

def Writable (x : Item) : Prop := x.count < UInt32.size ∧ ∀ s ∈ x.texts, textSize s < UInt32.size

def Readable (x : Item) : Prop := ∀ s ∈ x.texts, textSize s ≤ maxTextLength

instance (x : Item) : Decidable x.Writable := inferInstanceAs (Decidable (_ ∧ _))

instance (x : Item) : Decidable x.Readable := inferInstanceAs (Decidable (∀ s ∈ x.texts, _))

def layout : Item → List UInt8
  | byte b => [b]
  | word32 n => bytes32 n
  | word64 n => bytes64 n
  | text s => textLayout s
  | pattern p => p.layout
  | table t => t.layout

theorem forall_texts_table {t : SecretTable} {P : String → Prop} :
    (∀ s ∈ (table t).texts, P s) ↔ ∀ e ∈ t.entries, P e.1 ∧ P e.2.operator.display := by
  constructor
  · intro h e he
    exact ⟨h e.1 (List.mem_flatMap.mpr ⟨e, he, by simp⟩),
      h e.2.operator.display (List.mem_flatMap.mpr ⟨e, he, by simp⟩)⟩
  · intro h s hs
    obtain ⟨e, he, hs⟩ := List.mem_flatMap.mp hs
    simp only [List.mem_cons, List.not_mem_nil, or_false] at hs
    rcases hs with rfl | rfl
    · exact (h e he).1
    · exact (h e he).2

theorem readable_table {t : SecretTable} :
    (table t).Readable ↔ ∀ e ∈ t.entries, Reader.ReadableEntry e := forall_texts_table

theorem write_eq {x : Item} (h : x.Writable) : x.write = .ok x.layout := by
  obtain ⟨hcount, htexts⟩ := h
  cases x with
  | byte b => rfl
  | word32 n => rfl
  | word64 n => rfl
  | text s => exact writeText_eq (htexts s (by simp [texts]))
  | pattern p => exact Pattern.write_eq hcount
  | table t => exact SecretTable.write_eq hcount (forall_texts_table.mp htexts)

theorem yields_read {x : Item} (hw : x.Writable) (hr : x.Readable) :
    x.kind.read.Yields x.layout x := by
  cases x with
  | byte b => exact (Reader.yields_byte b).map _
  | word32 n => exact (Reader.yields_word32 n).map _
  | word64 n => exact (Reader.yields_word64 n).map _
  | text s => exact (Reader.yields_text (hr s (by simp [texts]))).map _
  | pattern p => exact (Reader.yields_pattern hw.1).map _
  | table t => exact (SecretTable.yields_read hw.1 (readable_table.mp hr)).map _

theorem refuses_read {x : Item} (hw : x.Writable) (hr : ¬ x.Readable) :
    ∃ s ∈ x.texts, maxTextLength < textSize s ∧
      x.kind.read.Refuses x.layout (.malformed (.textTooLong (textSize s))) := by
  cases x with
  | text s =>
    have hlong : maxTextLength < textSize s := by simpa [Readable, texts] using hr
    exact ⟨s, by simp [texts], hlong,
      (Reader.refuses_text hlong (hw.2 s (by simp [texts]))).map _⟩
  | table t =>
    obtain ⟨s, hs, hlong, htable⟩ := SecretTable.refuses_read hw.1
      (forall_texts_table.mp hw.2) fun hall => hr (readable_table.mpr hall)
    exact ⟨s, hs, hlong, htable.map _⟩
  | byte b => simp [Readable, texts] at hr
  | word32 n => simp [Readable, texts] at hr
  | word64 n => simp [Readable, texts] at hr
  | pattern p => simp [Readable, texts] at hr

theorem writeAll_eq {xs : List Item} (h : ∀ x ∈ xs, x.Writable) :
    writeAll xs = .ok (xs.flatMap layout) := by
  have hmap : xs.mapM write = .ok (xs.map layout) := by
    induction xs with
    | nil => rfl
    | cons x xs ih =>
      rw [List.mapM_cons, write_eq (h x (by simp)), ih fun y hy => h y (by simp [hy])]
      rfl
  rw [writeAll, hmap, List.flatMap_def]
  rfl

theorem yields_readAll {xs : List Item} (hw : ∀ x ∈ xs, x.Writable)
    (hr : ∀ x ∈ xs, x.Readable) :
    (ItemKind.readAll (xs.map kind)).Yields (xs.flatMap layout) xs := by
  induction xs with
  | nil => exact Reader.yields_pure []
  | cons x xs ih =>
    have hx := yields_read (hw x (by simp)) (hr x (by simp))
    have hxs := ih (fun y hy => hw y (by simp [hy])) fun y hy => hr y (by simp [hy])
    rw [ItemKind.readAll, List.map_cons, List.mapM_cons, List.flatMap_cons]
    exact hx.bind (hxs.bind_nil (Reader.yields_pure _))

/-- The first item with a text beyond the limit ends the reading. -/
theorem refuses_readAll {before after : List Item} {x : Item}
    (hw : ∀ y ∈ before ++ x :: after, y.Writable) (hr : ∀ y ∈ before, y.Readable)
    (hx : ¬ x.Readable) :
    ∃ s ∈ x.texts, maxTextLength < textSize s ∧
      (ItemKind.readAll ((before ++ x :: after).map kind)).Refuses
        ((before ++ x :: after).flatMap layout) (.malformed (.textTooLong (textSize s))) := by
  induction before with
  | nil =>
    obtain ⟨s, hs, hlong, hrefuse⟩ := refuses_read (hw x (by simp)) hx
    refine ⟨s, hs, hlong, ?_⟩
    rw [List.nil_append, ItemKind.readAll, List.map_cons, List.mapM_cons, List.flatMap_cons]
    exact hrefuse.bind _ _
  | cons y before ih =>
    have hy := yields_read (hw y (by simp)) (hr y (by simp))
    obtain ⟨s, hs, hlong, hrefuse⟩ := ih (fun z hz => hw z (List.mem_cons_of_mem y hz))
      fun z hz => hr z (List.mem_cons_of_mem y hz)
    refine ⟨s, hs, hlong, ?_⟩
    rw [List.cons_append, ItemKind.readAll, List.map_cons, List.mapM_cons, List.flatMap_cons]
    exact hy.bind_refuses (hrefuse.bind_nil _)

/-- Items whose lengths fit four bytes can always be written. If no text is beyond the limit, they
are read back as they were, and what comes after them stays unread. An item with a text beyond the
limit is refused where it is read, by itself and in a run that gets that far. -/
theorem readAll_writeAll (xs : List Item) (hw : ∀ x ∈ xs, x.Writable) :
    ∃ data, writeAll xs = .ok data ∧
      ((∀ x ∈ xs, x.Readable) → ∀ rest,
        (ItemKind.readAll (xs.map kind)).run (data ++ rest) = .ok (xs, rest)) ∧
      (∀ x ∈ xs, ¬ x.Readable → ∃ item, x.write = .ok item ∧
        ∃ s ∈ x.texts, maxTextLength < textSize s ∧ ∀ rest,
          x.kind.read.run (item ++ rest) = .error (.malformed (.textTooLong (textSize s)))) ∧
      (∀ before x after, xs = before ++ x :: after → (∀ y ∈ before, y.Readable) →
        ¬ x.Readable → ∃ s ∈ x.texts, maxTextLength < textSize s ∧ ∀ rest,
          (ItemKind.readAll (xs.map kind)).run (data ++ rest) =
            .error (.malformed (.textTooLong (textSize s)))) := by
  refine ⟨xs.flatMap layout, writeAll_eq hw, fun hr => yields_readAll hw hr, ?_, ?_⟩
  · intro x hx hr
    exact ⟨x.layout, write_eq (hw x hx), refuses_read (hw x hx) hr⟩
  · rintro before x after rfl hr hx
    exact refuses_readAll hw hr hx

theorem textSize_replicate (n : Nat) (c : Char) :
    textSize (String.ofList (List.replicate n c)) = n * c.utf8Size := by
  rw [textSize_eq_utf8ByteSize]
  induction n with
  | zero => simp
  | succ n ih =>
    rw [List.replicate_succ', String.ofList_append, String.utf8ByteSize_append, ih, Nat.succ_mul]
    simp

/-- A text, a pattern that no pen could draw, a table and a number are read back. A text of one
letter more than the limit allows is not, though it can be written. -/
theorem readAll_writeAll_mixed :
    let p : Pattern := ⟨.east, [.back, .back]⟩
    let t : SecretTable :=
      ⟨7, [("qaq", ⟨⟨"a", "b", by decide, by decide⟩, .west⟩)], by simp⟩
    let xs : List Item := [.text "é", .pattern p, .table t, .word32 5]
    let long := String.ofList (List.replicate (maxTextLength + 1) 'w')
    let ys : List Item := [.byte 1, .text long, .pattern p]
    ((∀ x ∈ xs, x.Writable) ∧ (∀ x ∈ xs, x.Readable) ∧
      ∃ data, writeAll xs = .ok data ∧ ∀ rest,
        (ItemKind.readAll (xs.map kind)).run (data ++ rest) = .ok (xs, rest)) ∧
    (∀ y ∈ ys, y.Writable) ∧ ∃ data, writeAll ys = .ok data ∧ ∀ rest,
      (ItemKind.readAll (ys.map kind)).run (data ++ rest) =
        .error (.malformed (.textTooLong (maxTextLength + 1))) := by
  intro p t xs long ys
  have hlong : textSize long = maxTextLength + 1 := textSize_replicate _ _
  have hxs : ∀ x ∈ xs, x.Writable := by decide
  have hread : ∀ x ∈ xs, x.Readable := by decide
  have hys : ∀ y ∈ ys, y.Writable := by
    simp [ys, Writable, count, texts, hlong, Pattern.length, p, maxTextLength, UInt32.size]
  obtain ⟨data, hdata, hyields, -⟩ := readAll_writeAll xs hxs
  obtain ⟨data', hdata', -, -, hrefuses⟩ := readAll_writeAll ys hys
  have hbyte : ∀ y ∈ [byte 1], y.Readable := by decide
  have htext : ¬ (text long).Readable := by simp [Readable, texts, hlong]
  obtain ⟨s, hs, -, hrun⟩ := hrefuses [.byte 1] (.text long) [.pattern p] rfl hbyte htext
  have hs' : s = long := List.mem_singleton.mp hs
  rw [hs', hlong] at hrun
  exact ⟨⟨hxs, hread, data, hdata, hyields hread⟩, hys, data', hdata', hrun⟩

end Item

end HexGesture
