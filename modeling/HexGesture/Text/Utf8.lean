/-! UTF-8 texts and what is wrong with bytes that are none. A fault lies where the longest run of
whole characters ends; its width counts the bytes there that begin some character, but at least
one, and is missing when the data ends inside a character. -/
namespace HexGesture.Text

structure Utf8Fault where
  index : Nat
  width : Option Nat
  deriving DecidableEq

namespace Utf8Fault

def message (f : Utf8Fault) : String :=
  match f.width with
  | some n => s!"invalid utf-8 sequence of {n} bytes from index {f.index}"
  | none => s!"incomplete utf-8 byte sequence from index {f.index}"

/-- Bytes still owed after a leading byte, and the bounds of the first of them. -/
structure Owed where
  count : Nat
  least : UInt8
  greatest : UInt8

def Owed.ofLead? (b : UInt8) : Option Owed :=
  if b < 0x80 then some ⟨0, 0x80, 0xbf⟩
  else if b < 0xc2 then none
  else if b < 0xe0 then some ⟨1, 0x80, 0xbf⟩
  else if b = 0xe0 then some ⟨2, 0xa0, 0xbf⟩
  else if b = 0xed then some ⟨2, 0x80, 0x9f⟩
  else if b < 0xf0 then some ⟨2, 0x80, 0xbf⟩
  else if b = 0xf0 then some ⟨3, 0x90, 0xbf⟩
  else if b < 0xf4 then some ⟨3, 0x80, 0xbf⟩
  else if b = 0xf4 then some ⟨3, 0x80, 0x8f⟩
  else none

/-- Scan with `index` bytes in whole characters behind, and `seen` bytes of the next one. -/
def scan (index seen : Nat) (owed : Owed) : List UInt8 → Option Utf8Fault
  | [] => if owed.count = 0 then none else some ⟨index, none⟩
  | b :: bs =>
    if owed.count = 0 then
      match Owed.ofLead? b with
      | none => some ⟨index, some 1⟩
      | some next =>
        if next.count = 0 then scan (index + 1) 0 next bs else scan index 1 next bs
    else if owed.least ≤ b ∧ b ≤ owed.greatest then
      if owed.count = 1 then scan (index + seen + 1) 0 ⟨0, 0x80, 0xbf⟩ bs
      else scan index (seen + 1) ⟨owed.count - 1, 0x80, 0xbf⟩ bs
    else some ⟨index, some seen⟩

def find? (bytes : List UInt8) : Option Utf8Fault := scan 0 0 ⟨0, 0x80, 0xbf⟩ bytes

end Utf8Fault

def utf8Encode (s : String) : List UInt8 := s.toUTF8.data.toList

def utf8Decode? (bytes : List UInt8) : Option String := String.fromUTF8? ⟨bytes.toArray⟩

@[simp] theorem utf8Decode?_utf8Encode (s : String) : utf8Decode? (utf8Encode s) = some s := by
  simp [utf8Decode?, utf8Encode, String.fromUTF8?, String.toUTF8, s.isValidUTF8]
  rfl

theorem utf8Decode?_eq_some {bytes : List UInt8} {s : String} (h : utf8Decode? bytes = some s) :
    bytes = utf8Encode s := by
  simp only [utf8Decode?, String.fromUTF8?, Option.dite_none_right_eq_some] at h
  obtain ⟨_, h⟩ := h
  cases h
  simp [utf8Encode, String.toUTF8, String.fromUTF8]

end HexGesture.Text
