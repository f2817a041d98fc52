import HexGesture.Text.Printable

/-! Quoted characters and texts. Blanks that end a line, the backslash and the quotation mark
itself are written with a backslash; a character without a glyph of its own is written by its
number; all others stand for themselves. -/
namespace HexGesture.Text

def hex (n : Nat) : List Char := Nat.toDigits 16 n

/-- The part of a quotation between marks `mark` that stands for `c`. -/
def quotedChar (mark c : Char) : List Char :=
  if c = '\x00' then ['\\', '0']
  else if c = '\t' then ['\\', 't']
  else if c = '\r' then ['\\', 'r']
  else if c = '\n' then ['\\', 'n']
  else if c = '\\' ∨ c = mark then ['\\', c]
  else if isShown c then [c]
  else ['\\', 'u', '\x7b'] ++ hex c.toNat ++ ['\x7d']

def quoted (mark : Char) (cs : List Char) : String :=
  String.ofList (mark :: cs.flatMap (quotedChar mark) ++ [mark])

def quoteChar (c : Char) : String := quoted '\x27' [c]

def quoteText (s : String) : String := quoted '"' s.toList

end HexGesture.Text
