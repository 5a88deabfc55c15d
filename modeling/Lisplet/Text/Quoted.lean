import Lisplet.Text.Printable

/-!
# Quoted texts

A quoted text stands between quotation marks. Printable characters are kept, apart from the mark
itself and the backslash, which get a backslash in front. The usual control characters have a
letter, and everything else is written by its number.
-/

namespace Lisplet

/-- The letter that stands for a control character behind a backslash. -/
def controlLetter? (n : Nat) : Option Char :=
  match n with
  | 7 => some 'a'
  | 8 => some 'b'
  | 9 => some 't'
  | 10 => some 'n'
  | 11 => some 'v'
  | 12 => some 'f'
  | 13 => some 'r'
  | _ => none

/-- A code point that is not written as it is, by its number. -/
def numberEscape (n : Nat) : Text :=
  if n < 0x20 || n == 0x7F then text "\\x" ++ Text.hex 2 n
  else if n < 0x10000 then text "\\u" ++ Text.hex 4 n
  else text "\\U" ++ Text.hex 8 n

/-- One rune inside a quotation whose mark is `mark`. -/
def Rune.quotedIn (mark : Char) : Rune → Text
  | .stray b => text "\\x" ++ Text.hex 2 b.toNat
  | .char c =>
    if c == mark || c == '\\' then text "\\" ++ (Rune.char c).bytes
    else if Text.isPrintable c.toNat then (Rune.char c).bytes
    else match controlLetter? c.toNat with
      | some letter => text "\\" ++ (Rune.char letter).bytes
      | none => numberEscape c.toNat

/-- A text between double quotes. -/
def Text.quoted (t : Text) : Text :=
  text "\"" ++ t.runes.flatMap (Rune.quotedIn '"') ++ text "\""

/-- A rune between single quotes. A stray byte is shown as the replacement character. -/
def Rune.quoted (r : Rune) : Text :=
  text "'" ++ Rune.quotedIn '\'' (.char (Char.ofNat r.code)) ++ text "'"

end Lisplet
