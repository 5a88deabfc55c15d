import Lisplet.Text.Basic

/-!
# Characters of a byte text

A byte text is read as a sequence of runes. A rune is a character in its shortest UTF-8 form, or
a stray byte that starts no such form. Reading loses nothing: the bytes of the runes, joined, are
the text that was read.
-/

namespace Lisplet

/-- One unit of a byte text as a reader of UTF-8 sees it. -/
inductive Rune where
  /-- A character, written in its one valid form. -/
  | char (c : Char)
  /-- A byte that starts no valid form; it counts as one unit of its own. -/
  | stray (b : UInt8)
  deriving DecidableEq, Repr

namespace Rune

/-- The number that stands for a byte which belongs to no character. -/
def replacement : Nat := 0xFFFD

/-- The code point that a rune is classified by. -/
def code : Rune → Nat
  | .char c => c.toNat
  | .stray _ => replacement

/-- The shortest UTF-8 form of a code point. -/
def encodeCode (n : Nat) : Text :=
  if n < 0x80 then [UInt8.ofNat n]
  else if n < 0x800 then [UInt8.ofNat (0xC0 + n / 0x40), UInt8.ofNat (0x80 + n % 0x40)]
  else if n < 0x10000 then
    [UInt8.ofNat (0xE0 + n / 0x1000), UInt8.ofNat (0x80 + n / 0x40 % 0x40),
      UInt8.ofNat (0x80 + n % 0x40)]
  else
    [UInt8.ofNat (0xF0 + n / 0x40000), UInt8.ofNat (0x80 + n / 0x1000 % 0x40),
      UInt8.ofNat (0x80 + n / 0x40 % 0x40), UInt8.ofNat (0x80 + n % 0x40)]

/-- The bytes of a rune. -/
def bytes : Rune → Text
  | .char c => encodeCode c.toNat
  | .stray b => [b]

/-- How many bytes a rune takes. -/
def width (r : Rune) : Nat := r.bytes.length

/-- Whether a rune is the given character. -/
def isChar (r : Rune) (c : Char) : Bool := r == .char c

/-- Whether a byte can only stand after the first byte of a form. -/
def isTail (b : UInt8) : Bool := 0x80 ≤ b && b ≤ 0xBF

/-- The code point of a two-byte form. -/
def pair? (a b : UInt8) : Option Nat :=
  if 0xC2 ≤ a && a ≤ 0xDF && isTail b then
    some ((a.toNat - 0xC0) * 0x40 + (b.toNat - 0x80))
  else none

/-- The code point of a three-byte form. The second byte is limited where a shorter form exists
and where the result would be half of a surrogate pair. -/
def triple? (a b c : UInt8) : Option Nat :=
  if 0xE0 ≤ a && a ≤ 0xEF && isTail b && isTail c
      && !(a == 0xE0 && b < 0xA0) && !(a == 0xED && 0x9F < b) then
    some ((a.toNat - 0xE0) * 0x1000 + (b.toNat - 0x80) * 0x40 + (c.toNat - 0x80))
  else none

/-- The code point of a four-byte form, from 0x10000 to 0x10FFFF. -/
def quadruple? (a b c d : UInt8) : Option Nat :=
  if 0xF0 ≤ a && a ≤ 0xF4 && isTail b && isTail c && isTail d
      && !(a == 0xF0 && b < 0x90) && !(a == 0xF4 && 0x8F < b) then
    some ((a.toNat - 0xF0) * 0x40000 + (b.toNat - 0x80) * 0x1000
      + (c.toNat - 0x80) * 0x40 + (d.toNat - 0x80))
  else none

/-- The character that starts with byte `a` and goes on with the bytes of `rest`, as a code
point. At most one form fits, since the first byte fixes the length. -/
def leadingCode? (a : UInt8) (rest : Text) : Option Nat :=
  if a < 0x80 then some a.toNat
  else match rest with
    | b :: c :: d :: _ => (pair? a b).orElse fun _ =>
        (triple? a b c).orElse fun _ => quadruple? a b c d
    | [b, c] => (pair? a b).orElse fun _ => triple? a b c
    | [b] => pair? a b
    | [] => none

/-- The first rune of the text that starts with byte `a`. -/
def leading (a : UInt8) (rest : Text) : Rune :=
  match leadingCode? a rest with
  | some n => .char (Char.ofNat n)
  | none => .stray a

end Rune

namespace Text

/-- The runes of a text behind the bytes that still belong to the rune before it. -/
def runesAfter : (belonging : Nat) → Text → List Rune
  | _, [] => []
  | 0, a :: rest => Rune.leading a rest :: runesAfter ((Rune.leading a rest).width - 1) rest
  | belonging + 1, _ :: rest => runesAfter belonging rest

/-- The runes of a text, from left to right. -/
def runes (t : Text) : List Rune := runesAfter 0 t

/-- The runes behind some bytes are those of the text without these bytes. -/
theorem runesAfter_eq (belonging : Nat) (t : Text) :
    runesAfter belonging t = runes (t.drop belonging) := by
  induction t generalizing belonging with
  | nil => simp [runes, runesAfter]
  | cons a rest ih =>
    cases belonging with
    | zero => rfl
    | succ k => exact ih k

/-- An empty text has no runes. -/
@[simp]
theorem runes_nil : runes [] = [] := rfl

/-- A text that is not empty has its first rune and then the runes behind that one's bytes. -/
theorem runes_cons (a : UInt8) (rest : Text) :
    runes (a :: rest) =
      Rune.leading a rest :: runes (rest.drop ((Rune.leading a rest).width - 1)) := by
  rw [← runesAfter_eq]
  rfl

/-- The text that a sequence of runes spells. -/
def ofRunes (rs : List Rune) : Text := rs.flatMap Rune.bytes

/-- The characters of a literal. -/
def ofChars (cs : List Char) : Text := ofRunes (cs.map Rune.char)

/-- Whether a text is UTF-8 throughout. -/
def isUtf8 (t : Text) : Bool :=
  t.runes.all fun
    | .char _ => true
    | .stray _ => false

end Text

end Lisplet
