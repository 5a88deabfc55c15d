/-!
# Byte texts

Source code, names, strings and messages are byte strings. Most of them hold UTF-8, but nothing
here requires it: a byte that belongs to no character is kept as it is. This module holds the
carrier and the operations on bytes; `Lisplet.Text.Rune` gives the view as characters.
-/

namespace Lisplet

/-- A text is a finite sequence of bytes. -/
abbrev Text := List UInt8

/-- The bytes of a literal, in UTF-8. -/
def text (s : String) : Text := s.toUTF8.data.toList

namespace Text

/-- The line feed, the only byte that ends a line. -/
def newline : UInt8 := 10

/-- The blank that separates printed items. -/
def blank : UInt8 := 32

/-- The order of texts is that of their bytes, a proper beginning coming first. -/
def before : Text → Text → Bool
  | _, [] => false
  | [], _ :: _ => true
  | a :: s, b :: t => a < b || (a == b && before s t)

/-- No text comes before itself. -/
theorem before_irrefl (t : Text) : t.before t = false := by
  induction t with
  | nil => rfl
  | cons b t ih => simp [before, ih]

/-- What comes before an earlier text comes before a later one. -/
theorem before_trans {s t u : Text} (hst : s.before t = true) (htu : t.before u = true) :
    s.before u = true := by
  induction s generalizing t u with
  | nil =>
    cases u with
    | nil => cases t <;> cases htu
    | cons c u => rfl
  | cons a s ih =>
    cases t with
    | nil => cases hst
    | cons b t =>
      cases u with
      | nil => cases htu
      | cons c u =>
        simp only [before, Bool.or_eq_true, decide_eq_true_eq, Bool.and_eq_true, beq_iff_eq]
          at hst htu ⊢
        rcases hst with hab | ⟨rfl, hst⟩
        · rcases htu with hbc | ⟨rfl, -⟩
          · exact .inl (UInt8.lt_trans hab hbc)
          · exact .inl hab
        · rcases htu with hbc | ⟨rfl, htu⟩
          · exact .inl hbc
          · exact .inr ⟨rfl, ih hst htu⟩

/-- Of two different texts, one comes before the other. -/
theorem before_of_not_before {s t : Text} (hne : s ≠ t) (h : ¬ s.before t = true) :
    t.before s = true := by
  induction s generalizing t with
  | nil =>
    cases t with
    | nil => exact absurd rfl hne
    | cons b t => exact absurd rfl h
  | cons a s ih =>
    cases t with
    | nil => rfl
    | cons b t =>
      simp only [before, Bool.or_eq_true, decide_eq_true_eq, Bool.and_eq_true, beq_iff_eq,
        not_or, not_and] at h ⊢
      by_cases hab : a = b
      · subst hab
        exact .inr ⟨rfl, ih (fun hst => hne (hst ▸ rfl)) (h.2 rfl)⟩
      · exact .inl (UInt8.lt_of_le_of_ne (UInt8.not_lt.mp h.1) (Ne.symm hab))

/-- The given texts, one after the other, with `separator` between neighbours. -/
def join (separator : Text) : List Text → Text
  | [] => []
  | [t] => t
  | t :: rest => t ++ separator ++ join separator rest

/-- The pieces between the occurrences of a byte; there is always at least one. -/
def splitOn (mark : UInt8) : Text → List Text
  | [] => [[]]
  | b :: rest =>
    if b == mark then [] :: splitOn mark rest
    else match splitOn mark rest with
      | [] => [[b]]
      | piece :: pieces => (b :: piece) :: pieces

/-- The text before and after the first occurrence of a byte. -/
def cut? (mark : UInt8) : Text → Option (Text × Text)
  | [] => none
  | b :: rest =>
    if b == mark then some ([], rest)
    else (cut? mark rest).map fun parts => (b :: parts.1, parts.2)

/-- The decimal digits of a natural number. -/
def ofNat (n : Nat) : Text := text (Nat.repr n)

/-- The decimal digits of an integer, a minus sign in front of a negative one. -/
def ofInt : Int → Text
  | .ofNat n => ofNat n
  | .negSucc n => text "-" ++ ofNat (n + 1)

/-- The digit of a hexadecimal numeral, in small letters. -/
def hexDigit (n : Nat) : UInt8 :=
  if n < 10 then UInt8.ofNat (48 + n) else UInt8.ofNat (87 + n)

/-- The last `width` hexadecimal digits of a number, zeros in front if it has fewer. -/
def hex (width n : Nat) : Text :=
  match width with
  | 0 => []
  | width + 1 => hex width (n / 16) ++ [hexDigit (n % 16)]

/-- Whether a byte is an ASCII decimal digit. -/
def isDigit (b : UInt8) : Bool := 48 ≤ b && b ≤ 57

/-- The number that a sequence of decimal digits denotes. -/
def digitsValue (t : Text) : Nat :=
  t.foldl (fun n b => 10 * n + (b.toNat - 48)) 0

end Text

end Lisplet
