import Lisplet.Text.Basic

/-!
# Colours

A terminal shows a text in a colour if the text stands between two control sequences.
-/

namespace Lisplet

/-- The colours in use. -/
inductive Colour where
  /-- For errors. -/
  | red
  /-- For results. -/
  | green
  /-- For warnings. -/
  | yellow
  /-- For information. -/
  | blue
  /-- For details. -/
  | magenta
  /-- For messages. -/
  | cyan
  /-- For fields. -/
  | white
  deriving DecidableEq, Repr

namespace Colour

/-- The number of a colour in a control sequence. -/
def number : Colour → Nat
  | .red => 31
  | .green => 32
  | .yellow => 33
  | .blue => 34
  | .magenta => 35
  | .cyan => 36
  | .white => 37

/-- A control sequence that sets a style. -/
def control (n : Nat) : Text := 27 :: text "[" ++ Text.ofNat n ++ text "m"

/-- A text in a colour, or as it is if colours are off. -/
def paint (c : Colour) (colours : Bool) (t : Text) : Text :=
  if colours then control c.number ++ t ++ control 0 else t

end Colour

end Lisplet
