import Lisplet.Text.Basic

/-!
# Unknown spellings

Names of levels and policies are given as texts. One that means nothing is refused with a message.
-/

namespace Lisplet

/-- A spelling that means nothing. -/
structure Unknown where
  /-- What it should have named. -/
  subject : Text
  /-- The spelling as it was given. -/
  spelling : Text
  deriving DecidableEq, Repr

/-- The message on a spelling that means nothing. -/
def Unknown.message (u : Unknown) : Text :=
  text "unknown " ++ u.subject ++ text ": " ++ u.spelling

end Lisplet
