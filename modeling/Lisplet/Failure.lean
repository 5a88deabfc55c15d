import Lisplet.Evaluator.SpecialForm
import Lisplet.Reader.Error
import Lisplet.Spelling

/-!
# Failures

A failure says why an action gave no result. It may be stated within a context, which stands in
front of its message and does not change its cause.
-/

namespace Lisplet

/-- Why an action gave no result. -/
inductive Failure where
  /-- A source text could not be read. -/
  | unreadable (error : ReadError)
  /-- A special form was misused. -/
  | misuse (error : FormError)
  /-- An expression is nested beyond the limit. -/
  | tooDeep (limit : Nat) (expression : Value)
  /-- A level or policy has an unknown spelling. -/
  | unknown (error : Unknown)
  /-- A configuration is not written in the format of configurations. -/
  | malformed
  /-- Any other cause, known by its message. -/
  | plain (message : Text)
  /-- A failure stated within a context. -/
  | within (context : Text) (cause : Failure)

namespace Failure

/-- The class of failures beyond the limit of nesting. -/
def tooDeepCategory : Text := text "maximum evaluation depth exceeded"

/-- The message of a failure. -/
def message : Failure → Text
  | .unreadable e => e.message
  | .misuse e => e.message
  | .tooDeep limit expression =>
    tooDeepCategory ++ text " (" ++ Text.ofNat limit ++ text ") at " ++ expression.source
  | .unknown e => e.message
  | .malformed => text "invalid yaml"
  | .plain message => message
  | .within context cause => context ++ text ": " ++ cause.message

/-- The cause of a failure, without the contexts around it. -/
def cause : Failure → Failure
  | .within _ inner => inner.cause
  | f => f

/-- The reader's error that caused a failure. -/
def readError? (f : Failure) : Option ReadError :=
  match f.cause with
  | .unreadable e => some e
  | _ => none

/-- The kind of the reader's error that caused a failure; all other failures are generic. -/
def readKind (f : Failure) : ReadErrorKind :=
  match f.readError? with
  | some e => e.kind
  | none => .generic

/-- Whether more input could mend a failure. -/
def isIncomplete (f : Failure) : Bool := f.readError?.any ReadError.incomplete

/-- Whether a failure was caused by a reader's error of a given kind. -/
def hasReadKind (f : Failure) (kind : ReadErrorKind) : Bool :=
  f.readError?.any fun e => e.kind == kind

end Failure

end Lisplet
