import Lisplet.Config.Datum
import Lisplet.Config.Document

/-!
# What plain scalars stand for

A plain scalar stands for absence, a truth value, a number or a point in time if its contents spell
one, and else for a text. Whole numbers may have a base, and digits may be grouped.
-/

namespace Lisplet.Config

/-- The fixed spellings of data. -/
def spelled : List (List String × Datum) :=
  [(["", "~", "null", "Null", "NULL"], .null),
    (["true", "True", "TRUE"], .bool true),
    (["false", "False", "FALSE"], .bool false),
    ([".nan", ".NaN", ".NAN"], .float (0.0 / 0.0)),
    ([".inf", ".Inf", ".INF", "+.inf", "+.Inf", "+.INF"], .float (1.0 / 0.0)),
    (["-.inf", "-.Inf", "-.INF"], .float (-1.0 / 0.0))]

/-- The datum that has a fixed spelling. -/
def spelled? (t : Text) : Option Datum :=
  (spelled.find? fun entry => entry.1.any fun s => text s == t).map Prod.snd

/-- The value of a digit in a base up to sixteen. -/
def baseDigit? (base : Nat) (b : UInt8) : Option Nat :=
  (hexDigit? (Char.ofNat b.toNat)).filter (· < base)

/-- The number that digits spell in a base. -/
def baseNumber? (base : Nat) (digits : Text) : Option Nat :=
  digits.foldl (fun n d => do pure (base * (← n) + (← baseDigit? base d))) (some 0)

/-- The number that a text without a sign spells: in the base that its beginning names, or with
eight as the base behind a zero. -/
def natural? (t : Text) : Option Nat :=
  match t with
  | [] => none
  | 48 :: x :: d :: rest =>
    if x == 120 || x == 88 then baseNumber? 16 (d :: rest)
    else if x == 111 || x == 79 then baseNumber? 8 (d :: rest)
    else if x == 98 || x == 66 then baseNumber? 2 (d :: rest)
    else baseNumber? 8 (x :: d :: rest)
  | 48 :: rest => baseNumber? 8 rest
  | t => baseNumber? 10 t

/-- The end of the numbers of 64 bits with a sign. -/
def signedEnd : Nat := 0x8000000000000000

/-- The whole number that a text spells. Numbers with a sign fit into 64 bits as such, and those
without one fit into 64 bits without a sign. -/
def whole? (t : Text) : Option Int :=
  match t with
  | 45 :: rest => (natural? rest).bind fun n => if n ≤ signedEnd then some (-(n : Int)) else none
  | 43 :: rest => (natural? rest).bind fun n => if n < signedEnd then some (n : Int) else none
  | t => (natural? t).bind fun n => if n < 2 * signedEnd then some (n : Int) else none

/-- The number that a text spells in decimal notation, if it is in the range. -/
def decimal? (t : Text) : Option Float := (Decimal.parse? t).filter fun x => !x.isInf

/-- The number that a text spells in decimal notation with single underscores between digits. -/
def grouped? (t : Text) : Option Float :=
  let around := (none :: t.map some).zip (t.zip ((t.map some).drop 1 ++ [none]))
  let isDigit := fun b => Option.any Text.isDigit b
  if around.all fun (before, b, behind) => b != 95 || (isDigit before && isDigit behind) then
    decimal? (t.filter (· != 95))
  else none

/-- The number of 64 bits that a text spells in a base behind a sign. -/
def signedIn? (base : Nat) (t : Text) : Option Int :=
  match t with
  | 45 :: d :: rest =>
    (baseNumber? base (d :: rest)).bind fun n => if n ≤ signedEnd then some (-(n : Int)) else none
  | 43 :: d :: rest =>
    (baseNumber? base (d :: rest)).bind fun n => if n < signedEnd then some (n : Int) else none
  | _ => none

/-- The number of 64 bits that a text spells with a sign behind the name of its base. -/
def signedInside? (t : Text) : Option Int :=
  match t with
  | 48 :: 98 :: rest => signedIn? 2 rest
  | 48 :: 111 :: rest => signedIn? 8 rest
  | _ => none

/-- The datum of contents that begin with a digit or a sign: a point in time, a whole number or a
number in decimal notation. -/
def numeric? (t : Text) : Option Datum :=
  let digits := t.filter (· != 95)
  ((Moment.parse? t).map Datum.time).orElse fun _ =>
    ((whole? digits).map Datum.int).orElse fun _ =>
      ((decimal? digits).map Datum.float).orElse fun _ => (signedInside? digits).map Datum.int

/-- The datum that plain contents stand for. -/
def resolve (t : Text) : Datum :=
  let other := match t with
    | [] => none
    | b :: _ =>
      if Text.isDigit b || b == 43 || b == 45 then numeric? t
      else if b == 46 then (grouped? t).map Datum.float
      else none
  (spelled? t).getD (other.getD (.str t))

end Lisplet.Config
