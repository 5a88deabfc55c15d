import Lisplet.Text.Basic

/-!
# Points in time

A point in time is given by a date, which may have a time of day and a time zone behind it.
-/

namespace Lisplet.Config

/-- A time zone. -/
inductive Zone where
  /-- No zone is given, or the universal one is named. -/
  | universal
  /-- The difference from universal time is given as zero. -/
  | zero
  /-- The difference from universal time in minutes. -/
  | offset (minutes : Int)
  deriving DecidableEq

/-- A point in time. -/
structure Moment where
  /-- The year. -/
  year : Nat
  /-- The month, from one. -/
  month : Nat
  /-- The day of the month, from one. -/
  day : Nat
  /-- The hour. -/
  hour : Nat
  /-- The minute. -/
  minute : Nat
  /-- The second. -/
  second : Nat
  /-- The part of the second, in units of its 1000000000th part. -/
  fraction : Nat
  /-- The zone of the date and the time of day. -/
  zone : Zone
  deriving DecidableEq

/-- A number in at least a number of digits. -/
def paddedNumber (width n : Nat) : Text :=
  let digits := Text.ofNat n
  List.replicate (width - digits.length) 48 ++ digits

/-- The number of days of a month. -/
def daysOf (year month : Nat) : Nat :=
  if month == 2 then
    if year % 4 == 0 && (year % 100 != 0 || year % 400 == 0) then 29 else 28
  else if [4, 6, 9, 11].contains month then 30
  else 31

namespace Zone

/-- The difference from universal time in minutes. -/
def minutes : Zone → Int
  | .universal => 0
  | .zero => 0
  | .offset n => n

/-- A zone in words. -/
def describe : Zone → Text
  | .universal => text "+0000 UTC"
  | .zero => text "+0000 UTC"
  | .offset n =>
    let offset := text (if n < 0 then "-" else "+") ++ paddedNumber 2 (n.natAbs / 60)
      ++ paddedNumber 2 (n.natAbs % 60)
    offset ++ text " " ++ offset

/-- The place of a zone among those of the same point in time. -/
def rank : Zone → Nat
  | .universal => 0
  | .zero => 1
  | .offset _ => 2

/-- Whether two zones are the same. Of those with a difference, only the common ones in whole hours
are known as such. -/
def same : Zone → Zone → Bool
  | .offset a, .offset b => a == b && a % 60 == 0 && -720 ≤ a && a ≤ 840
  | a, b => a.rank == b.rank

end Zone

namespace Moment

/-- The number of days from the beginning of the calendar to the date. -/
def days (m : Moment) : Nat :=
  let leaps := if m.year == 0 then 0 else (m.year - 1) / 4 - (m.year - 1) / 100 + (m.year - 1) / 400 + 1
  let months := (List.range (m.month - 1)).foldl (fun n k => n + daysOf m.year (k + 1)) 0
  365 * m.year + leaps + months + m.day

/-- The number of seconds of universal time from the beginning of the calendar. -/
def seconds (m : Moment) : Int :=
  (((m.days * 24 + m.hour) * 60 + m.minute : Nat) - m.zone.minutes) * 60 + m.second

/-- Whether a point in time comes before another in a table: by the fraction, then by the seconds,
then by the zone. -/
def before (a b : Moment) : Bool :=
  a.fraction < b.fraction || a.fraction == b.fraction
    && (a.seconds < b.seconds || a.seconds == b.seconds
      && (a.zone.rank < b.zone.rank || a.zone.rank == b.zone.rank && !a.zone.same b.zone
        && a.zone.minutes < b.zone.minutes))

/-- Whether two points in time are the same in the same zone. -/
def same (a b : Moment) : Bool :=
  a.fraction == b.fraction && a.seconds == b.seconds && a.zone.same b.zone

/-- A point in time in words. The fraction stands without its last zeros. -/
def describe (m : Moment) : Text :=
  let fraction := ((paddedNumber 9 m.fraction).reverse.dropWhile (· == 48)).reverse
  let point := if fraction.isEmpty then [] else text "." ++ fraction
  paddedNumber 4 m.year ++ text "-" ++ paddedNumber 2 m.month ++ text "-" ++ paddedNumber 2 m.day
    ++ text " " ++ paddedNumber 2 m.hour ++ text ":" ++ paddedNumber 2 m.minute ++ text ":"
    ++ paddedNumber 2 m.second ++ point ++ text " " ++ m.zone.describe

end Moment

/-- A number of at least `least` and at most `most` digits, with the text behind it. -/
def digitsOf (least most : Nat) (t : Text) : Option (Nat × Text) :=
  let digits := (t.takeWhile Text.isDigit).take most
  if digits.length < least then none
  else some (Text.digitsValue digits, t.drop digits.length)

/-- The text behind a byte that has to come first. -/
def afterByte? (b : UInt8) : Text → Option Text
  | x :: rest => if x == b then some rest else none
  | [] => none

/-- A part of a second behind a point or a comma, with the text behind it. The first nine digits
count. -/
def fractionOf (t : Text) : Nat × Text :=
  match t with
  | mark :: d :: rest =>
    if (mark == 46 || mark == 44) && Text.isDigit d then
      let digits := (d :: rest).takeWhile Text.isDigit
      let kept := digits.take 9
      (Text.digitsValue (kept ++ List.replicate (9 - kept.length) 48),
        (d :: rest).drop digits.length)
    else (0, t)
  | t => (0, t)

/-- A point in time of the given one's date: hours, minutes, seconds and a fraction, with the text
behind it. -/
def Moment.clock? (m : Moment) (t : Text) : Option (Moment × Text) := do
  let (hour, t) ← digitsOf 1 2 t
  let t ← afterByte? 58 t
  let (minute, t) ← digitsOf 1 2 t
  let t ← afterByte? 58 t
  let (second, t) ← digitsOf 1 2 t
  if 24 ≤ hour || 60 ≤ minute || 60 ≤ second then none
  else
    let (fraction, t) := fractionOf t
    some ({ m with hour, minute, second, fraction }, t)

/-- A time zone: the universal one, or a difference in hours and minutes. -/
def Zone.parse? (t : Text) : Option Zone :=
  match t with
  | [90] => some .universal
  | sign :: rest => do
    if sign != 43 && sign != 45 then none
    let (hours, rest) ← digitsOf 2 2 rest
    let rest ← afterByte? 58 rest
    let (minutes, rest) ← digitsOf 2 2 rest
    let offset := hours * 60 + minutes
    if !rest.isEmpty || 24 < hours || 60 < minutes then none
    else if offset == 0 then some .zero
    else some (.offset (if sign == 45 then -(offset : Int) else offset))
  | [] => none

/-- A point in time: a date, a date with a time of day behind blanks, or one with a time of day and
a zone behind a letter. -/
def Moment.parse? (t : Text) : Option Moment := do
  let (year, rest) ← digitsOf 4 4 t
  let rest ← afterByte? 45 rest
  let (month, rest) ← digitsOf 1 2 rest
  let rest ← afterByte? 45 rest
  let (day, rest) ← digitsOf 1 2 rest
  let date : Moment := ⟨year, month, day, 0, 0, 0, 0, .universal⟩
  if month == 0 || 12 < month || day == 0 || daysOf year month < day then none
  else match rest with
    | [] => some date
    | mark :: rest =>
      if mark == 84 || mark == 116 then do
        let (m, rest) ← date.clock? rest
        let zone ← Zone.parse? rest
        some { m with zone }
      else if mark == 32 then do
        let (m, rest) ← date.clock? (rest.dropWhile (· == 32))
        if rest.isEmpty then some m else none
      else none

end Lisplet.Config
