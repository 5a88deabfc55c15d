import Lisplet.Text.Rune
import Lisplet.Text.Canonical.Data

/-!
# Canonical composed form of a text

Two spellings of a name are the same name if they are canonically equivalent. `nfc` maps equivalent
spellings to one: characters are decomposed, the marks after a starter are put in order, and pairs
are composed again. A run of more than thirty marks is cut by a joiner, so that no run is ever
longer. Bytes that belong to no character stay where they are.
-/

namespace Lisplet.Text

namespace Canonical

/-- The combining class of a code point; starters have class zero. -/
def combiningClass (n : Nat) : Nat :=
  if n < 0x300 then 0
  else match classRanges.find? fun range => range.1 ≤ n && n ≤ range.2.1 with
    | some range => range.2.2
    | none => 0

/-- The first leading consonant of the conjoining letters. -/
def leadBase : Nat := 0x1100

/-- The first vowel of the conjoining letters. -/
def vowelBase : Nat := 0x1161

/-- One before the first trailing consonant of the conjoining letters. -/
def trailBase : Nat := 0x11A7

/-- The first syllable block. -/
def syllableBase : Nat := 0xAC00

/-- How many leading consonants there are. -/
def leadCount : Nat := 19

/-- How many vowels there are. -/
def vowelCount : Nat := 21

/-- How many choices a syllable has for its trailing consonant, none included. -/
def trailCount : Nat := 28

/-- Whether a code point is a syllable block. -/
def isSyllable (n : Nat) : Bool :=
  syllableBase ≤ n && n < syllableBase + leadCount * vowelCount * trailCount

/-- Whether a code point is a vowel of the conjoining letters. -/
def isVowel (n : Nat) : Bool := vowelBase ≤ n && n < vowelBase + vowelCount

/-- Whether a code point is a trailing consonant of the conjoining letters. -/
def isTrail (n : Nat) : Bool := trailBase < n && n < trailBase + trailCount

/-- Whether a code point lies in the block of the conjoining letters. -/
def isConjoining (n : Nat) : Bool := leadBase ≤ n && n < leadBase + 0x100

/-- The conjoining letters of a syllable block. -/
def decomposeSyllable (n : Nat) : List Nat :=
  let i := n - syllableBase
  let lead := leadBase + i / (vowelCount * trailCount)
  let vowel := vowelBase + i % (vowelCount * trailCount) / trailCount
  let trail := i % trailCount
  if trail == 0 then [lead, vowel] else [lead, vowel, trailBase + trail]

/-- What an ideograph of the runs stands for. -/
def ideograph? (n : Nat) : Option Nat :=
  ideographRuns.findSome? fun run => if run.1 ≤ n then run.2[n - run.1]? else none

/-- The full canonical decomposition of a code point. -/
def decompose (n : Nat) : List Nat :=
  if n < 0xC0 then [n]
  else if isSyllable n then decomposeSyllable n
  else match ideograph? n with
    | some m => [m]
    | none => (decompositions.find? fun entry => entry.1 == n).elim [n] Prod.snd

/-- The syllable block that two conjoining letters make, or a block and a trailing consonant. -/
def joinLetters? (a b : Nat) : Option Nat :=
  if leadBase ≤ a && a < leadBase + leadCount && isVowel b then
    some (syllableBase + ((a - leadBase) * vowelCount + (b - vowelBase)) * trailCount)
  else if isSyllable a && (a - syllableBase) % trailCount == 0 && isTrail b then
    some (a + (b - trailBase))
  else none

/-- The character that a pair composes to, syllable blocks apart. The first of a pair is looked up
by its low sixteen bits. -/
def composePair? (a b : Nat) : Option Nat :=
  (compositions.find? fun entry =>
    entry.2.1 == b && entry.1 % 0x10000 == a % 0x10000).map fun entry => entry.2.2

/-- Whether a code point is the second of some pair that composes. -/
def composesBackward (n : Nat) : Bool := n ≥ 0x300 && compositions.any fun entry => entry.2.1 == n

/-- Whether a code point counts as a mark: it has a combining class or composes backward. -/
def isMark (n : Nat) : Bool :=
  n ≥ 0x300 &&
    (combiningClass n != 0 || isVowel n || isTrail n || backwardStarters.contains n)

/-- How many marks a code point begins with and ends with. -/
def markCount (n : Nat) : Nat × Nat :=
  if n < 0xA8 then (0, 0)
  else if isSyllable n then (0, if (n - syllableBase) % trailCount == 0 then 1 else 2)
  else match markCounts.find? fun entry => entry.1 ≤ n && n ≤ entry.2.1 with
    | some entry => entry.2.2
    | none =>
      let parts := decompose n
      ((parts.takeWhile isMark).length, (parts.reverse.takeWhile isMark).length)

/-- The combining class of a rune; a stray byte is a starter. -/
def runeClass : Rune → Nat
  | .char c => combiningClass c.toNat
  | .stray _ => 0

/-- How many marks a rune begins with and ends with; a stray byte has none. -/
def runeMarks : Rune → Nat × Nat
  | .char c => markCount c.toNat
  | .stray _ => (0, 0)

/-- The canonical decomposition of a rune. -/
def decomposeRune : Rune → List Rune
  | .char c => (decompose c.toNat).map fun n => .char (Char.ofNat n)
  | .stray b => [.stray b]

/-- Whether a rune has a property; a stray byte has none. -/
def runeHas (property : Nat → Bool) : Rune → Bool
  | .char c => property c.toNat
  | .stray _ => false

/-- The rune that a pair of runes gives under a rule for code points. -/
def pairRunes? (rule : Nat → Nat → Option Nat) : Rune → Rune → Option Rune
  | .char a, .char b => (rule a.toNat b.toNat).map fun n => .char (Char.ofNat n)
  | _, _ => none

/-- Puts a rune behind the runes placed so far, which are given last first. A mark moves in front
of marks of a higher class. -/
def place (placed : List Rune) (r : Rune) : List Rune :=
  match placed with
  | [] => [r]
  | s :: rest =>
    if runeClass r != 0 && runeClass r < runeClass s then s :: place rest r else r :: s :: rest

/-- The runes with each run of marks in ascending order of class. -/
def order (rs : List Rune) : List Rune := (rs.foldl place []).reverse

/-- The state of composition: what is settled, the current starter and the marks behind it. The
lists are given last first. -/
structure Composing where
  /-- Runes that nothing can change any more. -/
  settled : List Rune
  /-- The rune that a following mark may compose with. -/
  starter : Rune
  /-- Runes after the starter that did not compose with it. -/
  marks : List Rune
  /-- Whether a conjoining letter was met; from then on only syllable blocks are made. -/
  conjoining : Bool

/-- The state with its last rune as the starter if that rune has class zero. -/
def Composing.advance (state : Composing) : Composing :=
  match state.marks with
  | [] => state
  | last :: rest =>
    if runeClass last == 0 then { state with
      settled := rest ++ state.starter :: state.settled, starter := last, marks := [] }
    else state

/-- The state with a rune that does not compose. -/
def Composing.keep (state : Composing) (r : Rune) : Composing :=
  { state with marks := r :: state.marks }

/-- Composes a rune with the starter under a rule, unless a mark between them blocks it. -/
def Composing.join (state : Composing) (rule : Nat → Nat → Option Nat) (r : Rune) : Composing :=
  let blocked := match state.marks with
    | [] => false
    | last :: _ => runeClass r ≤ runeClass last
  match if blocked then none else pairRunes? rule state.starter r with
  | some made => { state with starter := made }
  | none => state.keep r

/-- Takes one more rune. The starter moves on only when a rune comes that may compose, so a starter
in front of marks that compose with nothing is passed over. -/
def Composing.push (state : Composing) (r : Rune) : Composing :=
  if state.conjoining || runeHas isConjoining r then
    { state.advance with conjoining := true }.join joinLetters? r
  else if runeHas composesBackward r then state.advance.join composePair? r
  else state.keep r

/-- The runes of a state, first to last. -/
def Composing.runes (state : Composing) : List Rune :=
  (state.marks ++ state.starter :: state.settled).reverse

/-- One segment in composed form. -/
def composeSegment (rs : List Rune) : List Rune :=
  match order (rs.flatMap decomposeRune) with
  | [] => []
  | r :: rest => (rest.foldl Composing.push ⟨[], r, [], false⟩).runes

/-- The joiner that cuts an overlong run of marks. -/
def joiner : Rune := .char (Char.ofNat 0x34F)

/-- The longest run of marks that is left uncut. -/
def markLimit : Nat := 30

/-- Cuts runes into segments, each a starter and the marks after it. `count` is the number of
marks of the open segment, whose runes are given last first. -/
def segmentsFrom (count : Nat) (current : List Rune) : List Rune → List (List Rune)
  | [] => [current.reverse]
  | r :: rest =>
    let marks := runeMarks r
    if markLimit < count + marks.1 then
      (joiner :: current).reverse :: segmentsFrom marks.1 [r] rest
    else if marks.1 == 0 then current.reverse :: segmentsFrom marks.2 [r] rest
    else segmentsFrom (count + marks.1) (r :: current) rest

/-- How many bytes a first byte announces for its form. -/
def announced (b : UInt8) : Nat :=
  if b < 0xC2 then 1 else if b < 0xE0 then 2 else if b < 0xF0 then 3 else if b < 0xF8 then 4 else 1

/-- Splits off the end of a text from the first stray byte that announces more bytes than are
left. Such an end may go on elsewhere and is not touched. -/
def splitUnfinished : List Rune → List Rune × List Rune
  | [] => ([], [])
  | r :: rest =>
    let unfinished := match r with
      | .char _ => false
      | .stray b => (ofRunes rest).length + 1 < announced b
    if unfinished then ([], r :: rest)
    else
      let parts := splitUnfinished rest
      (r :: parts.1, parts.2)

/-- The canonical composed form of a sequence of runes. -/
def composeAll (rs : List Rune) : List Rune :=
  let parts := splitUnfinished rs
  (segmentsFrom 0 [] parts.1).flatMap composeSegment ++ parts.2

end Canonical

/-- The canonical composed form of a text. A text in ASCII is its own form. -/
def nfc (t : Text) : Text :=
  if t.all (· < 0x80) then t else ofRunes (Canonical.composeAll t.runes)

end Lisplet.Text
