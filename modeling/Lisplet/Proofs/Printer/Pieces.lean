import Mathlib.Algebra.Order.Ring.Int
import Mathlib.Data.List.Basic
import Lisplet.Proofs.Printer
import Lisplet.Proofs.Reader.Printing

/-!
# Broken lists as pieces

A value that is printed with its long lists broken is a sequence of pieces: texts that begin and end
within a line, and turns to a new line at some level. Written out, a turn is a line end and the
margin of the next line, and the pieces are the layout of the value; joined, a turn is a blank, and
the pieces are its source text. A printer at any level writes the pieces of a value whose leaves
begin and end within a line, and comes back to that level, unless one of the lines that it begins
has a margin beyond the memory. Then it is stuck.
-/

namespace Lisplet

/-! ### Pieces -/

/-- A part of what is printed of a value. -/
inductive Piece where
  /-- A text that begins and ends within a line, at some level. -/
  | run (level : Nat) (t : Text)
  /-- A new line at some level. -/
  | turn (level : Nat)

namespace Piece

/-- A piece as it is printed: a text has the margin in front of each line that begins in it. -/
def written : Piece → Text
  | .run level t => Text.indented (Text.marginAt level) true t
  | .turn level => Text.newline :: Text.marginAt level

/-- A piece with its text as it is. -/
def verbatim : Piece → Text
  | .run _ t => t
  | .turn level => Text.newline :: Text.marginAt level

/-- A piece on a single line. -/
def joined : Piece → Text
  | .run _ t => t
  | .turn _ => text " "

/-- The level of a piece. -/
def level : Piece → Nat
  | .run level _ => level
  | .turn level => level

/-- The margins of the lines that begin in a piece fit into memory. -/
def Fits : Piece → Prop
  | .run level t => Text.newline ∈ t → 2 * (level : Int) ≤ Printer.widestMargin
  | .turn level => 2 * (level : Int) ≤ Printer.widestMargin

/-- A piece fits where the margin of its level does. -/
theorem fits_of_level {piece : Piece} (h : 2 * (piece.level : Int) ≤ Printer.widestMargin) :
    piece.Fits := by
  cases piece with
  | run level t => exact fun _ => h
  | turn level => exact h

end Piece

/-- A list of two items or more, whose source text is longer than sixty bytes. -/
def Value.Wide (items : List Value) : Prop :=
  2 ≤ items.length ∧ 60 < (Value.list items).source.length

instance : DecidablePred Value.Wide := fun items =>
  inferInstanceAs (Decidable (2 ≤ items.length ∧ 60 < (Value.list items).source.length))

mutual

/-- The pieces of a value at some level. The head of a wide list stays on its line, and each further
item stands on a line of its own, one level deeper. -/
def Value.pieces (level : Nat) : Value → List Piece
  | .list (head :: rest) =>
    if Value.Wide (head :: rest) then
      [.run level (text "(")] ++
        (head.pieces level ++ (Value.itemPieces (level + 1) rest ++ [.run level (text ")")]))
    else [.run level (Value.list (head :: rest)).source]
  | v => [.run level v.source]

/-- The pieces of values on lines of their own. -/
def Value.itemPieces (level : Nat) : List Value → List Piece
  | [] => []
  | v :: rest => (.turn level :: v.pieces level) ++ itemPieces level rest

end

/-! ### Pieces and source texts -/

/-- A list is written as its items between brackets. -/
theorem Value.source_list (items : List Value) :
    (Value.list items).source =
      text "(" ++ (Text.join (text " ") (items.map source) ++ text ")") := by
  rw [source, sourceOnto, sourceItemsOnto_eq, List.append_nil]

/-- Each further text is joined with a separator in front. -/
theorem Text.join_cons (separator t : Text) (ts : List Text) :
    join separator (t :: ts) = t ++ ts.flatMap (separator ++ ·) := by
  induction ts generalizing t with
  | nil => simp [join]
  | cons s ts ih =>
    rw [join, ih, List.flatMap_cons]
    · simp only [List.append_assoc]
    · simp

mutual

/-- The pieces of a value on a single line are its source text. -/
theorem Value.joined_pieces (level : Nat) (v : Value) :
    (v.pieces level).flatMap Piece.joined = v.source := by
  match v with
  | .list (head :: rest) =>
    rw [Value.pieces]
    split_ifs
    · have hhead := Value.joined_pieces level head
      have hrest := Value.joined_itemPieces (level + 1) rest
      rw [source_list, List.map_cons, Text.join_cons]
      simp only [List.flatMap_append, List.flatMap_singleton, hhead, hrest, Piece.joined,
        List.append_assoc]
    · simp [Piece.joined]
  | .list [] => rfl
  | .untyped | .nil | .bool _ | .num _ | .str _ | .atom _ | .sym _ | .func .. =>
    simp [Value.pieces, Piece.joined]

/-- On a single line, a blank stands in front of the source text of each item. -/
theorem Value.joined_itemPieces (level : Nat) (items : List Value) :
    (itemPieces level items).flatMap Piece.joined =
      (items.map source).flatMap (text " " ++ ·) := by
  match items with
  | [] => rfl
  | v :: rest =>
    have hv := Value.joined_pieces level v
    have hrest := Value.joined_itemPieces level rest
    rw [itemPieces, List.flatMap_append, List.flatMap_cons, hv, hrest]
    rfl

end

/-- The pieces of a value without line ends are written as they are. -/
theorem Value.written_eq_verbatim {v : Value} (hline : Text.newline ∉ v.source) {level : Nat}
    {piece : Piece} (hpiece : piece ∈ v.pieces level) : piece.written = piece.verbatim := by
  cases piece with
  | turn level => rfl
  | run level' t =>
    -- The text is a part of the source text, in which there is no line end.
    refine Text.indented_of_not_mem fun hmem => hline ?_
    rw [← v.joined_pieces level]
    exact List.mem_flatMap_of_mem hpiece hmem

/-! ### Leaves -/

/-- A value all of whose leaves have source texts of some kind. -/
inductive Value.Leaves (P : Text → Prop) : Value → Prop
  | leaf {v : Value} (hleaf : ∀ items, v ≠ .list items) (hsource : P v.source) : Leaves P v
  | list {items : List Value} (hitems : ∀ v ∈ items, Leaves P v) : Leaves P (.list items)

/-- A value whose leaves begin and end within a line. -/
abbrev Value.Upright (v : Value) : Prop := v.Leaves Text.Upright

/-- A value whose leaves are not empty and have no line ends. -/
abbrev Value.SingleLined (v : Value) : Prop := v.Leaves fun t => t ≠ [] ∧ Text.newline ∉ t

/-- If all texts of one kind are of another kind, so are the leaves of values. -/
theorem Value.Leaves.mono {P Q : Text → Prop} (hPQ : ∀ t, P t → Q t) {v : Value}
    (hv : v.Leaves P) : v.Leaves Q := by
  induction hv with
  | leaf hleaf hsource => exact .leaf hleaf (hPQ _ hsource)
  | list _ ih => exact .list ih

/-- Leaves without line ends begin and end within a line. -/
theorem Value.SingleLined.upright {v : Value} (hv : v.SingleLined) : v.Upright :=
  hv.mono fun _ ht => Text.upright_of_not_mem ht.1 ht.2

/-- Between its brackets, a list begins and ends within a line. -/
theorem Value.source_list_upright (items : List Value) : (Value.list items).source.Upright := by
  rw [source_list]
  refine ⟨⟨40, _, rfl, by decide⟩, ?_⟩
  have hlast : (text ")").getLast? = some 41 := rfl
  rw [← List.append_assoc, List.getLast?_append, hlast, Option.some_or]
  decide

/-- A value begins and ends within a line as its leaves do. -/
theorem Value.Upright.source {v : Value} (hv : v.Upright) : v.source.Upright := by
  cases hv with
  | leaf _ hsource => exact hsource
  | list hitems => exact source_list_upright _

/-- A value has no line ends if its leaves have none. -/
theorem Value.SingleLined.newline_notMem {v : Value} (hv : v.SingleLined) :
    Text.newline ∉ v.source := by
  induction hv with
  | leaf _ hsource => exact hsource.2
  | @list items hitems ih =>
    cases items with
    | nil => decide
    | cons head rest =>
      rw [List.forall_mem_cons] at ih
      have hitem : ∀ t ∈ rest.map source, Text.newline ∉ text " " ++ t := by
        intro t ht
        obtain ⟨v, hv, rfl⟩ := List.mem_map.mp ht
        exact List.not_mem_append (by decide) (ih.2 v hv)
      rw [source_list, List.map_cons, Text.join_cons]
      refine List.not_mem_append (by decide) (List.not_mem_append
        (List.not_mem_append ih.1 ?_) (by decide))
      intro hmem
      obtain ⟨t, ht, hnewline⟩ := List.mem_flatMap.mp hmem
      exact hitem t ht hnewline

namespace Printer

/-! ### Printing pieces -/

/-- The margins of all lines that a printer begins fit into memory, the current line with them if it
has not begun. -/
def Holds (p : Printer) (pieces : List Piece) : Prop :=
  (p.column = 0 → 2 * p.level ≤ widestMargin) ∧ ∀ piece ∈ pieces, piece.Fits

/-- What a printer does that is to print pieces: it writes them, or it is stuck at a margin that
does not fit. -/
structure Prints (p : Printer) (pieces : List Piece) (outcome : Printed) : Prop where
  /-- The pieces are written if all margins fit. -/
  done : p.Holds pieces →
    ∃ q, outcome = .done q ∧ p.Wrote (p.lead ++ pieces.flatMap Piece.written) q
  /-- The printer is stuck otherwise. -/
  stuck : ¬ p.Holds pieces → ∃ q why, outcome = .stuck q why

/-- The margin of a line that has begun need not fit. -/
theorem holds_of_begun {p : Printer} (hbegun : p.column ≠ 0) {pieces : List Piece} :
    p.Holds pieces ↔ ∀ piece ∈ pieces, piece.Fits := by
  simp [Holds, hbegun]

/-- Pieces are printed one after the other. -/
theorem Prints.andThen {p : Printer} {a b : List Piece} {outcome : Printed}
    {next : Printer → Printed} (ha : p.Prints a outcome)
    (hb : ∀ q : Printer, q.level = p.level → q.column ≠ 0 → q.Prints b (next q)) :
    p.Prints (a ++ b) (outcome.andThen next) := by
  have hholds : p.Holds (a ++ b) ↔ p.Holds a ∧ ∀ piece ∈ b, piece.Fits := by
    rw [Holds, Holds, List.forall_mem_append, and_assoc]
  by_cases hfirst : p.Holds a
  · obtain ⟨q, rfl, hwrote⟩ := ha.done hfirst
    have hq := hb q hwrote.level_eq hwrote.begun
    constructor
    · intro hall
      obtain ⟨r, hr, hwrote'⟩ := hq.done ((holds_of_begun hwrote.begun).mpr (hholds.mp hall).2)
      refine ⟨r, hr, ?_⟩
      rw [lead_of_begun hwrote.begun] at hwrote'
      simpa using hwrote.trans hwrote'
    · intro hnot
      apply hq.stuck
      rw [holds_of_begun hwrote.begun]
      exact fun hrest => hnot (hholds.mpr ⟨hfirst, hrest⟩)
  · obtain ⟨q, why, rfl⟩ := ha.stuck hfirst
    exact ⟨fun hall => absurd (hholds.mp hall).1 hfirst, fun _ => ⟨q, why, rfl⟩⟩

/-- A text that begins and ends within a line is printed with a margin in its further lines. -/
theorem prints_run {t : Text} (ht : t.Upright) {p : Printer} {level : Nat}
    (hlevel : p.level = level) : p.Prints [.run level t] (p.print t) := by
  have hholds : p.Holds [.run level t] ↔
      (p.column = 0 → 2 * p.level ≤ widestMargin) ∧
        (Text.newline ∈ t → 2 * p.level ≤ widestMargin) := by
    rw [Holds, List.forall_mem_singleton, Piece.Fits, hlevel]
  cases hmargin : p.marginError? with
  | none =>
    have hfits := (marginError?_eq_none_iff.mp hmargin).2
    refine ⟨fun _ => ?_, fun hnot => absurd (hholds.mpr ⟨fun _ => hfits, fun _ => hfits⟩) hnot⟩
    have hprint := print_upright ht hmargin
    rw [margin_eq hlevel] at hprint
    simpa only [List.flatMap_singleton, Piece.written] using hprint
  | some why =>
    have htoo : ¬ 2 * p.level ≤ widestMargin := by
      intro hfits
      have hnone := marginError?_eq_none_iff.mpr ⟨hlevel ▸ Int.natCast_nonneg level, hfits⟩
      rw [hmargin] at hnone
      cases hnone
    by_cases hcolumn : p.column = 0
    · exact ⟨fun hall => absurd ((hholds.mp hall).1 hcolumn) htoo,
        fun _ => ⟨p, why, print_stuck ht hcolumn hmargin⟩⟩
    · by_cases hline : Text.newline ∈ t
      · exact ⟨fun hall => absurd ((hholds.mp hall).2 hline) htoo,
          fun _ => exists_stuck hline ht.last hmargin⟩
      · -- No line begins, so that the margin is not written.
        refine ⟨fun _ => ?_, fun hnot => absurd (hholds.mpr ?_) hnot⟩
        · rw [print_eq_printPiece hline, printPiece, if_neg fun h => hcolumn h.1]
          refine ⟨_, rfl, rfl, fun hzero => hcolumn (Nat.add_eq_zero_iff.mp hzero).1, ?_⟩
          simp [contents, emit, lead, hcolumn, Piece.written, Text.indented_of_not_mem hline]
        · exact ⟨fun h => absurd h hcolumn, fun h => absurd h hline⟩

/-- A printer that ends its line goes on at the same level. -/
theorem Prints.turn {p : Printer} {level : Nat} {pieces : List Piece} {outcome : Printed}
    (hlevel : p.level = level) (hbegun : p.column ≠ 0) (h : p.endLine.Prints pieces outcome) :
    p.Prints (.turn level :: pieces) outcome := by
  have hholds : p.endLine.Holds pieces ↔ p.Holds (.turn level :: pieces) := by
    rw [holds_of_begun hbegun, List.forall_mem_cons, Piece.Fits, Holds, ← hlevel]
    simp [endLine, emit]
  have hlead : p.endLine.lead = Text.marginAt level := margin_eq hlevel
  refine ⟨fun hall => ?_, fun hnot => h.stuck (hholds.not.mpr hnot)⟩
  obtain ⟨q, hq, hwrote⟩ := h.done (hholds.mpr hall)
  refine ⟨q, hq, hwrote.level_eq, hwrote.begun, ?_⟩
  rw [hwrote.contents_eq, hlead, lead_of_begun hbegun]
  simp [contents, endLine, emit, Piece.written]

/-! ### Raised levels -/

/-- A level whose margin fits is a word. -/
theorem wrapLevel_of_fits {level : Nat} (hfits : 2 * (level : Int) ≤ widestMargin) :
    wrapLevel level = level := by
  have hwidest : widestMargin = 0x1000000000000 := rfl
  have hcount : ((levelCount : Nat) : Int) = 0x10000000000000000 := rfl
  rw [wrapLevel, Int.bmod_eq_of_le]
  · omega
  · omega

/-- The next level, if its margin fits. -/
theorem level_indent {p : Printer} {level : Nat} (hlevel : p.level = level)
    (hfits : 2 * ((level + 1 : Nat) : Int) ≤ widestMargin) :
    (p.indent 1).level = (level + 1 : Nat) := by
  have hraised := wrapLevel_of_fits hfits
  rw [Nat.cast_succ, ← hlevel] at hraised ⊢
  exact hraised

/-- A level whose margin does not fit is below zero after the last word, or too deep. -/
theorem marginError?_indent {p : Printer} {level : Nat} (hlevel : p.level = level)
    (hword : 2 * level < levelCount) (htoo : ¬ 2 * ((level + 1 : Nat) : Int) ≤ widestMargin) :
    ∃ why, (p.indent 1).marginError? = some why := by
  rw [← Option.ne_none_iff_exists', Ne, marginError?_eq_none_iff]
  have hraised : (p.indent 1).level = wrapLevel (level + 1) := by rw [indent, hlevel]
  rw [hraised, wrapLevel, Int.bmod]
  simp only [levelCount] at hword ⊢
  split_ifs <;> omega

/-- A block at a raised level leaves the printer at the level at which it began. -/
theorem withIndent_eq {block : Printer → Printed} {p : Printer} {level : Nat} {t : Text}
    (hlevel : p.level = level) (hfits : 2 * ((level + 1 : Nat) : Int) ≤ widestMargin)
    (hblock : ∃ q, block (p.indent 1) = .done q ∧ (p.indent 1).Wrote t q) :
    ∃ q, withIndent 1 block p = .done q ∧ p.Wrote t q := by
  obtain ⟨q, hq, hwrote⟩ := hblock
  have hlower : ((level + 1 : Nat) : Int) - 1 = level := by omega
  refine ⟨q.unindent 1, by rw [withIndent, hq, Printed.map], ?_, hwrote.begun, hwrote.contents_eq⟩
  calc (q.unindent 1).level = max (wrapLevel ((p.indent 1).level - 1)) 0 := by
        rw [unindent, hwrote.level_eq]
    _ = max (wrapLevel level) 0 := by rw [level_indent hlevel hfits, hlower]
    _ = p.level := by
        rw [wrapLevel_of_fits (by omega), hlevel]
        omega

/-! ### Printing values -/

/-- The lists that are broken are the wide ones. -/
theorem breaks_list_iff {items : List Value} :
    breaks (.list items) = true ↔ Value.Wide items := by
  rcases items with _ | ⟨first, _ | ⟨second, rest⟩⟩
  · simp [breaks, Value.Wide]
  · simp [breaks, Value.Wide]
  · rw [breaks, decide_eq_true_iff, Value.Wide, maxLineWidth]
    simp

/-- The value is printed as its pieces at every level. -/
def PrintsPieces (v : Value) : Prop :=
  ∀ {p : Printer} {level : Nat}, p.level = level → 2 * level < levelCount →
    p.Prints (v.pieces level) (pretty v p)

/-- The items behind the head are printed one after the other, each on a new line. -/
theorem prettyItems_cons (v : Value) (rest : List Value) (p : Printer) :
    prettyItems (v :: rest) p = (pretty v p.endLine).andThen (prettyItems rest) := by
  rw [prettyItems, print_newline_cons, print_nil]
  rfl

/-- Items on lines of their own are printed as their pieces. -/
theorem prints_items {items : List Value} (hitems : ∀ v ∈ items, PrintsPieces v) {p : Printer}
    {level : Nat} (hlevel : p.level = level) (hword : 2 * level < levelCount)
    (hbegun : p.column ≠ 0) :
    p.Prints (Value.itemPieces level items) (prettyItems items p) := by
  induction items generalizing p with
  | nil =>
    refine ⟨fun _ => ⟨p, rfl, rfl, hbegun, ?_⟩, fun hnot => ?_⟩
    · simp [lead_of_begun hbegun, Value.itemPieces]
    · exact absurd ((holds_of_begun hbegun).mpr (by simp [Value.itemPieces])) hnot
  | cons v rest ih =>
    rw [List.forall_mem_cons] at hitems
    rw [prettyItems_cons, Value.itemPieces]
    apply (Prints.turn hlevel hbegun (hitems.1 (p := p.endLine) hlevel hword)).andThen
    intro q hq hqbegun
    exact ih hitems.2 (hq.trans hlevel) hqbegun

/-- A value cannot begin a line that cannot be indented. -/
theorem pretty_stuck {v : Value} (hv : v.source.Upright) {p : Printer} (hcolumn : p.column = 0)
    {why : MarginError} (hmargin : p.marginError? = some why) : pretty v p = .stuck p why := by
  have hflat := print_stuck hv hcolumn hmargin
  match v with
  | .list (head :: rest) =>
    rw [pretty]
    split_ifs
    · rw [print_stuck (Text.upright_of_not_mem (by decide) (by decide)) hcolumn hmargin]
      rfl
    · exact hflat
  | .list [] | .untyped | .nil | .bool _ | .num _ | .str _ | .atom _ | .sym _ | .func .. =>
    exact hflat

/-- Items are printed one level deeper, if there are any. -/
theorem prints_withIndent {items : List Value} (hitems : ∀ v ∈ items, PrintsPieces v)
    (hupright : ∀ v ∈ items, v.Upright) (hne : items ≠ []) {p : Printer} {level : Nat}
    (hlevel : p.level = level) (hword : 2 * level < levelCount) (hbegun : p.column ≠ 0) :
    p.Prints (Value.itemPieces (level + 1) items) (withIndent 1 (prettyItems items) p) := by
  by_cases hfits : 2 * ((level + 1 : Nat) : Int) ≤ widestMargin
  · have hword' : 2 * (level + 1) < levelCount := by
      simp only [levelCount, widestMargin] at *
      omega
    have hprints := prints_items hitems (level_indent hlevel hfits) hword' hbegun
    have hholds : (p.indent 1).Holds (Value.itemPieces (level + 1) items) ↔
        p.Holds (Value.itemPieces (level + 1) items) := by
      rw [holds_of_begun hbegun, holds_of_begun (p := p.indent 1) hbegun]
    constructor
    · intro hall
      have hwrote := withIndent_eq hlevel hfits (hprints.done (hholds.mpr hall))
      rwa [lead_of_begun (p := p.indent 1) hbegun, ← lead_of_begun hbegun] at hwrote
    · intro hnot
      obtain ⟨q, why, hq⟩ := hprints.stuck (hholds.not.mpr hnot)
      exact ⟨q.unindent 1, why, by rw [withIndent, hq, Printed.map]⟩
  · -- Not even the first item can be printed, and its line is one of those that begin.
    obtain ⟨v, rest, rfl⟩ := List.exists_cons_of_ne_nil hne
    obtain ⟨why, hmargin⟩ := marginError?_indent hlevel hword hfits
    have hturn : .turn (level + 1) ∈ Value.itemPieces (level + 1) (v :: rest) := by
      simp [Value.itemPieces]
    refine ⟨fun hall => absurd (hall.2 _ hturn) hfits, fun _ => ?_⟩
    have hstuck :=
      pretty_stuck (p := (p.indent 1).endLine) (hupright v (by simp)).source rfl hmargin
    exact ⟨_, why, by rw [withIndent, prettyItems_cons, hstuck, Printed.andThen, Printed.map]⟩

/-- A wide list is printed as its pieces if its items are. -/
theorem printsPieces_of_wide {head : Value} {rest : List Value}
    (hwide : Value.Wide (head :: rest)) (hhead : PrintsPieces head)
    (hrest : ∀ v ∈ rest, PrintsPieces v) (hupright : ∀ v ∈ rest, v.Upright) :
    PrintsPieces (.list (head :: rest)) := by
  intro p level hlevel hword
  have hne : rest ≠ [] := by
    rintro rfl
    exact absurd hwide.1 (by simp)
  have hopening : (text "(").Upright := Text.upright_of_not_mem (by decide) (by decide)
  have hclosing : (text ")").Upright := Text.upright_of_not_mem (by decide) (by decide)
  rw [pretty, if_pos (breaks_list_iff.mpr hwide), Value.pieces, if_pos hwide]
  -- The opening bracket, the head, the further items and the closing bracket, in this order.
  apply (prints_run hopening hlevel).andThen
  intro q hq _
  apply (hhead (hq.trans hlevel) hword).andThen
  intro r hr hrbegun
  have hlevel' := (hr.trans hq).trans hlevel
  apply (prints_withIndent hrest hupright hne hlevel' hword hrbegun).andThen
  intro s hs _
  exact prints_run hclosing (hs.trans hlevel')

/-- A value whose leaves begin and end within a line is printed as its pieces. -/
theorem printsPieces {v : Value} (hv : v.Upright) : PrintsPieces v := by
  induction hv with
  | @leaf v hleaf hsource =>
    intro p level hlevel _
    have hflat := prints_run hsource hlevel
    cases v with
    | list items => exact absurd rfl (hleaf items)
    | _ => simpa only [Value.pieces, pretty] using hflat
  | @list items hitems ih =>
    intro p level hlevel hword
    have hflat := prints_run (Value.source_list_upright items) hlevel
    cases items with
    | nil => exact hflat
    | cons head rest =>
      by_cases hwide : Value.Wide (head :: rest)
      · rw [List.forall_mem_cons] at hitems ih
        exact printsPieces_of_wide hwide ih.1 ih.2 hitems.2 hlevel hword
      · rw [pretty, if_neg (mt breaks_list_iff.mp hwide), Value.pieces, if_neg hwide]
        exact hflat

/-- A printer at any level writes the pieces of a value whose leaves are texts without line ends,
behind the margin of the line if that has not begun, and is then at the same level. It is stuck
exactly if a margin does not fit into memory. The texts in the pieces are written as they are, and
on a single line the pieces are the source text. -/
theorem pretty_writes_pieces {v : Value} (hv : v.SingleLined) {p : Printer} {level : Nat}
    (hlevel : p.level = level) (hword : 2 * level < levelCount) :
    p.Prints (v.pieces level) (pretty v p) ∧
      (∀ piece ∈ v.pieces level, piece.written = piece.verbatim) ∧
      (v.pieces level).flatMap Piece.joined = v.source := by
  refine ⟨printsPieces hv.upright hlevel hword, ?_, v.joined_pieces level⟩
  intro piece hpiece
  exact Value.written_eq_verbatim hv.newline_notMem hpiece

/-- Within a broken list at the first level, a broken head turns to the second level, and so does
the item behind it. -/
theorem pretty_writes_pieces_broken_head :
    ∃ q, pretty (.list [.list [.sym (List.replicate 30 97), .sym (List.replicate 31 98)],
        .sym (text "c")]) ⟨1, 0, []⟩ = .done q ∧ q.level = 1 ∧
      q.contents = text "  ((" ++ List.replicate 30 97 ++ text "\n    " ++ List.replicate 31 98 ++
        text ")\n    c)" := by
  have hsym : ∀ name : Text, name ≠ [] → Text.newline ∉ name → (Value.sym name).SingleLined :=
    fun name hname hline => .leaf (by simp)
      (by simpa [Value.source, Value.sourceOnto] using ⟨hname, hline⟩)
  have hlined : (Value.list [.list [.sym (List.replicate 30 97), .sym (List.replicate 31 98)],
      .sym (text "c")]).SingleLined := by
    refine .list ?_
    simp only [List.forall_mem_cons, List.not_mem_nil, false_imp_iff, implies_true, and_true]
    refine ⟨.list ?_, hsym _ (by decide) (by decide)⟩
    simp only [List.forall_mem_cons, List.not_mem_nil, false_imp_iff, implies_true, and_true]
    exact ⟨hsym _ (by decide) (by decide), hsym _ (by decide) (by decide)⟩
  have hpieces : (Value.list [.list [.sym (List.replicate 30 97), .sym (List.replicate 31 98)],
      .sym (text "c")]).pieces 1 = [.run 1 (text "("), .run 1 (text "("),
        .run 1 (List.replicate 30 97), .turn 2, .run 2 (List.replicate 31 98), .run 1 (text ")"),
        .turn 2, .run 2 (text "c"), .run 1 (text ")")] := by rfl
  have hlevel : (⟨1, 0, []⟩ : Printer).level = ((1 : Nat) : Int) := rfl
  have hprints := (pretty_writes_pieces hlined hlevel (by decide)).1
  rw [hpieces] at hprints
  obtain ⟨q, hq, hwrote⟩ := hprints.done ⟨fun _ => by decide, by simp [Piece.Fits, widestMargin]⟩
  exact ⟨q, hq, hwrote.level_eq, hwrote.contents_eq⟩

end Printer

/-! ### The layout of a value -/

namespace Value

/-- A value with its wide lists broken, as it stands behind the beginning of a line. -/
def layout (level : Nat) (v : Value) : Text := (v.pieces level).flatMap Piece.written

/-- Values on lines of their own. -/
def layoutItems (level : Nat) (items : List Value) : Text :=
  (itemPieces level items).flatMap Piece.written

variable {level : Nat} {head : Value} {rest : List Value}

/-- The layout of a wide list. -/
theorem layout_of_wide (hwide : Wide (head :: rest)) :
    (Value.list (head :: rest)).layout level =
      text "(" ++ (head.layout level ++ (layoutItems (level + 1) rest ++ text ")")) := by
  have hopening : Text.newline ∉ text "(" := by decide
  have hclosing : Text.newline ∉ text ")" := by decide
  rw [layout, pieces, if_pos hwide]
  simp only [List.flatMap_append, List.flatMap_singleton, Piece.written,
    Text.indented_of_not_mem hopening, Text.indented_of_not_mem hclosing]
  rfl

/-- A list that is not wide is printed on its line. -/
theorem layout_of_not_wide (hwide : ¬ Wide (head :: rest)) :
    (Value.list (head :: rest)).layout level =
      Text.indented (Text.marginAt level) true (Value.list (head :: rest)).source := by
  rw [layout, pieces, if_neg hwide, List.flatMap_singleton, Piece.written]

/-- A value that is no list with items is printed on its line. -/
theorem layout_of_leaf {v : Value} (hv : ∀ head rest, v ≠ .list (head :: rest)) :
    v.layout level = Text.indented (Text.marginAt level) true v.source := by
  match v with
  | .list (head :: rest) => exact absurd rfl (hv head rest)
  | .list [] | .untyped | .nil | .bool _ | .num _ | .str _ | .atom _ | .sym _ | .func .. =>
    simp [layout, pieces, Piece.written]

/-- The layouts of items, each on a new line. -/
theorem layoutItems_cons (level : Nat) (v : Value) (rest : List Value) :
    layoutItems level (v :: rest) =
      Text.newline :: (Text.marginAt level ++ (v.layout level ++ layoutItems level rest)) := by
  rw [layoutItems, itemPieces, List.flatMap_append, List.flatMap_cons, Piece.written]
  simp only [List.cons_append, List.append_assoc]
  rfl

end Value

/-- A text is not longer than what it is joined to. -/
theorem Text.length_le_join (separator : Text) {t : Text} {ts : List Text} (h : t ∈ ts) :
    t.length ≤ (join separator ts).length := by
  match ts with
  | [s] => rw [List.mem_singleton.mp h, join]
  | s :: s' :: rest =>
    rw [join]
    · rcases List.mem_cons.mp h with rfl | h
      · simp only [List.length_append]
        omega
      · have hrest := Text.length_le_join separator h
        simp only [List.length_append]
        omega
    · simp

/-- An item is shorter than its list by the brackets at least. -/
theorem Value.length_source_item {v : Value} {items : List Value} (h : v ∈ items) :
    v.source.length + 2 ≤ (Value.list items).source.length := by
  have hopening : (text "(").length = 1 := rfl
  have hclosing : (text ")").length = 1 := rfl
  have hjoin := Text.length_le_join (text " ") (List.mem_map_of_mem (f := source) h)
  rw [source_list]
  simp only [List.length_append, hopening, hclosing]
  omega

mutual

/-- Levels go up by one where source texts are shorter by two bytes, so that no margin is longer
than the source text of the value. -/
theorem Value.level_le_of_mem_pieces (v : Value) {level : Nat} {piece : Piece}
    (hpiece : piece ∈ v.pieces level) : 2 * piece.level ≤ 2 * level + v.source.length := by
  match v with
  | .list (head :: rest) =>
    rw [pieces] at hpiece
    split_ifs at hpiece
    · have hlength : ∀ v ∈ head :: rest, v.source.length + 2 ≤
          (Value.list (head :: rest)).source.length := fun v hv => length_source_item hv
      rw [List.forall_mem_cons] at hlength
      simp only [List.mem_append, List.mem_singleton] at hpiece
      rcases hpiece with rfl | hhead | hrest | rfl
      · exact Nat.le_add_right _ _
      · have hle := Value.level_le_of_mem_pieces head hhead
        omega
      · exact Value.level_le_of_mem_itemPieces rest hlength.2 hrest
      · exact Nat.le_add_right _ _
    · rw [List.mem_singleton.mp hpiece]
      exact Nat.le_add_right _ _
  | .list [] | .untyped | .nil | .bool _ | .num _ | .str _ | .atom _ | .sym _ | .func .. =>
    rw [List.mem_singleton.mp hpiece]
    exact Nat.le_add_right _ _

/-- The same for items one level deeper, if there is room for two bytes more. -/
theorem Value.level_le_of_mem_itemPieces (items : List Value) {level length : Nat}
    (hlength : ∀ v ∈ items, v.source.length + 2 ≤ length) {piece : Piece}
    (hpiece : piece ∈ itemPieces (level + 1) items) : 2 * piece.level ≤ 2 * level + length := by
  match items with
  | [] => cases hpiece
  | v :: rest =>
    rw [List.forall_mem_cons] at hlength
    rw [itemPieces, List.cons_append, List.mem_cons, List.mem_append] at hpiece
    rcases hpiece with rfl | hv | hrest
    · have hturn : (Piece.turn (level + 1)).level = level + 1 := rfl
      omega
    · have hle := Value.level_le_of_mem_pieces v hv
      omega
    · exact Value.level_le_of_mem_itemPieces rest hlength.2 hrest

end

/-- A value is printed as its layout on a new printer. -/
theorem Printer.prettySource_eq {v : Value} (hv : v.Upright)
    (hfits : v.source.length ≤ widestMargin) :
    ∃ q, pretty v new = .done q ∧ v.prettySource = q.contents ∧ q.contents = v.layout 0 := by
  have hlevel : new.level = ((0 : Nat) : Int) := rfl
  have hholds : new.Holds (v.pieces 0) := by
    refine ⟨fun _ => by decide, fun piece hpiece => Piece.fits_of_level ?_⟩
    have hle := v.level_le_of_mem_pieces hpiece
    omega
  obtain ⟨q, hq, hwrote⟩ := (printsPieces hv hlevel (by decide)).done hholds
  refine ⟨q, hq, by rw [Value.prettySource, hq, Printed.printer], ?_⟩
  rw [hwrote.contents_eq]
  rfl

end Lisplet
