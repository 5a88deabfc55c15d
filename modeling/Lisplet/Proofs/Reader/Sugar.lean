import Lisplet.Proofs.Reader.Place

/-!
# One list in several notations

A list can be written in round brackets. With the symbol `do` in front it can be written as a block
in braces, and with any symbol in front as a call, the symbol outside of the brackets. Whatever text
stands between the brackets, if it can be read on its own then all these notations are read up to
their ends, and as the same list.
-/

namespace Lisplet.Reader

/-! ### Sources that are read up to their ends -/

/-- The first expression of a source is a value, and nothing of the source is left behind it. -/
structure ParsesWhole (source : Text) (v : Value) : Prop where
  /-- The value is the first expression. -/
  parse_eq : parse source = .ok v
  /-- The reader stands at the end. -/
  offset_eq : (Reader.new.read source).2.place.offset = source.length

/-- What is read without forms and without an error is white space. -/
theorem rest_skipBlanks_of_expressions {i : Input} (herror : (expressions i).error = none)
    (hforms : (expressions i).forms = []) : i.skipBlanks.rest = [] := by
  by_contra hne
  cases hresult : expression i with
  | error e =>
    rw [expressions_of_error hne hresult] at herror
    cases herror
  | ok read =>
    obtain ⟨v, behind⟩ := read
    rw [expressions_of_ok hresult] at hforms
    cases hforms

/-- A source with one form is read up to its end, unless it ends with white space. -/
theorem parsesWhole_of_parseAll {source : Text} {v : Value} (h : parseAll source = .ok [v])
    (hlast : ∀ r ∈ source.runes.getLast?, r.isBlank = false) : ParsesWhole source v := by
  refine ⟨parse_of_parseAll h, ?_⟩
  have hinput : Reader.new.input source = ⟨.start, source.runes⟩ := rfl
  have hall : (expressions (Reader.new.input source)).error = none ∧
      (expressions (Reader.new.input source)).forms = [v] := by
    simp only [parseAll, parseForms, readAll] at h
    cases herror : (expressions (Reader.new.input source)).error with
    | some e => simp [herror] at h
    | none => exact ⟨rfl, by simpa [herror] using h⟩
  rw [hinput] at hall
  rw [read, hinput]
  obtain ⟨herror, hforms⟩ := hall
  have hproceeds := expression_proceeds ⟨.start, source.runes⟩
  cases hresult : expression ⟨.start, source.runes⟩ with
  | error e =>
    have hparse := parse_of_parseAll h
    rw [parse, read, hinput, hresult] at hparse
    cases hparse
  | ok result =>
    obtain ⟨v', behind⟩ := result
    rw [hresult] at hproceeds
    rw [expressions_of_ok hresult] at herror hforms
    have hnothing : (expressions behind).forms = [] := (List.cons.inj hforms).2
    obtain ⟨blanks, hblanks, hblank, -⟩ := skipBlanks_spec behind
    rw [rest_skipBlanks_of_expressions herror hnothing, List.append_nil] at hblanks
    obtain ⟨⟨taken, htaken, hplace⟩, -⟩ := hproceeds
    have htaken : source.runes = taken ++ behind.rest := htaken
    have hrest : behind.rest = [] := by
      by_contra hne
      have hend := List.getLast?_eq_some_getLast hne
      have hnot : (behind.rest.getLast hne).isBlank = false := by
        refine hlast _ ?_
        rw [htaken, List.getLast?_append, hend]
        rfl
      rw [hblank _ (hblanks ▸ List.mem_of_getLast? hend)] at hnot
      cases hnot
    have hplace : behind.place = Position.start.afterAll source.runes := by
      rw [hplace, htaken, hrest, List.append_nil]
    have hoffset := Position.offset_afterAll .start source.runes
    rw [← hplace, Text.ofRunes_runes] at hoffset
    exact hoffset.trans (Nat.zero_add _)

/-- A source that ends with a closing bracket does not end with white space. -/
theorem isBlank_getLast?_runes (source : Text) (e : Enclosure) :
    ∀ r ∈ (source ++ Rune.bytes (.char e.bracket.closing)).runes.getLast?, r.isBlank = false := by
  have hrunes : (source ++ Rune.bytes (.char e.bracket.closing)).runes =
      source.runes ++ [.char e.bracket.closing] := by
    cases e with
    | list => exact Text.runes_append_ascii source (by decide) []
    | block => exact Text.runes_append_ascii source (by decide) []
  intro r hr
  rw [hrunes, List.getLast?_concat, Option.mem_some_iff] at hr
  subst hr
  cases e <;> decide

/-! ### Symbols as texts -/

/-- Lexemes that spell one symbol are one token. -/
theorem Forest.eq_symbol {ls : List Lexeme} {name : Text} (h : Forest ls [.sym name]) :
    ∃ spaced spelling, ls = [⟨spaced, .symbol spelling⟩] ∧ Value.symbol spelling = .sym name := by
  cases h with
  | @leaf l ls _ _ hvalue _ hrest =>
    cases hrest
    obtain ⟨spaced, t⟩ := l
    cases t with
    | symbol spelling => exact ⟨spaced, spelling, rfl, Option.some.inj hvalue⟩
    | _ => cases hvalue

/-- A source without white space that is read as one symbol is one token. -/
theorem isToken_of_parseAll {source name : Text}
    (hblank : ∀ r ∈ source.runes, r.isBlank = false) (h : parseAll source = .ok [.sym name]) :
    ∃ spelling, IsToken source.runes [] (.symbol spelling) ∧
      Value.symbol spelling = .sym name := by
  rw [parseAll_eq_ok_iff_verdict, verdict_eq_forms_iff] at h
  have hlexes := lexes_scan h.1
  obtain ⟨spaced, spelling, hlexemes, hname⟩ := (forest_iff.mpr h.2).eq_symbol
  rw [hlexemes] at hlexes
  generalize source.runes = rs at hblank hlexes
  cases hlexes with
  | @token blanks written behind _ _ hblanks htoken hbehind =>
    have hnone : ∀ part : List Rune, (∀ r ∈ part, r ∈ blanks ++ (written ++ behind)) →
        (∀ r ∈ part, r.isBlank = true) → part = [] := by
      intro part hpart hall
      rw [List.eq_nil_iff_forall_not_mem]
      intro r hr
      have hnot := hblank r (hpart r hr)
      rw [hall r hr] at hnot
      cases hnot
    obtain rfl : blanks = [] := hnone blanks (fun r hr => List.mem_append_left _ hr) hblanks
    cases hbehind with
    | blank hall =>
      obtain rfl : behind = [] := hnone behind (fun r hr => by simp [hr]) hall
      exact ⟨spelling, by simpa using htoken, hname⟩

/-! ### Notations -/

/-- A symbol in front of a list, without white space between them, is the first item of the list. -/
theorem parseAll_call {source contents name : Text} {forms : List Value}
    (hblank : ∀ r ∈ source.runes, r.isBlank = false) (hsource : parseAll source = .ok [.sym name])
    (h : parseAll contents = .ok forms) :
    parseAll (source ++ Enclosure.list.around contents) = .ok [.list (.sym name :: forms)] := by
  obtain ⟨spelling, htoken, hname⟩ := isToken_of_parseAll hblank hsource
  rw [parseAll_eq_ok_iff_verdict, verdict_eq_forms_iff] at h ⊢
  obtain ⟨spaced, hclosing⟩ := (lexes_scan h.1).append_closing (.blank no_blanks) .list
  have hbrackets := hclosing.cons_opening .list
  rw [← Enclosure.runes_around] at hbrackets
  have hstop : StopsAt (fun r => !endsWord r) (Enclosure.list.around contents).runes := by
    rw [Enclosure.runes_around]
    simp only [StopsAt, List.head?_cons]
    decide
  have hlexes := Lexes.token no_blanks (htoken.append fun _ => hstop) hbrackets
  simp only [List.nil_append] at hlexes
  have hrunes : (source ++ Enclosure.list.around contents).runes =
      source.runes ++ (Enclosure.list.around contents).runes :=
    Text.runes_append_of_not_isTail source (by decide) _
  rw [hrunes, hlexes.scan_eq, ← hname]
  exact ⟨rfl, forest_iff.mp (.call (forest_iff.mpr h.2) .nil)⟩

/-- Two sources with a blank between them have the forms of both. -/
theorem parseAll_append_blank {source contents : Text} {vs forms : List Value}
    (hsource : parseAll source = .ok vs) (h : parseAll contents = .ok forms) :
    parseAll (source ++ Text.blank :: contents) = .ok (vs ++ forms) := by
  rw [parseAll_eq_ok_iff_verdict, verdict_eq_forms_iff] at hsource h
  have hrunes : (source ++ Text.blank :: contents).runes =
      source.runes ++ .char ' ' :: contents.runes :=
    Text.runes_append_ascii source (by decide) contents
  have hnothing : ¬ BeginsCall [] := by simp [BeginsCall]
  have hsettle := (forest_iff.mpr h.2).settle_append ⟨vs, []⟩ hnothing
  rw [List.append_nil] at hsettle
  rw [parseAll_eq_ok_iff_verdict, hrunes, verdict_separated hsource.1 hsource.2 (by decide),
    verdict_eq_forms_iff]
  exact ⟨h.1, hsettle⟩

/-- A source in brackets is read as the list of its forms, with what the bracket begins with in
front. -/
theorem parsesWhole_around {contents : Text} {forms : List Value}
    (h : parseAll contents = .ok forms) (e : Enclosure) :
    ParsesWhole (e.around contents) (.list (e.head ++ forms)) :=
  parsesWhole_of_parseAll (parseAll_around h e) (isBlank_getLast?_runes _ e)

/-- A text that can be read makes one list in each notation, and the whole text is consumed. In
round brackets it is the list of its forms. In braces it is the list with the symbol `do` in front,
as it is in round brackets behind that symbol. Behind any symbol, which is a text without white
space that is read as one symbol, it is the list with this symbol in front, whether the symbol
stands outside of the brackets or inside. -/
theorem parsesWhole_notations {contents : Text} {forms : List Value}
    (h : parseAll contents = .ok forms) :
    ParsesWhole (text "(" ++ contents ++ text ")") (.list forms) ∧
    ParsesWhole (text "\x7b" ++ contents ++ text "\x7d") (.list (.symbol (text "do") :: forms)) ∧
    ParsesWhole (text "(do " ++ contents ++ text ")") (.list (.symbol (text "do") :: forms)) ∧
    ∀ symbol name : Text, (∀ r ∈ symbol.runes, r.isBlank = false) →
      parseAll symbol = .ok [.sym name] →
        ParsesWhole (symbol ++ text "(" ++ contents ++ text ")") (.list (.sym name :: forms)) ∧
        ParsesWhole (text "(" ++ symbol ++ text " " ++ contents ++ text ")")
          (.list (.sym name :: forms)) := by
  have hround : ∀ contents : Text,
      Enclosure.list.around contents = text "(" ++ contents ++ text ")" := fun _ => rfl
  -- Behind the symbol `do` the list is written as it is behind any symbol.
  have hinside : ∀ symbol name : Text, parseAll symbol = .ok [.sym name] →
      ParsesWhole (text "(" ++ symbol ++ text " " ++ contents ++ text ")")
        (.list (.sym name :: forms)) := by
    intro symbol name hsymbol
    have hwhole := parsesWhole_around (parseAll_append_blank hsymbol h) .list
    have hblank : Text.blank :: contents = text " " ++ contents := rfl
    rw [hround, hblank, ← List.append_assoc symbol, ← List.append_assoc, ← List.append_assoc]
      at hwhole
    exact hwhole
  refine ⟨parsesWhole_around h .list, parsesWhole_around h .block,
    hinside (text "do") (text "do") rfl, fun symbol name hblank hsymbol => ⟨?_, ?_⟩⟩
  · have hcall := parseAll_call hblank hsymbol h
    rw [hround, ← List.append_assoc, ← List.append_assoc] at hcall
    exact parsesWhole_of_parseAll hcall (isBlank_getLast?_runes _ .list)
  · exact hinside symbol name hsymbol

/-- A call, a block and a symbol between the brackets touch each other and the brackets. The symbol
in front begins like a number. -/
theorem parsesWhole_notations_call :
    parseAll (text "g(#t)\x7b\"a\"\x7dh") = .ok [.list [.sym (text "g"), .bool true],
      .list [.sym (text "do"), .str (text "a")], .sym (text "h")] ∧
    parseAll (text "-.") = .ok [.sym (text "-.")] ∧
    ParsesWhole (text "-." ++ text "(" ++ text "g(#t)\x7b\"a\"\x7dh" ++ text ")")
      (.list [.sym (text "-."), .list [.sym (text "g"), .bool true],
        .list [.sym (text "do"), .str (text "a")], .sym (text "h")]) := by
  have hcontents : parseAll (text "g(#t)\x7b\"a\"\x7dh") = .ok [.list [.sym (text "g"),
      .bool true], .list [.sym (text "do"), .str (text "a")], .sym (text "h")] := rfl
  have hsymbol : parseAll (text "-.") = .ok [.sym (text "-.")] := rfl
  have hblank : ∀ r ∈ (text "-.").runes, r.isBlank = false := by decide
  exact ⟨hcontents, hsymbol, ((parsesWhole_notations hcontents).2.2.2 _ _ hblank hsymbol).1⟩

end Lisplet.Reader
