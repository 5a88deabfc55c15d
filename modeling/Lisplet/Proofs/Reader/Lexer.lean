import Lisplet.Proofs.Decimal.Numeral
import Lisplet.Proofs.Reader.Token
import Lisplet.Proofs.Text.Decoding

/-!
# The first token of a source

`lex` computes the token that a source begins with. It finds exactly the tokens of `IsToken`. Where
there is none, it tells whether a string has no end or the runes are refused for good.
-/

namespace Lisplet.Reader

/-- What a source without white space in front begins with. -/
inductive Lexed where
  /-- A string that has no end. -/
  | unterminated
  /-- Something that begins no token. -/
  | refused
  /-- A token, and the runes behind it. -/
  | token (t : Token) (behind : List Rune)

/-- The number that the runes of a numeral denote, unless they have two points or overflow. -/
def numberOf? (written : List Rune) : Option Float :=
  if 1 < written.countP (fun r => r.isChar '.') then none
  else (Decimal.parse? (Text.ofRunes written)).filter fun n => !n.isInf

/-- The truth value that runes spell. -/
def truthOf? (written : List Rune) : Option Bool :=
  if written ∈ truthSpellings true then some true
  else if written ∈ truthSpellings false then some false
  else none

/-- The token of a round bracket or a brace. -/
def bracket? (r : Rune) : Option Token :=
  if r.isChar '(' then some (.opening .list)
  else if r.isChar ')' then some (.closing .list)
  else if r.isChar '\x7b' then some (.opening .block)
  else if r.isChar '\x7d' then some (.closing .block)
  else none

/-- The string whose opening quote stands in front of the given runes. -/
def lexString (rs : List Rune) : Lexed :=
  match rs.dropWhile fun r => !r.isChar '"' with
  | [] => .unterminated
  | _ :: behind => .token (.string (Text.ofRunes (rs.takeWhile fun r => !r.isChar '"'))) behind

/-- The truth value or symbol that the given runes begin with. -/
def lexWord (rs : List Rune) : Lexed :=
  let written := rs.takeWhile fun r => !endsWord r
  let behind := rs.dropWhile fun r => !endsWord r
  if written = [] then .refused
  else match truthOf? written with
    | some b => .token (.truth b) behind
    | none => .token (.symbol (Text.ofRunes written)) behind

/-- What a source begins with. -/
def lex : List Rune → Lexed
  | [] => .refused
  | r :: rest =>
    match numeral? (r :: rest) with
    | some written =>
      match numberOf? written with
      | some n => .token (.number n) ((r :: rest).drop written.length)
      | none => .refused
    | none =>
      if r.isChar '"' then lexString rest
      else match bracket? r with
        | some t => .token t rest
        | none => lexWord (r :: rest)

/-- A numeral denotes a number if it has no second point, can be parsed and does not overflow. -/
theorem numberOf?_eq_some_iff {written : List Rune} {n : Float} :
    numberOf? written = some n ↔ written.count (.char '.') ≤ 1 ∧
      Decimal.parse? (Text.ofRunes written) = some n ∧ n.isInf = false := by
  have hcount : written.countP (fun r => r.isChar '.') = written.count (.char '.') := rfl
  unfold numberOf?
  rw [hcount]
  split_ifs with hpoints
  · simp only [false_iff]
    omega
  · rw [Option.filter_eq_some_iff, Bool.not_eq_true']
    exact ⟨fun h => ⟨by omega, h⟩, fun h => h.2⟩

/-- Each truth value has its spellings. -/
theorem truthOf?_eq_some_iff {written : List Rune} {b : Bool} :
    truthOf? written = some b ↔ written ∈ truthSpellings b := by
  unfold truthOf?
  split_ifs with htrue hfalse
  · cases b with
    | true => simpa using htrue
    | false =>
      have hdisjoint : ∀ spelling ∈ truthSpellings true, spelling ∉ truthSpellings false := by
        decide
      simpa using hdisjoint written htrue
  · cases b with
    | true => simpa using htrue
    | false => simpa using hfalse
  · cases b <;> simp [htrue, hfalse]

/-- Everything else is no truth value. -/
theorem truthOf?_eq_none_iff {written : List Rune} :
    truthOf? written = none ↔ ∀ b, written ∉ truthSpellings b := by
  simp only [Option.eq_none_iff_forall_ne_some, ne_eq, truthOf?_eq_some_iff]

/-- The brackets of a source are round brackets and braces. -/
theorem bracket?_eq_some_iff {r : Rune} {t : Token} :
    bracket? r = some t ↔ ∃ e : Enclosure, r = .char e.bracket.opening ∧ t = .opening e ∨
      r = .char e.bracket.closing ∧ t = .closing e := by
  constructor
  · intro h
    simp only [bracket?, Rune.isChar_iff] at h
    split_ifs at h with hround hround' hbrace hbrace' <;> cases h
    · exact ⟨.list, Or.inl ⟨hround, rfl⟩⟩
    · exact ⟨.list, Or.inr ⟨hround', rfl⟩⟩
    · exact ⟨.block, Or.inl ⟨hbrace, rfl⟩⟩
    · exact ⟨.block, Or.inr ⟨hbrace', rfl⟩⟩
  · rintro ⟨_ | _, ⟨rfl, rfl⟩ | ⟨rfl, rfl⟩⟩ <;> rfl

/-- There are four brackets. -/
theorem bracket?_eq_none_iff {r : Rune} :
    bracket? r = none ↔
      r ≠ .char '(' ∧ r ≠ .char ')' ∧ r ≠ .char '\x7b' ∧ r ≠ .char '\x7d' := by
  simp only [bracket?, Rune.isChar_iff]
  split_ifs <;> simp_all

/-- A rune that is no boundary is no bracket. -/
theorem bracket?_eq_none_of_endsWord {r : Rune} (h : endsWord r = false) :
    bracket? r = none := by
  rw [bracket?_eq_none_iff]
  refine ⟨?_, ?_, ?_, ?_⟩ <;> (rintro rfl; exact absurd h (by decide))

/-- Digits do not end words. -/
theorem endsWord_of_isDigit {r : Rune} (h : isDigit r = true) : endsWord r = false := by
  rw [endsWord, Bool.or_eq_false_iff]
  constructor
  · simp only [isDigit, Bool.and_eq_true, decide_eq_true_eq] at h
    simp only [Rune.isBlank, isBlankCode, Bool.or_eq_false_iff, Bool.and_eq_false_iff,
      decide_eq_false_iff_not, beq_eq_false_iff_ne]
    omega
  · rw [List.any_eq_false]
    intro c hc hr
    have hnone : wordEnds.all (fun c => !isDigit (.char c)) = true := rfl
    have hdigit := List.all_eq_true.mp hnone c hc
    rw [← Rune.isChar_iff.mp hr, h] at hdigit
    exact absurd hdigit (by decide)

/-- A number begins with runes that are neither boundaries nor quotes. -/
theorem BeginsNumber.front {rs : List Rune} (h : BeginsNumber rs) :
    ∃ front rest, rs = front ++ rest ∧ front ≠ [] ∧ BeginsNumber front ∧
      ∀ r ∈ front, endsWord r = false ∧ r ≠ .char '"' := by
  obtain ⟨sign, point, digit, rest, rfl, hsign, hpoint, hdigit⟩ := h
  refine ⟨sign ++ point ++ [digit], rest, by simp, by simp,
    ⟨sign, point, digit, [], rfl, hsign, hpoint, hdigit⟩, ?_⟩
  have hruneSign : ∀ r ∈ sign, endsWord r = false ∧ r ≠ .char '"' := by
    rcases hsign with rfl | rfl <;> decide
  have hrunePoint : ∀ r ∈ point, endsWord r = false ∧ r ≠ .char '"' := by
    rcases hpoint with rfl | rfl <;> decide
  intro r hr
  rw [List.mem_append, List.mem_append, List.mem_singleton] at hr
  rcases hr with (hr | hr) | rfl
  · exact hruneSign r hr
  · exact hrunePoint r hr
  · refine ⟨endsWord_of_isDigit hdigit, ?_⟩
    rintro rfl
    exact absurd hdigit (by decide)

/-- A number begins with a rune of a word that is no quote. -/
theorem BeginsNumber.head {r : Rune} {rest : List Rune} (h : BeginsNumber (r :: rest)) :
    endsWord r = false ∧ r ≠ .char '"' := by
  obtain ⟨front, more, heq, hne, -, hrunes⟩ := h.front
  cases front with
  | nil => exact absurd rfl hne
  | cons first front =>
    obtain ⟨rfl, -⟩ := List.cons.inj heq
    exact hrunes r (by simp)

/-- A number still begins if there is more behind it. -/
theorem BeginsNumber.append {rs : List Rune} (h : BeginsNumber rs) (more : List Rune) :
    BeginsNumber (rs ++ more) := by
  obtain ⟨sign, point, digit, rest, rfl, hsign, hpoint, hdigit⟩ := h
  exact ⟨sign, point, digit, rest ++ more, by simp, hsign, hpoint, hdigit⟩

/-- Whether runes begin a number is decided in front of the first boundary. -/
theorem BeginsNumber.of_append {written behind : List Rune} (h : BeginsNumber (written ++ behind))
    (hstop : StopsAt (fun r => !endsWord r) behind) : BeginsNumber written := by
  obtain ⟨front, rest, heq, -, hfront, hrunes⟩ := h.front
  rcases List.append_eq_append_iff.mp heq with ⟨middle, rfl, rfl⟩ | ⟨middle, rfl, -⟩
  · -- The front reaches beyond the written runes, so it holds the boundary behind them.
    cases middle with
    | nil => simpa using hfront
    | cons r middle =>
      have hboundary := (hrunes r (by simp)).1
      have hstops := hstop r (by simp)
      simp [hboundary] at hstops
  · exact hfront.append middle

/-- Truth values are words that begin neither a number nor a string. -/
theorem truthSpellings_spec : ∀ b, ∀ spelling ∈ truthSpellings b, spelling ≠ [] ∧
    (∀ r ∈ spelling, endsWord r = false) ∧ spelling.head? ≠ some (.char '"') ∧
    numeral? spelling = none := by
  decide

/-! ### Numbers -/

/-- A digit or point is one byte, of the same kind. -/
theorem bytes_of_isNumeralRune {r : Rune} (h : isNumeralRune r = true) :
    ∃ b, r.bytes = [b] ∧ (Text.isDigit b = isDigit r) ∧ (b = 46 ↔ r = .char '.') := by
  cases r with
  | stray b => simp [isNumeralRune, isDigit, Rune.code, Rune.replacement] at h
  | char c =>
    have hcode : (Rune.char c).code = c.toNat := rfl
    simp only [isNumeralRune, isDigit, Bool.or_eq_true, Bool.and_eq_true, decide_eq_true_eq,
      Rune.isChar_iff, Rune.char.injEq] at h
    have hascii : c.toNat < 128 := by
      rcases h with h | rfl
      · omega
      · decide
    have hbyte : (UInt8.ofNat c.toNat).toNat = c.toNat := by
      rw [UInt8.toNat_ofNat']
      omega
    refine ⟨UInt8.ofNat c.toNat, by simp [Rune.bytes, Rune.encodeCode, hascii], ?_, ?_⟩
    · simp only [Text.isDigit, isDigit, UInt8.le_iff_toNat_le, hbyte, hcode]
      rfl
    · rw [← UInt8.toNat_inj, hbyte, Rune.char.injEq, ← Char.toNat_inj]
      rfl

/-- The bytes of a run of digits and points are digits and points, with as many points. -/
theorem ofRunes_numeral {run : List Rune} (h : ∀ r ∈ run, isNumeralRune r = true) :
    (∀ b ∈ Text.ofRunes run, Text.isDigit b = true ∨ b = 46) ∧
      (Text.ofRunes run).count 46 = run.count (.char '.') ∧
      ((∃ r ∈ run, isDigit r = true) → ∃ b ∈ Text.ofRunes run, Text.isDigit b = true) := by
  induction run with
  | nil => simp
  | cons r run ih =>
    obtain ⟨hbytes, hcount, hdigit⟩ := ih fun r hr => h r (by simp [hr])
    have hr := h r (by simp)
    obtain ⟨b, hb, hisDigit, hpoint⟩ := bytes_of_isNumeralRune hr
    rw [isNumeralRune, Bool.or_eq_true, Rune.isChar_iff] at hr
    rw [Text.ofRunes_cons, hb, List.singleton_append]
    refine ⟨?_, ?_, ?_⟩
    · intro b' hb'
      rcases List.mem_cons.mp hb' with rfl | hb'
      · rwa [hisDigit, hpoint]
      · exact hbytes b' hb'
    · rw [List.count_cons, List.count_cons, hcount]
      simp [hpoint]
    · rintro ⟨r', hr', hdigit'⟩
      rcases List.mem_cons.mp hr' with rfl | hr'
      · exact ⟨b, by simp, by rwa [hisDigit]⟩
      · obtain ⟨b', hb', hisDigit'⟩ := hdigit ⟨r', hr', hdigit'⟩
        exact ⟨b', by simp [hb'], hisDigit'⟩

/-- A numeral with at most one point denotes a number. If it goes on with digits and points, of
which there is at most one, then it does so too, and an overflow remains one. -/
theorem parse?_numeral_append {written behind more : List Rune} (h : IsNumeral written behind)
    (hmore : ∀ r ∈ more, isNumeralRune r = true)
    (hpoints : (written ++ more).count (.char '.') ≤ 1) :
    ∃ n n', Decimal.parse? (Text.ofRunes written) = some n ∧
      Decimal.parse? (Text.ofRunes (written ++ more)) = some n' ∧
      (n.isInf = true → n'.isInf = true) := by
  obtain ⟨hbegins, ⟨sign, run, rfl, hsign, hrun⟩, -⟩ := h
  have hall : ∀ r ∈ run ++ more, isNumeralRune r = true := by
    intro r hr
    rcases List.mem_append.mp hr with hr | hr
    · exact hrun r hr
    · exact hmore r hr
  obtain ⟨hbytes, hcount, -⟩ := ofRunes_numeral hall
  have hdigit : ∃ b ∈ Text.ofRunes run, Text.isDigit b = true := by
    refine (ofRunes_numeral hrun).2.2 ?_
    obtain ⟨sign', point, digit, rest, heq, hsign', hpoint, hdigit⟩ := hbegins
    have hmem : digit ∈ sign ++ run := by simp [heq]
    rcases List.mem_append.mp hmem with hmem | hmem
    · rcases hsign with rfl | rfl
      · simp at hmem
      · rw [List.mem_singleton.mp hmem, isDigit_minus] at hdigit
        exact absurd hdigit (by decide)
    · exact ⟨digit, hmem, hdigit⟩
  have hpoints' : (Text.ofRunes run ++ Text.ofRunes more).count 46 ≤ 1 := by
    rw [← Text.ofRunes_append, hcount]
    rw [List.append_assoc, List.count_append] at hpoints
    omega
  rw [Text.ofRunes_append] at hbytes
  have hresult := fun negative => Decimal.parse?_append negative hbytes hdigit hpoints'
  rcases hsign with rfl | rfl
  · simpa [Text.ofRunes_append] using hresult false
  · have hminus : Rune.bytes (.char '-') = [45] := rfl
    simpa [Text.ofRunes_append, hminus] using hresult true

/-- A numeral with two points, or one that overflows, stays refused however it goes on. -/
theorem numberOf?_append {written behind more : List Rune} (h : IsNumeral written behind)
    (hmore : ∀ r ∈ more, isNumeralRune r = true) (hnone : numberOf? written = none) :
    numberOf? (written ++ more) = none := by
  rw [Option.eq_none_iff_forall_ne_some]
  intro n hn
  obtain ⟨hpoints, hparse, hinf⟩ := numberOf?_eq_some_iff.mp hn
  obtain ⟨n₁, n₂, hparse₁, hparse₂, hoverflow⟩ := parse?_numeral_append h hmore hpoints
  obtain rfl : n₂ = n := Option.some.inj (hparse₂.symm.trans hparse)
  refine absurd hnone
    (Option.ne_none_iff_exists'.mpr ⟨n₁, numberOf?_eq_some_iff.mpr ⟨?_, hparse₁, ?_⟩⟩)
  · rw [List.count_append] at hpoints
    omega
  · cases hinf₁ : n₁.isInf with
    | false => rfl
    | true => rw [hoverflow hinf₁] at hinf; exact hinf

/-! ### What a source begins with, case by case -/

/-- A numeral is the token of its number, if it denotes one. -/
theorem lex_numeral {written behind : List Rune} (h : IsNumeral written behind) :
    lex (written ++ behind) =
      match numberOf? written with
      | some n => .token (.number n) behind
      | none => .refused := by
  have hfound := numeral?_eq_some_iff.mpr ⟨behind, rfl, h⟩
  obtain ⟨front, more, rfl, hne, -⟩ := h.1.front
  cases front with
  | nil => exact absurd rfl hne
  | cons r front =>
    rw [List.cons_append, List.cons_append] at hfound ⊢
    simp only [lex, hfound]
    cases numberOf? (r :: (front ++ more)) with
    | none => rfl
    | some n => simp

/-- A string begins behind a quote. -/
theorem lex_quote (rest : List Rune) : lex (.char '"' :: rest) = lexString rest := by
  have hnumber : ¬ BeginsNumber (.char '"' :: rest) := fun h => h.head.2 rfl
  simp [lex, numeral?_eq_none_iff.mpr hnumber]

/-- A bracket is a token of its own. -/
theorem lex_bracket {r : Rune} {t : Token} (h : bracket? r = some t) (rest : List Rune) :
    lex (r :: rest) = .token t rest := by
  have hnumber : ¬ BeginsNumber (r :: rest) := by
    intro hbegins
    rw [bracket?_eq_none_of_endsWord hbegins.head.1] at h
    exact absurd h (by simp)
  have hquote : r ≠ .char '"' := by
    rintro rfl
    exact absurd (bracket?_eq_none_of_endsWord (r := .char '"') (by decide)) (by simp [h])
  have hisQuote : r.isChar '"' = false := by simpa using hquote
  simp [lex, numeral?_eq_none_iff.mpr hnumber, hisQuote, h]

/-- Runes that begin neither a number nor a string nor with a bracket are read as a word. -/
theorem lex_word {r : Rune} {rest : List Rune} (hnumber : ¬ BeginsNumber (r :: rest))
    (hquote : r ≠ .char '"') (hbracket : bracket? r = none) :
    lex (r :: rest) = lexWord (r :: rest) := by
  have hisQuote : r.isChar '"' = false := by simpa using hquote
  simp [lex, numeral?_eq_none_iff.mpr hnumber, hisQuote, hbracket]

/-- The four ways in which a source can begin. -/
theorem lex_cases (r : Rune) (rest : List Rune) :
    (∃ written behind, r :: rest = written ++ behind ∧ IsNumeral written behind) ∨
      r = .char '"' ∨ (∃ t, bracket? r = some t) ∨
      (¬ BeginsNumber (r :: rest) ∧ r ≠ .char '"' ∧ bracket? r = none) := by
  cases hnumeral : numeral? (r :: rest) with
  | some written => exact Or.inl ⟨written, numeral?_eq_some_iff.mp hnumeral⟩
  | none =>
    by_cases hquote : r = .char '"'
    · exact Or.inr (Or.inl hquote)
    · cases hbracket : bracket? r with
      | some t => exact Or.inr (Or.inr (Or.inl ⟨t, rfl⟩))
      | none => exact Or.inr (Or.inr (Or.inr ⟨numeral?_eq_none_iff.mp hnumeral, hquote, rfl⟩))

/-- A string ends at its first quote. -/
theorem lexString_append {contents : List Rune} (hcontents : .char '"' ∉ contents)
    (behind : List Rune) :
    lexString (contents ++ .char '"' :: behind) =
      .token (.string (Text.ofRunes contents)) behind := by
  have hrun : ∀ r ∈ contents, (!r.isChar '"') = true := by
    intro r hr
    simpa using fun h : r = .char '"' => hcontents (h ▸ hr)
  have hstop : StopsAt (fun r => !r.isChar '"') (.char '"' :: behind) := by simp [StopsAt]
  simp only [lexString, dropWhile_append_of_stopsAt hrun hstop,
    takeWhile_append_of_stopsAt hrun hstop]

/-- A string without a quote has no end. -/
theorem lexString_of_not_mem {rs : List Rune} (h : .char '"' ∉ rs) :
    lexString rs = .unterminated := by
  have hnone : rs.dropWhile (fun r => !r.isChar '"') = [] := by
    rw [List.dropWhile_eq_nil_iff]
    intro r hr
    simpa using fun heq : r = .char '"' => h (heq ▸ hr)
  simp only [lexString, hnone]

/-- A word in front of a boundary is read as far as the boundary. -/
theorem lexWord_append {written behind : List Rune} (hne : written ≠ [])
    (hwritten : ∀ r ∈ written, endsWord r = false)
    (hstop : StopsAt (fun r => !endsWord r) behind) :
    lexWord (written ++ behind) =
      match truthOf? written with
      | some b => .token (.truth b) behind
      | none => .token (.symbol (Text.ofRunes written)) behind := by
  have hrun : ∀ r ∈ written, (!endsWord r) = true := fun r hr => by simp [hwritten r hr]
  simp only [lexWord, takeWhile_append_of_stopsAt hrun hstop,
    dropWhile_append_of_stopsAt hrun hstop, if_neg hne]

/-- A word that begins neither a number nor a string is read as a word, wherever it stands. -/
theorem lex_append_of_word {written behind : List Rune} (hne : written ≠ [])
    (hwritten : ∀ r ∈ written, endsWord r = false)
    (hstop : StopsAt (fun r => !endsWord r) behind) (hnumber : ¬ BeginsNumber written)
    (hquote : written.head? ≠ some (.char '"')) :
    lex (written ++ behind) = lexWord (written ++ behind) := by
  cases written with
  | nil => exact absurd rfl hne
  | cons r written =>
    refine lex_word (fun hbegins => hnumber (hbegins.of_append hstop)) (by simpa using hquote) ?_
    exact bracket?_eq_none_of_endsWord (hwritten r (by simp))

/-- No word begins with a boundary. -/
theorem lexWord_of_endsWord {r : Rune} (h : endsWord r = true) (rest : List Rune) :
    lexWord (r :: rest) = .refused := by
  simp [lexWord, h]

/-- A boundary that is no bracket is refused. -/
theorem lex_of_endsWord {r : Rune} (h : endsWord r = true) (hbracket : bracket? r = none)
    (rest : List Rune) : lex (r :: rest) = .refused := by
  have hnumber : ¬ BeginsNumber (r :: rest) := by
    intro hbegins
    rw [hbegins.head.1] at h
    exact absurd h (by decide)
  have hquote : r ≠ .char '"' := by
    rintro rfl
    exact absurd h (by decide)
  rw [lex_word hnumber hquote hbracket, lexWord_of_endsWord h]

/-- Runes that do not begin with a boundary are a word and what stands behind it. -/
theorem exists_word {r : Rune} (h : endsWord r = false) (rest : List Rune) :
    ∃ written behind, r :: rest = written ++ behind ∧ written ≠ [] ∧
      (∀ r ∈ written, endsWord r = false) ∧ StopsAt (fun r => !endsWord r) behind := by
  refine ⟨(r :: rest).takeWhile (fun r => !endsWord r), _,
    (List.takeWhile_append_dropWhile).symm, ?_, fun r hr => ?_, stopsAt_dropWhile _ _⟩
  · simp [h]
  · simpa using List.mem_takeWhile_imp hr

/-- Only a string without an end is unterminated. -/
theorem lex_eq_unterminated {rs : List Rune} (h : lex rs = .unterminated) :
    ∃ rest, rs = .char '"' :: rest ∧ .char '"' ∉ rest := by
  cases rs with
  | nil => simp [lex] at h
  | cons r rest =>
    rcases lex_cases r rest with ⟨written, behind, heq, hnumeral⟩ | rfl | ⟨t, hbracket⟩ |
      ⟨hnumber, hquote, hbracket⟩
    · rw [heq, lex_numeral hnumeral] at h
      split at h <;> cases h
    · refine ⟨rest, rfl, fun hmem => ?_⟩
      obtain ⟨contents, behind, rfl, hcontents⟩ := List.eq_append_cons_of_mem hmem
      rw [lex_quote, lexString_append hcontents] at h
      cases h
    · rw [lex_bracket hbracket] at h
      cases h
    · rw [lex_word hnumber hquote hbracket, lexWord] at h
      split_ifs at h
      split at h <;> cases h

/-! ### Tokens -/

/-- The tokens that `lex` finds are tokens. -/
theorem isToken_of_lex {rs behind : List Rune} {t : Token} (h : lex rs = .token t behind) :
    ∃ written, rs = written ++ behind ∧ IsToken written behind t := by
  cases rs with
  | nil => simp [lex] at h
  | cons r rest =>
    rcases lex_cases r rest with ⟨written, more, heq, hnumeral⟩ | rfl | ⟨t', hbracket⟩ |
      ⟨hnumber, hquote, hbracket⟩
    · rw [heq, lex_numeral hnumeral] at h
      split at h
      · rename_i n hn
        obtain ⟨hpoints, hparse, hinf⟩ := numberOf?_eq_some_iff.mp hn
        cases h
        exact ⟨written, heq, .number hnumeral hpoints hparse hinf⟩
      · simp at h
    · by_cases hmem : .char '"' ∈ rest
      · obtain ⟨contents, more, rfl, hcontents⟩ := List.eq_append_cons_of_mem hmem
        rw [lex_quote, lexString_append hcontents] at h
        cases h
        exact ⟨.char '"' :: contents ++ [.char '"'], by simp, .string hcontents⟩
      · rw [lex_quote, lexString_of_not_mem hmem] at h
        simp at h
    · rw [lex_bracket hbracket] at h
      cases h
      obtain ⟨e, ⟨rfl, rfl⟩ | ⟨rfl, rfl⟩⟩ := bracket?_eq_some_iff.mp hbracket
      · exact ⟨[.char e.bracket.opening], rfl, .opening⟩
      · exact ⟨[.char e.bracket.closing], rfl, .closing⟩
    · rw [lex_word hnumber hquote hbracket] at h
      by_cases hboundary : endsWord r = true
      · rw [lexWord_of_endsWord hboundary] at h
        simp at h
      · rw [Bool.not_eq_true] at hboundary
        obtain ⟨written, more, heq, hne, hwritten, hstop⟩ := exists_word hboundary rest
        rw [heq, lexWord_append hne hwritten hstop] at h
        refine ⟨written, ?_⟩
        split at h
        · rename_i b hb
          cases h
          exact ⟨heq, .truth (truthOf?_eq_some_iff.mp hb) hstop⟩
        · rename_i hnone
          cases h
          refine ⟨heq, .symbol hne hwritten hstop (fun hbegins => hnumber ?_)
            (truthOf?_eq_none_iff.mp hnone) ?_⟩
          · rw [heq]
            exact hbegins.append behind
          · intro hhead
            obtain ⟨tail, rfl⟩ := List.head?_eq_some_iff.mp hhead
            exact hquote (List.cons.inj heq).1

/-- Every token is found by `lex`. -/
theorem lex_of_isToken {written behind : List Rune} {t : Token} (h : IsToken written behind t) :
    lex (written ++ behind) = .token t behind := by
  cases h with
  | number hnumeral hpoints hparse hinf =>
    rw [lex_numeral hnumeral, numberOf?_eq_some_iff.mpr ⟨hpoints, hparse, hinf⟩]
  | @truth _ _ b hspelling hstop =>
    obtain ⟨hne, hwritten, hquote, hnumeral⟩ := truthSpellings_spec b written hspelling
    rw [lex_append_of_word hne hwritten hstop (numeral?_eq_none_iff.mp hnumeral) hquote,
      lexWord_append hne hwritten hstop, truthOf?_eq_some_iff.mpr hspelling]
  | @string contents _ hcontents =>
    rw [List.cons_append, List.cons_append, List.append_assoc, lex_quote]
    exact lexString_append hcontents behind
  | @opening e => exact lex_bracket (bracket?_eq_some_iff.mpr ⟨e, Or.inl ⟨rfl, rfl⟩⟩) behind
  | @closing e => exact lex_bracket (bracket?_eq_some_iff.mpr ⟨e, Or.inr ⟨rfl, rfl⟩⟩) behind
  | symbol hne hwritten hstop hnumber htruth hquote =>
    rw [lex_append_of_word hne hwritten hstop hnumber hquote, lexWord_append hne hwritten hstop,
      truthOf?_eq_none_iff.mpr htruth]

end Lisplet.Reader
