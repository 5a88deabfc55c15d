import Lisplet.Proofs.Reader.Progress

/-!
# Places in a source

A place of a source stands behind some of its runes. Its line counts the line feeds among them, and
its column the runes behind the last line feed. Whatever a reader is asked for, it stands at such a
place afterwards, and every error that it gives names one that lies between the place where the
reader stood and the end of the source.
-/

namespace Lisplet

/-- A rune that is a line feed is one among the bytes too. -/
theorem Text.newline_mem {t : Text} (h : .char '\n' ∈ t.runes) : newline ∈ t := by
  have hbyte : newline ∈ ofRunes t.runes := List.mem_flatMap.mpr ⟨.char '\n', h, by decide⟩
  rwa [ofRunes_runes] at hbyte

/-- The line feeds of a text are runes of their own. -/
theorem Text.count_newline (t : Text) : t.count newline = t.runes.count (.char '\n') := by
  induction hlength : t.length using Nat.strongRecOn generalizing t with
  | ind length ih =>
    by_cases hmem : newline ∈ t
    · obtain ⟨line, rest, rfl, hline⟩ : ∃ line rest : Text, t = line ++ newline :: rest ∧
          newline ∉ line := List.eq_append_cons_of_mem hmem
      have hrest := ih rest.length (by simp at hlength; omega) rest rfl
      have hrunes : (line ++ newline :: rest).runes = line.runes ++ .char '\n' :: rest.runes :=
        runes_append_ascii line (by decide) rest
      rw [hrunes, List.count_append, List.count_append, List.count_cons_self, List.count_cons_self,
        List.count_eq_zero.mpr hline, List.count_eq_zero.mpr (mt newline_mem hline), hrest]
    · rw [List.count_eq_zero.mpr hmem, List.count_eq_zero.mpr (mt newline_mem hmem)]

namespace Position

/-- The part of a source in front of a place. -/
def front (p : Position) (source : Text) : Text := source.take p.offset

/-- A place of a source. The bytes in front of it are whole runes of the source. Its line and column
are told by them. -/
structure Within (p : Position) (source : Text) : Prop where
  /-- The place is not beyond the end. -/
  offset_le : p.offset ≤ source.length
  /-- The runes of the source begin with those in front of the place. -/
  whole : (p.front source).runes <+: source.runes
  /-- The line counts the line feeds in front of the place. -/
  line_eq : p.line = 1 + (p.front source).count Text.newline
  /-- The column counts the runes behind the last of them. -/
  column_eq : p.column =
    1 + ((p.front source).runes.reverse.takeWhile fun r => !r.isChar '\n').length

/-- The place behind the first runes of a source. -/
theorem afterAll_start (rs : List Rune) :
    start.afterAll rs =
      ⟨(Text.ofRunes rs).length, 1 + rs.count (.char '\n'),
        1 + (rs.reverse.takeWhile fun r => !r.isChar '\n').length⟩ := by
  -- The last rune decides whether the line or the column grows.
  induction rs using List.reverseRecOn with
  | nil => rfl
  | append_singleton rs r ih =>
    rw [afterAll_append, ih]
    by_cases hr : r = .char '\n'
    · subst hr
      simp [afterAll, after, Rune.width, Nat.add_assoc]
    · simp [afterAll, after, Rune.width, hr, Nat.add_comm]

/-- The offset grows by the bytes of the runes. -/
theorem offset_afterAll (p : Position) (rs : List Rune) :
    (p.afterAll rs).offset = p.offset + (Text.ofRunes rs).length := by
  induction rs generalizing p with
  | nil => rfl
  | cons r rs ih =>
    have hoffset : (p.after r).offset = p.offset + r.width := by
      rw [after]
      split <;> rfl
    have hstep : p.afterAll (r :: rs) = (p.after r).afterAll rs := rfl
    rw [hstep, ih, hoffset, Text.ofRunes_cons, List.length_append, Rune.width, Nat.add_assoc]

/-- In front of a place, a source holds the runes that lead to it. -/
theorem front_afterAll {source : Text} {taken behind : List Rune}
    (h : source.runes = taken ++ behind) :
    (start.afterAll taken).front source = Text.ofRunes taken := by
  have hsource : source = Text.ofRunes taken ++ Text.ofRunes behind := by
    rw [← Text.ofRunes_append, ← h, Text.ofRunes_runes]
  rw [front, hsource, afterAll_start, List.take_left]

/-- The places of a source are those that are reached rune by rune. -/
theorem within_iff {p : Position} {source : Text} :
    p.Within source ↔
      ∃ taken behind, source.runes = taken ++ behind ∧ p = start.afterAll taken := by
  constructor
  · intro h
    obtain ⟨behind, hbehind⟩ := h.whole
    refine ⟨_, behind, hbehind.symm, ?_⟩
    have hoffset : p.offset = (p.front source).length := by
      rw [front, List.length_take, Nat.min_eq_left h.offset_le]
    rw [afterAll_start, Text.ofRunes_runes, ← hoffset, ← Text.count_newline, ← h.line_eq,
      ← h.column_eq]
  · rintro ⟨taken, behind, hrunes, rfl⟩
    have hdecoded : (Text.ofRunes taken).runes = taken := Text.runes_ofRunes_front hrunes
    have htake := front_afterAll hrunes
    refine ⟨?_, ?_, ?_, ?_⟩
    · rw [← Text.ofRunes_runes source, hrunes, Text.ofRunes_append, afterAll_start,
        List.length_append]
      exact Nat.le_add_right _ _
    · rw [htake, hdecoded, hrunes]
      exact List.prefix_append taken behind
    · rw [htake, Text.count_newline, hdecoded, afterAll_start]
    · rw [htake, hdecoded, afterAll_start]

/-- The start is a place of every source. -/
theorem within_start (source : Text) : start.Within source :=
  within_iff.mpr ⟨[], source.runes, rfl, rfl⟩

/-- From a place on, a source holds the runes behind it. -/
theorem ofSource_afterAll {source : Text} {taken behind : List Rune}
    (h : source.runes = taken ++ behind) :
    Input.ofSource source (start.afterAll taken) = ⟨start.afterAll taken, behind⟩ := by
  have hsource : source = Text.ofRunes taken ++ Text.ofRunes behind := by
    rw [← Text.ofRunes_append, ← h, Text.ofRunes_runes]
  have hdrop : source.drop (start.afterAll taken).offset = Text.ofRunes behind := by
    rw [hsource, afterAll_start, List.drop_left]
  rw [Input.ofSource, hdrop, Text.runes_ofRunes_back h]

/-- What a source holds from one of its places on leads to the rest of the source from further
places on. -/
theorem Within.runes_eq {p : Position} {source : Text} (h : p.Within source) {j : Input}
    (hlead : (Input.ofSource source p).Leads j) :
    ∃ passed, source.runes = passed ++ j.rest ∧ j.place = start.afterAll passed := by
  obtain ⟨taken, behind, hrunes, rfl⟩ := within_iff.mp h
  obtain ⟨more, hmore, hplace⟩ := hlead
  rw [ofSource_afterAll hrunes] at hmore hplace
  refine ⟨taken ++ more, ?_, ?_⟩
  · rw [hrunes, List.append_assoc]
    exact congrArg (taken ++ ·) hmore
  · rw [afterAll_append]
    exact hplace

/-- What a source holds from one of its places on leads to further places of the source. -/
theorem Within.leads {p : Position} {source : Text} (h : p.Within source) {j : Input}
    (hlead : (Input.ofSource source p).Leads j) :
    j.place.Within source ∧ p.offset ≤ j.place.offset := by
  constructor
  · obtain ⟨passed, hrunes, hplace⟩ := h.runes_eq hlead
    exact within_iff.mpr ⟨passed, j.rest, hrunes, hplace⟩
  · obtain ⟨more, -, hplace⟩ := hlead
    rw [hplace, offset_afterAll]
    exact Nat.le_add_right _ _

end Position

/-! ### Readers at work -/

/-- An error names a place of a source from a given place on, and so does its note if it mentions
one. -/
structure ReadError.PointsInto (e : ReadError) (source : Text) (first : Position) : Prop where
  /-- The error names a place of the source. -/
  located : ∃ p : Position, p.Within source ∧ first.offset ≤ p.offset ∧ e.offset = p.offset ∧
    e.line = p.line ∧ e.column = p.column
  /-- A line and a column that the note mentions are those of a place of the source. -/
  mentioned : ∀ front line column, e.note = mentioning front line column →
    ∃ p : Position, p.Within source ∧ first.offset ≤ p.offset ∧ p.line = line ∧ p.column = column

namespace Reader

/-- What a reader can be asked for. -/
inductive Request where
  /-- The next expression. -/
  | read
  /-- All expressions that are left. -/
  | readAll
  /-- To move over white space. -/
  | skip
  /-- To go back to the start. -/
  | reset
  deriving DecidableEq

/-- The error that a reader answers with, if any, and the reader afterwards. -/
def ask (source : Text) (r : Reader) : Request → Option ReadError × Reader
  | .read =>
    match r.read source with
    | (.error e, r) => (some e, r)
    | (.ok _, r) => (none, r)
  | .readAll => (r.readAll source).2
  | .skip => (none, r.skip source)
  | .reset => (none, new)

/-- A new reader after some requests. -/
def afterRequests (source : Text) (requests : List Request) : Reader :=
  requests.foldl (fun r request => (r.ask source request).2) new

/-- An error that blames an input on the way points into the source. -/
theorem Blames.pointsInto {source : Text} {first : Position} (h : first.Within source)
    {e : ReadError} (hblames : Blames (.ofSource source first) e) : e.PointsInto source first where
  located := by
    obtain ⟨k, hlead, hplace⟩ := hblames.located
    obtain ⟨hwithin, hle⟩ := h.leads hlead
    exact ⟨k.place, hwithin, hle, hplace⟩
  mentioned front line column hnote := by
    obtain ⟨k, hlead, hplace⟩ := hblames.mentioned front line column hnote
    obtain ⟨hwithin, hle⟩ := h.leads hlead
    exact ⟨k.place, hwithin, hle, hplace⟩

/-- One request leaves the reader at a place of the source, and an error names one. -/
theorem ask_within {source : Text} {r : Reader} (h : r.place.Within source) (request : Request) :
    (r.ask source request).2.place.Within source ∧
      ∀ e, (r.ask source request).1 = some e → e.PointsInto source r.place := by
  cases request with
  | read =>
    have hproceeds := expression_proceeds (r.input source)
    rw [ask, read]
    cases hresult : expression (r.input source) with
    | error e =>
      rw [hresult] at hproceeds
      refine ⟨h, fun e' he' => ?_⟩
      obtain rfl := Option.some.inj he'
      exact Blames.pointsInto h hproceeds
    | ok result =>
      rw [hresult] at hproceeds
      exact ⟨(h.leads hproceeds.1).1, by simp⟩
  | readAll =>
    obtain ⟨hlead, herror⟩ := expressions_proceed (r.input source)
    exact ⟨(h.leads hlead).1, fun e he => (herror e he).pointsInto h⟩
  | skip => exact ⟨(h.leads (Input.leads_skipBlanks _)).1, by simp [ask]⟩
  | reset => exact ⟨Position.within_start source, by simp [ask]⟩

/-- Any number of requests leaves the reader at a place of the source. -/
theorem afterRequests_within (source : Text) (requests : List Request) :
    (afterRequests source requests).place.Within source := by
  have hrun : ∀ r : Reader, r.place.Within source →
      (requests.foldl (fun r request => (r.ask source request).2) r).place.Within source := by
    induction requests with
    | nil => exact fun r h => h
    | cons request rest ih => exact fun r h => ih _ (ask_within h request).1
  exact hrun new (Position.within_start source)

/-- Whatever a reader of a source has been asked for, it stands at a place of the source. Whatever
it is asked for then, an error names a place of the source that is not in front of the place where
the reader stood, and a note that mentions a place mentions such a place too. -/
theorem places_of_requests (source : Text) (requests : List Request) :
    (afterRequests source requests).place.Within source ∧
      ∀ request e, ((afterRequests source requests).ask source request).1 = some e →
        e.PointsInto source (afterRequests source requests).place := by
  have hwithin := afterRequests_within source requests
  exact ⟨hwithin, fun request e he => (ask_within hwithin request).2 e he⟩

/-- Behind the first expression of a source, a list is closed by a wrong bracket. The error names
the place of the list and mentions that of the bracket. -/
theorem places_of_requests_mismatch :
    ∃ e, ((afterRequests (text "a\n(b ]") [.read]).ask (text "a\n(b ]") .readAll).1 = some e ∧
      e.note = mentioning (text "unexpected ']'") 2 4 ∧
      e.PointsInto (text "a\n(b ]") (afterRequests (text "a\n(b ]") [.read]).place ∧
      ∃ p : Position, p.Within (text "a\n(b ]") ∧ p.line = 2 ∧ p.column = 4 := by
  have herror : ((afterRequests (text "a\n(b ]") [.read]).ask (text "a\n(b ]") .readAll).1 =
      some ⟨.unbalancedParenthesis, 2, 2, 1, mentioning (text "unexpected ']'") 2 4, false⟩ := rfl
  have hpoints := (places_of_requests (text "a\n(b ]") [.read]).2 .readAll _ herror
  obtain ⟨p, hwithin, -, hplace⟩ := hpoints.mentioned _ _ _ rfl
  exact ⟨_, herror, rfl, hpoints, p, hwithin, hplace⟩

end Reader

end Lisplet
