import Lisplet.Proofs.Printer.Pieces
import Lisplet.Proofs.Reader.Brackets
import Lisplet.Proofs.Reader.Lines
import Lisplet.Proofs.Reader.Place

/-!
# Reading a layout back

The layout of a readable value can be read. Lists, symbols, numbers and truth values come back as
they were. A string comes back changed if it goes over a line end on an indented line: the printer
takes the rest of the string for a line of its own and puts the margin into it. So a value reads
back from its layout exactly if none of its strings hangs over in this way.
-/

namespace Lisplet

/-! ### What a layout stands for -/

/-- The contents of a string behind which a line is not over, printed with a margin. -/
def Text.hung (margin t : Text) : Text :=
  indented margin true t ++ if t.getLast? = some newline then margin else []

mutual

/-- A value with a margin in the further lines of its strings. -/
def Value.hung (margin : Text) : Value → Value
  | .str t => .str (Text.hung margin t)
  | .list items => .list (hungItems margin items)
  | v => v

/-- Values with a margin in the further lines of their strings. -/
def Value.hungItems (margin : Text) : List Value → List Value
  | [] => []
  | v :: rest => v.hung margin :: hungItems margin rest

end

mutual

/-- The value that the layout of a value stands for. -/
def Value.laidOut (level : Nat) : Value → Value
  | .list (head :: rest) =>
    if Value.Wide (head :: rest) then
      .list (head.laidOut level :: laidOutItems (level + 1) rest)
    else (Value.list (head :: rest)).hung (Text.marginAt level)
  | v => v.hung (Text.marginAt level)

/-- The values that layouts on lines of their own stand for. -/
def Value.laidOutItems (level : Nat) : List Value → List Value
  | [] => []
  | v :: rest => v.laidOut level :: laidOutItems level rest

end

/-- Items are hung one by one. -/
theorem Value.hungItems_eq_map (margin : Text) (items : List Value) :
    hungItems margin items = items.map (hung margin) := by
  induction items with
  | nil => rfl
  | cons v rest ih => rw [hungItems, ih, List.map_cons]

/-- Items are laid out one by one. -/
theorem Value.laidOutItems_eq_map (level : Nat) (items : List Value) :
    laidOutItems level items = items.map (laidOut level) := by
  induction items with
  | nil => rfl
  | cons v rest ih => rw [laidOutItems, ih, List.map_cons]

namespace Text

variable {margin : Text}

/-- A hung text holds bytes of its own and of the margin only. -/
theorem mem_hung {t : Text} {b : UInt8} (h : b ∈ hung margin t) : b ∈ t ∨ b ∈ margin := by
  rcases List.mem_append.mp h with h | h
  · exact mem_or_mem_of_mem_indented h
  · split at h
    · exact Or.inr h
    · cases h

end Text

/-- A leaf that begins and ends within a line is indented apart from what follows. -/
theorem Value.indented_sourceOnto {v : Value} (hv : v.source.Upright) (margin behind : Text) :
    Text.indented margin true (v.sourceOnto behind) =
      Text.indented margin true v.source ++ Text.indented margin true behind := by
  rw [sourceOnto_eq, Text.indented_append_of_last hv.last]

/-- A string keeps its quotes, and its contents are hung. -/
theorem Value.indented_source_str (margin t : Text) :
    Text.indented margin true (Value.str t).source = (Value.str (Text.hung margin t)).source := by
  have hsource : ∀ t : Text, (Value.str t).source = [34] ++ (t ++ [34]) := fun t => rfl
  have hopening : Text.indented margin true [34] = [34] := rfl
  have hcontents := Text.indented_append margin 1 t [34]
  have hclosing : Text.indented margin (Text.columnAfter 1 t != 0) [34] =
      (if t.getLast? = some Text.newline then margin else []) ++ [34] := by
    have hbegun := Text.columnAfter_eq_zero_iff 1 t
    by_cases hlast : t.getLast? = some Text.newline
    · have hzero : Text.columnAfter 1 t = 0 := hbegun.mpr (Or.inr hlast)
      rw [if_pos hlast, hzero]
      rfl
    · have hnonzero : ¬ Text.columnAfter 1 t = 0 := by simp [hbegun, hlast]
      have htrue : (Text.columnAfter 1 t != 0) = true := by simpa using hnonzero
      rw [if_neg hlast, htrue]
      rfl
  rw [hsource, hsource, Text.indented_append_of_last (by decide), hopening, Text.hung]
  rw [hclosing] at hcontents
  simpa using hcontents

/-- If the margin enters the source texts of items through their strings only, so it does for all of
them one after the other. -/
theorem Value.indented_sourceItemsOnto {items : List Value} {margin : Text}
    (hitems : ∀ v ∈ items, ∀ behind, Text.indented margin true (v.sourceOnto behind) =
      (v.hung margin).sourceOnto (Text.indented margin true behind)) (behind : Text) :
    Text.indented margin true (sourceItemsOnto items behind) =
      sourceItemsOnto (hungItems margin items) (Text.indented margin true behind) := by
  have hblank : ∀ t, Text.indented margin true (text " " ++ t) =
      text " " ++ Text.indented margin true t := fun _ => rfl
  match items with
  | [] => rfl
  | [v] => exact hitems v (by simp) behind
  | v :: w :: rest =>
    have hrest : ∀ u ∈ w :: rest, ∀ behind, Text.indented margin true (u.sourceOnto behind) =
        (u.hung margin).sourceOnto (Text.indented margin true behind) :=
      fun u hu => hitems u (by simp [hu])
    rw [sourceItemsOnto, hitems v (by simp), hblank, indented_sourceItemsOnto hrest]
    · rfl
    · simp

namespace Reader

/-! ### Readable values on several lines -/

/-- A readable name is on one line. -/
theorem newline_not_mem_name {name : Text} (h : IsReadableName name) : Text.newline ∉ name := by
  intro hmem
  have hpos := List.count_pos_iff.mpr hmem
  rw [Text.count_newline, List.count_pos_iff] at hpos
  have hboundary := h.unbroken _ hpos
  revert hboundary
  decide

/-- So is a readable number. -/
theorem newline_not_mem_sourceText {n : Float} (hfinite : n.isFinite = true)
    (hexponent : 101 ∉ Decimal.sourceText n) : Text.newline ∉ Decimal.sourceText n := by
  obtain ⟨negative, whole, fraction, htext, hwhole, -, hfraction, -⟩ :=
    Decimal.exists_numeralText_sourceText hfinite hexponent
  rw [htext, Decimal.numeralText, List.mem_append, not_or]
  constructor
  · cases negative <;> decide
  · intro hmem
    rcases mem_unsigned hwhole hfraction _ hmem with hdigit | hpoint
    · revert hdigit
      decide
    · revert hpoint
      decide

/-- The source text of a readable number is not empty. -/
theorem sourceText_ne_nil {n : Float} (hfinite : n.isFinite = true)
    (hexponent : 101 ∉ Decimal.sourceText n) : Decimal.sourceText n ≠ [] := by
  obtain ⟨negative, whole, fraction, htext, -, hne, -, -⟩ :=
    Decimal.exists_numeralText_sourceText hfinite hexponent
  simp [htext, Decimal.numeralText, hne]

/-- The leaves of readable values begin and end within a line; only strings go over line ends. -/
theorem Readable.upright {v : Value} (h : Readable v) : v.Upright := by
  induction h with
  | bool b =>
    refine .leaf (by simp) (Text.upright_of_not_mem ?_ ?_)
    · cases b <;> decide
    · cases b <;> decide
  | @str t hquote =>
    refine .leaf (by simp) ⟨⟨34, t ++ [34], rfl, by decide⟩, ?_⟩
    have hsource : (Value.str t).source = 34 :: t ++ [34] := rfl
    rw [hsource, List.getLast?_append]
    simp [Text.newline]
  | @num n hfinite hexponent =>
    have hsource : (Value.num n).source = Decimal.sourceText n := by
      simp [Value.source, Value.sourceOnto]
    refine .leaf (by simp) ?_
    rw [hsource]
    exact Text.upright_of_not_mem (sourceText_ne_nil hfinite hexponent)
      (newline_not_mem_sourceText hfinite hexponent)
  | @sym name hname =>
    have hsource : (Value.sym name).source = name := by simp [Value.source, Value.sourceOnto]
    refine .leaf (by simp) ?_
    rw [hsource]
    exact Text.upright_of_not_mem hname.nonempty (newline_not_mem_name hname)
  | list _ ih => exact .list ih

/-- Printed as it is, but with a margin, a readable value is written as the value with the margin in
its strings. -/
theorem Readable.indented_sourceOnto {v : Value} (h : Readable v) (margin behind : Text) :
    Text.indented margin true (v.sourceOnto behind) =
      (v.hung margin).sourceOnto (Text.indented margin true behind) := by
  induction h generalizing behind with
  | bool b => cases b <;> rfl
  | @str t hquote =>
    have hupright := (Readable.str hquote).upright.source
    rw [Value.indented_sourceOnto hupright, Value.indented_source_str, ← Value.sourceOnto_eq]
    rfl
  | @num n hfinite hexponent =>
    rw [Value.indented_sourceOnto (Readable.num hfinite hexponent).upright.source, Value.hung,
      Value.sourceOnto_eq, Text.indented_of_not_mem]
    · simpa [Value.source, Value.sourceOnto] using newline_not_mem_sourceText hfinite hexponent
    · simp
    · simp
  | @sym name hname =>
    rw [Value.indented_sourceOnto (Readable.sym hname).upright.source, Value.hung,
      Value.sourceOnto_eq, Text.indented_of_not_mem]
    · simpa [Value.source, Value.sourceOnto] using newline_not_mem_name hname
    · simp
    · simp
  | list _ ih =>
    have hitems := Value.indented_sourceItemsOnto ih (text ")" ++ behind)
    exact congrArg (40 :: ·) hitems

/-- A margin of blanks keeps a value readable. -/
theorem Readable.hung {v : Value} (h : Readable v) (level : Nat) :
    Readable (v.hung (Text.marginAt level)) := by
  induction h with
  | bool b => exact .bool b
  | @str t hquote =>
    refine .str fun hmem => ?_
    rcases Text.mem_hung hmem with hmem | hmem
    · exact hquote hmem
    · exact absurd (List.eq_of_mem_replicate hmem) (by decide)
  | num hfinite hexponent => exact .num hfinite hexponent
  | sym hname => exact .sym hname
  | @list items _ ih =>
    rw [Value.hung, Value.hungItems_eq_map]
    refine .list fun w hw => ?_
    obtain ⟨v, hv, rfl⟩ := List.mem_map.mp hw
    exact ih v hv

/-! ### Reading -/

/-- In front of a separator, a text is read as a value. -/
def ReadsAs (t : Text) (v : Value) : Prop :=
  ∀ behind : Text, Separates behind → ∀ st : Nesting,
    verdict st (t ++ behind).runes = verdict (st.push v) behind.runes

/-- A readable value on one line is read with the margin in its strings. -/
theorem Readable.readsAs_indented {v : Value} (h : Readable v) (level : Nat) :
    ReadsAs (Text.indented (Text.marginAt level) true v.source) (v.hung (Text.marginAt level)) := by
  intro behind hbehind st
  have hsource : Text.indented (Text.marginAt level) true v.source =
      (v.hung (Text.marginAt level)).source := h.indented_sourceOnto _ []
  rw [hsource, ← Value.sourceOnto_eq]
  exact (h.hung level).readsBack hbehind st

/-- A margin is white space. -/
theorem verdict_marginAt_append (level : Nat) (t : Text) (st : Nesting) :
    verdict st (Text.marginAt level ++ t).runes = verdict st t.runes := by
  have hruns : ∀ n, Text.runes (List.replicate n Text.blank ++ t) =
      List.replicate n (.char ' ') ++ t.runes := by
    intro n
    induction n with
    | zero => rfl
    | succ n ih =>
      rw [List.replicate_succ, List.cons_append, Text.runes_cons_ascii (by decide), ih]
      rfl
  rw [Text.marginAt, hruns]
  refine verdict_blanks_append (fun r hr => ?_) _ st
  rw [List.eq_of_mem_replicate hr]
  decide

/-- Items on lines of their own separate from what stands in front of them. -/
theorem separates_layoutItems {behind : Text} (hbehind : Separates behind) (level : Nat)
    (items : List Value) : Separates (Value.layoutItems level items ++ behind) := by
  cases items with
  | nil => exact hbehind
  | cons v rest =>
    rw [Value.layoutItems_cons]
    exact Or.inr ⟨_, _, rfl, Or.inr (Or.inl rfl)⟩

/-- Items on lines of their own are read one after the other. -/
theorem verdict_layoutItems {items : List Value} {level : Nat}
    (hitems : ∀ v ∈ items, ReadsAs (v.layout level) (v.laidOut level)) {behind : Text}
    (hbehind : Separates behind) (st : Nesting) :
    verdict st (Value.layoutItems level items ++ behind).runes =
      verdict ⟨st.items ++ Value.laidOutItems level items, st.enclosing⟩ behind.runes := by
  induction items generalizing st with
  | nil => simp [Value.layoutItems, Value.itemPieces, Value.laidOutItems]
  | cons v rest ih =>
    rw [List.forall_mem_cons] at hitems
    have hlines : Value.layoutItems level (v :: rest) ++ behind =
        Text.newline :: (Text.marginAt level ++
          (v.layout level ++ (Value.layoutItems level rest ++ behind))) := by
      simp [Value.layoutItems_cons]
    rw [hlines, Text.runes_cons_ascii (by decide), verdict_cons_blank (by decide),
      verdict_marginAt_append, hitems.1 _ (separates_layoutItems hbehind level rest), ih hitems.2]
    simp [Nesting.push, Value.laidOutItems]

/-- The layout of a readable value is read as the value that it stands for. -/
theorem Readable.readsAs_layout {v : Value} (h : Readable v) (level : Nat) :
    ReadsAs (v.layout level) (v.laidOut level) := by
  have hline := h.readsAs_indented level
  induction h generalizing level with
  | @list items hitems ih =>
    cases items with
    | nil =>
      rw [Value.layout_of_leaf (by simp)]
      exact hline
    | cons head rest =>
      by_cases hwide : Value.Wide (head :: rest)
      · rw [Value.layout_of_wide hwide, Value.laidOut, if_pos hwide]
        intro behind hbehind st
        have hread : ∀ v ∈ head :: rest, ∀ level, ReadsAs (v.layout level) (v.laidOut level) :=
          fun v hv level => ih v hv level ((hitems v hv).readsAs_indented level)
        rw [List.forall_mem_cons] at hread
        have hround : Separates (text ")" ++ behind) := Or.inr ⟨_, _, rfl, Or.inr (Or.inr rfl)⟩
        have hinner := hread.1 level _ (separates_layoutItems hround (level + 1) rest)
          (st.enter .list [])
        rw [verdict_layoutItems (fun v hv => hread.2 v hv (level + 1)) hround] at hinner
        have htext : text "(" ++ (head.layout level ++ (Value.layoutItems (level + 1) rest ++
            text ")")) ++ behind = text "(" ++ (head.layout level ++
              (Value.layoutItems (level + 1) rest ++ (text ")" ++ behind))) := by
          simp only [List.append_assoc]
        rw [htext]
        exact verdict_list_of_items hinner
      · rw [Value.layout_of_not_wide hwide, Value.laidOut, if_neg hwide]
        exact hline
  | _ =>
    rw [Value.layout_of_leaf (by simp)]
    exact hline

/-- The layout of a readable value is one form. -/
theorem Readable.parseAll_layout {v : Value} (h : Readable v) :
    parseAll (v.layout 0) = .ok [v.laidOut 0] := by
  have hverdict := h.readsAs_layout 0 [] (Or.inl rfl) Nesting.empty
  rw [List.append_nil, Text.runes_nil, verdict_of_blank no_blanks] at hverdict
  rw [parseAll_eq_ok_iff_verdict, hverdict]
  rfl

end Reader

/-! ### Strings that hang over -/

/-- A string of the value goes over a line end. -/
inductive Value.Multiline : Value → Prop
  | str {t : Text} : Text.newline ∈ t → Multiline (.str t)
  | item {v : Value} {items : List Value} : v ∈ items → Multiline v → Multiline (.list items)

/-- A string that goes over a line end stands on an indented line of the layout: behind the head of
a broken list. -/
inductive Value.Hangs : Value → Prop
  | head {head : Value} {rest : List Value} : Value.Wide (head :: rest) →
    Hangs head → Hangs (.list (head :: rest))
  | behind {head v : Value} {rest : List Value} : Value.Wide (head :: rest) →
    v ∈ rest → Multiline v → Hangs (.list (head :: rest))

namespace Text

variable {margin : Text}

/-- A margin only adds to a text. -/
theorem length_le_indented (margin t : Text) (begun : Bool) :
    t.length ≤ (indented margin begun t).length := by
  induction t generalizing begun with
  | nil => simp
  | cons b t ih =>
    have htrue := ih true
    have hfalse := ih false
    rw [indented]
    split_ifs <;> simp only [List.length_cons, List.length_append] <;> omega

/-- A text that has not begun a line, and does not only end lines, gets a margin. -/
theorem length_lt_indented (hmargin : margin ≠ []) {t : Text} {begun : Bool}
    (hline : begun = false ∨ newline ∈ t) (hlast : t.getLast? ≠ some newline) (hne : t ≠ []) :
    t.length < (indented margin begun t).length := by
  have hwidth : 0 < margin.length := List.length_pos_of_ne_nil hmargin
  induction t generalizing begun with
  | nil => exact absurd rfl hne
  | cons b t ih =>
    have hlast' : t ≠ [] → t.getLast? ≠ some newline := by
      intro hne'
      obtain ⟨c, t, rfl⟩ := List.exists_cons_of_ne_nil hne'
      rwa [List.getLast?_cons_cons] at hlast
    rw [indented]
    split_ifs with hb hbegun
    · have hne' : t ≠ [] := by
        rintro rfl
        exact hlast (by simp [hb])
      have hrest := ih (Or.inl rfl) (hlast' hne') hne'
      simp only [List.length_cons]
      omega
    · have hmem : newline ∈ t := by
        rcases hline with hfalse | hmem
        · simp [hfalse] at hbegun
        · exact (List.mem_cons.mp hmem).resolve_left (Ne.symm hb)
      have hne' := List.ne_nil_of_mem hmem
      have hrest : t.length < (indented margin true t).length :=
        ih (Or.inr hmem) (hlast' hne') hne'
      simp only [List.length_cons]
      omega
    · have hrest := length_le_indented margin t true
      simp only [List.length_cons, List.length_append]
      omega

/-- A margin changes exactly the strings that go over a line end. -/
theorem hung_eq_self_iff (hmargin : margin ≠ []) {t : Text} :
    hung margin t = t ↔ newline ∉ t := by
  constructor
  · intro hsame hmem
    have hlength := congrArg List.length hsame
    rw [hung, List.length_append] at hlength
    have hwidth : 0 < margin.length := List.length_pos_of_ne_nil hmargin
    by_cases hlast : t.getLast? = some newline
    · have hle := length_le_indented margin t true
      rw [if_pos hlast] at hlength
      omega
    · have hlt : t.length < (indented margin true t).length :=
        length_lt_indented hmargin (Or.inr hmem) hlast (List.ne_nil_of_mem hmem)
      omega
  · intro hmem
    have hlast : t.getLast? ≠ some newline := fun hlast => hmem (List.mem_of_getLast? hlast)
    rw [hung, indented_of_not_mem hmem, if_neg hlast, List.append_nil]

/-- An empty margin changes nothing. -/
theorem indented_nil (t : Text) (begun : Bool) : indented [] begun t = t := by
  induction t generalizing begun with
  | nil => rfl
  | cons b t ih =>
    rw [indented]
    split_ifs <;> simp [ih]

/-- A text that hangs at an empty margin is the text itself. -/
theorem hung_nil (t : Text) : hung [] t = t := by
  rw [hung, indented_nil, ite_self, List.append_nil]

/-- Below the first level the margin is not empty. -/
theorem marginAt_succ_ne_nil (level : Nat) : marginAt (level + 1) ≠ [] := by
  simp [marginAt]

end Text

namespace Value

/-- A list goes over a line end if one of its items does. -/
theorem multiline_list_iff {items : List Value} :
    Multiline (.list items) ↔ ∃ v ∈ items, Multiline v := by
  constructor
  · intro h
    cases h with
    | item hmem hv => exact ⟨_, hmem, hv⟩
  · rintro ⟨v, hmem, hv⟩
    exact .item hmem hv

/-- Items stay the same one by one. -/
theorem map_eq_self_iff {f : Value → Value} {items : List Value} :
    items.map f = items ↔ ∀ v ∈ items, f v = v := by
  simpa using List.map_inj_left (f := f) (g := id) (l := items)

end Value

namespace Reader

/-- A margin changes exactly the values with a string that goes over a line end. -/
theorem Readable.hung_eq_self_iff {v : Value} (h : Readable v) {margin : Text}
    (hmargin : margin ≠ []) : v.hung margin = v ↔ ¬ v.Multiline := by
  induction h with
  | @str t hquote =>
    have hmultiline : (Value.str t).Multiline ↔ Text.newline ∈ t :=
      ⟨fun h => by cases h; assumption, .str⟩
    rw [Value.hung, Value.str.injEq, Text.hung_eq_self_iff hmargin, hmultiline]
  | list _ ih =>
    rw [Value.hung, Value.list.injEq, Value.hungItems_eq_map, Value.map_eq_self_iff,
      Value.multiline_list_iff]
    simp only [not_exists, not_and]
    exact forall₂_congr ih
  | _ =>
    refine iff_of_true rfl ?_
    rintro ⟨⟩

/-- A value that hangs at an empty margin is the value itself. -/
theorem Readable.hung_nil {v : Value} (h : Readable v) : v.hung [] = v := by
  induction h with
  | str _ => rw [Value.hung, Text.hung_nil]
  | list _ ih => rw [Value.hung, Value.hungItems_eq_map, Value.map_eq_self_iff.mpr ih]
  | _ => rfl

/-- The parts of a broken list stay the same one by one. -/
theorem laidOut_eq_self_iff_of_wide {head : Value} {rest : List Value}
    (hwide : Value.Wide (head :: rest)) (level : Nat) :
    (Value.list (head :: rest)).laidOut level = .list (head :: rest) ↔
      head.laidOut level = head ∧ ∀ v ∈ rest, v.laidOut (level + 1) = v := by
  rw [Value.laidOut, if_pos hwide, Value.list.injEq, List.cons.injEq, Value.laidOutItems_eq_map,
    Value.map_eq_self_iff]

/-- On an indented line every string that goes over a line end is changed. -/
theorem Readable.laidOut_succ_eq_self_iff {v : Value} (h : Readable v) (level : Nat) :
    v.laidOut (level + 1) = v ↔ ¬ v.Multiline := by
  have hline := h.hung_eq_self_iff (Text.marginAt_succ_ne_nil level)
  induction h generalizing level with
  | @list items hitems ih =>
    cases items with
    | nil => exact hline
    | cons head rest =>
      by_cases hwide : Value.Wide (head :: rest)
      · have hsame : ∀ v ∈ head :: rest, ∀ level, v.laidOut (level + 1) = v ↔ ¬ v.Multiline :=
          fun v hv level => ih v hv level
            ((hitems v hv).hung_eq_self_iff (Text.marginAt_succ_ne_nil level))
        rw [List.forall_mem_cons] at hsame
        rw [laidOut_eq_self_iff_of_wide hwide, hsame.1, Value.multiline_list_iff]
        simp only [not_exists, not_and, List.forall_mem_cons]
        exact and_congr_right fun _ => forall₂_congr fun v hv => hsame.2 v hv (level + 1)
      · rw [Value.laidOut, if_neg hwide]
        exact hline
  | _ => exact hline

/-- A layout stands for its value exactly if no string hangs over. -/
theorem Readable.laidOut_eq_self_iff {v : Value} (h : Readable v) :
    v.laidOut 0 = v ↔ ¬ v.Hangs := by
  have hline : v.hung (Text.marginAt 0) = v := h.hung_nil
  induction h with
  | @list items hitems ih =>
    cases items with
    | nil =>
      refine iff_of_true hline ?_
      rintro ⟨⟩
    | cons head rest =>
      by_cases hwide : Value.Wide (head :: rest)
      · have hrest : (∀ v ∈ rest, v.laidOut 1 = v) ↔ ∀ v ∈ rest, ¬ v.Multiline :=
          forall₂_congr fun v hv =>
            (hitems v (List.mem_cons_of_mem _ hv)).laidOut_succ_eq_self_iff 0
        have hhead : head.laidOut 0 = head ↔ ¬ head.Hangs :=
          ih head (by simp) (hitems head (by simp)).hung_nil
        rw [laidOut_eq_self_iff_of_wide hwide, hhead, hrest]
        constructor
        · rintro ⟨hhead, hrest⟩ hhangs
          cases hhangs with
          | head _ hhangs => exact hhead hhangs
          | behind _ hmem hmultiline => exact hrest _ hmem hmultiline
        · intro hhangs
          exact ⟨fun h => hhangs (.head hwide h), fun v hv h => hhangs (.behind hwide hv h)⟩
      · rw [Value.laidOut, if_neg hwide]
        refine iff_of_true hline fun hhangs => ?_
        cases hhangs with
        | head hwide' _ => exact hwide hwide'
        | behind hwide' _ _ => exact hwide hwide'
  | _ =>
    refine iff_of_true hline ?_
    rintro ⟨⟩

/-- The pretty source of a readable value is printed to its end and read as one form. This is the
value with the margin in those of its strings that go over a line end on an indented line. So the
value reads back exactly if none of its strings hangs over in this way. The source text of the value
has to fit into memory, or else a margin might not. -/
theorem parse_prettySource_iff {v : Value} (h : Readable v)
    (hfits : v.source.length ≤ Printer.widestMargin) :
    (∃ p, Printer.pretty v Printer.new = .done p ∧ p.contents = v.prettySource) ∧
      parse v.prettySource = .ok (v.laidOut 0) ∧ (parse v.prettySource = .ok v ↔ ¬ v.Hangs) := by
  obtain ⟨p, hdone, hsource, hlayout⟩ := Printer.prettySource_eq h.upright hfits
  have hparse : parse v.prettySource = .ok (v.laidOut 0) := by
    rw [hsource, hlayout]
    exact parse_of_parseAll h.parseAll_layout
  refine ⟨⟨p, hdone, hsource.symm⟩, hparse, ?_⟩
  rw [hparse, Except.ok.injEq, h.laidOut_eq_self_iff]

/-- A string in front, over a line end, and a long one behind it: the list is broken, but nothing
hangs over. -/
theorem parse_prettySource_iff_head :
    parse (Value.list [.str (text "two\nlines"), .str (text
      "a string that makes the list longer than sixty bytes, all of them on one line")]).prettySource
        = .ok (.list [.str (text "two\nlines"), .str (text
      "a string that makes the list longer than sixty bytes, all of them on one line")]) := by
  have hreadable : ∀ v ∈ [Value.str (text "two\nlines"), .str (text
      "a string that makes the list longer than sixty bytes, all of them on one line")],
      Readable v := by
    simp only [List.mem_cons, List.not_mem_nil, or_false, forall_eq_or_imp, forall_eq]
    exact ⟨.str (by decide), .str (by decide)⟩
  refine (parse_prettySource_iff (.list hreadable) (by decide)).2.2.mpr fun hhangs => ?_
  cases hhangs with
  | head _ hhead => cases hhead
  | behind _ hmem hmultiline =>
    obtain rfl := List.mem_singleton.mp hmem
    cases hmultiline with
    | str hnewline => exact absurd hnewline (by decide)

/-- A string that is read over a line end and hangs over in a broken list does not read back: the
margin of its second line is taken into it. -/
theorem parse_prettySource_hanging :
    parse (text "(print \"a string that is longer than sixty bytes and goes\non in a new line\")") =
      .ok (.list [.sym (text "print"),
        .str (text "a string that is longer than sixty bytes and goes\non in a new line")]) ∧
    parse (Value.list [.sym (text "print"), .str (text
      "a string that is longer than sixty bytes and goes\non in a new line")]).prettySource =
      .ok (.list [.sym (text "print"),
        .str (text "a string that is longer than sixty bytes and goes\n  on in a new line")]) ∧
    parse (Value.list [.sym (text "print"), .str (text
      "a string that is longer than sixty bytes and goes\non in a new line")]).prettySource ≠
      .ok (.list [.sym (text "print"),
        .str (text "a string that is longer than sixty bytes and goes\non in a new line")]) := by
  have hchanged : parse (Value.list [.sym (text "print"), .str (text
      "a string that is longer than sixty bytes and goes\non in a new line")]).prettySource =
      .ok (.list [.sym (text "print"),
        .str (text "a string that is longer than sixty bytes and goes\n  on in a new line")]) := rfl
  refine ⟨rfl, hchanged, ?_⟩
  rw [hchanged]
  simp only [ne_eq, Except.ok.injEq, Value.list.injEq, List.cons.injEq, Value.str.injEq, true_and,
    and_true]
  decide

end Reader

end Lisplet
