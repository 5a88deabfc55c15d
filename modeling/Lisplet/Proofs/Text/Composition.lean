import Mathlib
import Lisplet.Proofs.Text.Decoding
import Lisplet.Text.Blank
import Lisplet.Text.Canonical

/-!
# What the canonical form keeps

The canonical form replaces some characters and leaves others alone. Digits, punctuation and stray
bytes neither compose nor come out of a decomposition, so they stand where they stood. Between them
some characters are replaced by others, but they never vanish, and none of them becomes white space.
-/

namespace Lisplet.Text

namespace Canonical

/-! ### Steps of a composition -/

/-- A starter and a rune behind it make one rune. -/
def Makes (s r made : Rune) : Prop :=
  pairRunes? joinLetters? s r = some made ∨ pairRunes? composePair? s r = some made

/-- To go on to the next starter does not change the runes. -/
theorem Composing.runes_advance (st : Composing) : st.advance.runes = st.runes := by
  obtain ⟨settled, starter, marks, conjoining⟩ := st
  cases marks with
  | nil => rfl
  | cons last rest =>
    rw [advance]
    simp only
    split_ifs
    · simp [runes]
    · rfl

/-- A rune is put at the end, or makes one rune with a rune in front of it. -/
theorem Composing.runes_join (st : Composing) (rule : Nat → Nat → Option Nat) (r : Rune) :
    (st.join rule r).runes = st.runes ++ [r] ∨
      ∃ front s behind made, st.runes = front ++ s :: behind ∧ pairRunes? rule s r = some made ∧
        (st.join rule r).runes = front ++ made :: behind := by
  obtain ⟨settled, starter, marks, conjoining⟩ := st
  rw [join]
  simp only
  split
  · rename_i made hmade
    refine Or.inr ⟨settled.reverse, starter, marks.reverse, made, by simp [runes], ?_,
      by simp [runes]⟩
    exact (Option.ite_none_left_eq_some.mp hmade).2
  · exact Or.inl (by simp [keep, runes])

/-- One more rune stands behind the others, or it makes one of them into another. -/
theorem Composing.runes_push (st : Composing) (r : Rune) :
    (st.push r).runes = st.runes ++ [r] ∨
      ∃ front s behind made, st.runes = front ++ s :: behind ∧ Makes s r made ∧
        (st.push r).runes = front ++ made :: behind := by
  have hstep : ∀ (st' : Composing) (rule : Nat → Nat → Option Nat), st'.runes = st.runes →
      (∀ s made, pairRunes? rule s r = some made → Makes s r made) →
      (st'.join rule r).runes = st.runes ++ [r] ∨
        ∃ front s behind made, st.runes = front ++ s :: behind ∧ Makes s r made ∧
          (st'.join rule r).runes = front ++ made :: behind := by
    intro st' rule hrunes hmakes
    rw [← hrunes]
    rcases st'.runes_join rule r with hkeep | ⟨front, s, behind, made, hsplit, hpair, hmade⟩
    · exact Or.inl hkeep
    · exact Or.inr ⟨front, s, behind, made, hsplit, hmakes s made hpair, hmade⟩
  rw [push]
  split_ifs
  · exact hstep _ joinLetters? st.runes_advance fun _ _ => Or.inl
  · exact hstep _ composePair? st.runes_advance fun _ _ => Or.inr
  · exact Or.inl (by simp [keep, runes])

/-- What holds of the runes of a state and is kept by both kinds of steps holds at the end. -/
theorem Composing.foldl_push_induction {motive : List Rune → Prop} {rs : List Rune}
    (keep : ∀ out, ∀ r ∈ rs, motive out → motive (out ++ [r]))
    (make : ∀ front s behind made, ∀ r ∈ rs, Makes s r made → motive (front ++ s :: behind) →
      motive (front ++ made :: behind)) (st : Composing) (hst : motive st.runes) :
    motive (rs.foldl push st).runes := by
  induction rs generalizing st with
  | nil => exact hst
  | cons r rs ih =>
    refine ih (fun out r' hr' => keep out r' (List.mem_cons_of_mem _ hr'))
      (fun front s behind made r' hr' => make front s behind made r' (List.mem_cons_of_mem _ hr'))
      (st.push r) ?_
    rcases st.runes_push r with hkeep | ⟨front, s, behind, made, hsplit, hmakes, hmade⟩
    · rw [hkeep]
      exact keep _ r (List.mem_cons_self ..) hst
    · rw [hmade]
      exact make front s behind made r (List.mem_cons_self ..) hmakes (hsplit ▸ hst)

/-! ### The order of marks -/

/-- A rune does not move in front of a starter or a mark of the first class. -/
theorem place_append (base : List Rune) (hbase : ∀ s ∈ base.head?, runeClass s ≤ 1)
    (placed : List Rune) (r : Rune) :
    ∃ placed', place (placed ++ base) r = placed' ++ base ∧ placed'.Perm (r :: placed) := by
  induction placed with
  | nil =>
    refine ⟨[r], ?_, .refl _⟩
    cases base with
    | nil => rfl
    | cons s base =>
      have hs := hbase s (by simp)
      have hnot : ¬ (runeClass r != 0 && decide (runeClass r < runeClass s)) = true := by
        simp only [Bool.and_eq_true, bne_iff_ne, decide_eq_true_eq]
        omega
      rw [List.nil_append, place, if_neg hnot]
      rfl
  | cons s placed ih =>
    obtain ⟨placed', hplaced, hperm⟩ := ih
    rw [List.cons_append, place]
    split_ifs
    · exact ⟨s :: placed', by rw [hplaced]; rfl, (hperm.cons s).trans (.swap r s placed)⟩
    · exact ⟨r :: s :: placed, rfl, .refl _⟩

/-- Runes at the front that stay in order keep their place if the last of them is a starter or a
mark of the first class. -/
theorem order_append (base : List Rune) (hbase : base.foldl place [] = base.reverse)
    (hlast : ∀ s ∈ base.getLast?, runeClass s ≤ 1) (rs : List Rune) :
    ∃ rs', order (base ++ rs) = base ++ rs' ∧ rs'.Perm rs := by
  have hrun : ∀ (rs placed : List Rune), ∃ placed',
      rs.foldl place (placed ++ base.reverse) = placed' ++ base.reverse ∧
        placed'.Perm (rs ++ placed) := by
    intro rs
    induction rs with
    | nil => exact fun placed => ⟨placed, rfl, .refl _⟩
    | cons r rs ih =>
      intro placed
      obtain ⟨placed', hplaced, hperm⟩ := place_append base.reverse
        (by rwa [List.head?_reverse]) placed r
      obtain ⟨final, hfinal, hall⟩ := ih placed'
      refine ⟨final, by rw [List.foldl_cons, hplaced, hfinal], hall.trans ?_⟩
      exact (hperm.append_left rs).trans List.perm_middle
  obtain ⟨placed, hplaced, hperm⟩ := hrun rs []
  refine ⟨placed.reverse, ?_, placed.reverse_perm.trans (by simpa using hperm)⟩
  rw [order, List.foldl_append, hbase]
  rw [List.nil_append] at hplaced
  rw [hplaced, List.reverse_append, List.reverse_reverse]

/-- The canonical order only moves runes. -/
theorem order_perm (rs : List Rune) : (order rs).Perm rs := by
  obtain ⟨rs', horder, hperm⟩ := order_append [] rfl (by simp) rs
  rw [List.nil_append, List.nil_append] at horder
  rwa [horder]

/-! ### Kinds of runes -/

/-- The angle brackets. -/
def angles : List Char := ['<', '>']

/-- The signs of ASCII that compose with a mark or are the spelling of another character. -/
def unsteady : List Char := angles ++ ['=', ';', '\x60']

/-- A rune that neither composes with another nor comes from a decomposition: a stray byte, or a
character of ASCII that is no letter and no unsteady sign. -/
def isInert : Rune → Bool
  | .char c => c.toNat < 0x80 && !c.isAlpha && !unsteady.contains c
  | .stray _ => true

/-- A character beyond ASCII that is no white space. -/
def isWide : Rune → Bool
  | .char c => 0x80 ≤ c.toNat && !isBlankCode c.toNat
  | .stray _ => false

/-- A character that may stand in place of others: it is not inert, no white space and no angle
bracket. -/
def isFree : Rune → Bool
  | .char c => !isInert (.char c) && !isBlankCode c.toNat && !angles.contains c
  | .stray _ => false

/-- The angle brackets with a stroke, which are spelled with an angle bracket and a mark. -/
def struck : List Rune := [.char '\u226E', .char '\u226F']

/-- The characters of ASCII that are the whole spelling of another character. -/
def respelled : List Rune := [.char 'K', .char ';', .char '\x60']

/-- Characters beyond ASCII are free, white space apart. -/
theorem isFree_of_isWide {r : Rune} (h : isWide r = true) : isFree r = true := by
  cases r with
  | stray b => cases h
  | char c =>
    simp only [isWide, Bool.and_eq_true, decide_eq_true_eq, Bool.not_eq_true'] at h
    have hinert : isInert (.char c) = false := by simp [isInert, h.1]
    have hangle : angles.contains c = false := by
      rw [← Bool.not_eq_true, List.contains_iff_mem, angles, List.mem_pair]
      rintro (rfl | rfl)
      · exact absurd h.1 (by decide)
      · exact absurd h.1 (by decide)
    simp only [isFree, hinert, h.2, hangle]
    rfl

/-- They have codes beyond ASCII. -/
theorem code_of_isWide {r : Rune} (h : isWide r = true) : 0x80 ≤ r.code := by
  cases r with
  | stray b => cases h
  | char c =>
    simp only [isWide, Bool.and_eq_true, decide_eq_true_eq] at h
    exact h.1

/-- Free runes are not inert. -/
theorem not_isInert_of_isFree {r : Rune} (h : isFree r = true) : isInert r = false := by
  cases r with
  | stray b => cases h
  | char c =>
    simp only [isFree, Bool.and_eq_true, Bool.not_eq_true'] at h
    exact h.1.1

/-- Inert characters are ASCII. -/
theorem code_lt_of_isInert {c : Char} (h : isInert (.char c) = true) : c.toNat < 0x80 := by
  simp only [isInert, Bool.and_eq_true, decide_eq_true_eq] at h
  exact h.1.1

/-! ### Decompositions -/

/-- The ideographs in the table are decomposed beyond ASCII. -/
theorem ideographs_wide :
    ∀ run ∈ ideographRuns, ∀ m ∈ run.2, isWide (.char (Char.ofNat m)) = true := by
  decide +kernel

/-- The table of decompositions at a glance. -/
theorem decompositions_spec : ∀ entry ∈ decompositions,
    (entry.2 ≠ [] ∧ entry.2.length ≤ markLimit) ∧
    (isBlankCode entry.1 = true ∨
      (.char (Char.ofNat entry.1) ∈ struck ∨
        ∀ n ∈ entry.2, isFree (.char (Char.ofNat n)) = true) ∧
      (entry.2.head?.any (0x300 ≤ ·) = true →
        ∀ n ∈ entry.2, isWide (.char (Char.ofNat n)) = true)) ∧
    (∀ n ∈ entry.2, entry.2 = [n] → 0x80 ≤ (Char.ofNat n).toNat ∨
      .char (Char.ofNat n) ∈ respelled) := by
  decide +kernel

/-- Characters that count as marks at their beginning for their compatible spelling only have no
canonical decomposition. -/
theorem markCounts_spec : ∀ range ∈ markCounts, range.2.2.1 ≤ markLimit ∧
    (range.2.2.1 ≠ 0 → ∀ entry ∈ decompositions, ¬ (range.1 ≤ entry.1 ∧ entry.1 ≤ range.2.1)) := by
  decide +kernel

/-- The table of compositions at a glance: what is made lies beyond ASCII, and no pair begins with
an inert character. -/
theorem compositions_spec : ∀ entry ∈ compositions,
    isWide (.char (Char.ofNat entry.2.2)) = true ∧
    isInert (.char (Char.ofNat (entry.1 % 0x10000))) = false := by
  decide +kernel

/-- The syllables form one block of codes. -/
theorem isSyllable_iff {n : Nat} : isSyllable n = true ↔ 44032 ≤ n ∧ n < 55204 := by
  unfold isSyllable syllableBase leadCount vowelCount trailCount
  rw [Bool.and_eq_true, decide_eq_true_eq, decide_eq_true_eq]

/-- A syllable has two or three letters, which lie in their own block. -/
theorem decomposeSyllable_spec {n : Nat} (h : isSyllable n = true) :
    (0 < (decomposeSyllable n).length ∧ (decomposeSyllable n).length ≤ 3) ∧
      ∀ m ∈ decomposeSyllable n, 4352 ≤ m ∧ m < 4608 := by
  obtain ⟨hle, hlt⟩ := isSyllable_iff.mp h
  unfold decomposeSyllable leadBase vowelBase trailBase syllableBase vowelCount trailCount
  dsimp only
  split_ifs
  · simp only [List.length_cons, List.length_nil, List.mem_cons, List.not_mem_nil, or_false,
      forall_eq_or_imp, forall_eq]
    omega
  · simp only [List.length_cons, List.length_nil, List.mem_cons, List.not_mem_nil, or_false,
      forall_eq_or_imp, forall_eq]
    omega

/-- A code beyond ASCII that is no white space is that of a wide character. -/
theorem isWide_of_code {n : Nat} (hvalid : n.isValidChar) (h : 0x80 ≤ n)
    (hblank : isBlankCode n = false) : isWide (.char (Char.ofNat n)) = true := by
  simp [isWide, Char.toNat_ofNat, hvalid, h, hblank]

/-- The letters of syllables are wide. -/
theorem isWide_letter {n : Nat} (h : 4352 ≤ n ∧ n < 4608) :
    isWide (.char (Char.ofNat n)) = true := by
  refine isWide_of_code (Or.inl (by omega)) (by omega) ?_
  simp [isBlankCode]
  omega

/-- The ways in which a code point is decomposed: not at all, into characters beyond ASCII as
syllables and ideographs are, or as the table says. -/
theorem decompose_cases (n : Nat) :
    decompose n = [n] ∨
      ((0 < (decompose n).length ∧ (decompose n).length ≤ markLimit) ∧
        ∀ m ∈ decompose n, isWide (.char (Char.ofNat m)) = true) ∨
      (n, decompose n) ∈ decompositions := by
  rw [decompose]
  split_ifs with hsmall hsyllable
  · exact Or.inl rfl
  · obtain ⟨⟨hpos, hlength⟩, hletters⟩ := decomposeSyllable_spec hsyllable
    have hlimit : 3 ≤ markLimit := by decide
    exact Or.inr (Or.inl ⟨⟨hpos, hlength.trans hlimit⟩, fun m hm => isWide_letter (hletters m hm)⟩)
  · split
    · rename_i m hm
      obtain ⟨run, hrun, hfound⟩ := List.exists_of_findSome?_eq_some hm
      obtain ⟨-, hget⟩ := Option.ite_none_right_eq_some.mp hfound
      refine Or.inr (Or.inl ⟨by simp [markLimit], ?_⟩)
      simpa using ideographs_wide run hrun m (List.mem_of_getElem? hget)
    · cases hfind : decompositions.find? fun entry => entry.1 == n with
      | none => exact Or.inl rfl
      | some entry =>
        obtain ⟨n', parts⟩ := entry
        have hkey := List.find?_some hfind
        simp only [beq_iff_eq] at hkey
        subst hkey
        exact Or.inr (Or.inr (List.mem_of_find?_eq_some hfind))

/-- An inert rune is its own decomposition. -/
theorem decomposeRune_of_isInert {r : Rune} (h : isInert r = true) : decomposeRune r = [r] := by
  cases r with
  | stray b => rfl
  | char c =>
    have hsmall := code_lt_of_isInert h
    simp [decomposeRune, decompose, show c.toNat < 0xC0 by omega]

/-- Every rune has a spelling. -/
theorem decomposeRune_ne_nil (r : Rune) : decomposeRune r ≠ [] := by
  cases r with
  | stray b => simp [decomposeRune]
  | char c =>
    rw [decomposeRune, ne_eq, List.map_eq_nil_iff]
    rcases decompose_cases c.toNat with hself | ⟨⟨hpos, -⟩, -⟩ | hlisted
    · simp [hself]
    · exact List.ne_nil_of_length_pos hpos
    · exact (decompositions_spec _ hlisted).1.1

/-- A free character that is not struck is spelled with free characters. -/
theorem isFree_decomposeRune {r : Rune} (h : isFree r = true) (hstruck : r ∉ struck) :
    ∀ d ∈ decomposeRune r, isFree d = true := by
  cases r with
  | stray b => cases h
  | char c =>
    have hblank : isBlankCode c.toNat = false := by
      simp only [isFree, Bool.and_eq_true, Bool.not_eq_true'] at h
      exact h.1.2
    intro d hd
    obtain ⟨m, hm, rfl⟩ := List.mem_map.mp hd
    rcases decompose_cases c.toNat with hself | ⟨-, hwide⟩ | hlisted
    · rw [hself, List.mem_singleton] at hm
      rwa [hm, Char.ofNat_toNat]
    · exact isFree_of_isWide (hwide m hm)
    · have hspec := (decompositions_spec _ hlisted).2.1
      rw [Char.ofNat_toNat] at hspec
      rcases hspec with hspec | ⟨hspec | hspec, -⟩
      · rw [hblank] at hspec
        cases hspec
      · exact absurd hspec hstruck
      · exact hspec m hm

/-- Inert runes hold no marks. -/
theorem runeMarks_of_isInert {r : Rune} (h : isInert r = true) : runeMarks r = (0, 0) := by
  cases r with
  | stray b => rfl
  | char c =>
    have hsmall := code_lt_of_isInert h
    simp [runeMarks, markCount, show c.toNat < 0xA8 by omega]

/-- A character begins with marks because it is listed so or because its spelling does. -/
theorem markCount_cases (n : Nat) :
    (markCount n).1 = 0 ∨ (0xA8 ≤ n ∧
      ((∃ range ∈ markCounts, range.1 ≤ n ∧ n ≤ range.2.1 ∧ (markCount n).1 = range.2.2.1) ∨
        (markCount n).1 = ((decompose n).takeWhile isMark).length)) := by
  rw [markCount]
  split_ifs with hsmall
  · exact Or.inl rfl
  · exact Or.inl rfl
  · exact Or.inl rfl
  · refine Or.inr ⟨by omega, ?_⟩
    cases hfind : markCounts.find? fun entry => entry.1 ≤ n && n ≤ entry.2.1 with
    | none => exact Or.inr rfl
    | some range =>
      have hwithin := List.find?_some hfind
      simp only [Bool.and_eq_true, decide_eq_true_eq] at hwithin
      exact Or.inl ⟨range, List.mem_of_find?_eq_some hfind, hwithin.1, hwithin.2, rfl⟩

/-- A spelling that begins with marks begins with a code of their block or beyond. -/
theorem head?_of_takeWhile_isMark {parts : List Nat} (h : (parts.takeWhile isMark).length ≠ 0) :
    parts.head?.any (0x300 ≤ ·) = true := by
  cases parts with
  | nil => exact absurd rfl h
  | cons first rest =>
    have hfirst : isMark first = true := by
      by_contra hnot
      simp [hnot] at h
    simp only [isMark, Bool.and_eq_true, decide_eq_true_eq] at hfirst
    simpa using hfirst.1

/-- A character that begins with marks is spelled without ASCII. -/
theorem isWide_decomposeRune {r : Rune} (h : (runeMarks r).1 ≠ 0) (hblank : r.isBlank = false) :
    ∀ d ∈ decomposeRune r, isWide d = true := by
  cases r with
  | stray b => cases h rfl
  | char c =>
    rw [runeMarks] at h
    rcases markCount_cases c.toNat with hzero | ⟨hlarge, hmarks⟩
    · exact absurd hzero h
    intro d hd
    obtain ⟨m, hm, rfl⟩ := List.mem_map.mp hd
    rcases decompose_cases c.toNat with hself | ⟨-, hwide⟩ | hlisted
    · rw [hself, List.mem_singleton] at hm
      rw [hm, Char.ofNat_toNat]
      have hcode : isBlankCode c.toNat = false := hblank
      simp only [isWide, hcode, Bool.not_false, Bool.and_true, decide_eq_true_eq]
      omega
    · exact hwide m hm
    · rcases hmarks with ⟨range, hrange, hle, hge, hcount⟩ | hcount
      · exact absurd ⟨hle, hge⟩ ((markCounts_spec range hrange).2 (hcount ▸ h) _ hlisted)
      · rcases (decompositions_spec _ hlisted).2.1 with hspec | ⟨-, hspec⟩
        · exact absurd (hspec.symm.trans hblank) (by simp)
        · exact hspec (head?_of_takeWhile_isMark (hcount ▸ h)) m hm

/-- A spelling is no longer than the limit on marks. -/
theorem length_decompose_le (n : Nat) : (decompose n).length ≤ markLimit := by
  rcases decompose_cases n with hself | ⟨⟨-, hlength⟩, -⟩ | hlisted
  · simp [hself, markLimit]
  · exact hlength
  · exact (decompositions_spec _ hlisted).1.2

/-- No rune begins with more marks than the limit allows. -/
theorem runeMarks_le (r : Rune) : (runeMarks r).1 ≤ markLimit := by
  cases r with
  | stray b => exact Nat.zero_le _
  | char c =>
    rw [runeMarks]
    rcases markCount_cases c.toNat with hzero | ⟨-, ⟨range, hrange, -, -, hcount⟩ | hcount⟩
    · rw [hzero]
      exact Nat.zero_le _
    · rw [hcount]
      exact (markCounts_spec range hrange).1
    · rw [hcount]
      exact ((List.takeWhile_sublist _).length_le).trans (length_decompose_le _)

/-- Only few characters of ASCII are the whole spelling of another. -/
theorem eq_of_decomposeRune {r e : Rune} (h : decomposeRune r = [e]) (hascii : e.code < 0x80)
    (he : e ∉ respelled) : r = e := by
  cases r with
  | stray b => exact List.singleton_inj.mp h
  | char c =>
    rw [decomposeRune] at h
    rcases decompose_cases c.toNat with hself | ⟨-, hwide⟩ | hlisted
    · rw [hself, List.map_singleton, Char.ofNat_toNat] at h
      exact List.singleton_inj.mp h
    · obtain ⟨n, hn, rfl⟩ := List.map_eq_singleton_iff.mp h
      exact absurd hascii (not_lt.mpr (code_of_isWide (hwide n (by simp [hn]))))
    · obtain ⟨n, hn, rfl⟩ := List.map_eq_singleton_iff.mp h
      rcases (decompositions_spec _ hlisted).2.2 n (by simp [hn]) hn with hspec | hspec
      · exact absurd hascii (not_lt.mpr hspec)
      · exact absurd hspec he

/-! ### Compositions -/

/-- Only characters make a character. -/
theorem exists_of_pairRunes? {rule : Nat → Nat → Option Nat} {s r made : Rune}
    (h : pairRunes? rule s r = some made) :
    ∃ (a b : Char) (n : Nat), s = .char a ∧ rule a.toNat b.toNat = some n ∧
      made = .char (Char.ofNat n) := by
  cases s with
  | stray x => cases r <;> cases h
  | char a =>
    cases r with
    | stray x => cases h
    | char b =>
      obtain ⟨n, hn, rfl⟩ := Option.map_eq_some_iff.mp h
      exact ⟨a, b, n, rfl, hn, rfl⟩

/-- Conjoining letters make syllables. -/
theorem joinLetters?_spec {a b n : Nat} (h : joinLetters? a b = some n) :
    0x80 ≤ a ∧ 44032 ≤ n ∧ n < 55204 := by
  unfold joinLetters? isVowel isTrail leadBase vowelBase trailBase syllableBase leadCount
    vowelCount trailCount at h
  split_ifs at h with hpair hblock
  · simp only [Bool.and_eq_true, decide_eq_true_eq] at hpair
    have hn := Option.some.inj h
    omega
  · simp only [Bool.and_eq_true, isSyllable_iff, beq_iff_eq, decide_eq_true_eq] at hblock
    have hn := Option.some.inj h
    omega

/-- A pair that composes is listed with what it makes. -/
theorem composePair?_spec {a b n : Nat} (h : composePair? a b = some n) :
    ∃ entry ∈ compositions, entry.1 % 0x10000 = a % 0x10000 ∧ n = entry.2.2 := by
  obtain ⟨entry, hfind, rfl⟩ := Option.map_eq_some_iff.mp h
  have hkey := List.find?_some hfind
  simp only [Bool.and_eq_true, beq_iff_eq] at hkey
  exact ⟨entry, List.mem_of_find?_eq_some hfind, hkey.2, rfl⟩

/-- What two characters make is a character beyond ASCII. -/
theorem Makes.isWide {s r made : Rune} (h : Makes s r made) : isWide made = true := by
  rcases h with h | h
  · obtain ⟨a, b, n, -, hjoin, rfl⟩ := exists_of_pairRunes? h
    obtain ⟨-, hle, hlt⟩ := joinLetters?_spec hjoin
    refine isWide_of_code (Or.inl (by omega)) (by omega) ?_
    simp [isBlankCode]
    omega
  · obtain ⟨a, b, n, -, hcompose, rfl⟩ := exists_of_pairRunes? h
    obtain ⟨entry, hmem, -, rfl⟩ := composePair?_spec hcompose
    exact (compositions_spec entry hmem).1

/-- An inert rune makes nothing with the rune behind it. -/
theorem not_makes_of_isInert {s : Rune} (h : isInert s = true) (r made : Rune) :
    ¬ Makes s r made := by
  rintro (hmakes | hmakes)
  · obtain ⟨a, b, n, rfl, hjoin, -⟩ := exists_of_pairRunes? hmakes
    have hsmall := code_lt_of_isInert h
    have hlarge := (joinLetters?_spec hjoin).1
    omega
  · obtain ⟨a, b, n, rfl, hcompose, -⟩ := exists_of_pairRunes? hmakes
    obtain ⟨entry, hmem, hkey, -⟩ := composePair?_spec hcompose
    have hsmall := code_lt_of_isInert h
    have hcode : entry.1 % 0x10000 = a.toNat := by omega
    have hnot := (compositions_spec entry hmem).2
    rw [hcode, Char.ofNat_toNat, h] at hnot
    cases hnot

/-! ### Segments -/

/-- A segment begins the composition with its first rune in order. -/
theorem composeSegment_eq {rs os : List Rune} {o : Rune}
    (h : order (rs.flatMap decomposeRune) = o :: os) :
    composeSegment rs = (os.foldl Composing.push ⟨[], o, [], false⟩).runes := by
  rw [composeSegment, h]

/-- Free runes compose to free runes. -/
theorem isFree_foldl_push {o : Rune} {os : List Rune} (ho : isFree o = true)
    (hos : ∀ r ∈ os, isFree r = true) :
    ∀ r ∈ (os.foldl Composing.push ⟨[], o, [], false⟩).runes, isFree r = true := by
  have hstart : ∀ r ∈ [o], isFree r = true := by simpa using ho
  refine Composing.foldl_push_induction (motive := fun out => ∀ r ∈ out, isFree r = true) ?_ ?_ _
    hstart
  · intro out r hr hout
    exact List.forall_mem_append.mpr ⟨hout, by simpa using hos r hr⟩
  · intro front s behind made r _ hmakes hout
    simp only [List.forall_mem_append, List.forall_mem_cons] at hout ⊢
    exact ⟨hout.1, isFree_of_isWide hmakes.isWide, hout.2.2⟩

/-- Behind an inert rune, runes beyond ASCII stay behind it. -/
theorem foldl_push_inert {q : Rune} (hq : isInert q = true) {rs : List Rune}
    (hrs : ∀ r ∈ rs, isWide r = true) :
    ∃ out, (rs.foldl Composing.push ⟨[], q, [], false⟩).runes = q :: out ∧
      (∀ r ∈ out, isWide r = true) ∧ (rs ≠ [] → out ≠ []) := by
  -- The first step cannot make anything of the inert rune, so two runes are there from then on.
  cases rs with
  | nil => exact ⟨[], rfl, by simp, fun h => absurd rfl h⟩
  | cons r rs =>
    rw [List.forall_mem_cons] at hrs
    have hfirst : (Composing.push ⟨[], q, [], false⟩ r).runes = [q, r] := by
      rcases Composing.runes_push ⟨[], q, [], false⟩ r with hkeep | ⟨front, s, _, _, hs, hmakes, _⟩
      · exact hkeep
      · have hsplit : [q] = front ++ s :: _ := hs
        have hmem : s ∈ [q] := by simp [hsplit]
        rw [List.mem_singleton.mp hmem] at hmakes
        exact absurd hmakes (not_makes_of_isInert hq _ _)
    have hrun : ∃ out, ((r :: rs).foldl Composing.push ⟨[], q, [], false⟩).runes = q :: out ∧
        (∀ r ∈ out, isWide r = true) ∧ out ≠ [] := by
      rw [List.foldl_cons]
      refine Composing.foldl_push_induction
        (motive := fun runes => ∃ out, runes = q :: out ∧ (∀ r ∈ out, isWide r = true) ∧ out ≠ [])
        ?_ ?_ _ ⟨[r], hfirst, by simpa using hrs.1, by simp⟩
      · rintro _ r' hr' ⟨out, rfl, hwide, -⟩
        refine ⟨out ++ [r'], rfl, ?_, by simp⟩
        exact List.forall_mem_append.mpr ⟨hwide, by simpa using hrs.2 r' hr'⟩
      · rintro front s behind made r' - hmakes ⟨out, hout, hwide, -⟩
        cases front with
        | nil =>
          obtain ⟨rfl, -⟩ := List.cons.inj hout
          exact absurd hmakes (not_makes_of_isInert hq _ _)
        | cons first front =>
          rw [List.cons_append, List.cons.injEq] at hout
          obtain ⟨rfl, rfl⟩ := hout
          refine ⟨front ++ made :: behind, rfl, ?_, by simp⟩
          simp only [List.forall_mem_append, List.forall_mem_cons] at hwide ⊢
          exact ⟨hwide.1, hmakes.isWide, hwide.2.2⟩
    obtain ⟨out, hout, hwide, hne⟩ := hrun
    exact ⟨out, hout, hwide, fun _ => hne⟩

/-- A composition that leaves one rune has nothing to compose or makes a rune beyond ASCII. -/
theorem foldl_push_singleton {o e : Rune} {os : List Rune}
    (h : (os.foldl Composing.push ⟨[], o, [], false⟩).runes = [e]) :
    (os = [] ∧ o = e) ∨ isWide e = true := by
  have hmade : ∀ front s behind made r, Makes s r made → (front ++ s :: behind).length = 1 →
      ∃ made', front ++ made :: behind = [made'] ∧ isWide made' = true := by
    intro front s behind made r hmakes hlength
    simp only [List.length_append, List.length_cons] at hlength
    obtain rfl : front = [] := List.eq_nil_of_length_eq_zero (by omega)
    obtain rfl : behind = [] := List.eq_nil_of_length_eq_zero (by omega)
    exact ⟨made, rfl, hmakes.isWide⟩
  cases os with
  | nil => exact Or.inl ⟨rfl, List.singleton_inj.mp h⟩
  | cons r os =>
    have hrun : 2 ≤ ((r :: os).foldl Composing.push ⟨[], o, [], false⟩).runes.length ∨
        ∃ made, ((r :: os).foldl Composing.push ⟨[], o, [], false⟩).runes = [made] ∧
          isWide made = true := by
      rw [List.foldl_cons]
      refine Composing.foldl_push_induction
        (motive := fun runes => 2 ≤ runes.length ∨ ∃ made, runes = [made] ∧ isWide made = true)
        ?_ ?_ _ ?_
      · rintro runes r' - (hlong | ⟨made, rfl, -⟩)
        · exact Or.inl (by simp; omega)
        · exact Or.inl (by simp)
      · rintro front s behind made r' - hmakes (hlong | ⟨only, honly, -⟩)
        · exact Or.inl (by simpa using hlong)
        · exact Or.inr (hmade front s behind made r' hmakes (by rw [honly]; rfl))
      · rcases Composing.runes_push ⟨[], o, [], false⟩ r with
          hkeep | ⟨front, s, behind, made, hs, hmakes, hresult⟩
        · exact Or.inl (by rw [hkeep]; exact le_rfl)
        · rw [hresult]
          exact Or.inr (hmade front s behind made r hmakes (by rw [← hs]; rfl))
    rw [h] at hrun
    rcases hrun with hlong | ⟨made, heq, hwide⟩
    · exact absurd hlong (by simp)
    · exact Or.inr (List.singleton_inj.mp heq ▸ hwide)

/-- There is always a starter. -/
theorem Composing.runes_ne_nil (st : Composing) : st.runes ≠ [] := by simp [runes]

/-- A segment that composes to one rune of ASCII is that rune, with few exceptions. -/
theorem eq_of_composeSegment {rs : List Rune} {e : Rune} (h : composeSegment rs = [e])
    (hascii : e.code < 0x80) (he : e ∉ respelled) : rs = [e] := by
  have hperm := order_perm (rs.flatMap decomposeRune)
  cases horder : order (rs.flatMap decomposeRune) with
  | nil =>
    rw [composeSegment, horder] at h
    cases h
  | cons o os =>
    rw [composeSegment_eq horder] at h
    rcases foldl_push_singleton h with ⟨rfl, rfl⟩ | hwide
    · rw [horder] at hperm
      have hwhole : rs.flatMap decomposeRune = [o] := List.perm_singleton.mp hperm.symm
      cases rs with
      | nil => cases hwhole
      | cons r rs =>
        rw [List.flatMap_cons, List.append_eq_singleton_iff] at hwhole
        rcases hwhole with ⟨hnil, -⟩ | ⟨hone, hrest⟩
        · exact absurd hnil (decomposeRune_ne_nil r)
        · cases rs with
          | nil => rw [eq_of_decomposeRune hone hascii he]
          | cons r' rs =>
            rw [List.flatMap_cons, List.append_eq_nil_iff] at hrest
            exact absurd hrest.1 (decomposeRune_ne_nil r')
    · exact absurd hascii (not_lt.mpr (code_of_isWide hwide))

/-! ### Runes in place of others -/

/-- Runes take the place of others. Inert runes stand where they stood, and free characters stand
in place of one or more other characters. One character of ASCII stands in place of itself only,
with few exceptions. -/
inductive Recast : List Rune → List Rune → Prop where
  | nil : Recast [] []
  | inert {r : Rune} {rs out : List Rune} : isInert r = true → Recast rs out →
    Recast (r :: rs) (r :: out)
  | free {part part' rs out : List Rune} : part ≠ [] → part' ≠ [] →
    (∀ r ∈ part, isInert r = false) → (∀ r ∈ part', isFree r = true) →
    (∀ e, part' = [e] → e.code < 0x80 → e ∉ respelled → part = [e]) → Recast rs out →
    Recast (part ++ rs) (part' ++ out)

/-- Runes may be replaced part by part. -/
theorem Recast.append {rs out rs' out' : List Rune} (h : Recast rs out) (h' : Recast rs' out') :
    Recast (rs ++ rs') (out ++ out') := by
  induction h with
  | nil => exact h'
  | inert hinert _ ih => exact .inert hinert ih
  | free hpart hpart' hinert hfree hsingle _ ih =>
    rw [List.append_assoc, List.append_assoc]
    exact .free hpart hpart' hinert hfree hsingle ih

/-- Free characters in place of others. -/
theorem recast_free {part part' : List Rune} (hpart : part ≠ []) (hpart' : part' ≠ [])
    (hinert : ∀ r ∈ part, isInert r = false) (hfree : ∀ r ∈ part', isFree r = true)
    (hsingle : ∀ e, part' = [e] → e.code < 0x80 → e ∉ respelled → part = [e]) :
    Recast part part' := by
  simpa using Recast.free hpart hpart' hinert hfree hsingle .nil

/-- Inert and free runes may stand in place of themselves. -/
theorem recast_refl {rs : List Rune} (h : ∀ r ∈ rs, isInert r = true ∨ isFree r = true) :
    Recast rs rs := by
  induction rs with
  | nil => exact .nil
  | cons r rs ih =>
    rw [List.forall_mem_cons] at h
    rcases h.1 with hinert | hfree
    · exact .inert hinert (ih h.2)
    · have hfirst : Recast [r] [r] := by
        refine recast_free (by simp) (by simp) ?_ ?_ fun e he _ _ => he
        · simpa using not_isInert_of_isFree hfree
        · simpa using hfree
      exact hfirst.append (ih h.2)

/-! ### Segments in place of others -/

/-- Some runes have some spelling. -/
theorem flatMap_decomposeRune_ne_nil {rs : List Rune} (h : rs ≠ []) :
    rs.flatMap decomposeRune ≠ [] := by
  obtain ⟨r, rest, rfl⟩ := List.exists_cons_of_ne_nil h
  simp [decomposeRune_ne_nil]

/-- A struck angle bracket is put together again before anything else is composed. -/
theorem foldl_push_struck {h : Rune} (hstruck : h ∈ struck) :
    ∃ angle stroke, decomposeRune h = [angle, stroke] ∧
      [angle, stroke].foldl place [] = [stroke, angle] ∧ runeClass stroke ≤ 1 ∧
      Composing.push ⟨[], angle, [], false⟩ stroke = ⟨[], h, [], false⟩ ∧ isFree h = true ∧
      isInert h = false := by
  simp only [struck, List.mem_cons, List.not_mem_nil, or_false] at hstruck
  rcases hstruck with rfl | rfl
  · exact ⟨.char '<', .char '\u0338', by decide +kernel, by decide +kernel, by decide +kernel, rfl,
      by decide +kernel, by decide +kernel⟩
  · exact ⟨.char '>', .char '\u0338', by decide +kernel, by decide +kernel, by decide +kernel, rfl,
      by decide +kernel, by decide +kernel⟩

section Segment

variable {h : Rune} {marks : List Rune}
  (hwide : ∀ m ∈ marks, ∀ d ∈ decomposeRune m, isWide d = true)
include hwide

/-- The marks of a segment are spelled beyond ASCII. -/
theorem isWide_flatMap : ∀ d ∈ marks.flatMap decomposeRune, isWide d = true := by
  intro d hd
  obtain ⟨m, hm, hd⟩ := List.mem_flatMap.mp hd
  exact hwide m hm d hd

/-- An inert rune stays in front of the marks behind it. -/
theorem composeSegment_inert (hinert : isInert h = true) :
    ∃ out, composeSegment (h :: marks) = h :: out ∧ (∀ r ∈ out, isWide r = true) ∧
      (out = [] ↔ marks = []) := by
  have hclass : ∀ s ∈ [h].getLast?, runeClass s ≤ 1 := by
    intro s hs
    obtain rfl := Option.some.inj hs
    cases h with
    | stray b => exact Nat.zero_le _
    | char c =>
      have hsmall := code_lt_of_isInert hinert
      simp [runeClass, combiningClass, show c.toNat < 0x300 by omega]
  obtain ⟨os, horder, hperm⟩ := order_append [h] rfl hclass (marks.flatMap decomposeRune)
  have hall : ∀ r ∈ os, isWide r = true := fun r hr => isWide_flatMap hwide r (hperm.mem_iff.mp hr)
  obtain ⟨out, hout, houtwide, hne⟩ := foldl_push_inert hinert hall
  have hsegment : composeSegment (h :: marks) = h :: out := by
    rw [← hout]
    refine composeSegment_eq ?_
    rw [List.flatMap_cons, decomposeRune_of_isInert hinert]
    exact horder
  refine ⟨out, hsegment, houtwide, fun hnil => ?_, fun hnil => ?_⟩
  · by_contra hmarks
    refine hne (fun hos => ?_) hnil
    rw [hos] at hperm
    exact flatMap_decomposeRune_ne_nil hmarks (List.nil_perm.mp hperm)
  · subst hnil
    have hos : os = [] := List.perm_nil.mp hperm
    rw [hos] at hout
    exact (List.cons.inj hout).2.symm

/-- A free character and the marks behind it compose to free characters. -/
theorem composeSegment_free (hfree : isFree h = true) :
    composeSegment (h :: marks) ≠ [] ∧ ∀ r ∈ composeSegment (h :: marks), isFree r = true := by
  have hmarks : ∀ d ∈ marks.flatMap decomposeRune, isFree d = true :=
    fun d hd => isFree_of_isWide (isWide_flatMap hwide d hd)
  by_cases hstruck : h ∈ struck
  · obtain ⟨angle, stroke, hparts, hplaced, hclass, hpush, -, -⟩ := foldl_push_struck hstruck
    obtain ⟨os, horder, hperm⟩ := order_append [angle, stroke] hplaced
      (by simpa using hclass) (marks.flatMap decomposeRune)
    have hsegment : composeSegment (h :: marks) =
        (os.foldl Composing.push ⟨[], h, [], false⟩).runes := by
      have hordered : order ((h :: marks).flatMap decomposeRune) = angle :: stroke :: os := by
        rw [List.flatMap_cons, hparts]
        exact horder
      rw [← hpush]
      exact composeSegment_eq hordered
    rw [hsegment]
    refine ⟨Composing.runes_ne_nil _, isFree_foldl_push hfree fun r hr => ?_⟩
    exact hmarks r (hperm.mem_iff.mp hr)
  · have hperm := order_perm ((h :: marks).flatMap decomposeRune)
    cases horder : order ((h :: marks).flatMap decomposeRune) with
    | nil =>
      rw [horder] at hperm
      exact absurd (List.nil_perm.mp hperm) (flatMap_decomposeRune_ne_nil (by simp))
    | cons o os =>
      have hall : ∀ r ∈ o :: os, isFree r = true := by
        intro r hr
        rw [← horder, hperm.mem_iff, List.flatMap_cons, List.mem_append] at hr
        rcases hr with hr | hr
        · exact isFree_decomposeRune hfree hstruck r hr
        · exact hmarks r hr
      rw [composeSegment_eq horder]
      rw [List.forall_mem_cons] at hall
      exact ⟨Composing.runes_ne_nil _, isFree_foldl_push hall.1 hall.2⟩

end Segment

/-- What a segment composes to stands in its place, and so it does with further marks at the end,
unless they stand right behind an inert rune. -/
theorem recast_segment {h : Rune} {marks extra : List Rune}
    (hhead : isInert h = true ∨ isFree h = true)
    (hwide : ∀ m ∈ marks ++ extra, ∀ d ∈ decomposeRune m, isWide d = true)
    (hmarks : ∀ m ∈ marks, isInert m = false)
    (hextra : isInert h = true → marks = [] → extra = []) :
    Recast (h :: marks) (composeSegment (h :: (marks ++ extra))) := by
  rcases hhead with hinert | hfree
  · obtain ⟨out, hout, houtwide, hnil⟩ := composeSegment_inert hwide hinert
    rw [hout]
    refine .inert hinert ?_
    by_cases hnone : marks = []
    · have hout' : out = [] := hnil.mpr (by rw [hnone, hextra hinert hnone]; rfl)
      rw [hnone, hout']
      exact .nil
    · refine recast_free hnone (fun hout' => hnone ?_) hmarks
        (fun r hr => isFree_of_isWide (houtwide r hr)) fun e he hascii _ => ?_
      · exact (List.append_eq_nil_iff.mp (hnil.mp hout')).1
      · have hewide := houtwide e (by simp [he])
        exact absurd hascii (not_lt.mpr (code_of_isWide hewide))
  · obtain ⟨hne, hall⟩ := composeSegment_free hwide hfree
    refine recast_free (by simp) hne ?_ hall fun e he hascii hrespelled => ?_
    · exact List.forall_mem_cons.mpr ⟨not_isInert_of_isFree hfree, hmarks⟩
    · have hwhole := eq_of_composeSegment he hascii hrespelled
      rw [List.cons.injEq, List.append_eq_nil_iff] at hwhole
      rw [hwhole.1, hwhole.2.1]

/-- The joiner between segments is spelled beyond ASCII. -/
theorem isWide_joiner : ∀ d ∈ decomposeRune joiner, isWide d = true := by decide +kernel

/-- The runes of an open segment, first to last, and the number of its marks: only its first rune
may begin without marks, and if there are marks at all then it holds a rune that is not inert. -/
def IsOpen (count : Nat) : List Rune → Prop
  | [] => count = 0
  | h :: marks => (∀ m ∈ marks, (runeMarks m).1 ≠ 0) ∧
      (0 < count → isInert h = true → marks ≠ [])

/-- A rune begins a segment. -/
theorem isOpen_singleton {r : Rune} {count : Nat} (h : isInert r = true → count = 0) :
    IsOpen count [r] := by
  refine ⟨by simp, fun hpos hinert => ?_⟩
  rw [h hinert] at hpos
  exact absurd hpos (lt_irrefl 0)

/-- A rune that begins with marks is not inert. -/
theorem isInert_of_runeMarks {m : Rune} (h : (runeMarks m).1 ≠ 0) : isInert m = false := by
  rw [← Bool.not_eq_true]
  intro hinert
  rw [runeMarks_of_isInert hinert] at h
  exact h rfl

/-- A mark goes on with a segment. -/
theorem IsOpen.append {count : Nat} {segment : List Rune} (h : IsOpen count segment) {r : Rune}
    (hr : (runeMarks r).1 ≠ 0) : IsOpen (count + (runeMarks r).1) (segment ++ [r]) := by
  cases segment with
  | nil => exact isOpen_singleton fun hinert => by simp [isInert_of_runeMarks hr] at hinert
  | cons head marks =>
    refine ⟨?_, by simp⟩
    exact List.forall_mem_append.mpr ⟨h.1, by simpa using hr⟩

/-- A rune that can be kept or replaced: it is inert or free. -/
def IsClear (r : Rune) : Prop := isInert r = true ∨ isFree r = true

/-- A rune that may be replaced is no white space. -/
theorem IsClear.isBlank {r : Rune} (h : IsClear r) (hmark : isInert r = false) :
    r.isBlank = false := by
  have hfree := h.resolve_left (by simp [hmark])
  cases r with
  | stray b => cases hfree
  | char c =>
    simp only [isFree, Bool.and_eq_true, Bool.not_eq_true'] at hfree
    exact hfree.1.2

/-- What an open segment composes to, also with a joiner behind its marks, stands in its place. -/
theorem IsOpen.recast {count : Nat} {segment : List Rune} (h : IsOpen count segment)
    (hclear : ∀ r ∈ segment, IsClear r) (extra : List Rune)
    (hextra : extra = [] ∨ (extra = [joiner] ∧ 0 < count)) :
    Recast segment (composeSegment (segment ++ extra)) := by
  cases segment with
  | nil =>
    have hnone : extra = [] := by
      rcases hextra with hnone | ⟨-, hpos⟩
      · exact hnone
      · exact absurd h (Nat.ne_of_gt hpos)
    rw [hnone]
    exact .nil
  | cons head marks =>
    rw [List.forall_mem_cons] at hclear
    have hmarks : ∀ m ∈ marks, isInert m = false := fun m hm => isInert_of_runeMarks (h.1 m hm)
    refine recast_segment hclear.1 ?_ hmarks ?_
    · intro m hm
      rcases List.mem_append.mp hm with hm | hm
      · exact isWide_decomposeRune (h.1 m hm) ((hclear.2 m hm).isBlank (hmarks m hm))
      · rcases hextra with rfl | ⟨rfl, -⟩
        · cases hm
        · rw [List.mem_singleton.mp hm]
          exact isWide_joiner
    · intro hinert hnone
      rcases hextra with hextra | ⟨-, hpos⟩
      · exact hextra
      · exact absurd hnone (h.2 hpos hinert)

/-- What the segments of runes compose to stands in their place. -/
theorem recast_segmentsFrom {count : Nat} {current rs : List Rune}
    (hopen : IsOpen count current.reverse) (hclear : ∀ r ∈ current.reverse ++ rs, IsClear r) :
    Recast (current.reverse ++ rs) ((segmentsFrom count current rs).flatMap composeSegment) := by
  induction rs generalizing count current with
  | nil =>
    rw [List.append_nil] at hclear ⊢
    simpa [segmentsFrom] using hopen.recast hclear [] (Or.inl rfl)
  | cons r rs ih =>
    obtain ⟨hcurrent, hrs⟩ := List.forall_mem_append.mp hclear
    have hnew : ∀ count', (isInert r = true → count' = 0) →
        Recast (r :: rs) ((segmentsFrom count' [r] rs).flatMap composeSegment) :=
      fun count' hcount => @ih count' [r] (isOpen_singleton hcount) hrs
    rw [segmentsFrom]
    split_ifs with hcut hstart
    · have hpos : 0 < count := by
        have hle := runeMarks_le r
        omega
      have hbefore := hopen.recast hcurrent [joiner] (Or.inr ⟨rfl, hpos⟩)
      rw [List.flatMap_cons, List.reverse_cons]
      exact hbefore.append (hnew _ fun hinert => by rw [runeMarks_of_isInert hinert])
    · have hbefore := hopen.recast hcurrent [] (Or.inl rfl)
      rw [List.append_nil] at hbefore
      rw [List.flatMap_cons]
      exact hbefore.append (hnew _ fun hinert => by rw [runeMarks_of_isInert hinert])
    · have hmark : (runeMarks r).1 ≠ 0 := by simpa using hstart
      have hlonger : IsOpen (count + (runeMarks r).1) (r :: current).reverse := by
        rw [List.reverse_cons]
        exact hopen.append hmark
      simpa using ih hlonger (by simpa using hclear)

/-- The unfinished end is split off, and nothing is lost. -/
theorem splitUnfinished_append (rs : List Rune) :
    (splitUnfinished rs).1 ++ (splitUnfinished rs).2 = rs := by
  induction rs with
  | nil => rfl
  | cons r rs ih =>
    simp only [splitUnfinished]
    split_ifs
    · rfl
    · simpa using ih

/-- The canonical form stands in place of the runes that it is the form of. -/
theorem recast_composeAll {rs : List Rune} (h : ∀ r ∈ rs, IsClear r) :
    Recast rs (composeAll rs) := by
  have hsplit := splitUnfinished_append rs
  rw [← hsplit, List.forall_mem_append] at h
  have hopen : IsOpen 0 ([] : List Rune).reverse := rfl
  have hfront := recast_segmentsFrom hopen h.1
  have hwhole := hfront.append (recast_refl h.2)
  rwa [List.reverse_nil, List.nil_append, hsplit] at hwhole

/-! ### Decoding -/

/-- A rune that is not inert is a character. -/
theorem exists_char_of_isInert {r : Rune} (h : isInert r = false) : ∃ c, r = .char c := by
  cases r with
  | stray b => cases h
  | char c => exact ⟨c, rfl⟩

/-- A free rune is a character. -/
theorem exists_char_of_isFree {r : Rune} (h : isFree r = true) : ∃ c, r = .char c :=
  exists_char_of_isInert (not_isInert_of_isFree h)

/-- Characters are decoded to themselves, whatever follows. -/
theorem runes_ofRunes_chars {part : List Rune} (h : ∀ r ∈ part, ∃ c, r = .char c)
    (rest : List Rune) : (ofRunes (part ++ rest)).runes = part ++ (ofRunes rest).runes := by
  induction part with
  | nil => rfl
  | cons r part ih =>
    rw [List.forall_mem_cons] at h
    obtain ⟨⟨c, rfl⟩, hpart⟩ := h
    rw [List.cons_append, runes_ofRunes_char, ih hpart, List.cons_append]

/-- No tail stands in front of a character. -/
theorem takeWhile_isTail_char (c : Char) (rs : List Rune) :
    (ofRunes (.char c :: rs)).takeWhile Rune.isTail = [] := by
  obtain ⟨a, tail, hbytes, -, htail⟩ := Rune.leading_bytes_char c []
  rw [ofRunes_cons, hbytes]
  simp [htail]

/-- No tail stands in front of characters. -/
theorem takeWhile_isTail_chars {part : List Rune} (hne : part ≠ [])
    (h : ∀ r ∈ part, ∃ c, r = .char c) (rest : List Rune) :
    (ofRunes (part ++ rest)).takeWhile Rune.isTail = [] := by
  obtain ⟨r, part, rfl⟩ := List.exists_cons_of_ne_nil hne
  obtain ⟨c, rfl⟩ := h r (List.mem_cons_self ..)
  exact takeWhile_isTail_char c (part ++ rest)

/-- Only the tails behind a byte decide whether it begins a character. -/
theorem leading_takeWhile_isTail (a : UInt8) (rest : Text) :
    Rune.leading a (rest.takeWhile Rune.isTail) = Rune.leading a rest := by
  have hsplit := List.takeWhile_append_dropWhile (p := Rune.isTail) (l := rest)
  cases hdrop : rest.dropWhile Rune.isTail with
  | nil =>
    rw [hdrop, List.append_nil] at hsplit
    rw [hsplit]
  | cons b more =>
    have hb : Rune.isTail b = false := by
      have hhead := List.head?_dropWhile_not Rune.isTail rest
      rw [hdrop] at hhead
      exact hhead
    rw [hdrop] at hsplit
    have hleading := Rune.leading_append_of_not_isTail hb a (rest.takeWhile Rune.isTail) more
    rw [hsplit] at hleading
    exact hleading.symm

namespace Recast

variable {rs out : List Rune}

/-- The tails in front stay the same. -/
theorem takeWhile_isTail (h : Recast rs out) :
    (ofRunes out).takeWhile Rune.isTail = (ofRunes rs).takeWhile Rune.isTail := by
  induction h with
  | nil => rfl
  | @inert r rs out _ _ ih =>
    cases r with
    | char c => rw [takeWhile_isTail_char, takeWhile_isTail_char]
    | stray b =>
      have hbytes : ∀ rs, ofRunes (.stray b :: rs) = b :: ofRunes rs := fun rs => rfl
      rw [hbytes, hbytes, List.takeWhile_cons, List.takeWhile_cons, ih]
  | free hpart hpart' hinert hfree =>
    rw [takeWhile_isTail_chars hpart fun r hr => exists_char_of_isInert (hinert r hr),
      takeWhile_isTail_chars hpart' fun r hr => exists_char_of_isFree (hfree r hr)]

/-- Runes in place of those of a text are decoded as they are. -/
theorem runes_ofRunes (h : Recast rs out) (hrs : (ofRunes rs).runes = rs) :
    (ofRunes out).runes = out := by
  induction h with
  | nil => rfl
  | @inert r rs out _ hrest ih =>
    cases r with
    | char c =>
      rw [runes_ofRunes_char, List.cons.injEq] at hrs
      rw [runes_ofRunes_char, ih hrs.2]
    | stray b =>
      have hstray : ∀ rs, Rune.leading b (ofRunes rs) = .stray b →
          (ofRunes (.stray b :: rs)).runes = .stray b :: (ofRunes rs).runes := by
        intro rs hleading
        have hbytes : ofRunes (.stray b :: rs) = b :: ofRunes rs := rfl
        rw [hbytes, runes_cons, hleading]
        rfl
      have hleading : Rune.leading b (ofRunes rs) = .stray b := by
        have hbytes : ofRunes (.stray b :: rs) = b :: ofRunes rs := rfl
        rw [hbytes, runes_cons, List.cons.injEq] at hrs
        exact hrs.1
      have hsame : Rune.leading b (ofRunes out) = .stray b := by
        rw [← leading_takeWhile_isTail, hrest.takeWhile_isTail, leading_takeWhile_isTail,
          hleading]
      rw [hstray rs hleading, List.cons.injEq] at hrs
      rw [hstray out hsame, ih hrs.2]
  | free _ _ hinert hfree _ _ ih =>
    rw [runes_ofRunes_chars fun r hr => exists_char_of_isInert (hinert r hr),
      List.append_right_inj] at hrs
    rw [runes_ofRunes_chars fun r hr => exists_char_of_isFree (hfree r hr), ih hrs]

/-! ### What stands in place of what -/

/-- Only no runes are replaced by none. -/
theorem eq_nil (h : Recast rs out) (hout : out = []) : rs = [] := by
  cases h with
  | nil => rfl
  | inert => cases hout
  | free _ hpart' => exact absurd (List.append_eq_nil_iff.mp hout).1 hpart'

/-- An inert rune at the front stood there. -/
theorem of_inert (h : Recast rs out) {q : Rune} {rest : List Rune} (hq : isInert q = true)
    (hout : out = q :: rest) : ∃ rs', rs = q :: rs' ∧ Recast rs' rest := by
  cases h with
  | nil => cases hout
  | inert _ hrest =>
    cases hout
    exact ⟨_, rfl, hrest⟩
  | @free _ part' _ _ _ hpart' _ hfree =>
    obtain ⟨r, more, rfl⟩ := List.exists_cons_of_ne_nil hpart'
    rw [List.cons_append, List.cons.injEq] at hout
    have hnot := not_isInert_of_isFree (hfree r (List.mem_cons_self ..))
    rw [hout.1, hq] at hnot
    cases hnot

/-- One character of ASCII stood there alone, with few exceptions. -/
theorem of_singleton (h : Recast rs out) {e : Rune} (he : isInert e = false)
    (hascii : e.code < 0x80) (hrespelled : e ∉ respelled) (hout : out = [e]) : rs = [e] := by
  cases h with
  | nil => cases hout
  | inert hinert =>
    cases hout
    rw [he] at hinert
    cases hinert
  | free _ hpart' _ _ hsingle hrest =>
    rcases List.append_eq_singleton_iff.mp hout with ⟨hnil, -⟩ | ⟨hone, hnil⟩
    · exact absurd hnil hpart'
    · rw [hsingle e hone hascii hrespelled, hrest.eq_nil hnil, List.append_nil]

end Recast

end Canonical

/-- The runes of the canonical form of a text stand in place of the runes of the text. -/
theorem recast_nfc {t : Text} (h : ∀ r ∈ t.runes, Canonical.IsClear r) :
    Canonical.Recast t.runes t.nfc.runes := by
  rw [nfc]
  split_ifs
  · exact Canonical.recast_refl h
  · have hrecast := Canonical.recast_composeAll h
    rwa [hrecast.runes_ofRunes (by rw [ofRunes_runes])]

end Lisplet.Text
