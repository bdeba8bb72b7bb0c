import SketchGrader.Proofs.BodyBraces

/-!
# Comments at the ends of statement lines

Comments are taken away twice: from the whole source before its bodies are cut out, and from each
line before it is read. The second time there are none left, so two slashes that are taken for a
comment then stand in a string. This happens where the reading of the line is not at the same point
of the same string as the reading of the source: the line begins inside a string that goes on over
an escaped line end, or a string in front of the slashes ends with an escaped backslash. Otherwise
nothing more is taken away.
-/

namespace SketchGrader

/-! ## Reading a source up to a place -/

/-- Two slashes in a row are not code. -/
theorem ReadState.step_slashes (state : ReadState) : (state.step '/' (some '/')).1 ≠ .code := by
  cases state with
  | string q escaped =>
      rw [step_string_region]
      decide
  | block starred => cases starred <;> decide
  | _ => decide

namespace Source

/-- The state in which a text is read behind a number of characters. -/
def stateFrom (state : ReadState) : Text → Nat → ReadState
  | c :: rest, n + 1 => stateFrom (state.step c rest.head?).2 rest n
  | _, _ => state

/-- The state in which a source is read behind a number of characters. -/
def stateAt (source : Text) (n : Nat) : ReadState := stateFrom .code source n

theorem drop_glyphsFrom (state : ReadState) (line column : Nat) (t : Text) (n : Nat) :
    ∃ line' column', (glyphsFrom state line column t).drop n =
      glyphsFrom (stateFrom state t n) line' column' (t.drop n) := by
  induction n generalizing state line column t with
  | zero => exact ⟨line, column, by simp [stateFrom]⟩
  | succ n ih =>
      cases t with
      | nil => exact ⟨line, column, rfl⟩
      | cons c rest =>
          rw [glyphsFrom_cons]
          exact ih _ _ _ rest

theorem drop_glyphs (source : Text) (n : Nat) :
    ∃ line column, (glyphs source).drop n =
      glyphsFrom (stateAt source n) line column (source.drop n) :=
  drop_glyphsFrom .code 1 1 source n

/-- The blanked source is read in the same state, or in code where the source has a comment. -/
theorem stateFrom_bare (state : ReadState) (line column : Nat) (t : Text) (n : Nat) :
    stateFrom state.bare ((glyphsFrom state line column t).map uncommented) n =
      (stateFrom state t n).bare := by
  induction n generalizing state line column t with
  | zero => simp [stateFrom]
  | succ n ih =>
      cases t with
      | nil => rfl
      | cons c rest =>
          have follows := head?_uncommented (state.step c rest.head?).2 (lineAfter c line)
            (columnAfter c column) rest
          rw [glyphsFrom_cons, List.map_cons, stateFrom, step_bare state c follows line column, ih]
          rfl

theorem stateAt_stripComments (source : Text) (n : Nat) :
    stateAt (stripComments source) n = (stateAt source n).bare :=
  stateFrom_bare .code 1 1 source n

/-- Behind any place the blanked source is read without a comment. -/
theorem uncommented_behind {source front t : Text} (h : stripComments source = front ++ t) :
    ∃ line column, ∀ g ∈ glyphsFrom (stateAt source front.length).bare line column t,
      g.region ≠ .comment := by
  obtain ⟨line, column, hdrop⟩ := drop_glyphs (stripComments source) front.length
  rw [glyphs_stripComments, stateAt_stripComments, h, List.drop_left] at hdrop
  refine ⟨line, column, ?_⟩
  intro g hg
  rw [← hdrop] at hg
  obtain ⟨g', -, rfl⟩ := List.mem_map.mp (List.mem_of_mem_drop hg)
  exact bare_region g'

theorem region_of_slashes {front behind : List Glyph} {g g' : Glyph} {state : ReadState}
    {line column : Nat} {t : Text}
    (h : glyphsFrom state line column t = front ++ g :: g' :: behind) (hg : g.char = '/')
    (hg' : g'.char = '/') : g.region ≠ .code := by
  induction front generalizing state line column t with
  | nil =>
      cases t with
      | nil => cases h
      | cons c rest =>
          cases rest with
          | nil =>
              rw [glyphsFrom_cons] at h
              cases h
          | cons d rest =>
              rw [glyphsFrom_cons, glyphsFrom_cons] at h
              obtain ⟨rfl, htail⟩ := List.cons.inj h
              obtain ⟨rfl, -⟩ := List.cons.inj htail
              cases hg
              cases hg'
              exact state.step_slashes
  | cons first front ih =>
      cases t with
      | nil => cases h
      | cons c rest =>
          rw [glyphsFrom_cons] at h
          exact ih (List.cons.inj h).2

/-- Once comments are blanked, two slashes in a row stand in a string. -/
theorem slashes_in_string {source front behind : Text}
    (h : stripComments source = front ++ '/' :: '/' :: behind) :
    ∃ g, (glyphs source)[front.length]? = some g ∧ g.region = .string := by
  obtain ⟨before, rest, hglyphs, hbefore, hrest⟩ := List.map_eq_append_iff.mp h
  obtain ⟨g, rest, rfl, hg, hrest⟩ := List.map_eq_cons_iff.mp hrest
  obtain ⟨g', after, rfl, hg', -⟩ := List.map_eq_cons_iff.mp hrest
  have shown : ∀ g : Glyph, uncommented g = '/' → g.region ≠ .comment ∧ g.char = '/' := by
    intro g hg
    have plain : g.region ≠ .comment := by
      intro comment
      obtain blank | blank := uncommented_of_comment comment <;>
        exact absurd (hg.symm.trans blank) (by decide)
    exact ⟨plain, (uncommented_of_not_comment plain).symm.trans hg⟩
  obtain ⟨plain, hchar⟩ := shown g hg
  have notCode := region_of_slashes hglyphs hchar (shown g' hg').2
  refine ⟨g, ?_, ?_⟩
  · rw [hglyphs, ← hbefore]
    simp
  · cases hr : g.region with
    | code => exact absurd hr notCode
    | string => rfl
    | comment => exact absurd hr plain

end Source

/-! ## Reading a line -/

namespace Line

open Source (quoteAfter plainFrom)

/-- Outside of a string two slashes end the line. -/
theorem uncommentFrom_slashes (before : Char) (rest : Text) :
    uncommentFrom none before ('/' :: '/' :: rest) = [] := rfl

/-- Every other character stays, and the open quote is followed. -/
theorem uncommentFrom_cons {quote : Option Char} {c : Char} {rest : Text}
    (h : ¬ (quote = none ∧ c = '/' ∧ rest.head? = some '/')) (before : Char) :
    uncommentFrom quote before (c :: rest) =
      c :: uncommentFrom (quoteAfter quote before c) c rest := by
  cases quote with
  | some q =>
      by_cases hq : c = q ∧ before ≠ '\\'
      · simp [uncommentFrom, quoteAfter, hq]
      · simp only [uncommentFrom, quoteAfter, if_neg hq]
        rw [if_neg (by simpa using hq)]
  | none =>
      by_cases hc : c = '"' ∨ c = '\''
      · simp [uncommentFrom, quoteAfter, hc]
      · have other : ¬ ((c == '/' && rest.head? == some '/') = true) := by simpa using h
        simp only [uncommentFrom, quoteAfter, if_neg hc]
        rw [if_neg (by simpa using hc), if_neg other]

/-- A line loses nothing, or all from two slashes on. -/
theorem uncommentFrom_eq_or (quote : Option Char) (before : Char) (t : Text) :
    uncommentFrom quote before t = t ∨
      ∃ kept rest, t = kept ++ '/' :: '/' :: rest ∧ uncommentFrom quote before t = kept := by
  induction t generalizing quote before with
  | nil => exact .inl rfl
  | cons c rest ih =>
      by_cases cut : quote = none ∧ c = '/' ∧ rest.head? = some '/'
      · obtain ⟨rfl, rfl, next⟩ := cut
        obtain ⟨rest, rfl⟩ := List.head?_eq_some_iff.mp next
        exact .inr ⟨[], rest, rfl, uncommentFrom_slashes before rest⟩
      · rw [uncommentFrom_cons cut]
        obtain whole | ⟨kept, tail, rfl, hkept⟩ := ih (quoteAfter quote before c) c
        · exact .inl (by rw [whole])
        · exact .inr ⟨c :: kept, tail, rfl, by rw [hkept]⟩

/-- While the reading of a line goes beside the reading of a source without comments, two slashes
are not taken for a comment. So a string in front of those that are ends behind a backslash. -/
theorem not_plainFrom_of_cut {state : ReadState} {quote : Option Char} {before : Char}
    {line column : Nat} {kept rest back : Text} (beside : state.Beside quote before)
    (bare : ∀ g ∈ Source.glyphsFrom state line column (kept ++ '/' :: '/' :: rest ++ back),
      g.region ≠ .comment)
    (cut : uncommentFrom quote before (kept ++ '/' :: '/' :: rest) = kept) :
    plainFrom state before kept = false := by
  induction kept generalizing state quote before line column with
  | nil =>
      cases beside with
      | code => exact absurd rfl (bare _ List.mem_cons_self)
      | string =>
          rw [List.nil_append, uncommentFrom_cons (by simp)] at cut
          cases cut
  | cons c kept ih =>
      rw [List.cons_append, List.cons_append, Source.glyphsFrom_cons, List.forall_mem_cons] at bare
      obtain ⟨here, bare⟩ := bare
      have stays : ¬ (quote = none ∧ c = '/' ∧ (kept ++ '/' :: '/' :: rest).head? = some '/') := by
        rintro ⟨rfl, rfl, next⟩
        obtain ⟨tail, htail⟩ := List.head?_eq_some_iff.mp next
        rw [List.cons_append, htail] at cut
        cases cut
      rw [List.cons_append, uncommentFrom_cons stays, List.cons.injEq] at cut
      rw [plainFrom, ReadState.step_none beside here]
      cases ends : state.endsPlainly before c with
      | false => rfl
      | true => exact ih (beside.step here ends) bare cut.2

end Line

/-! ## Statement lines -/

namespace Text

theorem first_line_isPrefix {t first : Text} {more : List Text} (h : lines t = first :: more) :
    first <+: t := by
  induction t generalizing first more with
  | nil =>
      cases h
      exact List.nil_prefix
  | cons c t ih =>
      by_cases hc : c = '\n'
      · rw [hc, lines_newline] at h
        cases h
        exact List.nil_prefix
      · obtain ⟨start, others, ht, hct⟩ := lines_cons hc t
        rw [hct] at h
        cases h
        exact List.cons_prefix_cons.mpr ⟨rfl, ih ht⟩

theorem exists_eq_append_of_line {t line : Text} {i : Nat} (h : (lines t)[i]? = some line) :
    ∃ front back, t = front ++ line ++ back ∧ front.count '\n' = i := by
  induction t generalizing i with
  | nil =>
      cases i with
      | zero =>
          cases h
          exact ⟨[], [], rfl, rfl⟩
      | succ i => cases h
  | cons c t ih =>
      cases i with
      | zero =>
          obtain ⟨first, more, hlines⟩ := List.exists_cons_of_ne_nil (split_ne_nil '\n' (c :: t))
          obtain ⟨back, hback⟩ := first_line_isPrefix hlines
          rw [lines, hlines] at h
          cases h
          exact ⟨[], back, hback.symm, rfl⟩
      | succ i =>
          by_cases hc : c = '\n'
          · rw [hc, lines_newline] at h
            obtain ⟨front, back, rfl, hcount⟩ := ih h
            exact ⟨c :: front, back, rfl, by rw [hc, List.count_cons_self, hcount]⟩
          · obtain ⟨first, more, ht, hct⟩ := lines_cons hc t
            rw [hct] at h
            have later : (lines t)[i + 1]? = some line := by rwa [ht]
            obtain ⟨front, back, rfl, hcount⟩ := ih later
            exact ⟨c :: front, back, rfl, by rw [List.count_cons_of_ne hc, hcount]⟩

end Text

namespace Program

open Source (stripComments glyphs stateAt plainFrom)

/-- A statement line stands in the source without comments, on the line with its number. -/
theorem statementLine_place {source : Text} {p : Program} (h : Source.draft source = .ok p)
    {b : Body} {number : Int} {text : Text} (hline : (number, text) ∈ p.statementLines b) :
    ∃ front back, stripComments source = front ++ text ++ back ∧
      number = front.count '\n' + 1 := by
  obtain ⟨positive, -, whole, hwhole, ⟨before, after, hpiece⟩, -⟩ := standsAt h hline
  obtain ⟨front, back, hplace, hcount⟩ := Text.exists_eq_append_of_line hwhole
  have single : '\n' ∉ before := by
    have hsingle := Text.newline_notMem_lines (List.mem_of_getElem? hwhole)
    rw [← hpiece] at hsingle
    intro hmem
    exact hsingle (List.mem_append_left _ (List.mem_append_left _ hmem))
  refine ⟨front ++ before, after ++ back, ?_, ?_⟩
  · rw [hplace, ← hpiece]
    simp only [List.append_assoc]
  · rw [List.count_append, List.count_eq_zero_of_not_mem single]
    omega

/-- Reading a statement line of an accepted source takes away nothing, or the text from two slashes
on that stand in a string of the source. In that case the line begins in a string, or a string in
front of the slashes ends at a quote with a backslash in front. -/
theorem statement_lines_lose_only_string_text {source : Text} {p : Program}
    (accepted : Program.ofSource source = .ok p) {b : Body} {number : Int} {text : Text}
    (hline : (number, text) ∈ p.statementLines b) :
    (∃ front back, stripComments source = front ++ text ++ back ∧
        number = front.count '\n' + 1) ∧
      ∀ front back, stripComments source = front ++ text ++ back →
        Line.uncomment text = text ∨
          ∃ kept rest, text = kept ++ '/' :: '/' :: rest ∧ Line.uncomment text = kept ∧
            (∃ g, (glyphs source)[front.length + kept.length]? = some g ∧ g.region = .string) ∧
            ((∃ quote escaped, stateAt source front.length = .string quote escaped) ∨
              plainFrom .code ' ' kept = false) := by
  refine ⟨statementLine_place (ofSource_eq_ok accepted).1 hline, ?_⟩
  intro front back place
  obtain whole | ⟨kept, rest, rfl, hkept⟩ := Line.uncommentFrom_eq_or none ' ' text
  · exact .inl whole
  · refine .inr ⟨kept, rest, rfl, hkept, ?_, ?_⟩
    · have slashes : stripComments source = front ++ kept ++ '/' :: '/' :: (rest ++ back) := by
        rw [place]
        simp only [List.append_assoc, List.cons_append]
      rw [← List.length_append]
      exact Source.slashes_in_string slashes
    · obtain ⟨line, column, bare⟩ := Source.uncommented_behind (place.trans (List.append_assoc ..))
      -- Where the source is read as code or as a comment, the blanked source is read as code.
      cases hstate : stateAt source front.length with
      | string quote escaped => exact .inl ⟨quote, escaped, rfl⟩
      | _ =>
          rw [hstate] at bare
          exact .inr (Line.not_plainFrom_of_cut (.code ' ') bare hkept)

/-- A line with slashes in a string, behind a string that ends with an escaped backslash. -/
def backslashLine : Text := "s = \"\\\\\"; t = \"//\"; u = \"\\\"\";".toList

/-- A line with slashes between escaped quotes of one string. -/
def quotesLine : Text := "say(\"a//b \\\"//\\\"\");".toList

def slashedSource : Text :=
  "void setup() \x7b\n  ".toList ++ backslashLine ++ "\n  ".toList ++ quotesLine ++
    "\n\x7d\n".toList

def slashed : Program where
  setupBody := "\n  ".toList ++ backslashLine ++ "\n  ".toList ++ quotesLine ++ "\n".toList
  absent := [.loop]

theorem slashed_read : ofSource slashedSource = .ok slashed := by decide +kernel

/-- The first line is cut within its second string, and the second line is read as it stands. -/
theorem statement_lines_lose_only_string_text_slashed :
    ofSource slashedSource = .ok slashed ∧
      (2, backslashLine) ∈ slashed.statementLines .setup ∧
      (∃ kept g, Line.uncomment backslashLine = kept ∧
        (glyphs slashedSource)[17 + kept.length]? = some g ∧ g.region = .string ∧
        plainFrom .code ' ' kept = false) ∧
      (3, quotesLine) ∈ slashed.statementLines .setup ∧
      Line.uncomment quotesLine = quotesLine := by
  have first : (2, backslashLine) ∈ slashed.statementLines .setup := by decide +kernel
  have second : (3, quotesLine) ∈ slashed.statementLines .setup := by decide +kernel
  refine ⟨slashed_read, first, ?_, second, ?_⟩
  · have place : stripComments slashedSource =
        slashedSource.take 17 ++ backslashLine ++ slashedSource.drop 46 := by
      decide +kernel
    have starts : stateAt slashedSource 17 = .code := by decide +kernel
    obtain whole | ⟨kept, rest, -, hkept, ⟨g, hg, inString⟩, reason⟩ :=
      (statement_lines_lose_only_string_text slashed_read first).2 _ _ place
    · have shortened : Line.uncomment backslashLine ≠ backslashLine := by decide +kernel
      exact absurd whole shortened
    · obtain ⟨quote, escaped, inside⟩ | ends := reason
      · exact absurd (starts.symm.trans inside) (by simp)
      · exact ⟨kept, g, hkept, hg, inString, ends⟩
  · have place : stripComments slashedSource =
        slashedSource.take 49 ++ quotesLine ++ slashedSource.drop 68 := by
      decide +kernel
    have starts : stateAt slashedSource 49 = .code := by decide +kernel
    have plain : plainFrom .code ' ' quotesLine = true := by decide +kernel
    obtain whole | ⟨kept, rest, hsplit, -, -, reason⟩ :=
      (statement_lines_lose_only_string_text slashed_read second).2 _ _ place
    · exact whole
    · rw [hsplit] at plain
      obtain ⟨quote, escaped, inside⟩ | ends := reason
      · exact absurd (starts.symm.trans inside) (by simp)
      · exact absurd (Source.plainFrom_of_append plain) (by simp [ends])

/-- Behind a string that ends with an escaped backslash, slashes in a string are taken for a
comment. -/
theorem slashes_behind_backslash_are_cut :
    ¬ ∀ (source : Text) (p : Program) (b : Body) (number : Int) (text : Text),
      ofSource source = .ok p → (number, text) ∈ p.statementLines b →
      Line.uncomment text = text := by
  intro claim
  have whole := claim slashedSource slashed .setup 2 backslashLine slashed_read
    (by decide +kernel)
  have shortened : Line.uncomment backslashLine ≠ backslashLine := by decide +kernel
  exact shortened whole

end Program

end SketchGrader
