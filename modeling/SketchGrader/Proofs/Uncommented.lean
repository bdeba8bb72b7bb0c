import SketchGrader.Proofs.BracketStack
import SketchGrader.Proofs.Script
import SketchGrader.Sketch.Reading

/-!
# Sources without comments

Blanking the comments of a source changes nothing that is read from it. The reading of the blanked
source goes beside the reading of the source itself: inside a string both are in the same state, and
where the source is inside a comment the blanked source reads blanks and line ends as code. A blank
never completes a comment mark with the code in front of it, so no comment comes into being.
-/

namespace SketchGrader

/-- The state in which the same place of the blanked source is read. -/
def ReadState.bare : ReadState → ReadState
  | code | lineComment | blockOpening | block _ => code
  | string quote escaped => string quote escaped

/-- A glyph once comments are blanked. -/
def Glyph.bare (g : Glyph) : Glyph :=
  if g.region = .comment then { g with char := Source.uncommented g, region := .code } else g

namespace Source

theorem uncommented_of_comment {g : Glyph} (h : g.region = .comment) :
    uncommented g = ' ' ∨ uncommented g = '\n' := by
  by_cases hc : g.char = '\n'
  · exact .inr (by simp [uncommented, hc])
  · exact .inl (by simp [uncommented, h, hc])

theorem uncommented_of_not_comment {g : Glyph} (h : g.region ≠ .comment) :
    uncommented g = g.char := by
  simp [uncommented, h]

theorem uncommented_eq_newline {g : Glyph} : uncommented g = '\n' ↔ g.char = '\n' := by
  unfold uncommented
  split_ifs with h
  · exact ⟨fun blank => absurd blank (by decide), fun hc => absurd hc h.2⟩
  · exact Iff.rfl

theorem uncommented_bare (g : Glyph) : uncommented g.bare = uncommented g := by
  unfold Glyph.bare
  split_ifs with h
  · simp [uncommented]
  · rfl

@[simp] theorem bare_char (g : Glyph) : g.bare.char = uncommented g := by
  unfold Glyph.bare
  split_ifs with h
  · rfl
  · exact (uncommented_of_not_comment h).symm

theorem eq_bare (g : Glyph) : ⟨uncommented g, g.bare.region, g.line, g.column⟩ = g.bare := by
  rw [← bare_char]
  unfold Glyph.bare
  split_ifs <;> rfl

theorem bare_of_not_comment {g : Glyph} (h : g.region ≠ .comment) : g.bare = g := if_neg h

/-! ## Places -/

/-- The line of what follows a character. -/
def lineAfter (c : Char) (line : Nat) : Nat := if c = '\n' then line + 1 else line

/-- The column of what follows a character. -/
def columnAfter (c : Char) (column : Nat) : Nat := if c = '\n' then 1 else column + 1

theorem glyphsFrom_cons (state : ReadState) (line column : Nat) (c : Char) (rest : Text) :
    glyphsFrom state line column (c :: rest) =
      ⟨c, (state.step c rest.head?).1, line, column⟩ ::
        glyphsFrom (state.step c rest.head?).2 (lineAfter c line) (columnAfter c column) rest := by
  simp only [glyphsFrom, lineAfter, columnAfter]
  split_ifs <;> rfl

theorem lineAfter_uncommented (g : Glyph) (line : Nat) :
    lineAfter (uncommented g) line = lineAfter g.char line := by
  simp only [lineAfter, uncommented_eq_newline]

theorem columnAfter_uncommented (g : Glyph) (column : Nat) :
    columnAfter (uncommented g) column = columnAfter g.char column := by
  simp only [columnAfter, uncommented_eq_newline]

theorem map_char_glyphsFrom (state : ReadState) (line column : Nat) (t : Text) :
    (glyphsFrom state line column t).map Glyph.char = t := by
  induction t generalizing state line column with
  | nil => rfl
  | cons c rest ih => rw [glyphsFrom_cons, List.map_cons, ih]

/-! ## Reading beside the source -/

/-- What follows a place of the blanked source is what follows it in the source, or a blank. -/
theorem head?_uncommented (state : ReadState) (line column : Nat) (t : Text) :
    ((glyphsFrom state line column t).map uncommented).head? = t.head? ∨
      ((glyphsFrom state line column t).map uncommented).head? = some ' ' := by
  cases t with
  | nil => exact .inl rfl
  | cons c rest =>
      simp only [glyphsFrom, List.map_cons, List.head?_cons, uncommented]
      split_ifs
      · exact .inr rfl
      · exact .inl rfl

/-- One step of the two readings. -/
theorem step_bare (state : ReadState) (c : Char) {next next' : Option Char}
    (follows : next' = next ∨ next' = some ' ') (line column : Nat) :
    let g : Glyph := ⟨c, (state.step c next).1, line, column⟩
    state.bare.step (uncommented g) next' = (g.bare.region, (state.step c next).2.bare) := by
  have blank : ∀ other, ReadState.step .code ' ' other = (.code, .code) := fun _ => rfl
  have lineEnd : ∀ other, ReadState.step .code '\n' other = (.code, .code) := fun _ => rfl
  -- Inside a comment the other side reads a blank or a line end as code.
  have hidden : ∀ g : Glyph, g.region = .comment →
      ReadState.step .code (uncommented g) next' = (g.bare.region, .code) := by
    intro g hg
    have hr : g.bare.region = .code := by simp [Glyph.bare, hg]
    obtain h | h := uncommented_of_comment hg <;> rw [h, hr]
    · exact blank next'
    · exact lineEnd next'
  intro g
  cases state with
  | string quote escaped =>
      have hg : g.region = .string := by
        simp only [g, ReadState.step]
        split_ifs <;> rfl
      have plain : g.region ≠ .comment := by simp [hg]
      rw [bare_of_not_comment plain, uncommented_of_not_comment plain]
      simp only [g, ReadState.bare, ReadState.step]
      split_ifs <;> rfl
  | lineComment =>
      by_cases hc : c = '\n'
      · have plain : g.region ≠ .comment := by simp [g, ReadState.step, hc]
        rw [bare_of_not_comment plain, uncommented_of_not_comment plain]
        simp [g, ReadState.bare, ReadState.step, hc]
      · have hg : g.region = .comment := by simp [g, ReadState.step, hc]
        rw [ReadState.bare, hidden g hg]
        simp [ReadState.bare, ReadState.step, hc]
  | blockOpening => exact hidden g rfl
  | block starred =>
      have hg : g.region = .comment := by
        simp only [g, ReadState.step]
        split_ifs <;> rfl
      rw [ReadState.bare, hidden g hg]
      simp only [ReadState.step]
      split_ifs <;> rfl
  | code =>
      by_cases hg : g.region = .comment
      · rw [ReadState.bare, hidden g hg]
        simp only [g, ReadState.step] at hg ⊢
        split_ifs at hg ⊢ <;> simp_all [ReadState.bare]
      · rw [bare_of_not_comment hg, uncommented_of_not_comment hg]
        simp only [g, ReadState.bare, ReadState.step] at hg ⊢
        obtain rfl | rfl := follows
        · split_ifs at hg ⊢ <;> simp_all
        · split_ifs at hg ⊢ <;> simp_all

/-- Reading the blanked source gives the same glyphs, with blanks in the place of comments. -/
theorem glyphsFrom_bare (state : ReadState) (line column : Nat) (t : Text) :
    glyphsFrom state.bare line column ((glyphsFrom state line column t).map uncommented) =
      (glyphsFrom state line column t).map Glyph.bare := by
  induction t generalizing state line column with
  | nil => rfl
  | cons c rest ih =>
      rw [glyphsFrom_cons, List.map_cons, List.map_cons, glyphsFrom_cons]
      have follows := head?_uncommented (state.step c rest.head?).2 (lineAfter c line)
        (columnAfter c column) rest
      rw [step_bare state c follows line column, lineAfter_uncommented, columnAfter_uncommented, ih,
        eq_bare]

theorem glyphs_stripComments (source : Text) :
    glyphs (stripComments source) = (glyphs source).map Glyph.bare :=
  glyphsFrom_bare .code 1 1 source

@[simp] theorem stripComments_stripComments (source : Text) :
    stripComments (stripComments source) = stripComments source := by
  have same : uncommented ∘ Glyph.bare = uncommented := funext uncommented_bare
  rw [stripComments, glyphs_stripComments, List.map_map, same]
  rfl

/-! ## What the blanked source keeps -/

@[simp] theorem map_char_glyphs (source : Text) : (glyphs source).map Glyph.char = source :=
  map_char_glyphsFrom .code 1 1 source

@[simp] theorem length_stripComments (source : Text) :
    (stripComments source).length = source.length := by
  have h := congrArg List.length (map_char_glyphs source)
  rw [List.length_map] at h
  rw [stripComments, List.length_map, h]

/-- Line ends stand where they stood. -/
theorem getElem?_stripComments_newline (source : Text) (i : Nat) :
    (stripComments source)[i]? = some '\n' ↔ source[i]? = some '\n' := by
  have h : source[i]? = (glyphs source)[i]?.map Glyph.char := by
    rw [← List.getElem?_map, map_char_glyphs]
  rw [h, stripComments, List.getElem?_map]
  cases (glyphs source)[i]? with
  | none => simp
  | some g => simp [uncommented_eq_newline]

theorem count_newline_stripComments (source : Text) :
    (stripComments source).count '\n' = source.count '\n' := by
  have same : (fun g => uncommented g == '\n') = fun g : Glyph => g.char == '\n' := by
    funext g
    rw [Bool.eq_iff_iff, beq_iff_eq, beq_iff_eq]
    exact uncommented_eq_newline
  calc (stripComments source).count '\n' = (glyphs source).countP (fun g => uncommented g == '\n') :=
        List.countP_map
    _ = (glyphs source).countP (fun g => g.char == '\n') := by rw [same]
    _ = ((glyphs source).map Glyph.char).count '\n' := by
        rw [List.count, List.countP_map]
        rfl
    _ = source.count '\n' := by rw [map_char_glyphs]

theorem blank_stripComments {source : Text} (h : ∀ c ∈ source, Text.isBlank c = true) :
    ∀ c ∈ stripComments source, Text.isBlank c = true := by
  intro c hc
  obtain ⟨g, hg, rfl⟩ := List.mem_map.mp hc
  have blank : Text.isBlank g.char = true := by
    apply h
    rw [← map_char_glyphs source]
    exact List.mem_map_of_mem hg
  unfold uncommented
  split_ifs
  · rfl
  · exact blank

end Source

/-! ## What is read from the blanked source -/

namespace Bracket

/-- A blanked comment holds no bracket, and all other glyphs are as before. -/
theorem advance?_bare (stack : List (Glyph × Char)) (g : Glyph) :
    advance? stack g.bare = advance? stack g := by
  by_cases hg : g.region = .comment
  · have quiet : closer? g.bare.char = none ∧ isCloser g.bare.char = false := by
      rw [Source.bare_char]
      obtain h | h := Source.uncommented_of_comment hg <;> rw [h] <;> exact ⟨rfl, rfl⟩
    rw [advance?_pass (fun _ => quiet), advance?_pass (fun code => by simp [hg] at code)]
  · rw [Source.bare_of_not_comment hg]

theorem findFrom_bare (stack : List (Glyph × Char)) (glyphs : List Glyph) :
    findFrom stack (glyphs.map Glyph.bare) = findFrom stack glyphs := by
  induction glyphs generalizing stack with
  | nil => rfl
  | cons g rest ih =>
      rw [List.map_cons]
      cases h : advance? stack g with
      | some stack' =>
          have hbare : advance? stack g.bare = some stack' := by rw [advance?_bare, h]
          rw [findFrom_of_advance h, findFrom_of_advance hbare, ih]
      | none =>
          have plain : g.region ≠ .comment := by
            intro hg
            rw [advance?_pass (fun code => by simp [hg] at code)] at h
            cases h
          obtain ⟨-, -, mistake, -, hm⟩ := stuck_of_misplaced h
          rw [Source.bare_of_not_comment plain, hm, hm]

theorem check_stripComments (source : Text) :
    check (Source.stripComments source) = check source := by
  rw [check, Source.glyphs_stripComments, findFrom_bare]
  rfl

end Bracket

theorem Library.check_stripComments (source : Text) :
    Library.check (Source.stripComments source) = Library.check source := by
  rw [Library.check, Source.stripComments_stripComments]
  rfl

theorem Source.draft_stripComments {source : Text}
    (h : Text.trim (stripComments source) ≠ []) :
    draft (stripComments source) = draft source := by
  have filled : Text.trim source ≠ [] := by
    intro blank
    exact h (Text.trim_eq_nil.mpr (blank_stripComments (Text.trim_eq_nil.mp blank)))
  simp [draft, List.isEmpty_iff, if_neg h, if_neg filled, Bracket.check_stripComments,
    Library.check_stripComments]

namespace Program

theorem read_stripComments {source : Text} (h : Text.trim (Source.stripComments source) ≠ []) :
    read (Source.stripComments source) = read source := by
  rw [read, Source.draft_stripComments h]
  rfl

/-- Comments have no influence on what is read. Blanking them out twice is blanking them out once,
and the brackets are judged alike with and without them. Unless nothing but blanks is left, the
source without its comments is read with the same outcome and the same reports: the same program, or
the same fault in the same place. So two sources that differ in their comments only are read
alike. -/
theorem reading_ignores_comments (source : Text) :
    Source.stripComments (Source.stripComments source) = Source.stripComments source ∧
      Bracket.check (Source.stripComments source) = Bracket.check source ∧
      (Text.trim (Source.stripComments source) ≠ [] →
        read (Source.stripComments source) = read source ∧
          ∀ other, Source.stripComments other = Source.stripComments source →
            read other = read source) := by
  refine ⟨Source.stripComments_stripComments source, Bracket.check_stripComments source, ?_⟩
  intro filled
  refine ⟨read_stripComments filled, ?_⟩
  intro other same
  have filled' : Text.trim (Source.stripComments other) ≠ [] := by rwa [same]
  rw [← read_stripComments filled', same, read_stripComments filled]

/-- Comments with quotes and brackets in them, one that begins with a slash, and the beginning of a
comment in a string. -/
def tangled : Text :=
  ("/*/ \" \x7b */void loop() \x7b // it's\n  say(\"/*\"); /* \x7d */\n\x7d\n").toList

theorem reading_ignores_comments_tangled :
    Source.stripComments tangled =
        ("          void loop() \x7b        \n  say(\"/*\");        \n\x7d\n").toList ∧
      Text.trim (Source.stripComments tangled) ≠ [] ∧
      read (Source.stripComments tangled) = read tangled ∧
      (read tangled).outcome =
        .ok ⟨[], ("        \n  say(\"/*\");        \n").toList, 1, 1, [.setup]⟩ := by
  have filled : Text.trim (Source.stripComments tangled) ≠ [] := by decide +kernel
  obtain ⟨-, -, reading⟩ := reading_ignores_comments tangled
  exact ⟨by decide +kernel, filled, (reading filled).1, by decide +kernel⟩

end Program

end SketchGrader
