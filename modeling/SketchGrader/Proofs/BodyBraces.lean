import SketchGrader.Proofs.SourceLines

/-!
# Bodies between their braces

The bracket check and the cutting out of bodies follow strings in different ways. The check reads a
backslash together with what follows it, and ends a string at the end of the line. The cutting looks
at the character in front of a quote only, and goes on over line ends. As long as every string ends
at a quote without a backslash in front, the two are at the same point of the same string all the
time, and a body is the text between its brace and the brace that belongs to it. A string that ends
with an escaped backslash is where they part.
-/

namespace SketchGrader

/-! ## Two ways to follow strings -/

/-- The open quote after a character, for a reading that knows only the character in front. -/
def Source.quoteAfter (quote : Option Char) (before c : Char) : Option Char :=
  match quote with
  | some q => if c = q ∧ before ≠ '\\' then none else some q
  | none => if c = '"' ∨ c = '\'' then some c else none

/-- The two readings are at the same point: both in code or both in the same string. -/
inductive ReadState.Beside : ReadState → Option Char → Char → Prop
  | code (before : Char) : Beside .code none before
  | string {quote before : Char} {escaped : Bool} :
      quote ≠ '\\' → (escaped = true → before = '\\') →
        Beside (.string quote escaped) (some quote) before

/-- Whether a character does not end a string, or is a quote without a backslash in front. -/
def ReadState.endsPlainly (before c : Char) : ReadState → Bool
  | .string quote false => c != '\n' && (c != quote || before != '\\')
  | _ => true

/-- Whether all strings of a text without comments end at a quote without a backslash in front. -/
def Source.plainFrom (state : ReadState) (before : Char) : Text → Bool
  | [] => true
  | c :: rest => state.endsPlainly before c && plainFrom (state.step c none).2 c rest

theorem Source.plainFrom_of_append {state : ReadState} {before : Char} {t more : Text}
    (h : plainFrom state before (t ++ more) = true) : plainFrom state before t = true := by
  induction t generalizing state before with
  | nil => rfl
  | cons c rest ih =>
      rw [List.cons_append, plainFrom, Bool.and_eq_true] at h
      rw [plainFrom, Bool.and_eq_true]
      exact ⟨h.1, ih h.2⟩

namespace ReadState

theorem step_quote {c : Char} (hc : c = '"' ∨ c = '\'') (next : Option Char) :
    step .code c next = (.string, .string c false) := by
  obtain rfl | rfl := hc <;> rfl

/-- Code that is neither a quote nor part of a comment leaves the reading in code. -/
theorem step_code {c : Char} {next : Option Char} (hc : ¬(c = '"' ∨ c = '\''))
    (plain : (step .code c next).1 ≠ .comment) : step .code c next = (.code, .code) := by
  simp only [step] at plain ⊢
  split_ifs at plain ⊢ with h₁ h₂ h₃
  · exact absurd rfl plain
  · exact absurd rfl plain
  · exact absurd (by simpa using h₃) hc
  · rfl

theorem step_string_end {q c : Char} (hback : c ≠ '\\') (hend : c = q ∨ c = '\n')
    (next : Option Char) : step (.string q false) c next = (.string, .code) := by
  simp [step, hback, hend]

theorem step_string_on {q c : Char} (hback : c ≠ '\\') (hend : ¬(c = q ∨ c = '\n'))
    (next : Option Char) : step (.string q false) c next = (.string, .string q false) := by
  simp [step, hback, hend]

/-- Behind a character of the code the reading is in code. -/
theorem step_behind_code {state : ReadState} {c : Char} {next : Option Char}
    (h : (state.step c next).1 = .code) : (state.step c next).2 = .code := by
  cases state with
  | code =>
      simp only [step] at h ⊢
      split_ifs at h ⊢
      rfl
  | string q escaped =>
      simp only [step] at h
      split_ifs at h
  | lineComment =>
      simp only [step] at h ⊢
      split_ifs at h ⊢
      rfl
  | blockOpening => cases h
  | block starred =>
      simp only [step] at h
      split_ifs at h

theorem step_string_region (q c : Char) (escaped : Bool) (next : Option Char) :
    (step (.string q escaped) c next).1 = .string := by
  simp only [step]
  split_ifs <;> rfl

theorem Beside.step_region {state : ReadState} {quote : Option Char} {before c : Char}
    (h : state.Beside quote before) (hs : quote.isSome ∨ c = '"' ∨ c = '\'') (next : Option Char) :
    (state.step c next).1 = .string := by
  cases h with
  | code =>
      have hc : c = '"' ∨ c = '\'' := hs.resolve_left (by simp)
      rw [step_quote hc]
  | string => exact step_string_region _ c _ next

/-- Outside of comments the next character makes no difference. -/
theorem step_none {state : ReadState} {quote : Option Char} {before c : Char} {next : Option Char}
    (h : state.Beside quote before) (plain : (state.step c next).1 ≠ .comment) :
    state.step c none = state.step c next := by
  cases h with
  | code =>
      by_cases hc : c = '"' ∨ c = '\''
      · rw [step_quote hc, step_quote hc]
      · rw [step_code hc plain]
        simp only [not_or] at hc
        simp [step, hc]
  | string => rfl

/-- The two readings stay at the same point. -/
theorem Beside.step {state : ReadState} {quote : Option Char} {before c : Char}
    {next : Option Char} (h : state.Beside quote before)
    (plain : (state.step c next).1 ≠ .comment) (ends : state.endsPlainly before c = true) :
    (state.step c next).2.Beside (Source.quoteAfter quote before c) c := by
  cases h with
  | code =>
      by_cases hc : c = '"' ∨ c = '\''
      · rw [step_quote hc, Source.quoteAfter, if_pos hc]
        refine .string ?_ nofun
        obtain rfl | rfl := hc <;> decide
      · rw [step_code hc plain, Source.quoteAfter, if_neg hc]
        exact .code c
  | @string q before escaped hq hescaped =>
      cases escaped with
      | true =>
          have behind : ¬(c = q ∧ before ≠ '\\') := fun h => h.2 (hescaped rfl)
          rw [Source.quoteAfter, if_neg behind]
          exact .string hq nofun
      | false =>
          simp only [endsPlainly, Bool.and_eq_true, bne_iff_ne, ne_eq, Bool.or_eq_true] at ends
          obtain ⟨hline, hquote⟩ := ends
          by_cases hback : c = '\\'
          · have stays : ¬(c = q ∧ before ≠ '\\') := fun h => hq (h.1 ▸ hback)
            rw [Source.quoteAfter, if_neg stays, hback]
            exact .string hq fun _ => rfl
          · by_cases hend : c = q
            · have closes : c = q ∧ before ≠ '\\' := ⟨hend, hquote.resolve_left fun h => h hend⟩
              rw [Source.quoteAfter, if_pos closes, step_string_end hback (.inl hend)]
              exact .code c
            · have stays : ¬(c = q ∧ before ≠ '\\') := fun h => hend h.1
              have goesOn : ¬(c = q ∨ c = '\n') := not_or.mpr ⟨hend, hline⟩
              rw [Source.quoteAfter, if_neg stays, step_string_on hback goesOn]
              exact .string hq nofun

end ReadState

/-! ## Depth and stack -/

namespace Bracket

/-- The number of braces among open brackets. -/
def braces (stack : List (Glyph × Char)) : Nat := stack.countP fun entry => entry.2 == '}'

theorem closer?_eq_brace {c : Char} : closer? c = some '}' ↔ c = '{' := by
  constructor
  · intro h
    unfold closer? at h
    split_ifs at h with h₁ h₂ h₃
    · exact beq_iff_eq.mp h₁
    · exact absurd (Option.some.inj h) (by decide)
    · exact absurd (Option.some.inj h) (by decide)
  · rintro rfl
    rfl

/-- The depth of braces above an entry follows the braces of the code. -/
theorem braces_advance {above above' stack : List (Glyph × Char)} {entry : Glyph × Char}
    {g : Glyph} (code : g.region = .code)
    (h : advance? (above ++ entry :: stack) g = some (above' ++ entry :: stack)) :
    (g.char = '{' → braces above' = braces above + 1) ∧
      (g.char = '}' → braces above = braces above' + 1) ∧
      (g.char ≠ '{' → g.char ≠ '}' → braces above' = braces above) := by
  obtain ⟨c, -, hc, hstack⟩ | ⟨opener, -, hc, hstack⟩ | ⟨idle, hstack⟩ := advance?_cases h
  · have habove : above' = (g, c) :: above := List.append_cancel_right hstack
    have hclose := isCloser_eq_false hc
    subst habove
    refine ⟨?_, ?_, ?_⟩
    · intro hg
      obtain rfl : c = '}' := by
        rw [closer?_eq_brace.mpr hg] at hc
        exact (Option.some.inj hc).symm
      exact List.countP_cons_of_pos rfl
    · intro hg
      rw [hg] at hclose
      cases hclose
    · intro hg _
      have other : c ≠ '}' := fun hbrace => hg (closer?_eq_brace.mp (hbrace ▸ hc))
      exact List.countP_cons_of_neg (by simpa using other)
  · have habove : above = (opener, g.char) :: above' := List.append_cancel_right hstack
    subst habove
    refine ⟨?_, ?_, ?_⟩
    · intro hg
      rw [hg] at hc
      cases hc
    · intro hg
      exact List.countP_cons_of_pos (by simp [hg])
    · intro _ hg
      exact (List.countP_cons_of_neg (by simpa using hg)).symm
  · have habove : above' = above := List.append_cancel_right hstack
    obtain ⟨hopen, hclose⟩ := idle code
    subst habove
    refine ⟨?_, ?_, fun _ _ => rfl⟩
    · intro hg
      rw [hg] at hopen
      cases hopen
    · intro hg
      rw [hg] at hclose
      cases hclose

theorem ClosedBy.of_cons {entry : Glyph × Char} {above stack : List (Glyph × Char)} {g closer : Glyph}
    {inside : List Glyph}
    (h : ClosedBy entry stack (above ++ entry :: stack) (g :: inside) closer) :
    ∃ above', advance? (above ++ entry :: stack) g = some (above' ++ entry :: stack) ∧
      ClosedBy entry stack (above' ++ entry :: stack) inside closer := by
  obtain ⟨above', hg⟩ := h.stays [g] (by simp)
  have hg : advance? (above ++ entry :: stack) g = some (above' ++ entry :: stack) := by
    simpa using hg
  refine ⟨above', hg, ?_, ?_, h.closes⟩
  · intro part hpart
    obtain ⟨above'', hp⟩ := h.stays (g :: part) (List.cons_prefix_cons.mpr ⟨rfl, hpart⟩)
    rw [List.foldlM_cons, hg] at hp
    exact ⟨above'', hp⟩
  · have hu := h.uncovers
    rw [List.foldlM_cons, hg] at hu
    exact hu

end Bracket

/-! ## The text of a block -/

namespace Source

open SketchGrader.Bracket

theorem blockText_of_string {quote : Option Char} {c : Char}
    (h : quote.isSome ∨ c = '"' ∨ c = '\'') (depth : Nat) (before : Char) (rest : Text) :
    blockText depth quote before (c :: rest) =
      c :: blockText depth (quoteAfter quote before c) c rest := by
  cases quote with
  | some q =>
      by_cases hq : c = q ∧ before ≠ '\\'
      · simp [blockText, quoteAfter, hq]
      · simp only [blockText, quoteAfter, if_neg hq]
        rw [if_neg (by simpa using hq)]
  | none =>
      have hc : c = '"' ∨ c = '\'' := h.resolve_left (by simp)
      simp [blockText, quoteAfter, hc]

theorem blockText_of_code {c : Char} (h : ¬(c = '"' ∨ c = '\'')) (depth : Nat) (before : Char)
    (rest : Text) :
    blockText depth none before (c :: rest) =
      if c = '{' then c :: blockText (depth + 1) none c rest
      else if c = '}' then
        if depth ≤ 1 then [] else c :: blockText (depth - 1) none c rest
      else c :: blockText depth none c rest := by
  simp [blockText, h]

/-- Where strings end plainly, the block that is cut out goes up to the brace that takes away what
its own brace put on the stack. The induction is on the glyphs in front of that brace; the depth is
the number of braces above the entry. -/
theorem blockText_eq_inside {inside after : List Glyph} {closer : Glyph} {entry : Glyph × Char}
    {stack above : List (Glyph × Char)} {state : ReadState} {quote : Option Char} {before : Char}
    {line column : Nat} {t : Text} (brace : entry.2 = '}') (beside : state.Beside quote before)
    (ht : glyphsFrom state line column t = inside ++ closer :: after)
    (bare : ∀ g ∈ inside, g.region ≠ .comment)
    (closed : ClosedBy entry stack (above ++ entry :: stack) inside closer)
    (plain : plainFrom state before (inside.map Glyph.char) = true) :
    blockText (braces above + 1) quote before t = inside.map Glyph.char := by
  induction inside generalizing state quote before line column t above with
  | nil =>
      cases t with
      | nil => cases ht
      | cons c rest =>
          rw [glyphsFrom_cons] at ht
          obtain ⟨hcloser, -⟩ := List.cons.inj ht
          obtain ⟨code, -, hchar⟩ := closer_of_closes closed.closes
          rw [← hcloser] at code hchar
          cases beside with
          | string hq hescaped =>
              rw [ReadState.step_string_region] at code
              cases code
          | code =>
              have top : above = [] := by
                have hstart := closed.uncovers
                simpa using hstart
              have hc : c = '}' := hchar.trans brace
              subst hc top
              rfl
  | cons g inside ih =>
      cases t with
      | nil => cases ht
      | cons c rest =>
          rw [glyphsFrom_cons] at ht
          obtain ⟨hg, ht⟩ := List.cons.inj ht
          obtain ⟨above', hadvance, closed'⟩ := closed.of_cons
          have hregion : (state.step c rest.head?).1 = g.region := by rw [← hg]
          have hchar : g.char = c := by rw [← hg]
          have uncommented : (state.step c rest.head?).1 ≠ .comment := by
            rw [hregion]
            exact bare g List.mem_cons_self
          have bare' : ∀ g ∈ inside, g.region ≠ .comment :=
            fun g hg => bare g (List.mem_cons_of_mem _ hg)
          rw [List.map_cons, plainFrom, Bool.and_eq_true, hchar] at plain
          obtain ⟨ends, plain⟩ := plain
          rw [ReadState.step_none beside uncommented] at plain
          have goesOn := ih (beside.step uncommented ends) ht bare' closed' plain
          rw [List.map_cons, hchar]
          by_cases hs : quote.isSome ∨ c = '"' ∨ c = '\''
          · have string : g.region = .string := by rw [← hregion, beside.step_region hs]
            have same : above' = above := by
              rw [advance?_pass (fun code => by rw [string] at code; cases code)] at hadvance
              exact (List.append_cancel_right (Option.some.inj hadvance)).symm
            rw [blockText_of_string hs, ← same, goesOn]
          · obtain ⟨hquote, hc⟩ := not_or.mp hs
            cases beside with
            | string hq hescaped => exact absurd rfl hquote
            | code =>
                have code : g.region = .code := by rw [← hregion, ReadState.step_code hc uncommented]
                obtain ⟨deeper, shallower, level⟩ := braces_advance code hadvance
                rw [hchar] at deeper shallower level
                rw [quoteAfter, if_neg hc] at goesOn
                rw [blockText_of_code hc]
                split_ifs with hopen hclose hdepth
                · rw [← deeper hopen, goesOn]
                · have := shallower hclose
                  omega
                · rw [shallower hclose, Nat.add_sub_cancel, goesOn]
                · rw [← level hopen hclose, goesOn]

/-- What follows a glyph of the code is read from code. -/
theorem glyphsFrom_behind {front behind : List Glyph} {g : Glyph} {state : ReadState}
    {line column : Nat} {t : Text} (h : glyphsFrom state line column t = front ++ g :: behind)
    (code : g.region = .code) :
    ∃ line' column', behind = glyphsFrom .code line' column' (behind.map Glyph.char) := by
  induction front generalizing state line column t with
  | nil =>
      cases t with
      | nil => cases h
      | cons c rest =>
          rw [glyphsFrom_cons] at h
          obtain ⟨hg, hbehind⟩ := List.cons.inj h
          rw [← hg] at code
          rw [ReadState.step_behind_code code] at hbehind
          refine ⟨lineAfter c line, columnAfter c column, ?_⟩
          rw [← hbehind, map_char_glyphsFrom]
  | cons first front ih =>
      cases t with
      | nil => cases h
      | cons c rest =>
          rw [glyphsFrom_cons] at h
          exact ih (List.cons.inj h).2

/-- In front of a rest of the blanked source of the same length stands the same glyph. -/
theorem brace_of_header {source rest : Text} {b : Body} {front behind : List Glyph} {brace : Glyph}
    (found : Text.findWord (header? b) none (stripComments source) = some ((), rest))
    (place : glyphs source = front ++ brace :: behind) (aligned : behind.length = rest.length) :
    uncommented brace = '{' ∧ behind.map uncommented = rest := by
  obtain ⟨ahead, hahead⟩ := findWord_header found
  have split : stripComments source =
      front.map uncommented ++ uncommented brace :: behind.map uncommented := by
    rw [stripComments, place, List.map_append, List.map_cons]
  have same := List.append_inj' (hahead.trans split) (by simp [aligned])
  obtain ⟨hbrace, hrest⟩ := List.cons.inj same.2
  exact ⟨hbrace.symm, hrest.symm⟩

end Source

namespace Bracket

theorem foldlM_bare (glyphs : List Glyph) (stack : List (Glyph × Char)) :
    (glyphs.map Glyph.bare).foldlM advance? stack = glyphs.foldlM advance? stack := by
  rw [List.foldlM_map]
  congr
  funext stack g
  exact advance?_bare stack g

theorem ClosedBy.bare {entry : Glyph × Char} {stack start : List (Glyph × Char)}
    {inside : List Glyph} {closer : Glyph} (h : ClosedBy entry stack start inside closer) :
    ClosedBy entry stack start (inside.map Glyph.bare) closer.bare where
  stays := by
    intro part hpart
    obtain ⟨part', hpart', rfl⟩ := List.prefix_map_iff.mp hpart
    rw [foldlM_bare]
    exact h.stays part' hpart'
  uncovers := by
    rw [foldlM_bare]
    exact h.uncovers
  closes := by
    rw [advance?_bare]
    exact h.closes

end Bracket

namespace Source

open SketchGrader.Bracket

theorem bare_region (g : Glyph) : g.bare.region ≠ .comment := by
  unfold Glyph.bare
  split_ifs with h
  · simp
  · exact h

/-- In a source with balanced brackets, the opening brace of a body that stands in the code has a
closing brace that belongs to it. If every string in between ends at a quote without a backslash in
front, and none at a line end, then the body that is cut out is exactly the text between the two
braces. -/
theorem body_between_paired_braces {source rest : Text} {b : Body} {front behind : List Glyph}
    {brace : Glyph} (balanced : Bracket.check source = .ok ())
    (found : Text.findWord (header? b) none (stripComments source) = some ((), rest))
    (place : glyphs source = front ++ brace :: behind) (aligned : behind.length = rest.length)
    (code : brace.region = .code) :
    ∃ stack, front.foldlM advance? [] = some stack ∧
      (∃ inside closer after, behind = inside ++ closer :: after ∧
        Pairs stack brace inside closer) ∧
      ∀ inside closer after, behind = inside ++ closer :: after →
        Pairs stack brace inside closer →
        closer.char = '}' ∧
          (plainFrom .code '{' (inside.map uncommented) = true →
            (body? b (stripComments source)).map Prod.fst = some (inside.map uncommented)) := by
  obtain ⟨hbrace, hrest⟩ := brace_of_header found place aligned
  have plainBrace : brace.region ≠ .comment := by simp [code]
  have hopen : closer? brace.char = some '}' := by
    rw [← uncommented_of_not_comment plainBrace, hbrace]
    rfl
  rw [check_eq_ok, place] at balanced
  obtain ⟨stack, inside₀, closer₀, after₀, hfront, hbehind₀, pairs₀⟩ :=
    exists_pairs balanced code hopen
  refine ⟨stack, hfront, ⟨inside₀, closer₀, after₀, hbehind₀, pairs₀⟩, ?_⟩
  intro inside closer after hbehind pairs
  have hchar : closer.char = '}' := by
    have hopens := pairs.opens
    rw [advance?_open code hopen] at hopens
    simpa using hopens.symm
  refine ⟨hchar, ?_⟩
  intro plain
  have bareSplit : glyphs (stripComments source) =
      front.map Glyph.bare ++ brace :: behind.map Glyph.bare := by
    rw [glyphs_stripComments, place, List.map_append, List.map_cons,
      bare_of_not_comment plainBrace]
  obtain ⟨line, column, hglyphs⟩ := glyphsFrom_behind bareSplit code
  have chars : ∀ glyphs : List Glyph,
      (glyphs.map Glyph.bare).map Glyph.char = glyphs.map uncommented := by
    intro glyphs
    rw [List.map_map]
    exact List.map_congr_left fun g _ => bare_char g
  rw [chars, hrest, hbehind, List.map_append, List.map_cons] at hglyphs
  have closed : ClosedBy (brace, closer.char) stack ([] ++ (brace, closer.char) :: stack)
      (inside.map Glyph.bare) closer.bare := pairs.closed.bare
  have uncommentedInside : ∀ g ∈ inside.map Glyph.bare, g.region ≠ .comment := by
    intro g hg
    obtain ⟨g', -, rfl⟩ := List.mem_map.mp hg
    exact bare_region g'
  have text := blockText_eq_inside hchar (.code '{') hglyphs.symm uncommentedInside closed
    (by rwa [chars])
  rw [chars] at text
  rw [body?, found, Option.map_some, Option.map_some]
  exact congrArg some text

/-- A body with an escaped quote and a brace in a string, and with a block of its own. -/
def quotedBrace : Text :=
  ("void loop() \x7b\n  say(\"a \\\" \x7d\");\n  if (x) \x7b delay(5); \x7d\n\x7d\n").toList

theorem body_between_paired_braces_quoted :
    ∃ stack inside closer after,
      glyphs quotedBrace =
        (glyphs quotedBrace).take 12 ++ ⟨'{', .code, 1, 13⟩ :: (inside ++ closer :: after) ∧
      Pairs stack ⟨'{', .code, 1, 13⟩ inside closer ∧
      inside.map uncommented =
        ("\n  say(\"a \\\" \x7d\");\n  if (x) \x7b delay(5); \x7d\n").toList ∧
      (body? .loop (stripComments quotedBrace)).map Prod.fst = some (inside.map uncommented) := by
  have place : glyphs quotedBrace =
      (glyphs quotedBrace).take 12 ++ ⟨'{', .code, 1, 13⟩ :: (glyphs quotedBrace).drop 13 := by
    decide +kernel
  have found : Text.findWord (header? .loop) none (stripComments quotedBrace) =
      some ((), quotedBrace.drop 13) := by
    decide +kernel
  obtain ⟨stack, -, ⟨inside, closer, after, hbehind, pairs⟩, between⟩ :=
    body_between_paired_braces (by decide +kernel) found place (by decide +kernel) rfl
  have plain : plainFrom .code '{' (((glyphs quotedBrace).drop 13).map uncommented) = true := by
    decide +kernel
  rw [hbehind, List.map_append] at plain
  have body := (between inside closer after hbehind pairs).2 (plainFrom_of_append plain)
  have text : (body? .loop (stripComments quotedBrace)).map Prod.fst =
      some ("\n  say(\"a \\\" \x7d\");\n  if (x) \x7b delay(5); \x7d\n").toList := by
    decide +kernel
  refine ⟨stack, inside, closer, after, hbehind ▸ place, pairs, ?_, body⟩
  exact Option.some.inj (body.symm.trans text)

/-- A body with the character constant of a backslash. -/
def backslash : Text := ("void setup() \x7b\n  char c = '\\\\';\n\x7d\n").toList

/-- Without a condition on strings a body may run past its closing brace: the constant ends at a
quote with a backslash in front, so that the rest of the source is taken for a string. -/
theorem body_not_between_paired_braces :
    ¬ ∀ (source rest : Text) (b : Body) (front behind : List Glyph) (brace : Glyph),
      Bracket.check source = .ok () →
      Text.findWord (header? b) none (stripComments source) = some ((), rest) →
      glyphs source = front ++ brace :: behind → behind.length = rest.length →
      brace.region = .code →
      ∃ stack inside closer after, front.foldlM advance? [] = some stack ∧
        behind = inside ++ closer :: after ∧ Pairs stack brace inside closer ∧
        (body? b (stripComments source)).map Prod.fst = some (inside.map uncommented) := by
  intro claim
  have place : glyphs backslash =
      (glyphs backslash).take 13 ++ ⟨'{', .code, 1, 14⟩ :: (glyphs backslash).drop 14 := by
    decide +kernel
  have found : Text.findWord (header? .setup) none (stripComments backslash) =
      some ((), backslash.drop 14) := by
    decide +kernel
  have aligned : ((glyphs backslash).drop 14).length = (backslash.drop 14).length := by
    decide +kernel
  obtain ⟨stack, inside, closer, after, -, hbehind, -, hbody⟩ :=
    claim backslash (backslash.drop 14) .setup _ _ _ (by decide +kernel) found place aligned rfl
  have whole : (body? .setup (stripComments backslash)).map Prod.fst =
      some (backslash.drop 14) := by
    decide +kernel
  rw [whole, Option.some.injEq] at hbody
  rw [hbehind, hbody, List.length_append, List.length_cons, List.length_map] at aligned
  omega

end Source

end SketchGrader
