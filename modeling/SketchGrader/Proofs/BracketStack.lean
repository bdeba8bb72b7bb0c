import Mathlib.Data.List.Basic
import SketchGrader.Sketch.Bracket

/-!
# The stack of open brackets

The bracket check goes through the glyphs of a source with a stack of open brackets. Here one step
of it is a function on stacks, and the check accepts a source exactly if the steps take the empty
stack to the empty stack. Two brackets belong together if the second takes away what the first put
on the stack.
-/

namespace SketchGrader.Bracket

/-- The open brackets after a glyph, or nothing if the glyph is a misplaced bracket. -/
def advance? (stack : List (Glyph × Char)) (g : Glyph) : Option (List (Glyph × Char)) :=
  if g.region = .code then
    match closer? g.char with
    | some c => some ((g, c) :: stack)
    | none =>
      if isCloser g.char then
        match stack with
        | [] => none
        | (_, expected) :: outer => if g.char = expected then some outer else none
      else some stack
  else some stack

theorem closer?_eq_some {opener closer : Char} (h : closer? opener = some closer) :
    (opener = '{' ∧ closer = '}') ∨ (opener = '(' ∧ closer = ')') ∨
      (opener = '[' ∧ closer = ']') := by
  unfold closer? at h
  split_ifs at h with curly round square
  · exact .inl ⟨beq_iff_eq.mp curly, (Option.some.inj h).symm⟩
  · exact .inr (.inl ⟨beq_iff_eq.mp round, (Option.some.inj h).symm⟩)
  · exact .inr (.inr ⟨beq_iff_eq.mp square, (Option.some.inj h).symm⟩)

theorem isCloser_eq_false {c d : Char} (h : closer? c = some d) : isCloser c = false := by
  obtain ⟨rfl, -⟩ | ⟨rfl, -⟩ | ⟨rfl, -⟩ := closer?_eq_some h <;> rfl

theorem closer?_eq_none {c : Char} (h : isCloser c = true) : closer? c = none := by
  cases hc : closer? c with
  | none => rfl
  | some d =>
      rw [isCloser_eq_false hc] at h
      cases h

theorem advance?_open {g : Glyph} {c : Char} (code : g.region = .code)
    (h : closer? g.char = some c) (stack : List (Glyph × Char)) :
    advance? stack g = some ((g, c) :: stack) := by
  simp only [advance?, if_pos code, h]

theorem advance?_close {g : Glyph} (code : g.region = .code) (h : isCloser g.char = true)
    (top : Glyph × Char) (outer : List (Glyph × Char)) :
    advance? (top :: outer) g = if g.char = top.2 then some outer else none := by
  simp only [advance?, if_pos code, closer?_eq_none h, if_pos h]

theorem advance?_pass {g : Glyph}
    (h : g.region = .code → closer? g.char = none ∧ isCloser g.char = false)
    (stack : List (Glyph × Char)) : advance? stack g = some stack := by
  by_cases code : g.region = .code
  · obtain ⟨hopen, hclose⟩ := h code
    simp only [advance?, if_pos code, hopen, hclose, Bool.false_eq_true, if_false]
  · exact if_neg code

/-- What a glyph is to the check: an opening bracket, a closing bracket, or nothing. -/
theorem glyph_cases (g : Glyph) :
    (∃ c, g.region = .code ∧ closer? g.char = some c) ∨
      (g.region = .code ∧ isCloser g.char = true) ∨
      (g.region = .code → closer? g.char = none ∧ isCloser g.char = false) := by
  by_cases code : g.region = .code
  · cases hopen : closer? g.char with
    | some c => exact .inl ⟨c, code, rfl⟩
    | none =>
        cases hclose : isCloser g.char with
        | true => exact .inr (.inl ⟨code, rfl⟩)
        | false => exact .inr (.inr fun _ => ⟨rfl, rfl⟩)
  · exact .inr (.inr fun h => absurd h code)

/-- What a glyph can do to the stack: open a bracket, close the innermost one, or nothing. -/
theorem advance?_cases {stack stack' : List (Glyph × Char)} {g : Glyph}
    (h : advance? stack g = some stack') :
    (∃ c, g.region = .code ∧ closer? g.char = some c ∧ stack' = (g, c) :: stack) ∨
      (∃ opener, g.region = .code ∧ isCloser g.char = true ∧
        stack = (opener, g.char) :: stack') ∨
      ((g.region = .code → closer? g.char = none ∧ isCloser g.char = false) ∧ stack' = stack) := by
  obtain ⟨c, code, hc⟩ | ⟨code, hc⟩ | idle := glyph_cases g
  · rw [advance?_open code hc] at h
    exact .inl ⟨c, code, hc, (Option.some.inj h).symm⟩
  · cases stack with
    | nil => simp [advance?, code, closer?_eq_none hc, hc] at h
    | cons top outer =>
        rw [advance?_close code hc] at h
        split_ifs at h with same
        cases h
        exact .inr (.inl ⟨top.1, code, hc, by rw [same]⟩)
  · rw [advance?_pass idle] at h
    exact .inr (.inr ⟨idle, (Option.some.inj h).symm⟩)

/-! ## The check goes by the stack -/

theorem findFrom_of_advance {stack stack' : List (Glyph × Char)} {g : Glyph}
    (h : advance? stack g = some stack') (rest : List Glyph) :
    findFrom stack (g :: rest) = findFrom stack' rest := by
  obtain ⟨c, code, hc, rfl⟩ | ⟨opener, code, hc, rfl⟩ | ⟨idle, rfl⟩ := advance?_cases h
  · cases stack <;> simp [findFrom, code, hc]
  · simp [findFrom, code, closer?_eq_none hc, hc]
  · by_cases code : g.region = .code
    · obtain ⟨hopen, hclose⟩ := idle code
      cases stack' <;> simp [findFrom, code, hopen, hclose]
    · cases stack' <;> simp [findFrom, code]

/-- A closing bracket that does not close the innermost open one, and what is wrong with it. -/
inductive Stuck (stack : List (Glyph × Char)) (g : Glyph) : BracketMistake → Prop
  | extra : stack = [] → Stuck stack g (.extraCloser g.char)
  | wrong {opener : Glyph} {expected : Char} {outer : List (Glyph × Char)} :
      stack = (opener, expected) :: outer → g.char ≠ expected →
        Stuck stack g (.wrongCloser expected g.char)

theorem stuck_of_misplaced {stack : List (Glyph × Char)} {g : Glyph}
    (h : advance? stack g = none) :
    g.region = .code ∧ isCloser g.char = true ∧
      ∃ mistake, Stuck stack g mistake ∧
        ∀ rest, findFrom stack (g :: rest) = some ⟨mistake, g⟩ := by
  obtain ⟨c, code, hc⟩ | ⟨code, hc⟩ | idle := glyph_cases g
  · rw [advance?_open code hc] at h
    cases h
  · have hopen := closer?_eq_none hc
    refine ⟨code, hc, ?_⟩
    cases stack with
    | nil => exact ⟨_, .extra rfl, fun rest => by simp [findFrom, code, hopen, hc]⟩
    | cons top outer =>
        rw [advance?_close code hc] at h
        split_ifs at h with same
        exact ⟨_, .wrong rfl same, fun rest => by simp [findFrom, code, hopen, hc, same]⟩
  · rw [advance?_pass idle] at h
    cases h

/-- No bracket is misplaced exactly if all glyphs can be taken and leave nothing open. -/
theorem findFrom_eq_none {stack : List (Glyph × Char)} {glyphs : List Glyph} :
    findFrom stack glyphs = none ↔ glyphs.foldlM advance? stack = some [] := by
  induction glyphs generalizing stack with
  | nil => cases stack <;> simp [findFrom]
  | cons g rest ih =>
      rw [List.foldlM_cons]
      cases h : advance? stack g with
      | some stack' =>
          rw [findFrom_of_advance h, ih]
          rfl
      | none =>
          obtain ⟨-, -, mistake, -, hm⟩ := stuck_of_misplaced h
          simp [hm rest]

theorem check_eq_ok {source : Text} :
    check source = .ok () ↔ (Source.glyphs source).foldlM advance? [] = some [] := by
  rw [← findFrom_eq_none, check]
  cases findFrom [] (Source.glyphs source) <;> simp

/-! ## Pairs -/

/-- From the brackets `start` on, the glyphs `inside` leave `entry` with all below it on the stack,
and `closer` is the bracket that takes `entry` away. -/
structure ClosedBy (entry : Glyph × Char) (stack start : List (Glyph × Char))
    (inside : List Glyph) (closer : Glyph) : Prop where
  stays : ∀ part, part <+: inside →
    ∃ above, part.foldlM advance? start = some (above ++ entry :: stack)
  uncovers : inside.foldlM advance? start = some (entry :: stack)
  closes : advance? (entry :: stack) closer = some stack

/-- With the brackets of `stack` open, `opener` and the `closer` behind the glyphs `inside` belong
together: `closer` takes away what `opener` puts on the stack. -/
structure Pairs (stack : List (Glyph × Char)) (opener : Glyph) (inside : List Glyph)
    (closer : Glyph) : Prop where
  opens : advance? stack opener = some ((opener, closer.char) :: stack)
  closed : ClosedBy (opener, closer.char) stack ((opener, closer.char) :: stack) inside closer

theorem closer_of_closes {entry : Glyph × Char} {stack : List (Glyph × Char)} {closer : Glyph}
    (h : advance? (entry :: stack) closer = some stack) :
    closer.region = .code ∧ isCloser closer.char = true ∧ closer.char = entry.2 := by
  obtain ⟨c, -, -, hs⟩ | ⟨opener, code, hc, hs⟩ | ⟨-, hs⟩ := advance?_cases h
  · have longer := congrArg List.length hs
    simp only [List.length_cons] at longer
    omega
  · obtain ⟨rfl, -⟩ := List.cons.inj hs
    exact ⟨code, hc, rfl⟩
  · have longer := congrArg List.length hs
    simp only [List.length_cons] at longer
    omega

theorem ClosedBy.cons {entry : Glyph × Char} {stack start next : List (Glyph × Char)}
    {inside : List Glyph} {closer g : Glyph} (h : ClosedBy entry stack next inside closer)
    (hg : advance? start g = some next)
    (there : ∃ above, start = above ++ entry :: stack) :
    ClosedBy entry stack start (g :: inside) closer where
  stays := by
    intro part hpart
    obtain rfl | ⟨part', rfl, hpart'⟩ := List.prefix_cons_iff.mp hpart
    · obtain ⟨above, rfl⟩ := there
      exact ⟨above, rfl⟩
    · obtain ⟨above, hp⟩ := h.stays part' hpart'
      exact ⟨above, by rw [List.foldlM_cons, hg]; exact hp⟩
  uncovers := by
    rw [List.foldlM_cons, hg]
    exact h.uncovers
  closes := h.closes

/-- What is on the stack is taken away in the end, if nothing is left open. -/
theorem exists_closedBy {glyphs : List Glyph} {stack : List (Glyph × Char)}
    {entry : Glyph × Char} (above : List (Glyph × Char))
    (h : glyphs.foldlM advance? (above ++ entry :: stack) = some []) :
    ∃ inside closer after, glyphs = inside ++ closer :: after ∧
      ClosedBy entry stack (above ++ entry :: stack) inside closer := by
  induction glyphs generalizing above with
  | nil => simp at h
  | cons g rest ih =>
      rw [List.foldlM_cons] at h
      obtain ⟨next, hg, h⟩ := Option.bind_eq_some_iff.mp h
      -- Unless the glyph closes the entry itself, the entry is still there behind it.
      have goesOn : ∀ above', next = above' ++ entry :: stack →
          ∃ inside closer after, g :: rest = inside ++ closer :: after ∧
            ClosedBy entry stack (above ++ entry :: stack) inside closer := by
        rintro above' rfl
        obtain ⟨inside, closer, after, rfl, closed⟩ := ih above' h
        exact ⟨g :: inside, closer, after, rfl, closed.cons hg ⟨above, rfl⟩⟩
      obtain ⟨c, -, -, rfl⟩ | ⟨opener, -, -, hstack⟩ | ⟨-, rfl⟩ := advance?_cases hg
      · exact goesOn ((g, c) :: above) rfl
      · cases above with
        | nil =>
            obtain ⟨rfl, rfl⟩ := List.cons.inj hstack
            refine ⟨[], g, rest, rfl, ⟨?_, rfl, hg⟩⟩
            intro part hpart
            exact ⟨[], by rw [List.prefix_nil.mp hpart]; rfl⟩
        | cons top above' => exact goesOn above' (List.cons.inj hstack).2.symm
      · exact goesOn above rfl

/-- Every opening bracket of a balanced text has a closing bracket that belongs to it. -/
theorem exists_pairs {front behind : List Glyph} {opener : Glyph} {c : Char}
    (balanced : (front ++ opener :: behind).foldlM advance? [] = some [])
    (code : opener.region = .code) (hc : closer? opener.char = some c) :
    ∃ stack inside closer after, front.foldlM advance? [] = some stack ∧
      behind = inside ++ closer :: after ∧ Pairs stack opener inside closer := by
  rw [List.foldlM_append] at balanced
  obtain ⟨stack, hfront, balanced⟩ := Option.bind_eq_some_iff.mp balanced
  rw [List.foldlM_cons, advance?_open code hc] at balanced
  obtain ⟨inside, closer, after, hbehind, closed⟩ := exists_closedBy [] balanced
  obtain ⟨-, -, rfl⟩ := closer_of_closes closed.closes
  exact ⟨stack, inside, closer, after, hfront, hbehind, ⟨advance?_open code hc stack, closed⟩⟩

end SketchGrader.Bracket
