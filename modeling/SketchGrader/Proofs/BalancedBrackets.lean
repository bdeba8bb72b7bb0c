import Mathlib.Data.List.Induction
import SketchGrader.Proofs.Uncommented

/-!
# Balanced brackets

The brackets of the code form a word, and the check accepts a source exactly if this word is
balanced. Reading a word from left to right leaves the closing brackets that are still awaited, and
the initial parts of balanced words are the words that can be read so. A closing bracket is
reported where the reading gets stuck, an opening one where the reading ends with brackets awaited:
then it is the last opening bracket that nothing closes.
-/

namespace SketchGrader.Bracket

/-! ## Words of brackets -/

/-- The balanced words: nothing, or a pair of brackets with a balanced word inside and one behind. -/
inductive Balanced : Text → Prop
  | empty : Balanced []
  | round {inside behind : Text} :
      Balanced inside → Balanced behind → Balanced ('(' :: (inside ++ ')' :: behind))
  | square {inside behind : Text} :
      Balanced inside → Balanced behind → Balanced ('[' :: (inside ++ ']' :: behind))
  | curly {inside behind : Text} :
      Balanced inside → Balanced behind → Balanced ('{' :: (inside ++ '}' :: behind))

/-- A word with which a balanced word begins. -/
def Begins (w : Text) : Prop := ∃ rest, Balanced (w ++ rest)

/-- Behind an opening bracket comes the one that closes it, with a balanced word in between. -/
def HasPartner (opener : Char) (behind : Text) : Prop :=
  ∃ closer inside rest,
    closer? opener = some closer ∧ Balanced inside ∧ behind = inside ++ closer :: rest

/-- The closing brackets that are awaited after a bracket, the next one first; nothing if the
bracket is misplaced. -/
def await? (awaited : Text) (c : Char) : Option Text :=
  match closer? c with
  | some d => some (d :: awaited)
  | none =>
    match awaited with
    | [] => none
    | d :: outer => if c = d then some outer else none

theorem closer?_closer {opener closer : Char} (h : closer? opener = some closer) :
    closer? closer = none := by
  obtain ⟨-, rfl⟩ | ⟨-, rfl⟩ | ⟨-, rfl⟩ := closer?_eq_some h <;> rfl

theorem Balanced.pair {opener closer : Char} {inside behind : Text}
    (h : closer? opener = some closer) (hinside : Balanced inside) (hbehind : Balanced behind) :
    Balanced (opener :: (inside ++ closer :: behind)) := by
  obtain ⟨rfl, rfl⟩ | ⟨rfl, rfl⟩ | ⟨rfl, rfl⟩ := closer?_eq_some h
  · exact .curly hinside hbehind
  · exact .round hinside hbehind
  · exact .square hinside hbehind

theorem await?_open {opener closer : Char} (h : closer? opener = some closer) (awaited : Text) :
    await? awaited opener = some (closer :: awaited) := by
  simp only [await?, h]

theorem await?_close {c : Char} (h : closer? c = none) (d : Char) (outer : Text) :
    await? (d :: outer) c = if c = d then some outer else none := by
  simp only [await?, h]

theorem await?_stray {c : Char} (h : closer? c = none) : await? [] c = none := by
  simp only [await?, h]

/-- What a bracket can do to a reading: open a pair, or close the innermost one. -/
theorem await?_cases {awaited next : Text} {c : Char} (h : await? awaited c = some next) :
    (∃ d, closer? c = some d ∧ next = d :: awaited) ∨ (closer? c = none ∧ awaited = c :: next) := by
  cases hc : closer? c with
  | some d =>
      rw [await?_open hc] at h
      exact .inl ⟨d, rfl, (Option.some.inj h).symm⟩
  | none =>
      cases awaited with
      | nil =>
          rw [await?_stray hc] at h
          cases h
      | cons d outer =>
          rw [await?_close hc] at h
          split_ifs at h with same
          cases h
          exact .inr ⟨rfl, by rw [same]⟩

theorem foldlM_pair {opener closer : Char} {inside behind awaited : Text}
    (h : closer? opener = some closer)
    (hinside : inside.foldlM await? (closer :: awaited) = some (closer :: awaited))
    (hbehind : behind.foldlM await? awaited = some awaited) :
    (opener :: (inside ++ closer :: behind)).foldlM await? awaited = some awaited := by
  rw [List.foldlM_cons, await?_open h, Option.bind_eq_bind, Option.bind_some, List.foldlM_append,
    hinside, Option.bind_eq_bind, Option.bind_some, List.foldlM_cons,
    await?_close (closer?_closer h), if_pos rfl]
  exact hbehind

/-- Behind a balanced word the same brackets are awaited as in front of it. -/
theorem Balanced.foldlM_await {w : Text} (h : Balanced w) (awaited : Text) :
    w.foldlM await? awaited = some awaited := by
  induction h generalizing awaited with
  | empty => rfl
  | round _ _ hinside hbehind => exact foldlM_pair rfl (hinside _) (hbehind _)
  | square _ _ hinside hbehind => exact foldlM_pair rfl (hinside _) (hbehind _)
  | curly _ _ hinside hbehind => exact foldlM_pair rfl (hinside _) (hbehind _)

/-- Words that bring the awaited brackets in their order, with balanced words in between. -/
inductive Closes : Text → Text → Prop
  | last {w : Text} : Balanced w → Closes [] w
  | next {d : Char} {awaited w rest : Text} :
      Balanced w → Closes awaited rest → Closes (d :: awaited) (w ++ d :: rest)

theorem Closes.wrap {opener closer : Char} {awaited w : Text} (h : Closes (closer :: awaited) w)
    (hc : closer? opener = some closer) : Closes awaited (opener :: w) := by
  cases h with
  | next hinside later =>
      cases later with
      | last hbehind => exact .last (.pair hc hinside hbehind)
      | @next d _ _ _ hbehind later =>
          have first := Closes.next (d := d) (.pair hc hinside hbehind) later
          simpa only [List.cons_append, List.append_assoc] using first

theorem closes_of_foldlM {w awaited : Text} (h : w.foldlM await? awaited = some []) :
    Closes awaited w := by
  induction w generalizing awaited with
  | nil =>
      cases h
      exact .last .empty
  | cons c rest ih =>
      rw [List.foldlM_cons] at h
      obtain ⟨next, hnext, later⟩ := Option.bind_eq_some_iff.mp h
      obtain ⟨d, hd, rfl⟩ | ⟨-, rfl⟩ := await?_cases hnext
      · exact (ih later).wrap hd
      · exact Closes.next .empty (ih later)

/-- A word is balanced exactly if reading it leaves nothing awaited. -/
theorem balanced_iff_foldlM {w : Text} : Balanced w ↔ w.foldlM await? [] = some [] := by
  constructor
  · intro h
    exact h.foldlM_await []
  · intro h
    cases closes_of_foldlM h with
    | last balanced => exact balanced

theorem Balanced.append {u v : Text} (hu : Balanced u) (hv : Balanced v) : Balanced (u ++ v) := by
  rw [balanced_iff_foldlM, List.foldlM_append, hu.foldlM_await]
  exact hv.foldlM_await []

theorem closer?_of_awaited {w start awaited : Text} (h : w.foldlM await? start = some awaited)
    (hstart : ∀ d ∈ start, closer? d = none) : ∀ d ∈ awaited, closer? d = none := by
  induction w generalizing start with
  | nil =>
      cases h
      exact hstart
  | cons c rest ih =>
      rw [List.foldlM_cons] at h
      obtain ⟨next, hnext, later⟩ := Option.bind_eq_some_iff.mp h
      apply ih later
      obtain ⟨e, he, rfl⟩ | ⟨-, rfl⟩ := await?_cases hnext
      · intro d hd
        obtain rfl | hd := List.mem_cons.mp hd
        · exact closer?_closer he
        · exact hstart d hd
      · intro d hd
        exact hstart d (List.mem_cons_of_mem c hd)

theorem foldlM_awaited {awaited : Text} (h : ∀ d ∈ awaited, closer? d = none) :
    awaited.foldlM await? awaited = some [] := by
  induction awaited with
  | nil => rfl
  | cons d outer ih =>
      rw [List.foldlM_cons, await?_close (h d List.mem_cons_self), if_pos rfl]
      exact ih fun e he => h e (List.mem_cons_of_mem d he)

/-- A word begins a balanced one exactly if it can be read: the awaited brackets complete it. -/
theorem begins_iff_foldlM {w : Text} :
    Begins w ↔ ∃ awaited, w.foldlM await? [] = some awaited := by
  constructor
  · rintro ⟨rest, balanced⟩
    rw [balanced_iff_foldlM, List.foldlM_append] at balanced
    obtain ⟨awaited, hw, -⟩ := Option.bind_eq_some_iff.mp balanced
    exact ⟨awaited, hw⟩
  · rintro ⟨awaited, hw⟩
    refine ⟨awaited, ?_⟩
    rw [balanced_iff_foldlM, List.foldlM_append, hw]
    exact foldlM_awaited (closer?_of_awaited hw (by simp))

/-- Nothing inside a balanced word closes a bracket in front of it. -/
theorem Balanced.not_hasPartner {w : Text} (h : Balanced w) (opener : Char) :
    ¬ HasPartner opener w := by
  rintro ⟨closer, inside, rest, hc, hinside, rfl⟩
  have stuck := balanced_iff_foldlM.mp h
  rw [List.foldlM_append, hinside.foldlM_await, Option.bind_eq_bind, Option.bind_some,
    List.foldlM_cons, await?_stray (closer?_closer hc)] at stuck
  cases stuck

/-- Every opening bracket of a balanced word is closed inside the word. -/
theorem Balanced.hasPartner {a b : Text} {opener : Char} (h : Balanced (a ++ opener :: b))
    (hopen : (closer? opener).isSome) : HasPartner opener b := by
  obtain ⟨closer, hc⟩ := Option.isSome_iff_exists.mp hopen
  rw [balanced_iff_foldlM, List.foldlM_append] at h
  obtain ⟨awaited, -, h⟩ := Option.bind_eq_some_iff.mp h
  rw [List.foldlM_cons, await?_open hc] at h
  cases closes_of_foldlM h with
  | next hinside later => exact ⟨closer, _, _, hc, hinside, rfl⟩

/-! ## The brackets of the code -/

/-- Whether a character is a bracket. -/
def isBracket (c : Char) : Bool := ['(', ')', '[', ']', '{', '}'].contains c

/-- The brackets of the code, in their order. -/
def word (glyphs : List Glyph) : Text :=
  (glyphs.filter fun g => g.region = .code && isBracket g.char).map Glyph.char

theorem isBracket_eq (c : Char) : isBracket c = ((closer? c).isSome || isCloser c) := by
  have opens : (closer? c).isSome = (c == '{' || c == '(' || c == '[') := by
    unfold closer?
    split_ifs with curly round square <;> simp_all
  rw [opens, Bool.eq_iff_iff]
  simp only [isBracket, isCloser, List.contains_cons, List.contains_nil, Bool.or_eq_true,
    Bool.or_false]
  tauto

@[simp] theorem word_append (a b : List Glyph) : word (a ++ b) = word a ++ word b := by
  simp only [word, List.filter_append, List.map_append]

theorem word_singleton {g : Glyph} (code : g.region = .code) (h : isBracket g.char = true) :
    word [g] = [g.char] := by
  simp [word, code, h]

theorem word_idle {g : Glyph}
    (h : g.region = .code → closer? g.char = none ∧ isCloser g.char = false) : word [g] = [] := by
  by_cases code : g.region = .code
  · obtain ⟨hopen, hclose⟩ := h code
    have plain : isBracket g.char = false := by rw [isBracket_eq, hopen, hclose]; rfl
    simp [word, plain]
  · simp [word, code]

theorem word_open {g : Glyph} {c : Char} (code : g.region = .code) (h : closer? g.char = some c) :
    word [g] = [g.char] :=
  word_singleton code (by rw [isBracket_eq, h]; rfl)

theorem word_close {g : Glyph} (code : g.region = .code) (h : isCloser g.char = true) :
    word [g] = [g.char] :=
  word_singleton code (by rw [isBracket_eq, h, Bool.or_true])

/-- One glyph does to the stack what the bracket in it does to what is awaited. -/
theorem advance?_word (stack : List (Glyph × Char)) (g : Glyph) :
    (advance? stack g).map (·.map Prod.snd) = (word [g]).foldlM await? (stack.map Prod.snd) := by
  obtain ⟨c, code, hc⟩ | ⟨code, hc⟩ | idle := glyph_cases g
  · rw [advance?_open code hc, word_open code hc, List.foldlM_cons, await?_open hc]
    rfl
  · rw [word_close code hc, List.foldlM_cons]
    cases stack with
    | nil =>
        rw [List.map_nil, await?_stray (closer?_eq_none hc)]
        simp [advance?, code, closer?_eq_none hc, hc]
    | cons top outer =>
        rw [advance?_close code hc, List.map_cons, await?_close (closer?_eq_none hc)]
        split_ifs <;> rfl
  · rw [advance?_pass idle, word_idle idle]
    rfl

/-- The stack of the check is what the word of the brackets awaits. -/
theorem foldlM_advance (stack : List (Glyph × Char)) (glyphs : List Glyph) :
    (glyphs.foldlM advance? stack).map (·.map Prod.snd) =
      (word glyphs).foldlM await? (stack.map Prod.snd) := by
  induction glyphs generalizing stack with
  | nil => rfl
  | cons g rest ih =>
      have split : word (g :: rest) = word [g] ++ word rest := word_append [g] rest
      rw [split, List.foldlM_append, ← advance?_word, List.foldlM_cons]
      cases advance? stack g with
      | none => rfl
      | some next => exact ih next

theorem awaited_of_stack {glyphs : List Glyph} {stack : List (Glyph × Char)}
    (h : glyphs.foldlM advance? [] = some stack) :
    (word glyphs).foldlM await? [] = some (stack.map Prod.snd) := by
  have same := foldlM_advance [] glyphs
  rw [h] at same
  exact same.symm

theorem check_eq_ok_iff {source : Text} :
    check source = .ok () ↔ Balanced (word (Source.glyphs source)) := by
  rw [check_eq_ok, balanced_iff_foldlM]
  have same := foldlM_advance [] (Source.glyphs source)
  rw [List.map_nil] at same
  rw [← same]
  simp

/-! ## What is reported -/

/-- What is found is a closing bracket at which the reading gets stuck, or the innermost bracket
that is open at the end. -/
theorem findFrom_eq_some {stack : List (Glyph × Char)} {glyphs : List Glyph} {m : Misplaced}
    (h : findFrom stack glyphs = some m) :
    (∃ before behind reached, glyphs = before ++ m.glyph :: behind ∧
        before.foldlM advance? stack = some reached ∧ m.glyph.region = .code ∧
        isCloser m.glyph.char = true ∧ advance? reached m.glyph = none ∧
        Stuck reached m.glyph m.mistake) ∨
      ∃ expected outer, glyphs.foldlM advance? stack = some ((m.glyph, expected) :: outer) ∧
        m.mistake = .openLeft m.glyph.char := by
  induction glyphs generalizing stack with
  | nil =>
      cases stack with
      | nil => cases h
      | cons top outer =>
          cases h
          exact .inr ⟨top.2, outer, rfl, rfl⟩
  | cons g rest ih =>
      cases hg : advance? stack g with
      | none =>
          obtain ⟨code, hc, mistake, hstuck, hfind⟩ := stuck_of_misplaced hg
          rw [hfind rest] at h
          cases h
          exact .inl ⟨[], rest, stack, rfl, rfl, code, hc, hg, hstuck⟩
      | some next =>
          rw [findFrom_of_advance hg] at h
          obtain ⟨before, behind, reached, rfl, hbefore, found⟩ | ⟨expected, outer, hrest, hm⟩ :=
            ih h
          · refine .inl ⟨g :: before, behind, reached, rfl, ?_, found⟩
            rw [List.foldlM_cons, hg]
            exact hbefore
          · refine .inr ⟨expected, outer, ?_, hm⟩
            rw [List.foldlM_cons, hg]
            exact hrest

/-- What is on top of the stack was opened by a glyph behind which everything is balanced. -/
theorem exists_opener {glyphs : List Glyph} {g : Glyph} {expected : Char}
    {outer : List (Glyph × Char)}
    (h : glyphs.foldlM advance? [] = some ((g, expected) :: outer)) :
    ∃ before behind, glyphs = before ++ g :: behind ∧ before.foldlM advance? [] = some outer ∧
      g.region = .code ∧ Balanced (word behind) ∧ closer? g.char = some expected := by
  -- A bracket that closes uncovers an older entry, so the induction is on the length.
  induction hn : glyphs.length using Nat.strong_induction_on generalizing glyphs g expected outer with
  | _ n ih =>
    obtain rfl | ⟨init, x, rfl⟩ := List.eq_nil_or_concat' glyphs
    · cases h
    · rw [List.length_append, List.length_singleton] at hn
      rw [List.foldlM_append] at h
      obtain ⟨stack, hinit, h⟩ := Option.bind_eq_some_iff.mp h
      have hx : advance? stack x = some ((g, expected) :: outer) := by simpa using h
      obtain ⟨c, code, hc, htop⟩ | ⟨opener, code, hc, rfl⟩ | ⟨idle, rfl⟩ := advance?_cases hx
      · cases htop
        exact ⟨init, [], rfl, hinit, code, .empty, hc⟩
      · obtain ⟨front, inside, rfl, hfront, hcode, hinside, hopener⟩ :=
          ih init.length (by omega) hinit rfl
        obtain ⟨before, behind, rfl, hbefore, hg, hbehind, hclose⟩ :=
          ih front.length (by simp at hn; omega) hfront rfl
        refine ⟨before, behind ++ opener :: (inside ++ [x]), by simp, hbefore, hg, ?_, hclose⟩
        have closed : Balanced (word [opener] ++ (word inside ++ word [x])) := by
          rw [word_open hcode hopener, word_close code hc]
          exact .pair hopener hinside .empty
        have split : word (behind ++ opener :: (inside ++ [x])) =
            word behind ++ (word [opener] ++ (word inside ++ word [x])) := by
          rw [← List.singleton_append, word_append, word_append, word_append]
        rw [split]
        exact hbehind.append closed
      · obtain ⟨before, behind, rfl, hbefore, hg, hbehind, hclose⟩ :=
          ih init.length (by omega) hinit rfl
        refine ⟨before, behind ++ [x], by simp, hbefore, hg, ?_, hclose⟩
        rw [word_append, word_idle idle, List.append_nil]
        exact hbehind

end SketchGrader.Bracket

namespace SketchGrader.Source

/-- The part of a text behind its last line feed. -/
def lastLine (t : Text) : Text := (t.reverse.takeWhile (· != '\n')).reverse

theorem length_lastLine_snoc (t : Text) (c : Char) :
    (lastLine (t ++ [c])).length = if c = '\n' then 0 else (lastLine t).length + 1 := by
  simp only [lastLine, List.reverse_append, List.reverse_singleton, List.singleton_append,
    List.length_reverse, List.takeWhile_cons]
  split_ifs <;> simp_all

theorem place_of_glyph {before behind : List Glyph} {g : Glyph} {state : ReadState}
    {line column : Nat} {t : Text} (h : glyphsFrom state line column t = before ++ g :: behind) :
    g.line = (before.map Glyph.char).foldl (fun line c => lineAfter c line) line ∧
      g.column = (before.map Glyph.char).foldl (fun column c => columnAfter c column) column := by
  induction before generalizing state line column t with
  | nil =>
      cases t with
      | nil => cases h
      | cons c rest =>
          rw [glyphsFrom_cons] at h
          obtain ⟨rfl, -⟩ := List.cons.inj h
          exact ⟨rfl, rfl⟩
  | cons first before ih =>
      cases t with
      | nil => cases h
      | cons c rest =>
          rw [glyphsFrom_cons] at h
          obtain ⟨rfl, later⟩ := List.cons.inj h
          exact ih later

theorem foldl_lineAfter (t : Text) (line : Nat) :
    t.foldl (fun line c => lineAfter c line) line = line + t.count '\n' := by
  induction t generalizing line with
  | nil => rfl
  | cons c rest ih =>
      rw [List.foldl_cons, ih, lineAfter, List.count_cons]
      split_ifs <;> simp_all
      omega

theorem foldl_columnAfter (t : Text) :
    t.foldl (fun column c => columnAfter c column) 1 = 1 + (lastLine t).length := by
  induction t using List.reverseRecOn with
  | nil => rfl
  | append_singleton t c ih =>
      rw [List.foldl_append, ih, length_lastLine_snoc, List.foldl_cons, List.foldl_nil, columnAfter]
      split_ifs <;> omega

/-- A glyph stands in the line after all line feeds in front of it, and in the column after what
stands in front of it in this line. -/
theorem glyph_place {source : Text} {before behind : List Glyph} {g : Glyph}
    (h : glyphs source = before ++ g :: behind) :
    g.line = 1 + (before.map Glyph.char).count '\n' ∧
      g.column = 1 + (lastLine (before.map Glyph.char)).length := by
  obtain ⟨hline, hcolumn⟩ := place_of_glyph h
  rw [foldl_lineAfter] at hline
  rw [foldl_columnAfter] at hcolumn
  exact ⟨hline, hcolumn⟩

end SketchGrader.Source

namespace SketchGrader.Bracket

theorem begins_of_stack {glyphs : List Glyph} {stack : List (Glyph × Char)}
    (h : glyphs.foldlM advance? [] = some stack) : Begins (word glyphs) :=
  begins_iff_foldlM.mpr ⟨_, awaited_of_stack h⟩

theorem not_begins_of_misplaced {before : List Glyph} {g : Glyph} {stack : List (Glyph × Char)}
    (hbefore : before.foldlM advance? [] = some stack) (h : advance? stack g = none)
    (hword : word [g] = [g.char]) : ¬ Begins (word before ++ [g.char]) := by
  rintro begins
  obtain ⟨awaited, read⟩ := begins_iff_foldlM.mp begins
  rw [List.foldlM_append, awaited_of_stack hbefore, Option.bind_eq_bind, Option.bind_some, ← hword,
    ← advance?_word, h] at read
  cases read

/-- What the mistake says of a closing bracket: there is nothing to close, or another bracket would
go on with the word. -/
theorem Stuck.explained {before : List Glyph} {g : Glyph} {stack : List (Glyph × Char)}
    {mistake : BracketMistake} (h : Stuck stack g mistake)
    (hbefore : before.foldlM advance? [] = some stack) :
    (mistake = .extraCloser g.char ∧ Balanced (word before)) ∨
      ∃ expected, mistake = .wrongCloser expected g.char ∧ Begins (word before ++ [expected]) := by
  have read := awaited_of_stack hbefore
  cases h with
  | extra none =>
      rw [none] at read
      exact .inl ⟨rfl, balanced_iff_foldlM.mpr read⟩
  | @wrong opener expected outer top _ =>
      have closes : closer? expected = none :=
        closer?_of_awaited read (by simp) expected (by simp [top])
      refine .inr ⟨expected, rfl, begins_iff_foldlM.mpr ⟨outer.map Prod.snd, ?_⟩⟩
      rw [List.foldlM_append, read, top, Option.bind_eq_bind, Option.bind_some, List.map_cons,
        List.foldlM_cons, await?_close closes, if_pos rfl]
      rfl

theorem check_eq_error {source : Text} {fault : Fault} (h : check source = .error fault) :
    ∃ m, findFrom [] (Source.glyphs source) = some m ∧ fault = m.fault := by
  unfold check at h
  split at h
  next => cases h
  next m hm =>
    cases h
    exact ⟨m, hm, rfl⟩

/-- The check accepts exactly the sources whose code has a balanced word of brackets. Otherwise it
reports a bracket of the code with its line and its column. That is a closing bracket with which no
balanced word goes on, while the brackets in front of it begin one; or, if all brackets together
begin a balanced word, it is the last opening bracket without a partner. -/
theorem check_points_at_bracket (source : Text) :
    (check source = .ok () ↔ Balanced (word (Source.glyphs source))) ∧
    ∀ fault, check source = .error fault →
      ∃ before g behind mistake,
        Source.glyphs source = before ++ g :: behind ∧
        source = before.map Glyph.char ++ g.char :: behind.map Glyph.char ∧
        g.region = .code ∧
        fault.line = ((1 + (before.map Glyph.char).count '\n' : Nat) : Int) ∧
        fault.cause =
          .brackets mistake (1 + (Source.lastLine (before.map Glyph.char)).length) ∧
        ((isCloser g.char = true ∧ Begins (word before) ∧ ¬ Begins (word before ++ [g.char]) ∧
            ((mistake = .extraCloser g.char ∧ Balanced (word before)) ∨
              ∃ expected, mistake = .wrongCloser expected g.char ∧
                Begins (word before ++ [expected]))) ∨
          (mistake = .openLeft g.char ∧ (closer? g.char).isSome = true ∧
            Begins (word (Source.glyphs source)) ∧ ¬ HasPartner g.char (word behind) ∧
            ∀ a opener b, word behind = a ++ opener :: b → (closer? opener).isSome = true →
              HasPartner opener b)) := by
  refine ⟨check_eq_ok_iff, ?_⟩
  intro fault h
  obtain ⟨m, hm, rfl⟩ := check_eq_error h
  have text : ∀ {before behind}, Source.glyphs source = before ++ m.glyph :: behind →
      source = before.map Glyph.char ++ m.glyph.char :: behind.map Glyph.char := by
    intro before behind split
    rw [← List.map_cons, ← List.map_append, ← split, Source.map_char_glyphs]
  obtain ⟨before, behind, stack, split, hbefore, code, hc, misplaced, stuck⟩ |
    ⟨expected, outer, hstack, hmistake⟩ := findFrom_eq_some hm
  · obtain ⟨hline, hcolumn⟩ := Source.glyph_place split
    refine ⟨before, m.glyph, behind, m.mistake, split, text split, code, ?_, ?_, .inl ⟨hc, ?_⟩⟩
    · exact congrArg Nat.cast hline
    · exact congrArg (Cause.brackets m.mistake) hcolumn
    · exact ⟨begins_of_stack hbefore,
        not_begins_of_misplaced hbefore misplaced (word_close code hc), stuck.explained hbefore⟩
  · obtain ⟨before, behind, split, hbefore, code, balanced, hopen⟩ := exists_opener hstack
    obtain ⟨hline, hcolumn⟩ := Source.glyph_place split
    refine ⟨before, m.glyph, behind, m.mistake, split, text split, code, ?_, ?_,
      .inr ⟨hmistake, Option.isSome_of_mem hopen, begins_of_stack hstack,
        balanced.not_hasPartner m.glyph.char, ?_⟩⟩
    · exact congrArg Nat.cast hline
    · exact congrArg (Cause.brackets m.mistake) hcolumn
    · intro a opener b hb opens
      exact Balanced.hasPartner (hb ▸ balanced) opens

/-- Brackets in strings and comments do not count: the brace in the second line meets the square
bracket in front of the string. -/
theorem check_points_at_bracket_tangled :
    let source := "if (on) // (\n  x[\"]\"\x7d;\n".toList
    check source = .error ⟨2, .brackets (.wrongCloser ']' '}') 8⟩ ∧
      ∃ before g behind, Source.glyphs source = before ++ g :: behind ∧ g.char = '}' ∧
        Begins (word before) ∧ ¬ Begins (word before ++ [g.char]) := by
  intro source
  have reported : check source = .error ⟨2, .brackets (.wrongCloser ']' '}') 8⟩ := by
    decide +kernel
  refine ⟨reported, ?_⟩
  obtain ⟨before, g, behind, mistake, split, -, -, -, hcause, closing | opening⟩ :=
    (check_points_at_bracket source).2 _ reported
  · obtain ⟨-, begins, stuck, said⟩ := closing
    refine ⟨before, g, behind, split, ?_, begins, stuck⟩
    obtain ⟨hm, -⟩ | ⟨expected, hm, -⟩ := said
    · rw [hm] at hcause
      cases hcause
    · rw [hm] at hcause
      exact (BracketMistake.wrongCloser.inj (Cause.brackets.inj hcause).1).2.symm
  · rw [opening.1] at hcause
    cases hcause

end SketchGrader.Bracket
