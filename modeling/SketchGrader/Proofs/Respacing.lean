import SketchGrader.Proofs.Spelling

/-!
# Tokens and the blanks between them

Cutting a text into tokens loses nothing but blanks: behind the blanks in front of them, the tokens
make up the whole text. How many blanks stand between them does not matter, as long as there is
one where two tokens would run together. Tokens that stood side by side, as in `5-3`, `13OUTPUT` or
`a.b(`, are read again when blanks are put between them.
-/

namespace SketchGrader

/-- Words with at least one blank between any two neighbours. -/
inductive Text.JoinedByBlanks : List Text → Text → Prop
  | nil : JoinedByBlanks [] []
  | last (word : Text) : JoinedByBlanks [word] word
  | cons {gap word next t : Text} {words : List Text} (filled : gap ≠ [])
      (hgap : ∀ c ∈ gap, isBlank c = true) (rest : JoinedByBlanks (next :: words) t) :
      JoinedByBlanks (word :: next :: words) (word ++ (gap ++ t))

namespace Token

open Text

/-- The tokens of a text stand in it in a row. -/
theorem Cut.spaced {t : Text} {tokens : List Token} (h : Cut tokens t) :
    Spaced (tokens.map (·.text)) t := by
  induction h with
  | nil => exact .nil
  | cons hblanks _ _ _ ih => exact .cons hblanks ih

/-- Further blanks in front of the first token do not matter. -/
theorem Cut.behind {blanks t : Text} {token : Token} {tokens : List Token}
    (h : Cut (token :: tokens) t) (hblanks : ∀ c ∈ blanks, isBlank c = true) :
    Cut (token :: tokens) (blanks ++ t) := by
  cases h with
  | cons hfront lexeme longest others =>
      rw [← List.append_assoc]
      exact .cons (List.forall_mem_append.mpr ⟨hblanks, hfront⟩) lexeme longest others

/-- A token that is followed by a blank or by nothing is the longest at its place, so tokens with
blanks between them are cut apart again. -/
theorem cut_of_joined {t : Text} {tokens : List Token}
    (h : JoinedByBlanks (tokens.map (·.text)) t) (lexemes : ∀ token ∈ tokens, Lexeme token) :
    Cut tokens t := by
  induction tokens generalizing t with
  | nil =>
      cases h
      exact .nil
  | cons token rest ih =>
      obtain ⟨lexeme, others⟩ := List.forall_mem_cons.mp lexemes
      cases rest with
      | nil =>
          cases h
          have alone := Cut.cons (List.forall_mem_nil _) lexeme
            (longest_of_stops lexeme stops_nil) .nil
          rwa [List.nil_append, List.append_nil] at alone
      | cons next more =>
          cases h with
          | @cons gap _ _ behind _ filled hgap hrest =>
              have stops : Stops (gap ++ behind) := by
                obtain ⟨b, blanks, rfl⟩ := List.exists_cons_of_ne_nil filled
                exact stops_blank (hgap b List.mem_cons_self) (blanks ++ behind)
              have apart := Cut.cons (List.forall_mem_nil _) lexeme
                (longest_of_stops lexeme stops) ((ih hrest others).behind hgap)
              rwa [List.nil_append] at apart

/-- The tokens of a text, with blanks in front of each, make up the text up to the blanks at its
end. Each is written as its kind wants, and with any blanks between them the same tokens are
read. -/
theorem tokens_survive_respacing {t : Text} {tokens : List Token} (h : tokenize t = some tokens) :
    Spaced (tokens.map (·.text)) (trimRight t) ∧ (∀ token ∈ tokens, Lexeme token) ∧
      ∀ u, JoinedByBlanks (tokens.map (·.text)) u → tokenize u = some tokens := by
  have cut : Cut tokens (trimRight t) := readAll_eq_some_iff.mp h
  have lexemes := lexeme_of_readAll h
  refine ⟨cut.spaced, lexemes, ?_⟩
  intro u joined
  exact tokenize_of_cut (cut_of_joined joined lexemes)

/-- A sign, a word and a parenthesis right behind another token, a digit beyond ASCII inside a name
and blanks beyond ASCII. -/
theorem tokens_survive_respacing_crowded :
    tokenize "\t5-3 13OUT a.b(x\u0663\u3000".toList =
        some [⟨.num, "5".toList⟩, ⟨.num, "-3".toList⟩, ⟨.num, "13".toList⟩,
          ⟨.name, "OUT".toList⟩, ⟨.name, "a.b".toList⟩, mark '(', ⟨.name, "x\u0663".toList⟩] ∧
      Spaced ["5".toList, "-3".toList, "13".toList, "OUT".toList, "a.b".toList, ['('],
          "x\u0663".toList] "\t5-3 13OUT a.b(x\u0663".toList ∧
      Lexeme ⟨.name, "x\u0663".toList⟩ ∧
      tokenize "5 -3\n13\u2003OUT  a.b ( x\u0663".toList =
        some [⟨.num, "5".toList⟩, ⟨.num, "-3".toList⟩, ⟨.num, "13".toList⟩,
          ⟨.name, "OUT".toList⟩, ⟨.name, "a.b".toList⟩, mark '(', ⟨.name, "x\u0663".toList⟩] := by
  have tokens : tokenize "\t5-3 13OUT a.b(x\u0663\u3000".toList =
      some [⟨.num, "5".toList⟩, ⟨.num, "-3".toList⟩, ⟨.num, "13".toList⟩,
        ⟨.name, "OUT".toList⟩, ⟨.name, "a.b".toList⟩, mark '(', ⟨.name, "x\u0663".toList⟩] := by
    decide +kernel
  have trimmed : trimRight "\t5-3 13OUT a.b(x\u0663\u3000".toList =
      "\t5-3 13OUT a.b(x\u0663".toList := by
    decide +kernel
  have blank {gap : Text} (h : gap.all isBlank = true) : ∀ c ∈ gap, isBlank c = true :=
    List.all_eq_true.mp h
  have joined : JoinedByBlanks ["5".toList, "-3".toList, "13".toList, "OUT".toList, "a.b".toList,
      ['('], "x\u0663".toList] ("5".toList ++ (" ".toList ++ ("-3".toList ++ ("\n".toList ++
      ("13".toList ++ ("\u2003".toList ++ ("OUT".toList ++ ("  ".toList ++ ("a.b".toList ++
      (" ".toList ++ (['('] ++ (" ".toList ++ "x\u0663".toList)))))))))))) :=
    .cons (by decide) (blank rfl) (.cons (by decide) (blank rfl) (.cons (by decide) (blank rfl)
      (.cons (by decide) (blank rfl) (.cons (by decide) (blank rfl) (.cons (by decide) (blank rfl)
        (.last _))))))
  obtain ⟨spaced, lexemes, respaced⟩ := tokens_survive_respacing tokens
  rw [trimmed] at spaced
  exact ⟨tokens, spaced, lexemes _ (by simp), respaced _ joined⟩

end Token

end SketchGrader
