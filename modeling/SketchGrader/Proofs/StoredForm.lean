import Mathlib.Data.List.Basic
import SketchGrader.Proofs.SourceLines
import SketchGrader.Timeline.Stored

/-!
# The stored form of a timeline

A sequence is read back from the data that it is written as. The reader takes more than the writer
gives, but what it takes it would write as data that it reads in the same way. The text of the file
has one line for each field, and no value contains a line feed, so the lines of the text are the
lines that were written; each of them shows its value.
-/

namespace SketchGrader

/-! ## Data -/

theorem EventKind.ofDatum_name (kind : EventKind) : ofDatum (.text kind.name) = .ok kind := by
  cases kind <;> rfl

theorem Body.ofDatum_name (b : Body) : ofDatum (.text b.name) = .ok b := by
  cases b <;> rfl

namespace Event

theorem ofDatum_toDatum (e : Event) : ofDatum e.toDatum = .ok e := by
  obtain ⟨time, pin, isOn, kind, origin, duty⟩ := e
  cases duty <;>
    simp [toDatum, ofDatum, Stored.need, Datum.field?, Stored.whole, Datum.toWhole,
      Datum.isTruthy, EventKind.ofDatum_name, Body.ofDatum_name, bind, Except.bind, pure,
      Except.pure, Except.map]

theorem ofData_toDatum (events : List Event) : ofData (events.map toDatum) = .ok events := by
  induction events with
  | nil => rfl
  | cons e rest ih =>
      rw [List.map_cons, ofData, ofDatum_toDatum, ih]
      rfl

end Event

namespace Sequence

theorem ofDatum_toDatum (s : Sequence) : ofDatum s.toDatum = .ok s := by
  obtain ⟨events, totalMs, isLooping⟩ := s
  simp only [toDatum, ofDatum, Datum.field?, List.reverse_cons, List.reverse_nil, List.nil_append,
    List.cons_append, List.find?_cons, String.reduceBEq, Option.map_some, Option.getD_some]
  cases events with
  | nil => rfl
  | cons e rest =>
      have full : Datum.isTruthy (.list ((e :: rest).map Event.toDatum)) = true := rfl
      have read : (Stored.items (.list ((e :: rest).map Event.toDatum))).bind Event.ofData =
          .ok (e :: rest) := Event.ofData_toDatum (e :: rest)
      rw [if_pos full, read]
      rfl

end Sequence

/-! ## Text -/

theorem Stored.isDigit_of_mem_repr {n : Nat} {c : Char} (h : c ∈ n.repr.toList) :
    c.isDigit = true :=
  Nat.isDigit_of_mem_toDigits (by decide) (by decide) (Nat.toList_repr ▸ h)

/-- A number is written with digits and a sign. -/
theorem Stored.digit_or_sign {n : Int} {c : Char} (h : c ∈ (toString n).toList) :
    c.isDigit = true ∨ c = '-' := by
  rw [Int.toString_eq_repr, Int.repr_eq_if] at h
  split_ifs at h with hn
  · exact .inl (isDigit_of_mem_repr h)
  · rw [String.toList_append, List.mem_append] at h
    obtain hsign | hdigit := h
    · exact .inr (List.mem_singleton.mp hsign)
    · exact .inl (isDigit_of_mem_repr hdigit)

theorem Stored.notMem_number {c : Char} (noDigit : c.isDigit = false) (noSign : c ≠ '-')
    (n : Int) : c ∉ (toString n).toList := by
  intro h
  obtain digit | sign := digit_or_sign h
  · rw [noDigit] at digit
    cases digit
  · exact noSign sign

theorem Stored.newline_notMem_number (n : Int) : '\n' ∉ (toString n).toList :=
  notMem_number (by decide) (by decide) n

theorem Stored.number_ne_null (n : Int) : toString n ≠ "null" := by
  intro h
  have letter : 'n' ∈ (toString n).toList := by
    rw [h]
    decide
  exact notMem_number (by decide) (by decide) n letter

/-- The digits of a number read back as the number. -/
theorem Stored.repr_injective {m n : Nat} (h : m.repr = n.repr) : m = n := by
  have read := congrArg (fun text => Nat.ofDigitChars 10 text.toList 0) h
  simpa only [Nat.toList_repr, Nat.ofDigitChars_ten_toDigits] using read

theorem Stored.repr_ne_signed (n : Nat) (text : String) : n.repr ≠ "-" ++ text := by
  intro same
  have sign : '-' ∈ n.repr.toList := by
    rw [same, String.toList_append]
    exact List.mem_append_left _ (List.mem_singleton.mpr rfl)
  cases isDigit_of_mem_repr sign

theorem Stored.number_injective {m n : Int} (h : toString m = toString n) : m = n := by
  rw [Int.toString_eq_repr, Int.toString_eq_repr, Int.repr_eq_if, Int.repr_eq_if] at h
  split_ifs at h with hm hn hn
  · have same := repr_injective h
    omega
  · exact absurd h (repr_ne_signed _ _)
  · exact absurd h.symm (repr_ne_signed _ _)
  · have same := repr_injective ((String.append_right_inj "-").mp h)
    omega

theorem EventKind.name_injective {a b : EventKind} (h : a.name = b.name) : a = b := by
  have read := ofDatum_name a
  rw [h, ofDatum_name] at read
  exact (Except.ok.inj read).symm

theorem Body.name_injective {a b : Body} (h : a.name = b.name) : a = b := by
  have read := ofDatum_name a
  rw [h, ofDatum_name] at read
  exact (Except.ok.inj read).symm

namespace Sequence

theorem truthText_injective {a b : Bool} (h : truthText a = truthText b) : a = b := by
  have different : truthText true ≠ truthText false := by decide
  cases a with
  | true =>
      cases b with
      | true => rfl
      | false => exact absurd h different
  | false =>
      cases b with
      | true => exact absurd h.symm different
      | false => rfl

theorem eventLines_injective {a b : Event} (h : eventLines a = eventLines b) : a = b := by
  obtain ⟨time, pin, isOn, kind, origin, duty⟩ := a
  obtain ⟨time', pin', isOn', kind', origin', duty'⟩ := b
  simp only [eventLines, List.cons.injEq, String.append_right_inj, and_true] at h
  obtain ⟨htime, hpin, hon, hkind, horigin, hduty⟩ := h
  have sameDuty : duty = duty' := by
    cases duty with
    | none =>
        cases duty' with
        | none => rfl
        | some n => exact absurd hduty.symm (Stored.number_ne_null n)
    | some m =>
        cases duty' with
        | none => exact absurd hduty (Stored.number_ne_null m)
        | some n => rw [Stored.number_injective hduty]
  rw [Stored.number_injective htime, Stored.number_injective hpin, truthText_injective hon,
    EventKind.name_injective hkind, Body.name_injective horigin, sameDuty]

/-- Blocks of six lines are taken apart from the front. -/
theorem flatMap_eventLines_injective {a b : List Event}
    (h : a.flatMap eventLines = b.flatMap eventLines) : a = b := by
  induction a generalizing b with
  | nil =>
      cases b with
      | nil => rfl
      | cons e rest => exact absurd h (by simp [eventLines])
  | cons e rest ih =>
      cases b with
      | nil => exact absurd h (by simp [eventLines])
      | cons e' rest' =>
          rw [List.flatMap_cons, List.flatMap_cons] at h
          obtain ⟨hhead, htail⟩ := List.append_inj h rfl
          rw [eventLines_injective hhead, ih htail]

theorem fileLines_injective {s t : Sequence} (h : s.fileLines = t.fileLines) : s = t := by
  obtain ⟨events, totalMs, isLooping⟩ := s
  obtain ⟨events', totalMs', isLooping'⟩ := t
  obtain ⟨hevents, hlast⟩ := List.append_inj' h rfl
  simp only [List.cons.injEq, String.append_right_inj, and_true] at hlast
  obtain ⟨htotal, hlooping⟩ := hlast
  have sameEvents : events = events' := by
    cases events with
    | nil =>
        cases events' with
        | nil => rfl
        | cons e rest => exact absurd hevents (by simp)
    | cons e rest =>
        cases events' with
        | nil => exact absurd hevents (by simp)
        | cons e' rest' => exact flatMap_eventLines_injective (List.cons.inj hevents).2
  rw [sameEvents, Stored.number_injective htotal, truthText_injective hlooping]

theorem newline_notMem_eventLines {e : Event} {line : String} (h : line ∈ eventLines e) :
    '\n' ∉ line.toList := by
  obtain ⟨time, pin, isOn, kind, origin, duty⟩ := e
  simp only [eventLines, List.mem_cons, List.not_mem_nil, or_false] at h
  obtain rfl | rfl | rfl | rfl | rfl | rfl := h <;>
    rw [String.toList_append, List.mem_append, not_or] <;>
    refine ⟨by decide, ?_⟩
  · exact Stored.newline_notMem_number time
  · exact Stored.newline_notMem_number pin
  · cases isOn <;> decide
  · cases kind <;> decide
  · cases origin <;> decide
  · cases duty with
    | none => decide
    | some n => exact Stored.newline_notMem_number n

theorem newline_notMem_fileLines {s : Sequence} {line : String} (h : line ∈ s.fileLines) :
    '\n' ∉ line.toList := by
  rw [fileLines, List.mem_append] at h
  obtain hevents | hlast := h
  · split_ifs at hevents
    · rw [List.mem_singleton.mp hevents]
      decide
    · obtain rfl | hline := List.mem_cons.mp hevents
      · decide
      · obtain ⟨e, -, he⟩ := List.mem_flatMap.mp hline
        exact newline_notMem_eventLines he
  · simp only [List.mem_cons, List.not_mem_nil, or_false] at hlast
    obtain rfl | rfl := hlast <;>
      rw [String.toList_append, List.mem_append, not_or] <;>
      refine ⟨by decide, ?_⟩
    · exact Stored.newline_notMem_number s.totalMs
    · cases s.isLooping <;> decide

/-- The lines of the text are the lines that were written, and what follows the last of them is
empty. -/
theorem lines_join {written : List String} (h : ∀ line ∈ written, '\n' ∉ line.toList) :
    Text.lines (String.join (written.map (· ++ "\n"))).toList =
      written.map String.toList ++ [[]] := by
  rw [String.toList_join, List.flatMap_map]
  induction written with
  | nil => rfl
  | cons line rest ih =>
      obtain ⟨hline, hrest⟩ := List.forall_mem_cons.mp h
      rw [List.flatMap_cons, String.toList_append, List.append_assoc]
      have ended := Text.lines_ended hline (rest.flatMap fun line => (line ++ "\n").toList)
      exact ended.trans (congrArg (line.toList :: ·) (ih hrest))

theorem fileText_injective {s t : Sequence} (h : s.fileText = t.fileText) : s = t := by
  have lines := congrArg (fun text => Text.lines text.toList) h
  simp only [fileText, lines_join fun _ => newline_notMem_fileLines] at lines
  have sameLines : s.fileLines = t.fileLines :=
    List.map_injective_iff.mpr (fun _ _ => String.toList_injective) (List.append_cancel_right lines)
  exact fileLines_injective sameLines

/-- The stored form of a sequence loses nothing: a sequence is read back from its data, also as a
whole document; whatever data gives a sequence, writing that sequence and reading it again gives
the same one; and two sequences in files with the same text are the same sequence. -/
theorem stored_form_is_lossless :
    (∀ s : Sequence, ofDatum s.toDatum = .ok s ∧ ofDocument s.toDatum = .ok s) ∧
      (∀ d : Datum, (ofDatum d).bind (fun s => ofDatum s.toDatum) = ofDatum d) ∧
      ∀ s t : Sequence, s.fileText = t.fileText → s = t := by
  refine ⟨fun s => ⟨ofDatum_toDatum s, ofDatum_toDatum s⟩, ?_, fun s t => fileText_injective⟩
  intro d
  cases ofDatum d with
  | error e => rfl
  | ok s => exact ofDatum_toDatum s

/-- Data with a number in text, a truth value for a number, and fields left out. -/
def loose : Datum :=
  .record [("events", .list [.record [("kind", .text "pwm"), ("time", .text " 1_50 "),
    ("pin", .bool true), ("is_on", .text "no")]])]

theorem stored_form_is_lossless_loose :
    ofDatum loose = .ok ⟨[⟨150, 1, true, .pwm, .loop, none⟩], 0, false⟩ ∧
      (ofDatum loose).bind (fun s => ofDatum s.toDatum) = ofDatum loose :=
  ⟨by decide +kernel, stored_form_is_lossless.2.1 loose⟩

end Sequence

end SketchGrader
