import SketchGrader.Proofs.LiveSteps

/-!
# Stop requests in the course of a run

A stop plan waits for a number of marks of each kind. Whether it has asked for a stop can be read
off the marks that a run has left, and so can the events that were recorded. Once a stop is asked
for, no step executes a statement.
-/

namespace SketchGrader

namespace Mark

/-- The kind of a mark at which a stop may be asked for; a notice has none. -/
def kind? : Mark → Option MarkKind
  | statement .. => some .statement
  | event _ => some .event
  | iteration _ => some .iteration
  | pause _ => some .pause
  | halted _ => some .halted
  | notice _ => none

/-- How many of the marks are of a kind. -/
def tally (kind : MarkKind) (marks : List Mark) : Nat :=
  marks.countP fun mark => mark.kind? == some kind

@[simp] theorem tally_append (kind : MarkKind) (a b : List Mark) :
    tally kind (a ++ b) = tally kind a + tally kind b :=
  List.countP_append

@[simp] theorem tally_notices (kind : MarkKind) (notices : List Notice) :
    tally kind (notices.map notice) = 0 := by
  simp [tally, kind?]

theorem tally_cons {mark : Mark} {kind : MarkKind} (h : mark.kind? = some kind)
    (other : MarkKind) (marks : List Mark) :
    tally other (mark :: marks) = tally other marks + if other = kind then 1 else 0 := by
  simp only [tally, List.countP_cons, h]
  by_cases same : other = kind
  · rw [if_pos same, if_pos (by simp [same])]
  · rw [if_neg same, if_neg (by simpa using Ne.symm same)]

/-- The events among marks. -/
def events (marks : List Mark) : List Event :=
  marks.filterMap fun mark => match mark with
    | event e => some e
    | _ => none

@[simp] theorem events_append (a b : List Mark) : events (a ++ b) = events a ++ events b :=
  List.filterMap_append

@[simp] theorem events_notices (notices : List Notice) : events (notices.map notice) = [] := by
  simp [events]

end Mark

namespace StopPlan

/-- The plan asks for a stop in the course of marks: of some kind there are as many as it waits
for. -/
def Asks (p : StopPlan) (marks : List Mark) : Prop :=
  ∃ kind n, p.remaining kind = some (n + 1) ∧ n < Mark.tally kind marks

theorem not_asks_nil (p : StopPlan) : ¬ p.Asks [] := by
  rintro ⟨kind, n, -, few⟩
  exact Nat.not_lt_zero n few

theorem Asks.append {p : StopPlan} {a : List Mark} (h : p.Asks a) (b : List Mark) :
    p.Asks (a ++ b) := by
  rcases h with ⟨kind, n, waits, enough⟩
  refine ⟨kind, n, waits, ?_⟩
  rw [Mark.tally_append]
  omega

theorem asks_notices (p : StopPlan) (notices : List Notice) (marks : List Mark) :
    p.Asks (notices.map Mark.notice ++ marks) ↔ p.Asks marks := by
  simp [Asks]

theorem remaining_withRemaining (p : StopPlan) (kind other : MarkKind) (count : Option Nat) :
    (p.withRemaining kind count).remaining other =
      if other = kind then count else p.remaining other := by
  cases kind <;> cases other <;> rfl

/-- A mark makes the plan ask, or the plan that has counted it asks later. -/
theorem asks_cons {mark : Mark} {kind : MarkKind} (h : mark.kind? = some kind) (p : StopPlan)
    (marks : List Mark) :
    p.Asks (mark :: marks) ↔ (p.see kind).1 = true ∨ (p.see kind).2.Asks marks := by
  have elsewhere : ∀ other, other ≠ kind →
      Mark.tally other (mark :: marks) = Mark.tally other marks := by
    intro other hne
    rw [Mark.tally_cons h, if_neg hne, Nat.add_zero]
  have here : Mark.tally kind (mark :: marks) = Mark.tally kind marks + 1 := by
    rw [Mark.tally_cons h, if_pos rfl]
  have unmoved : (∀ n, p.remaining kind ≠ some (n + 1)) →
      (p.Asks (mark :: marks) ↔ p.Asks marks) := by
    intro never
    apply exists_congr
    intro other
    apply exists_congr
    intro n
    by_cases ho : other = kind
    · subst ho
      simp only [never n, false_and]
    · rw [elsewhere other ho]
  unfold see
  split
  next n hn =>
    rcases n with _ | n
    · simp only [beq_self_eq_true, true_or, iff_true]
      exact ⟨kind, 0, hn, by omega⟩
    · simp only [Nat.add_eq_zero_iff, Nat.one_ne_zero, and_false, beq_iff_eq, false_or,
        if_false]
      apply exists_congr
      intro other
      rw [remaining_withRemaining]
      by_cases ho : other = kind
      · subst ho
        rw [if_pos rfl, here, hn]
        constructor
        · rintro ⟨m, hm, enough⟩
          cases hm
          exact ⟨n, rfl, by omega⟩
        · rintro ⟨m, hm, enough⟩
          cases hm
          exact ⟨n + 1, rfl, by omega⟩
      · rw [if_neg ho, elsewhere other ho]
  next never =>
    simp only [Bool.false_eq_true, false_or]
    exact unmoved never

end StopPlan

namespace Live

/-- A stop is asked for by the time that the marks have been seen. -/
def Session.WillStop (s : Session) (marks : List Mark) : Prop :=
  s.stopRequested = true ∨ s.plan.Asks marks

@[simp] theorem willStop_nil {s : Session} : s.WillStop [] ↔ s.stopRequested = true := by
  simp only [Session.WillStop, StopPlan.not_asks_nil, or_false]

theorem Session.WillStop.append {s : Session} {a : List Mark} (h : s.WillStop a)
    (b : List Mark) : s.WillStop (a ++ b) := by
  rcases h with h | h
  · exact .inl h
  · exact .inr (h.append b)

theorem willStop_notices (s : Session) (notices : List Notice) (marks : List Mark) :
    s.WillStop (notices.map Mark.notice ++ marks) ↔ s.WillStop marks := by
  simp only [Session.WillStop, StopPlan.asks_notices]

theorem willStop_seen {mark : Mark} {kind : MarkKind} (h : mark.kind? = some kind)
    (s : Session) (marks : List Mark) :
    (s.seen kind).WillStop marks ↔ s.WillStop (mark :: marks) := by
  simp only [Session.WillStop, StopPlan.asks_cons h, Session.seen, Bool.or_eq_true, or_assoc]

section
variable {setup : Setup}

theorem willStop_tell {mark : Mark} {kind : MarkKind} (h : mark.kind? = some kind) (s : State)
    (marks : List Mark) :
    (s.tell setup kind mark).2.session.WillStop marks ↔
      s.session.WillStop ((s.tell setup kind mark).1 ++ marks) := by
  unfold State.tell
  split_ifs
  · exact willStop_seen h s.session marks
  · exact Iff.rfl

/-- What is asked for after a step was asked for before it, counting the marks of the step. -/
theorem Step.willStop {s t : State} {marks : List Mark} (h : Step setup s marks t)
    (later : List Mark) :
    t.session.WillStop later ↔ s.session.WillStop (marks ++ later) := by
  cases h with
  | report notices => exact (willStop_notices s.session notices later).symm
  | execute machine number statement unstopped => exact willStop_tell rfl _ later
  | pause ms =>
      unfold State.pause
      split_ifs
      · exact @willStop_seen (.pause ms) .pause rfl { s.session with clock := _ } later
      · exact Iff.rfl
  | look emission => exact Iff.rfl
  | @record event stamped session recorded =>
      have kept : ∀ marks, session.WillStop marks ↔ s.session.WillStop marks := by
        have hs : session = (s.session.record event).2 := by rw [recorded]
        intro marks
        rw [hs]
        exact Iff.rfl
      have told := @willStop_tell setup (.event stamped) .event rfl { s with session } later
      exact (told.trans (kept _)).trans
        (willStop_notices s.session [.recorded stamped] _).symm
  | pass count => exact willStop_tell rfl s later
  | halt fault => exact willStop_tell rfl s later

theorem Steps.willStop {s t : State} {marks : List Mark} (h : Steps setup s marks t)
    (later : List Mark) :
    t.session.WillStop later ↔ s.session.WillStop (marks ++ later) := by
  induction h with
  | refl s => exact Iff.rfl
  | cons step _ ih =>
      rw [ih, step.willStop, List.append_assoc]

theorem length_tell (s : State) (kind : MarkKind) (mark : Mark) :
    (s.tell setup kind mark).1.length ≤ 1 := by
  unfold State.tell
  split_ifs
  · exact Nat.le_refl 1
  · exact Nat.zero_le 1

theorem executed_tell_of_ne {mark : Mark} {kind : MarkKind} (h : executed [mark] = [])
    (s : State) : executed (s.tell setup kind mark).1 = [] := by
  unfold State.tell
  split_ifs
  · exact h
  · rfl

theorem executed_behind {before after marks : List Mark} (h : executed marks = [])
    (split : marks = before ++ after) : executed after = [] := by
  rw [split, executed_append] at h
  exact (List.append_eq_nil_iff.mp h).2

/-- A step shows no statement behind the mark at which a stop is asked for. -/
theorem Step.heeds {s t : State} {marks before after : List Mark} (h : Step setup s marks t)
    (split : marks = before ++ after) (will : s.session.WillStop before) :
    executed after = [] := by
  cases h with
  | execute machine number statement unstopped =>
      rcases before with _ | ⟨mark, before⟩
      · rw [willStop_nil, unstopped] at will
        cases will
      · -- At most one mark is shown, so nothing is left behind it.
        have shown := @length_tell setup { s with machine } .statement
          (.statement number statement machine.board.lights)
        rw [split, List.cons_append, List.length_cons, List.length_append] at shown
        rw [List.eq_nil_of_length_eq_zero (l := after) (by omega)]
        rfl
  | report notices =>
      refine executed_behind ?_ split
      simp [executed]
  | pause ms => exact executed_behind (executed_pause s ms) split
  | look emission => exact executed_behind rfl split
  | record recorded =>
      refine executed_behind ?_ split
      exact executed_tell_of_ne rfl _
  | pass count => exact executed_behind (executed_tell_of_ne rfl s) split
  | halt fault => exact executed_behind (executed_tell_of_ne rfl s) split

theorem Steps.heeds {s t : State} {marks before after : List Mark}
    (h : Steps setup s marks t) (split : marks = before ++ after)
    (will : s.session.WillStop before) : executed after = [] := by
  induction h generalizing before after with
  | refl s =>
      rw [(List.append_eq_nil_iff.mp split.symm).2]
      rfl
  | cons step _ ih =>
      rcases List.append_eq_append_iff.mp split with ⟨middle, rfl, rfl⟩ | ⟨middle, rfl, rfl⟩
      · -- The stop is asked for behind the first step.
        exact ih rfl ((step.willStop middle).mpr will)
      · -- It is asked for in the first step, so the others begin with a stop request.
        rw [executed_append, step.heeds rfl will, List.nil_append]
        refine ih (List.nil_append _).symm ?_
        rw [step.willStop, List.append_nil]
        exact will.append middle

/-- The marks of a step show the events that it records. -/
theorem Step.recorded (watched : setup.watched = true) {s t : State} {marks : List Mark}
    (h : Step setup s marks t) (recording : s.session.recorder.isRecording = true) :
    t.session.recorder.isRecording = true ∧
      t.session.recorder.events = s.session.recorder.events ++ Mark.events marks := by
  have nothing : s.session.recorder.events = s.session.recorder.events ++ [] :=
    (List.append_nil _).symm
  cases h with
  | report notices =>
      rw [Mark.events_notices]
      exact ⟨recording, nothing⟩
  | execute machine number statement unstopped =>
      simp only [State.tell, watched, if_true]
      exact ⟨recording, nothing⟩
  | pause ms =>
      unfold State.pause
      split_ifs
      · exact ⟨recording, nothing⟩
      · exact ⟨recording, nothing⟩
  | look emission => exact ⟨recording, nothing⟩
  | record recorded =>
      rw [Session.record_of_recording recording] at recorded
      cases recorded
      simp only [State.tell, watched, if_true]
      exact ⟨recording, rfl⟩
  | pass count =>
      simp only [State.tell, watched, if_true]
      exact ⟨recording, nothing⟩
  | halt fault =>
      simp only [State.tell, watched, if_true]
      exact ⟨recording, nothing⟩

theorem Steps.recorded (watched : setup.watched = true) {s t : State} {marks : List Mark}
    (h : Steps setup s marks t) (recording : s.session.recorder.isRecording = true) :
    t.session.recorder.events = s.session.recorder.events ++ Mark.events marks := by
  induction h with
  | refl s => exact (List.append_nil _).symm
  | cons step _ ih =>
      have first := step.recorded watched recording
      rw [ih first.1, first.2, Mark.events_append, List.append_assoc]

end

end Live

end SketchGrader
