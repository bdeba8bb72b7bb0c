import Mathlib.Data.List.Sort
import SketchGrader.Proofs.SessionChange
import SketchGrader.Proofs.StopRequests

/-!
# Where a stopped run ends

A run that is stopped goes beside the same run without a stop plan until it comes to a line with
its stop request. What it leaves out begins behind the statement that was under way.
-/

namespace SketchGrader

namespace Mark

/-- What is seen of a run: all marks but notices. -/
def trace (marks : List Mark) : List Mark := marks.filter fun mark => mark.kind?.isSome

@[simp] theorem trace_append (a b : List Mark) : trace (a ++ b) = trace a ++ trace b :=
  List.filter_append _ _

@[simp] theorem trace_notices (notices : List Notice) : trace (notices.map notice) = [] := by
  simp [trace, kind?]

/-- A mark that does not belong to the statement shown last. -/
def opens : Mark → Bool
  | statement .. => true
  | iteration _ => true
  | halted _ => true
  | event _ => false
  | pause _ => false
  | notice _ => false

/-- No statement is under way when the marks begin. -/
def AtBoundary (marks : List Mark) : Prop := ∀ mark ∈ (trace marks).head?, mark.opens = true

theorem AtBoundary.nil : AtBoundary [] := by
  intro mark hm
  cases hm

theorem AtBoundary.append {a b : List Mark} (ha : AtBoundary a) (hb : AtBoundary b) :
    AtBoundary (a ++ b) := by
  intro mark hm
  rw [trace_append, List.head?_append, Option.mem_def, Option.or_eq_some_iff] at hm
  rcases hm with hm | ⟨-, hm⟩
  · exact ha mark hm
  · exact hb mark hm

theorem AtBoundary.notices (notices : List Notice) : AtBoundary (notices.map notice) := by
  intro mark hm
  rw [trace_notices] at hm
  cases hm

theorem AtBoundary.cons {mark : Mark} (h : mark.opens = true) (marks : List Mark) :
    AtBoundary (mark :: marks) := by
  intro first hf
  have seen : mark.kind?.isSome = true := by
    cases mark with
    | notice n => cases h
    | _ => rfl
  have front : trace (mark :: marks) = mark :: trace marks := List.filter_cons_of_pos seen
  rw [front] at hf
  cases hf
  exact h

end Mark

namespace Live

section
variable {setup : Setup}

theorem tell_atBoundary {mark : Mark} (h : mark.opens = true) (s : State) (kind : MarkKind) :
    Mark.AtBoundary (s.tell setup kind mark).1 := by
  unfold State.tell
  split_ifs
  · exact .cons h []
  · exact .nil

theorem told_atBoundary (ran : Passes) : Mark.AtBoundary (ran.told setup).1 := by
  unfold Passes.told
  split
  next f _ => exact Mark.AtBoundary.append (.notices [.runHalted f]) (tell_atBoundary rfl _ _)
  next => exact .nil

variable (watched : setup.watched = true)
include watched

theorem settle_atBoundary (origin : Body) (s : State) (number : Int) (statement : Statement) :
    Mark.AtBoundary (s.settle setup origin number statement).1 := by
  have shown : (s.tell setup .statement
      (.statement number statement s.machine.board.lights)).1 =
      [.statement number statement s.machine.board.lights] := by
    simp only [State.tell, watched, if_true]
  cases hw : statement.isWait with
  | true =>
      cases statement with
      | wait ms =>
          rw [settle_wait]
          simp only [shown]
          exact .cons rfl _
      | _ => cases hw
  | false =>
      rw [settle_of_not_wait hw]
      simp only [shown, List.append_assoc]
      exact .cons rfl _

theorem line_atBoundary (origin : Body) (s : State) (number : Int) (text : Text) :
    Mark.AtBoundary (line setup origin s number text).marks := by
  unfold line
  split
  next => exact .nil
  next => exact .nil
  next statement machine _ =>
    exact Mark.AtBoundary.append (.notices _) (settle_atBoundary watched origin _ number statement)

theorem lines_atBoundary (origin : Body) (s : State) (body : List (Int × Text)) :
    Mark.AtBoundary (lines setup origin s body).marks := by
  induction body generalizing s with
  | nil => exact .nil
  | cons numbered rest ih =>
      have first := line_atBoundary watched origin s numbered.1 numbered.2
      rw [lines]
      split_ifs
      · exact .nil
      · by_cases hf : (line setup origin s numbered.1 numbered.2).ending = .finished
        · rw [andThen_of_finished hf]
          exact first.append (ih _)
        · rw [andThen_of_not_finished hf]
          exact first

theorem passes_atBoundary (body : List (Int × Text)) (s : State) (done count : Nat) :
    Mark.AtBoundary (passes setup body s done count).progress.marks := by
  induction count generalizing s done with
  | zero => exact .nil
  | succ count ih =>
      have pass := lines_atBoundary watched .loop s body
      by_cases hf : (lines setup .loop s body).ending = .finished
      · rw [passes_of_finished hf]
        exact (pass.append (tell_atBoundary rfl _ _)).append (ih _ _)
      · rw [passes_of_not_finished hf]
        exact pass

end

/-! ## Beside the run without a stop -/

/-- The session without a stop plan or a stop request. -/
def Session.undisturbed (s : Session) : Session := { s with plan := {}, stopRequested := false }

theorem undisturbed_unnoticed : Unnoticed Session.undisturbed where
  seen s kind := by cases kind <;> rfl
  advance _ _ := rfl
  look _ := rfl
  record _ _ := rfl

/-- A part of a run, and the same part without a stop. The first is an initial part of the second,
ends behind a whole statement, and is all of it unless it was stopped. -/
structure Cut (p q : Progress) : Prop where
  rest : ∃ rest, q.marks = p.marks ++ rest ∧ Mark.AtBoundary rest
  same : p.ending ≠ .stopped → q = p.change Session.undisturbed
  asked : p.ending = .stopped → p.state.session.stopRequested = true

theorem Cut.of_eq {p q : Progress} (same : q = p.change Session.undisturbed)
    (unstopped : p.ending ≠ .stopped) : Cut p q where
  rest := ⟨[], by rw [same]; exact (List.append_nil _).symm, .nil⟩
  same _ := same
  asked h := (unstopped h).elim

theorem Cut.of_stopped {s : State} (asked : s.session.stopRequested = true) {q : Progress}
    (h : Mark.AtBoundary q.marks) : Cut ⟨[], s, .stopped⟩ q where
  rest := ⟨q.marks, rfl, h⟩
  same unstopped := (unstopped rfl).elim
  asked _ := asked

/-- Goes on behind marks that both parts have left. -/
theorem Cut.behind {p q : Progress} (h : Cut p q) (marks : List Mark) :
    Cut { p with marks := marks ++ p.marks } { q with marks := marks ++ q.marks } := by
  constructor
  · rcases h.rest with ⟨rest, hrest, boundary⟩
    exact ⟨rest, by simp only [hrest, List.append_assoc], boundary⟩
  · intro unstopped
    rw [h.same unstopped]
    rfl
  · exact h.asked

/-- What the second part goes on with does not matter once the first is stopped. -/
theorem Cut.extend {p q : Progress} (h : Cut p q) (stopped : p.ending = .stopped)
    {marks : List Mark} (boundary : Mark.AtBoundary marks) (s : State) (ending : Ending) :
    Cut p ⟨q.marks ++ marks, s, ending⟩ := by
  constructor
  · rcases h.rest with ⟨rest, hrest, hb⟩
    exact ⟨rest ++ marks, by simp only [hrest, List.append_assoc], hb.append boundary⟩
  · intro unstopped
    exact (unstopped stopped).elim
  · exact h.asked

section
variable {setup : Setup}

theorem line_not_stopped (origin : Body) (s : State) (number : Int) (text : Text) :
    (line setup origin s number text).ending ≠ .stopped := by
  unfold line
  split
  next =>
    intro h
    cases h
  next =>
    intro h
    cases h
  next =>
    intro h
    cases h

variable (watched : setup.watched = true)
include watched

theorem lines_cut (origin : Body) (s : State) (body : List (Int × Text)) :
    Cut (lines setup origin s body)
      (lines setup origin (s.change Session.undisturbed) body) := by
  induction body generalizing s with
  | nil => exact .of_eq rfl (by simp [lines])
  | cons numbered rest ih =>
      cases asked : s.session.stopRequested with
      | true =>
          have hp : lines setup origin s (numbered :: rest) = ⟨[], s, .stopped⟩ := by
            simp only [lines, asked, if_true]
          rw [hp]
          exact .of_stopped asked (lines_atBoundary watched origin _ _)
      | false =>
          have hp : lines setup origin s (numbered :: rest) =
              (line setup origin s numbered.1 numbered.2).andThen
                fun t => lines setup origin t rest := by
            simp only [lines, asked, Bool.false_eq_true, if_false]
          have hq : lines setup origin (s.change Session.undisturbed) (numbered :: rest) =
              ((line setup origin s numbered.1 numbered.2).change Session.undisturbed).andThen
                fun t => lines setup origin t rest := by
            rw [← line_change undisturbed_unnoticed]
            rfl
          rw [hp, hq]
          by_cases hf : (line setup origin s numbered.1 numbered.2).ending = .finished
          · have hc : ((line setup origin s numbered.1 numbered.2).change
                Session.undisturbed).ending = .finished := hf
            rw [andThen_of_finished hf, andThen_of_finished hc]
            exact (ih _).behind _
          · have hc : ((line setup origin s numbered.1 numbered.2).change
                Session.undisturbed).ending ≠ .finished := hf
            rw [andThen_of_not_finished hf, andThen_of_not_finished hc]
            exact .of_eq rfl (line_not_stopped origin s numbered.1 numbered.2)

/-- All passes of a run, and those of the same run without a stop. -/
structure CutPasses (a b : Passes) : Prop where
  cut : Cut a.progress b.progress
  iterations : a.progress.ending ≠ .stopped → b.iterations = a.iterations

theorem passes_cut (body : List (Int × Text)) (s : State) (done count : Nat) :
    CutPasses (passes setup body s done count)
      (passes setup body (s.change Session.undisturbed) done count) := by
  induction count generalizing s done with
  | zero => exact ⟨.of_eq rfl (by simp [passes]), fun _ => rfl⟩
  | succ count ih =>
      have pass := lines_cut watched .loop s body
      by_cases stopped : (lines setup .loop s body).ending = .stopped
      · have hf : (lines setup .loop s body).ending ≠ .finished := by simp [stopped]
        rw [passes_of_not_finished hf]
        by_cases hq : (lines setup .loop (s.change Session.undisturbed) body).ending = .finished
        · rw [passes_of_finished hq]
          simp only [List.append_assoc]
          refine ⟨pass.extend stopped ?_ _ _, fun unstopped => (unstopped stopped).elim⟩
          exact (tell_atBoundary rfl _ _).append (passes_atBoundary watched body _ _ count)
        · rw [passes_of_not_finished hq]
          exact ⟨pass, fun _ => rfl⟩
      · have same := pass.same stopped
        by_cases hf : (lines setup .loop s body).ending = .finished
        · rw [passes_of_finished hf, passes_of_finished_change undisturbed_unnoticed same hf]
          have rest := ih ((lines setup .loop s body).state.tell setup .iteration
            (.iteration (done + 1))).2 (done + 1)
          exact ⟨rest.cut.behind _, rest.iterations⟩
        · rw [passes_of_not_finished hf, passes_of_not_finished_change same hf]
          exact ⟨.of_eq rfl stopped, fun _ => rfl⟩

theorem bodies_cut (p : Program) (limit : Int) (s : State) :
    CutPasses (bodies setup p limit s)
      (bodies setup p limit (s.change Session.undisturbed)) := by
  have first := lines_cut watched .setup s (p.statementLines .setup)
  cases hp : p.isLooping with
  | false =>
      rw [bodies_of_plain hp, bodies_of_plain hp]
      exact ⟨first, fun _ => rfl⟩
  | true =>
      by_cases stopped : (lines setup .setup s (p.statementLines .setup)).ending = .stopped
      · have hf : (lines setup .setup s (p.statementLines .setup)).ending ≠ .finished := by
          simp [stopped]
        rw [bodies_of_not_finished hf]
        by_cases hq : (lines setup .setup (s.change Session.undisturbed)
            (p.statementLines .setup)).ending = .finished
        · rw [bodies_of_looping hp hq]
          refine ⟨first.extend stopped ?_ _ _, fun unstopped => (unstopped stopped).elim⟩
          exact passes_atBoundary watched _ _ 0 limit.toNat
        · rw [bodies_of_not_finished hq]
          exact ⟨first, fun _ => rfl⟩
      · have same := first.same stopped
        by_cases hf : (lines setup .setup s (p.statementLines .setup)).ending = .finished
        · have rest := passes_cut watched (p.statementLines .loop)
            (lines setup .setup s (p.statementLines .setup)).state 0 limit.toNat
          rw [bodies_of_looping hp hf, bodies_of_looping_change same hp hf]
          exact ⟨rest.cut.behind _, rest.iterations⟩
        · rw [bodies_of_not_finished hf, bodies_of_not_finished_change same hf]
          exact ⟨.of_eq rfl stopped, fun _ => rfl⟩

end

theorem CutPasses.eq {a b : Passes} (h : CutPasses a b)
    (unstopped : a.progress.ending ≠ .stopped) : b = a.change Session.undisturbed := by
  obtain ⟨progress, iterations⟩ := b
  have same := h.cut.same unstopped
  have count := h.iterations unstopped
  simp only at same count
  rw [same, count]
  rfl

/-! ## The trace and the result of a run -/

theorem trace_finish (setup : Setup) (opening : List Mark) (ran : Passes) :
    Mark.trace (finish setup opening ran).marks =
      Mark.trace (opening ++ ran.progress.marks ++ (ran.told setup).1) := by
  rcases @finish_marks setup opening ran with ⟨notices, hmarks⟩
  rw [hmarks]
  simp

theorem finish_cut {setup : Setup} {a b : Passes} (h : CutPasses a b) (opening : List Mark) :
    ∃ rest, Mark.trace (finish setup opening b).marks =
        Mark.trace (finish setup opening a).marks ++ rest ∧
      ∀ mark ∈ rest.head?, mark.opens = true := by
  rw [trace_finish, trace_finish]
  by_cases stopped : a.progress.ending = .stopped
  · have silent : a.progress.ending.fault? = none := by rw [stopped]; rfl
    rcases h.cut.rest with ⟨rest, hrest, boundary⟩
    refine ⟨Mark.trace (rest ++ (b.told setup).1), ?_, boundary.append (told_atBoundary b)⟩
    rw [told_of_not_fault silent, hrest]
    simp
  · refine ⟨[], ?_, Mark.AtBoundary.nil⟩
    rw [h.eq stopped, told_change undisturbed_unnoticed, List.append_nil]
    rfl

theorem finish_stopRequested (setup : Setup) (opening : List Mark) (ran : Passes) :
    (finish setup opening ran).session.stopRequested =
      (ran.told setup).2.session.stopRequested := by
  rw [finish_session]

/-- A stop does not make the grader give up. -/
theorem CutPasses.finish_error {setup : Setup} {a b : Passes} (h : CutPasses a b)
    {opening : List Mark} {breakdown : Breakdown}
    (ha : (finish setup opening a).result = .error breakdown) :
    (finish setup opening b).result = .error breakdown := by
  by_cases hb : ∃ other, a.progress.ending = .halted (.breakdown other)
  · rcases hb with ⟨other, hb⟩
    rw [finish_of_breakdown hb] at ha
    cases ha
    have halted : (a.change Session.undisturbed).progress.ending =
        .halted (.breakdown breakdown) := hb
    rw [h.eq (by simp [hb]), finish_of_breakdown halted]
  · rw [finish_of_result (not_exists.mp hb)] at ha
    cases ha

/-- If no stop was asked for, the run and the one without a stop plan are the same. -/
theorem CutPasses.finish_eq {setup : Setup} {a b : Passes} (h : CutPasses a b)
    (unasked : (a.told setup).2.session.stopRequested = false) (opening : List Mark) :
    (finish setup opening b).marks = (finish setup opening a).marks ∧
      (finish setup opening b).result = (finish setup opening a).result := by
  have unstopped : a.progress.ending ≠ .stopped := by
    intro stopped
    have silent : a.progress.ending.fault? = none := by rw [stopped]; rfl
    rw [told_of_not_fault silent, h.cut.asked stopped] at unasked
    cases unasked
  rw [h.eq unstopped]
  exact finish_change undisturbed_unnoticed a (fun _ => rfl) unasked.symm opening

theorem run_asks (setup : Setup) (session : Session) (p : Program) (limit : Option Int) :
    (run setup session p limit).session.stopRequested = true ↔
      session.plan.Asks (run setup session p limit).marks := by
  rcases run_steps setup session p limit with ⟨t, steps, ends⟩
  have asked := steps.willStop []
  rw [willStop_nil, List.append_nil] at asked
  rw [ends.session]
  refine asked.trans ?_
  simp only [Session.WillStop, begin, Bool.false_eq_true, false_or]

/-- The same events in the order of time, those of one time in the order in which they were
given. -/
structure StablyOrdered (given ordered : List Event) : Prop where
  perm : ordered.Perm given
  sorted : ordered.Pairwise fun a b => a.time ≤ b.time
  stable : ∀ time, ordered.filter (fun e => e.time == time) =
    given.filter fun e => e.time == time

theorem sequence_stablyOrdered (r : Recorder) : StablyOrdered r.events r.sequence.events := by
  have perm : r.sequence.events.Perm r.events := List.mergeSort_perm _ _
  refine ⟨perm, List.pairwise_mergeSort' (Order.Preimage Event.time (· ≤ ·)) r.events, ?_⟩
  intro time
  have sorted : (r.events.filter fun e => e.time == time).Pairwise
      fun a b => decide (a.time ≤ b.time) = true := by
    apply List.pairwise_of_forall_mem_list
    intro a ha b hb
    have hta := beq_iff_eq.mp (List.mem_filter.mp ha).2
    have htb := beq_iff_eq.mp (List.mem_filter.mp hb).2
    apply decide_eq_true
    omega
  have kept : (r.events.filter fun e => e.time == time).Sublist r.sequence.events :=
    List.sublist_mergeSort (by simpa using fun _ _ _ => le_trans)
      (by simpa using fun a b : Event => le_total a.time b.time) sorted List.filter_sublist
  have inside := kept.filter fun e => e.time == time
  rw [List.filter_filter] at inside
  simp only [Bool.and_self] at inside
  exact (inside.eq_of_length (perm.filter _).length_eq.symm).symm

/-- A stop cuts a run behind a whole statement. What is seen of the stopped run is an initial part
of what is seen of the same run without a stop plan, and what is left out begins with no event or
pause of a statement under way; nothing is left out, and the results are the same, unless a stop is
asked for. No statement is executed behind the mark at which the stop is asked for. The result says
that the run was stopped exactly if a stop was asked for during the run, and its events are those
that were seen, ordered by time. A stop request from before the run has no effect. -/
theorem stop_cuts_behind_a_statement (setup : Setup) (session : Session) (p : Program)
    (limit : Option Int) (watched : setup.watched = true) :
    let stopped := run setup session p limit
    let free := run setup { session with plan := {} } p limit
    (∃ rest, Mark.trace free.marks = Mark.trace stopped.marks ++ rest ∧
      ∀ mark ∈ rest.head?, mark.opens = true) ∧
    (¬ session.plan.Asks stopped.marks →
      free.marks = stopped.marks ∧ free.result = stopped.result) ∧
    (∀ before after, stopped.marks = before ++ after → session.plan.Asks before →
      executed after = []) ∧
    (∀ result, stopped.result = .ok result →
      (result.stopped = true ↔ session.plan.Asks stopped.marks) ∧
      StablyOrdered (Mark.events stopped.marks) result.sequence.events) ∧
    (∀ breakdown, stopped.result = .error breakdown → free.result = .error breakdown) ∧
    run setup session.stop p limit = stopped := by
  intro stopped free
  have cut := bodies_cut watched p (limit.getD setup.maxIterations) (begin setup session)
  have asks := run_asks setup session p limit
  rcases run_steps setup session p limit with ⟨t, steps, ends⟩
  refine ⟨finish_cut cut _, ?_, ?_, ?_, ?_, rfl⟩
  · intro unasked
    have unrequested := eq_false_of_ne_true (mt asks.mp unasked)
    rw [run_eq, finish_stopRequested] at unrequested
    exact cut.finish_eq unrequested _
  · intro before after split asked
    exact steps.heeds split (.inr asked)
  · intro result hresult
    have final := ends.result result hresult
    constructor
    · rw [← asks, ends.session, final.2]
    · have recorded := steps.recorded watched rfl
      have ordered := sequence_stablyOrdered t.session.recorder
      rw [recorded, ← final.1] at ordered
      exact ordered
  · intro breakdown hb
    exact cut.finish_error hb

/-- On a clock with a tick, the first event asks for a stop. The pause behind the event still
belongs to the statement; the wait that would come next is left out. -/
theorem stop_cuts_behind_a_statement_dimmer :
    let setup : Setup := { usablePins := [9] }
    let stopped := run setup { clock := ⟨7, 1⟩, plan := { event := some 1 } } dimmer (some 2)
    let free := run setup { clock := ⟨7, 1⟩ } dimmer (some 2)
    setup.watched = true ∧
    ∃ result rest, stopped.result = .ok result ∧ result.stopped = true ∧
      result.sequence.events = [⟨52, 9, true, .pwm, .loop, some 40⟩] ∧
      StablyOrdered (Mark.events stopped.marks) result.sequence.events ∧
      Mark.trace free.marks = Mark.trace stopped.marks ++ rest ∧
      (Mark.trace stopped.marks).getLast? = some (.pause 50) ∧
      rest.head? = some (.statement 7 (.wait 100) [(9, true)]) := by
  intro setup stopped free
  have result : stopped.result =
      .ok ⟨⟨[⟨52, 9, true, .pwm, .loop, some 40⟩], 52, false⟩, 0, true, none⟩ := by
    decide +kernel
  have five : (Mark.trace stopped.marks).length = 5 := by decide +kernel
  rcases stop_cuts_behind_a_statement setup { clock := ⟨7, 1⟩, plan := { event := some 1 } } dimmer
    (some 2) rfl with ⟨⟨rest, hrest, -⟩, -, -, given, -⟩
  have left : rest = (Mark.trace free.marks).drop 5 := by
    rw [hrest, ← five, List.drop_left]
  refine ⟨rfl, _, rest, result, ?_, rfl, (given _ result).2, hrest, by decide +kernel, ?_⟩
  · rw [(given _ result).1]
    exact ⟨.event, 0, rfl, by decide +kernel⟩
  · rw [left]
    decide +kernel

end Live

end SketchGrader
