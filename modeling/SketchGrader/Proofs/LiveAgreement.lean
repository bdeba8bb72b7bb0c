import SketchGrader.Proofs.LiveSimulation

/-!
# Agreement of live runs and replays

The passes of a live run follow the script of its program, so the run keeps beside the replay. What
is left is the frame of the run: the recorder is started and stopped, the recorded events are put in
order, and a fault becomes part of the result.
-/

namespace SketchGrader.Live

open Replay (Entry journal entries paces ranked delayed)

section
variable {setup : Setup} {began : Int} {before : Nat} {recorded : List Event}
variable {r : Replay.State}

/-- Two parts of a live run that differ at most in marks that show no statement. -/
structure SameRun (p q : Progress) : Prop where
  state_eq : p.state = q.state
  ending_eq : p.ending = q.ending
  executed_eq : executed p.marks = executed q.marks

theorem executed_iteration (s : State) (count : Nat) :
    executed (s.tell setup .iteration (.iteration count)).1 = [] := by
  unfold State.tell
  split_ifs <;> rfl

theorem passes_of_finished {body : List (Int × Text)} {s : State}
    (h : (lines setup .loop s body).ending = .finished) (done count : Nat) :
    passes setup body s done (count + 1) =
      let pass := lines setup .loop s body
      let told := pass.state.tell setup .iteration (.iteration (done + 1))
      let rest := passes setup body told.2 (done + 1) count
      ⟨{ rest.progress with marks := pass.marks ++ told.1 ++ rest.progress.marks },
        rest.iterations⟩ := by
  simp only [passes, h]

theorem passes_of_not_finished {body : List (Int × Text)} {s : State}
    (h : (lines setup .loop s body).ending ≠ .finished) (done count : Nat) :
    passes setup body s done (count + 1) = ⟨lines setup .loop s body, done⟩ := by
  simp only [passes]

/-- The passes of the loop body follow the body over and over. -/
theorem passes_beside (moves : setup.pausesMoveClock = true) (p : Program) (count done : Nat)
    (before : Nat) (recorded : List Event) (r : Replay.State) :
    SameRun
        (passes setup (p.statementLines .loop) (beside setup began before recorded r) done
          count).progress
        (follow setup (beside setup began before recorded r)
          (List.replicate count (p.cues .loop)).flatten) ∧
      ((passes setup (p.statementLines .loop) (beside setup began before recorded r) done
          count).progress.ending = .finished →
        (passes setup (p.statementLines .loop) (beside setup began before recorded r) done
          count).iterations = done + count) := by
  induction count generalizing done before recorded r with
  | zero => exact ⟨⟨rfl, rfl, rfl⟩, fun _ => rfl⟩
  | succ count ih =>
      have hl : lines setup .loop (beside setup began before recorded r) (p.statementLines .loop) =
          follow setup (beside setup began before recorded r) (p.cues .loop) :=
        lines_eq_follow setup .loop _ _
      obtain ⟨steps, along⟩ := @follow_beside setup began moves (p.cues .loop) before recorded r
      obtain ⟨t, ht⟩ := along.state_eq
      rw [List.replicate_succ, List.flatten_cons, follow_append]
      by_cases hf : (follow setup (beside setup began before recorded r) (p.cues .loop)).ending =
          .finished
      · rw [passes_of_finished (hl ▸ hf), andThen_of_finished hf]
        simp only [hl, ht, tell_beside]
        obtain ⟨same, iterations⟩ := ih (done + 1) (before + paces steps)
          (recorded ++ (ranked before steps).map (delayed setup.stepDelayMs)) t
        refine ⟨⟨same.state_eq, same.ending_eq, ?_⟩, ?_⟩
        · simp [executed_iteration, same.executed_eq]
        · intro h
          rw [iterations h]
          omega
      · rw [passes_of_not_finished (hl ▸ hf), hl, andThen_of_not_finished hf]
        exact ⟨⟨rfl, rfl, rfl⟩, fun h => (hf h).elim⟩

theorem bodies_of_not_finished {p : Program} {s : State}
    (h : (lines setup .setup s (p.statementLines .setup)).ending ≠ .finished) (limit : Int) :
    bodies setup p limit s = ⟨lines setup .setup s (p.statementLines .setup), 0⟩ := by
  simp only [bodies]

theorem bodies_of_plain {p : Program} (hp : p.isLooping = false) (s : State) (limit : Int) :
    bodies setup p limit s = ⟨lines setup .setup s (p.statementLines .setup), 0⟩ := by
  simp only [bodies, hp, Bool.false_eq_true, if_false]
  split <;> rfl

theorem bodies_of_looping {p : Program} {s : State} (hp : p.isLooping = true)
    (h : (lines setup .setup s (p.statementLines .setup)).ending = .finished) (limit : Int) :
    bodies setup p limit s =
      let first := lines setup .setup s (p.statementLines .setup)
      let rest := passes setup (p.statementLines .loop) first.state 0 limit.toNat
      ⟨⟨first.marks ++ rest.progress.marks, rest.progress.state, rest.progress.ending⟩,
        rest.iterations⟩ := by
  simp only [bodies, h, hp, if_true, andThen_of_finished h]

theorem bodies_beside (moves : setup.pausesMoveClock = true) (p : Program) (limit : Int)
    (before : Nat) (recorded : List Event) (r : Replay.State) :
    SameRun (bodies setup p limit (beside setup began before recorded r)).progress
        (follow setup (beside setup began before recorded r) (p.script limit.toNat)) ∧
      ((bodies setup p limit (beside setup began before recorded r)).progress.ending = .finished →
        (bodies setup p limit (beside setup began before recorded r)).iterations =
          if p.isLooping then limit.toNat else 0) := by
  have hl : lines setup .setup (beside setup began before recorded r) (p.statementLines .setup) =
      follow setup (beside setup began before recorded r) (p.cues .setup) :=
    lines_eq_follow setup .setup _ _
  cases hp : p.isLooping with
  | false =>
      rw [bodies_of_plain hp, hl, Program.script, Program.cues_of_not_looping hp,
        List.flatten_replicate_nil, List.append_nil]
      exact ⟨⟨rfl, rfl, rfl⟩, fun _ => rfl⟩
  | true =>
      rw [Program.script, follow_append]
      by_cases hf : (follow setup (beside setup began before recorded r) (p.cues .setup)).ending =
          .finished
      · obtain ⟨steps, along⟩ := @follow_beside setup began moves (p.cues .setup) before recorded r
        obtain ⟨t, ht⟩ := along.state_eq
        obtain ⟨same, iterations⟩ := @passes_beside setup began moves p limit.toNat 0
          (before + paces steps) (recorded ++ (ranked before steps).map (delayed setup.stepDelayMs)) t
        rw [bodies_of_looping hp (hl ▸ hf), andThen_of_finished hf]
        simp only [hl, ht]
        refine ⟨⟨same.state_eq, same.ending_eq, ?_⟩, ?_⟩
        · rw [executed_append, executed_append, same.executed_eq]
        · intro h
          simp only [iterations h, Nat.zero_add, if_true]
      · rw [bodies_of_not_finished (hl ▸ hf), hl, andThen_of_not_finished hf]
        exact ⟨⟨rfl, rfl, rfl⟩, fun h => (hf h).elim⟩

/-! ## The frame of a run -/

theorem sequence_of_sorted {recorder : Recorder}
    (h : recorder.events.Pairwise fun a b => a.time ≤ b.time) :
    recorder.sequence = ⟨recorder.events, Replay.lastTime recorder.events, false⟩ := by
  have sorted : recorder.events.mergeSort (fun a b => decide (a.time ≤ b.time)) =
      recorder.events := by
    apply List.mergeSort_of_pairwise
    exact h.imp fun hab => decide_eq_true hab
  simp only [Recorder.sequence, sorted]
  rfl

/-- The result of a run that executed the steps. -/
def resultOf (setup : Setup) (steps : List Entry) (iterations : Nat) (fault : Option Fault) :
    RunResult :=
  let events := (ranked 0 steps).map (delayed setup.stepDelayMs)
  ⟨⟨events, Replay.lastTime events, false⟩, iterations, false, fault⟩

/-- The outcome of a run that executed the steps and came to an ending. -/
def outcomeOf (setup : Setup) (steps : List Entry) (iterations : Nat) :
    Ending → Except Breakdown RunResult
  | .halted (.breakdown b) => .error b
  | .halted (.fault f) => .ok (resultOf setup steps iterations (some f))
  | _ => .ok (resultOf setup steps iterations none)

theorem finish_beside {ran : Passes} {steps : List Entry}
    (hs : ran.progress.state =
      beside setup began before ((ranked 0 steps).map (delayed setup.stepDelayMs)) r)
    (sorted : ((ranked 0 steps).map (delayed setup.stepDelayMs)).Pairwise
      fun a b => a.time ≤ b.time) (opening : List Mark) :
    (finish setup opening ran).result =
      outcomeOf setup steps ran.iterations ran.progress.ending := by
  have hq := @sequence_of_sorted (beside setup began before
    ((ranked 0 steps).map (delayed setup.stepDelayMs)) r).session.recorder.stop sorted
  obtain ⟨⟨marks, state, ending⟩, iterations⟩ := ran
  subst hs
  cases ending with
  | finished =>
      simp only [finish, hq]
      rfl
  | stopped =>
      simp only [finish, hq]
      rfl
  | halted halt =>
      cases halt with
      | breakdown b => rfl
      | fault f =>
          simp only [finish, tell_beside, hq]
          rfl

theorem executed_halted (s : State) (f : Fault) :
    executed (.notice (.runHalted f) :: (s.tell setup .halted (.halted f)).1) = [] := by
  unfold State.tell
  split_ifs <;> rfl

theorem executed_finish (opening : List Mark) (ran : Passes) :
    executed (finish setup opening ran).marks =
      executed opening ++ executed ran.progress.marks := by
  have closing : ∀ notice, executed [.notice notice] = [] := fun _ => rfl
  obtain ⟨⟨marks, state, ending⟩, iterations⟩ := ran
  cases ending with
  | finished => simp [finish, closing]
  | stopped => simp [finish, closing]
  | halted halt =>
      cases halt with
      | breakdown b => simp [finish]
      | fault f =>
          simp only [finish, executed_append, executed_halted, closing, List.append_nil]

theorem run_eq_finish {session : Session} (still : session.clock.tick = 0)
    (unstopped : session.plan = {}) (p : Program) (limit : Int) :
    run setup session p (some limit) =
      finish setup [.notice .recordingStarted, .notice (.runStarted limit)]
        (bodies setup p limit
          (beside setup session.clock.now 0 [] (Replay.start setup.usablePins))) := by
  obtain ⟨recorder, ⟨now, tick⟩, plan, stopRequested⟩ := session
  subst still unstopped
  simp only [run, Recorder.start, Clock.read, beside, Replay.start, Option.getD_some,
    Int.natCast_zero, Int.mul_zero, Int.add_zero]

/-- A run that nobody stops executes the steps of the replay, as far as the two go together. -/
theorem run_beside {session : Session} (forward : 0 ≤ setup.stepDelayMs)
    (moves : setup.pausesMoveClock = true) (still : session.clock.tick = 0)
    (unstopped : session.plan = {}) (p : Program) (limit : Int) :
    ∃ steps iterations ending,
      steps <+: journal setup.limits (Replay.start setup.usablePins) (p.script limit.toNat) ∧
      (firstDrop (Replay.follow setup.limits (Replay.start setup.usablePins)
          (p.script limit.toNat)).notices = none →
        steps = journal setup.limits (Replay.start setup.usablePins) (p.script limit.toNat)) ∧
      Parallels
        (Replay.follow setup.limits (Replay.start setup.usablePins) (p.script limit.toNat)).notices
        (Replay.follow setup.limits (Replay.start setup.usablePins) (p.script limit.toNat)).result
        ending ∧
      (ending = .finished → iterations = if p.isLooping then limit.toNat else 0) ∧
      (run setup session p (some limit)).result = outcomeOf setup steps iterations ending ∧
      executed (run setup session p (some limit)).marks = setup.watches steps := by
  obtain ⟨steps, along⟩ := @follow_beside setup session.clock.now moves (p.script limit.toNat) 0 []
    (Replay.start setup.usablePins)
  obtain ⟨same, iterations⟩ := @bodies_beside setup session.clock.now moves p limit 0 []
    (Replay.start setup.usablePins)
  obtain ⟨t, ht⟩ := along.state_eq
  -- The recorded events are in order already, so sorting them at the end changes nothing.
  have sorted := (Replay.delayed_journal_sorted setup.limits forward
    (Replay.start setup.usablePins) (p.script limit.toNat) 0).1
  have sorted' := sorted.sublist
    ((Replay.ranked_prefix along.steps_prefix 0).sublist.map (delayed setup.stepDelayMs))
  refine ⟨steps, _, _, along.steps_prefix, along.steps_eq, ?_, iterations, ?_, ?_⟩
  · rw [same.ending_eq]
    exact along.ending
  · rw [run_eq_finish still unstopped]
    exact finish_beside (same.state_eq.trans ht) sorted' _
  · rw [run_eq_finish still unstopped, executed_finish, same.executed_eq, along.executed_eq]
    rfl

end

/-! ## Agreement -/

theorem firstDrop_extract (usable : List Int) (limits : Limits) (p : Program) (n : Int) :
    firstDrop (Replay.extract usable limits p n).notices =
      firstDrop (Replay.follow limits (Replay.start usable)
        (p.script (max 1 n).toNat)).notices := by
  simp only [Replay.extract, Replay.run_eq_follow]
  split
  next => rfl
  next =>
    rw [firstDrop_append]
    exact Option.or_none

section
variable {setup : Setup} {session : Session} (forward : 0 ≤ setup.stepDelayMs)
variable (moves : setup.pausesMoveClock = true) (still : session.clock.tick = 0)
variable (unstopped : session.plan = {}) (p : Program) {n : Int} (hn : 1 ≤ n)

include forward moves still unstopped hn

theorem run_of_timeline {timeline : Sequence}
    (heeded : firstDrop (Replay.extract setup.usablePins setup.limits p n).notices = none)
    (h : (Replay.extract setup.usablePins setup.limits p n).outcome = .ok timeline) :
    (run setup session p (some n)).result =
      .ok (resultOf setup
        (journal setup.limits (Replay.start setup.usablePins) (p.script n.toNat))
        (if p.isLooping then n.toNat else 0) none) := by
  rw [firstDrop_extract, Int.max_eq_right hn] at heeded
  rw [Replay.extract_eq_ok, Int.max_eq_right hn] at h
  obtain ⟨⟨s, hs⟩, -⟩ := h
  obtain ⟨steps, iterations, ending, -, hsteps, parallels, hiter, hresult, -⟩ :=
    run_beside forward moves still unstopped p n
  have hend : ending = .finished := by simpa only [Parallels, heeded, hs] using parallels
  rw [hresult, hend, hsteps heeded, hiter hend]
  rfl

theorem run_of_halt {halt : Halt}
    (heeded : firstDrop (Replay.extract setup.usablePins setup.limits p n).notices = none)
    (h : (Replay.extract setup.usablePins setup.limits p n).outcome = .error halt) :
    ∃ iterations, (run setup session p (some n)).result =
      outcomeOf setup (journal setup.limits (Replay.start setup.usablePins) (p.script n.toNat))
        iterations (.halted halt) := by
  rw [firstDrop_extract, Int.max_eq_right hn] at heeded
  rw [Replay.extract_eq_error, Int.max_eq_right hn] at h
  obtain ⟨steps, iterations, ending, -, hsteps, parallels, -, hresult, -⟩ :=
    run_beside forward moves still unstopped p n
  have hend : ending = .halted halt := by simpa only [Parallels, heeded, h] using parallels
  exact ⟨iterations, by rw [hresult, hend, hsteps heeded]⟩

theorem run_of_drop {line : Int}
    (dropped : firstDrop (Replay.extract setup.usablePins setup.limits p n).notices = some line) :
    ∃ steps iterations cause,
      steps <+: journal setup.limits (Replay.start setup.usablePins) (p.script n.toNat) ∧
      (run setup session p (some n)).result =
        .ok (resultOf setup steps iterations (some ⟨line, cause⟩)) := by
  rw [firstDrop_extract, Int.max_eq_right hn] at dropped
  obtain ⟨steps, iterations, ending, hprefix, -, parallels, -, hresult, -⟩ :=
    run_beside forward moves still unstopped p n
  obtain ⟨cause, hend⟩ : ∃ cause, ending = .halted (.fault ⟨line, cause⟩) := by
    simpa only [Parallels, dropped] using parallels
  exact ⟨steps, iterations, cause, hprefix, by rw [hresult, hend]; rfl⟩

theorem executed_run
    (heeded : firstDrop (Replay.extract setup.usablePins setup.limits p n).notices = none) :
    executed (run setup session p (some n)).marks =
      setup.watches
        (journal setup.limits (Replay.start setup.usablePins) (p.script n.toNat)) := by
  rw [firstDrop_extract, Int.max_eq_right hn] at heeded
  obtain ⟨steps, _, _, -, hsteps, -, -, -, hexecuted⟩ :=
    run_beside forward moves still unstopped p n
  rw [hexecuted, hsteps heeded]

/-- A run ends without a fault only if there is a timeline that leaves nothing out. -/
theorem timeline_of_faultless {result : RunResult}
    (h : (run setup session p (some n)).result = .ok result) (faultless : result.fault = none) :
    (∃ timeline, (Replay.extract setup.usablePins setup.limits p n).outcome = .ok timeline) ∧
      firstDrop (Replay.extract setup.usablePins setup.limits p n).notices = none := by
  cases hd : firstDrop (Replay.extract setup.usablePins setup.limits p n).notices with
  | some line =>
      obtain ⟨steps, iterations, cause, -, hr⟩ := run_of_drop forward moves still unstopped p hn hd
      rw [h] at hr
      cases hr
      cases faultless
  | none =>
      cases ho : (Replay.extract setup.usablePins setup.limits p n).outcome with
      | ok timeline => exact ⟨⟨timeline, rfl⟩, rfl⟩
      | error halt =>
          obtain ⟨iterations, hr⟩ := run_of_halt forward moves still unstopped p hn hd ho
          rw [h] at hr
          cases halt with
          | breakdown b => cases hr
          | fault f =>
              cases hr
              cases faultless

end

theorem ranked_journal_events (usable : List Int) (limits : Limits) (p : Program) (count : Nat) :
    (ranked 0 (journal limits (Replay.start usable) (p.script count))).map (·.2) =
      (Replay.follow limits (Replay.start usable) (p.script count)).events := by
  rw [Replay.map_snd_ranked, Replay.journal_events]

/-- A live run that nobody stops, on a clock that only its own pauses move, agrees with the
timeline of the program. It ends without a fault exactly if there is a timeline and no write was
left out, and then gives the events of the timeline, each later by one pause for every statement
other than a wait in front of it. It ends with the fault that ends the replay, unless a write was
left out before: then it ends at that write. -/
theorem live_agrees_with_replay (setup : Setup) (session : Session) (p : Program) (n : Int)
    (hn : 1 ≤ n) (forward : 0 ≤ setup.stepDelayMs) (moves : setup.pausesMoveClock = true)
    (still : session.clock.tick = 0) (unstopped : session.plan = {}) :
    let live := run setup session p (some n)
    let static := Replay.extract setup.usablePins setup.limits p n
    let steps := journal setup.limits (Replay.start setup.usablePins) (p.script n.toNat)
    ((∃ result, live.result = .ok result ∧ result.fault = none) ↔
      (∃ timeline, static.outcome = .ok timeline) ∧ firstDrop static.notices = none) ∧
    (∀ timeline, static.outcome = .ok timeline → firstDrop static.notices = none →
      ∃ result, live.result = .ok result ∧ result.fault = none ∧ result.stopped = false ∧
        result.iterations = (if p.isLooping then n.toNat else 0) ∧
        timeline.events = (ranked 0 steps).map (·.2) ∧
        result.sequence.events = (ranked 0 steps).map (delayed setup.stepDelayMs) ∧
        (setup.stepDelayMs = 0 → result.sequence.events = timeline.events ∧
          result.sequence.totalMs = timeline.totalMs)) ∧
    (∀ fault, static.outcome = .error (.fault fault) → firstDrop static.notices = none →
      ∃ result, live.result = .ok result ∧ result.fault = some fault ∧ result.stopped = false ∧
        (Replay.run setup.usablePins setup.limits p n.toNat).events =
          (ranked 0 steps).map (·.2) ∧
        result.sequence.events = (ranked 0 steps).map (delayed setup.stepDelayMs)) ∧
    (∀ breakdown, static.outcome = .error (.breakdown breakdown) →
      firstDrop static.notices = none → live.result = .error breakdown) ∧
    (∀ line, firstDrop static.notices = some line →
      ∃ result cause heard, live.result = .ok result ∧ result.fault = some ⟨line, cause⟩ ∧
        heard <+: ranked 0 steps ∧
        result.sequence.events = heard.map (delayed setup.stepDelayMs)) ∧
    (firstDrop static.notices = none → executed live.marks = setup.watches steps) := by
  intro live static steps
  have given := ranked_journal_events setup.usablePins setup.limits p n.toNat
  refine ⟨⟨?_, ?_⟩, ?_, ?_, ?_, ?_, executed_run forward moves still unstopped p hn⟩
  · rintro ⟨result, hresult, faultless⟩
    exact timeline_of_faultless forward moves still unstopped p hn hresult faultless
  · rintro ⟨⟨timeline, ht⟩, heeded⟩
    exact ⟨_, run_of_timeline forward moves still unstopped p hn heeded ht, rfl⟩
  · intro timeline ht heeded
    have hevents : timeline.events = (ranked 0 steps).map (·.2) ∧
        timeline.totalMs = Replay.lastTime timeline.events := by
      obtain ⟨-, rfl⟩ := Replay.extract_eq_ok.mp ht
      rw [Int.max_eq_right hn]
      exact ⟨given.symm, rfl⟩
    refine ⟨_, run_of_timeline forward moves still unstopped p hn heeded ht, rfl, rfl, rfl,
      hevents.1, rfl, ?_⟩
    intro undelayed
    have same : (ranked 0 steps).map (delayed setup.stepDelayMs) = timeline.events := by
      rw [undelayed, Replay.map_delayed_zero, hevents.1]
    exact ⟨same, by rw [hevents.2, ← same]; rfl⟩
  · intro fault hf heeded
    obtain ⟨iterations, hresult⟩ := run_of_halt forward moves still unstopped p hn heeded hf
    exact ⟨_, hresult, rfl, rfl, by rw [Replay.run_eq_follow, given], rfl⟩
  · intro breakdown hb heeded
    obtain ⟨iterations, hresult⟩ := run_of_halt forward moves still unstopped p hn heeded hb
    exact hresult
  · intro line dropped
    obtain ⟨heard, iterations, cause, hprefix, hresult⟩ :=
      run_of_drop forward moves still unstopped p hn dropped
    exact ⟨_, cause, ranked 0 heard, hresult, rfl, Replay.ranked_prefix hprefix 0, rfl⟩

/-- A sketch that brightens a pin and darkens it again. -/
def dimmer : Program :=
  { setupBody := "pinMode(9, OUTPUT);".toList
    loopBody := "setDutyCycle(9, 40);\ndelay(100);\nsetDutyCycle(9, 0);\ndelay(20);".toList
    setupLine := 2
    loopLine := 6 }

/-- The timeline has its events at 0, 100, 120 and 220 milliseconds. With a pause of 50 the live run
has them after 1, 2, 3 and 4 pauses. -/
theorem live_agrees_with_replay_dimmer :
    ∃ result, (run { usablePins := [9] } {} dimmer (some 2)).result = .ok result ∧
      result.fault = none ∧ result.iterations = 2 ∧
      result.sequence.events =
        [⟨50, 9, true, .pwm, .loop, some 40⟩, ⟨200, 9, false, .pwm, .loop, some 0⟩,
          ⟨270, 9, true, .pwm, .loop, some 40⟩, ⟨420, 9, false, .pwm, .loop, some 0⟩] := by
  have timeline : (Replay.extract [9] {} dimmer 2).outcome = .ok
      ⟨[⟨0, 9, true, .pwm, .loop, some 40⟩, ⟨100, 9, false, .pwm, .loop, some 0⟩,
        ⟨120, 9, true, .pwm, .loop, some 40⟩, ⟨220, 9, false, .pwm, .loop, some 0⟩], 220, true⟩ := by
    decide +kernel
  have heeded : firstDrop (Replay.extract [9] {} dimmer 2).notices = none := by decide +kernel
  obtain ⟨result, hresult, hfault, -, hiterations, -, hevents, -⟩ :=
    (live_agrees_with_replay { usablePins := [9] } {} dimmer 2 (by decide) (by decide) rfl rfl
      rfl).2.1 _ timeline heeded
  refine ⟨result, hresult, hfault, ?_, ?_⟩
  · rw [hiterations]
    decide +kernel
  · rw [hevents]
    decide +kernel

end SketchGrader.Live
