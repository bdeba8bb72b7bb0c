import SketchGrader.Live.Runner
import SketchGrader.Proofs.Journal
import SketchGrader.Proofs.Leniency

/-!
# A live run beside a replay

A live run that nobody stops, on a clock that moves only while it pauses, keeps beside the replay of
its script. Its state is determined at every moment by the state of the replay, by the number of
statements that were followed by a pause, and by the events recorded so far. The two part where the
replay leaves out a write: there the live run ends with a fault.
-/

namespace SketchGrader.Live

open Replay (Entry journal entries paces ranked delayed)

/-- Follows a script; a stop request is looked for before each line. -/
def follow (setup : Setup) (s : State) : List Cue → Progress
  | [] => ⟨[], s, .finished⟩
  | cue :: rest =>
    if s.session.stopRequested then ⟨[], s, .stopped⟩
    else (line setup cue.origin s cue.number cue.text).andThen fun s => follow setup s rest

theorem lines_eq_follow (setup : Setup) (origin : Body) (s : State) (body : List (Int × Text)) :
    lines setup origin s body =
      follow setup s (body.map fun line => ⟨origin, line.1, line.2⟩) := by
  induction body generalizing s with
  | nil => rfl
  | cons line rest ih => simp only [lines, List.map_cons, follow, ih]

@[simp] theorem andThen_of_finished {p : Progress} (h : p.ending = .finished)
    (next : State → Progress) :
    p.andThen next =
      ⟨p.marks ++ (next p.state).marks, (next p.state).state, (next p.state).ending⟩ := by
  simp only [Progress.andThen, h]

@[simp] theorem andThen_of_not_finished {p : Progress} (h : p.ending ≠ .finished)
    (next : State → Progress) : p.andThen next = p := by
  unfold Progress.andThen
  split
  next hf => exact (h hf).elim
  next => rfl

theorem andThen_assoc (p : Progress) (f g : State → Progress) :
    (p.andThen f).andThen g = p.andThen fun s => (f s).andThen g := by
  by_cases hp : p.ending = .finished
  · rw [andThen_of_finished hp, andThen_of_finished hp]
    by_cases hf : (f p.state).ending = .finished
    · simp only [Progress.andThen, hf, List.append_assoc]
    · rw [andThen_of_not_finished hf]
      exact andThen_of_not_finished (p := ⟨p.marks ++ (f p.state).marks, _, _⟩) hf g
  · rw [andThen_of_not_finished hp, andThen_of_not_finished hp, andThen_of_not_finished hp]

@[simp] theorem follow_append (setup : Setup) (s : State) (a b : List Cue) :
    follow setup s (a ++ b) = (follow setup s a).andThen fun s => follow setup s b := by
  induction a generalizing s with
  | nil => rfl
  | cons cue rest ih =>
      simp only [List.cons_append, follow]
      split_ifs
      · rfl
      · simp only [ih, andThen_assoc]

/-- The statements among marks, with their lines. -/
def executed (marks : List Mark) : List (Int × Statement) :=
  marks.filterMap fun mark => match mark with
    | .statement line statement _ => some (line, statement)
    | _ => none

@[simp] theorem executed_append (a b : List Mark) : executed (a ++ b) = executed a ++ executed b :=
  List.filterMap_append

/-- The statements of a journal that someone watches. -/
def Setup.watches (setup : Setup) (steps : List Entry) : List (Int × Statement) :=
  if setup.watched then steps.map fun entry => (entry.line, entry.statement) else []

/-- The state of a live run that began at `began`, beside a replay in state `r`, after `before`
statements with a pause. -/
def beside (setup : Setup) (began : Int) (before : Nat) (recorded : List Event)
    (r : Replay.State) : State where
  session :=
    { recorder := ⟨recorded, some began, true⟩
      clock := ⟨began + r.clock + setup.stepDelayMs * before, 0⟩
      plan := {}
      stopRequested := false }
  machine := r.machine
  emission := r.emission

section
variable {setup : Setup} {began : Int} {before : Nat} {recorded : List Event} {r : Replay.State}

theorem tell_beside (kind : MarkKind) (mark : Mark) :
    ((beside setup began before recorded r).tell setup kind mark).2 =
      beside setup began before recorded r := by
  unfold State.tell
  split_ifs
  · cases kind <;> rfl
  · rfl

theorem pause_beside (moves : setup.pausesMoveClock = true) (ms : Int) :
    (beside setup began before recorded r).pause setup ms =
      ([.pause ms], beside setup began before recorded { r with clock := r.clock + ms }) := by
  have h : began + r.clock + setup.stepDelayMs * before + ms =
      began + (r.clock + ms) + setup.stepDelayMs * before := by omega
  simp only [State.pause, moves, if_true, beside, Clock.advance, h]
  rfl

theorem stepPause_beside (moves : setup.pausesMoveClock = true) :
    ((beside setup began before recorded r).stepPause setup).2 =
      beside setup began (before + 1) recorded r := by
  unfold State.stepPause
  split_ifs with still
  · simp only [beside, still, Int.zero_mul]
  · have h : began + (r.clock + setup.stepDelayMs) + setup.stepDelayMs * before =
        began + r.clock + setup.stepDelayMs * (before + 1 : Nat) := by
      rw [Int.natCast_add, Int.mul_add]
      omega
    rw [pause_beside moves]
    simp only [beside, h]

@[simp] theorem executed_pause (s : State) (ms : Int) : executed (s.pause setup ms).1 = [] := by
  unfold State.pause
  split_ifs <;> rfl

@[simp] theorem executed_stepPause (s : State) : executed (s.stepPause setup).1 = [] := by
  unfold State.stepPause
  split_ifs
  · rfl
  · exact executed_pause s setup.stepDelayMs

theorem elapsed_beside :
    (beside setup began before recorded r).session.recorder.elapsed
        (beside setup began before recorded r).session.clock =
      (r.clock + setup.stepDelayMs * before,
        (beside setup began before recorded r).session.clock) := by
  have h : began + r.clock + setup.stepDelayMs * before - began =
      r.clock + setup.stepDelayMs * before := by omega
  simp only [beside, Recorder.elapsed, Clock.read, Int.add_zero, h]

theorem record_beside {event : Event}
    (h : event.time = r.clock + setup.stepDelayMs * before) :
    (beside setup began before recorded r).session.recorder.record
        (beside setup began before recorded r).session.clock event =
      (some event, ⟨recorded ++ [event], some began, true⟩,
        (beside setup began before recorded r).session.clock) := by
  have stamped : event.shift (r.clock + setup.stepDelayMs * before - event.time) = event := by
    rw [h, Int.sub_self]
    simp only [Event.shift, Int.add_zero]
  have recording : (beside setup began before recorded r).session.recorder.isRecording = true := rfl
  rw [Recorder.record, if_pos recording, elapsed_beside]
  simp only [stamped]
  rfl

theorem observe_beside (origin : Body) (kind : EventKind) (pin : Int) :
    ((beside setup began before recorded r).observe setup origin kind pin).2 =
      beside setup began before
        (recorded ++ (r.observe origin kind pin).1.map fun e => delayed setup.stepDelayMs (before, e))
        (r.observe origin kind pin).2 := by
  unfold State.observe
  rw [elapsed_beside]
  cases hs : r.machine.board.get? pin with
  | none =>
      rw [Replay.observe_of_none hs, List.map_nil, List.append_nil]
      simp only [beside, hs]
  | some state =>
      rw [Replay.observe_of_some hs]
      by_cases same : r.emission.get? pin = some state.appearance
      · simp only [if_pos same, List.map_nil, List.append_nil]
        simp only [beside, hs, Replay.emission_of_same same]
      · simp only [if_neg same, List.map_cons, List.map_nil]
        have he := @Replay.emission_of_changed (beside setup began before recorded r).emission pin
          state same kind origin (r.clock + setup.stepDelayMs * before)
        have hm : (beside setup began before recorded r).machine.board.get? pin = some state := hs
        simp only [hm]
        rw [he]
        simp only
        rw [record_beside rfl]
        exact @tell_beside setup began before
          (recorded ++ [delayed setup.stepDelayMs (before, Replay.eventOf r.clock origin kind pin state)])
          { r with emission := r.emission.set pin state.appearance } .event _

theorem executed_observe (s : State) (origin : Body) (kind : EventKind) (pin : Int) :
    executed (s.observe setup origin kind pin).1 = [] := by
  unfold State.observe State.tell
  simp only
  split
  next => rfl
  next =>
    split
    next => rfl
    next =>
      split
      next => rfl
      next => split_ifs <;> rfl

theorem executed_tell (s : State) (number : Int) (statement : Statement)
    (lights : List (Int × Bool)) (events : List Event) :
    executed (s.tell setup .statement (.statement number statement lights)).1 =
      setup.watches [⟨number, statement, events⟩] := by
  unfold State.tell Setup.watches
  split_ifs <;> rfl

theorem settle_wait (s : State) (origin : Body) (number ms : Int) :
    s.settle setup origin number (.wait ms) =
      let told := s.tell setup .statement (.statement number (.wait ms) s.machine.board.lights)
      let paused := told.2.pause setup ms
      (told.1 ++ paused.1, paused.2) := rfl

theorem settle_of_not_wait {statement : Statement} (h : statement.isWait = false) (s : State)
    (origin : Body) (number : Int) :
    s.settle setup origin number statement =
      let told := s.tell setup .statement (.statement number statement s.machine.board.lights)
      let observed := match statement.writtenPin? with
        | some pin => told.2.observe setup origin (.ofStatement statement) pin
        | none => ([], told.2)
      let paused := observed.2.stepPause setup
      (told.1 ++ observed.1 ++ paused.1, paused.2) := by
  cases statement with
  | wait ms => cases h
  | _ => rfl

theorem settle_beside (moves : setup.pausesMoveClock = true) (origin : Body) (number : Int)
    (machine : Machine) (statement : Statement) :
    ((beside setup began before recorded { r with machine }).settle setup origin number
        statement).2 =
      beside setup began
        (before + paces [⟨number, statement, (Replay.settle origin r machine statement).1⟩])
        (recorded ++ (Replay.settle origin r machine statement).1.map fun e =>
          delayed setup.stepDelayMs (before, e))
        (Replay.settle origin r machine statement).2 := by
  cases hw : statement.isWait with
  | true =>
      cases statement with
      | wait ms =>
          simp only [settle_wait, tell_beside, pause_beside moves]
          simp only [Replay.settle, paces, Statement.isWait, List.map_nil, List.append_nil]
          rfl
      | _ => cases hw
  | false =>
      have hp : paces [⟨number, statement, (Replay.settle origin r machine statement).1⟩] = 1 := by
        simp only [paces, List.countP_cons, hw, Bool.not_false, List.countP_nil, if_true]
      rw [hp, settle_of_not_wait hw, Replay.settle_of_not_wait hw]
      simp only [tell_beside]
      cases statement.writtenPin? with
      | none => simp only [stepPause_beside moves, List.map_nil, List.append_nil]
      | some pin => simp only [observe_beside, stepPause_beside moves]

theorem executed_settle (s : State) (origin : Body) (number : Int) (statement : Statement)
    (events : List Event) :
    executed (s.settle setup origin number statement).1 =
      setup.watches [⟨number, statement, events⟩] := by
  cases hw : statement.isWait with
  | true =>
      cases statement with
      | wait ms =>
          rw [settle_wait]
          simp [executed_tell s number _ _ events]
      | _ => cases hw
  | false =>
      rw [settle_of_not_wait hw]
      simp only [executed_append, executed_tell s number _ _ events, executed_stepPause,
        List.append_nil]
      cases statement.writtenPin? with
      | none => exact List.append_nil _
      | some pin => simp only [executed_observe, List.append_nil]

end

/-! ## Left-out writes -/

/-- The line of the first write that was left out. -/
def firstDrop (notices : List Notice) : Option Int :=
  notices.findSome? fun notice => match notice with
    | .writeDropped _ line => some line
    | _ => none

@[simp] theorem firstDrop_append (a b : List Notice) :
    firstDrop (a ++ b) = (firstDrop a).or (firstDrop b) :=
  List.findSome?_append

theorem firstDrop_notices (limits : Limits) (number : Int) (statement : Statement) :
    firstDrop (Machine.notices limits number statement) = none := by
  unfold Machine.notices
  split
  next => rfl
  next => split_ifs <;> rfl
  next => rfl

/-! ## Line by line -/

/-- The ending of a live run beside a replay that gave some notices and a result. -/
def Parallels (notices : List Notice) (result : Except Halt Replay.State) (ending : Ending) :
    Prop :=
  match firstDrop notices with
  | some line => ∃ cause, ending = .halted (.fault ⟨line, cause⟩)
  | none =>
    match result with
    | .ok _ => ending = .finished
    | .error halt => ending = .halted halt

/-- What a live run did beside a replay: it executed the steps, which are all of the replay's
unless that left out a write, and recorded their events. -/
structure Alongside (setup : Setup) (began : Int) (before : Nat) (recorded : List Event)
    (all : List Entry) (replay : Replay.Progress) (live : Progress) (steps : List Entry) : Prop where
  steps_prefix : steps <+: all
  steps_eq : firstDrop replay.notices = none → steps = all
  executed_eq : executed live.marks = setup.watches steps
  state_eq : ∃ r, live.state = beside setup began (before + paces steps)
    (recorded ++ (ranked before steps).map (delayed setup.stepDelayMs)) r
  ending : Parallels replay.notices replay.result live.ending

section
variable {setup : Setup} {began : Int} {before : Nat} {recorded : List Event}
variable {r r' : Replay.State} {cue : Cue}

/-- A line after which both runs go on. -/
structure GoesOn (setup : Setup) (began : Int) (before : Nat) (recorded : List Event)
    (cue : Cue) (r r' : Replay.State) : Prop where
  replay : (Replay.line setup.limits cue.origin r cue.number cue.text).result = .ok r'
  heeded : firstDrop (Replay.line setup.limits cue.origin r cue.number cue.text).notices = none
  executed_eq :
    executed (line setup cue.origin (beside setup began before recorded r) cue.number
      cue.text).marks = setup.watches (entries setup.limits r cue)
  state_eq :
    (line setup cue.origin (beside setup began before recorded r) cue.number cue.text).state =
      beside setup began (before + paces (entries setup.limits r cue))
        (recorded ++ (ranked before (entries setup.limits r cue)).map (delayed setup.stepDelayMs))
        r'
  ending :
    (line setup cue.origin (beside setup began before recorded r) cue.number cue.text).ending =
      .finished

/-- A line at which the live run ends with a halt. -/
structure Ends (setup : Setup) (began : Int) (before : Nat) (recorded : List Event)
    (cue : Cue) (r : Replay.State) (halt : Halt) : Prop where
  entries_eq : entries setup.limits r cue = []
  line_eq : line setup cue.origin (beside setup began before recorded r) cue.number cue.text =
    ⟨[], beside setup began before recorded r, .halted halt⟩

theorem executed_reported (limits : Limits) (number : Int) (statement : Statement) :
    executed ((Machine.notices limits number statement).map Mark.notice) = [] := by
  unfold Machine.notices
  split
  next => rfl
  next => split_ifs <;> rfl
  next => rfl

theorem watches_nil : setup.watches [] = [] := by
  unfold Setup.watches
  split_ifs <;> rfl

theorem goesOn_of_empty (hl : Statement.ofLine? cue.text = .ok none) :
    GoesOn setup began before recorded cue r r := by
  have hv : line setup cue.origin (beside setup began before recorded r) cue.number cue.text =
      ⟨[], beside setup began before recorded r, .finished⟩ := by
    simp only [line, Machine.execLine, hl]
  have hr : Replay.line setup.limits cue.origin r cue.number cue.text = ⟨[], [], .ok r⟩ := by
    simp only [Replay.line, hl]
  have he : entries setup.limits r cue = [] := by simp only [entries, hl]
  refine ⟨by rw [hr], by rw [hr]; rfl, by rw [hv, he, watches_nil]; rfl, ?_, by rw [hv]⟩
  rw [hv, he, ranked, List.map_nil, List.append_nil]
  rfl

theorem goesOn_of_executed (moves : setup.pausesMoveClock = true) {statement : Statement}
    {machine : Machine} (hl : Statement.ofLine? cue.text = .ok (some statement))
    (hd : Replay.dropped? r.machine.board statement = none)
    (he : r.machine.exec setup.limits statement = .ok machine) :
    GoesOn setup began before recorded cue r (Replay.settle cue.origin r machine statement).2 := by
  have hr : Replay.line setup.limits cue.origin r cue.number cue.text =
      ⟨(Replay.settle cue.origin r machine statement).1,
        Machine.notices setup.limits cue.number statement,
        .ok (Replay.settle cue.origin r machine statement).2⟩ := by
    simp only [Replay.line, hl, hd, he]
  have hm : (beside setup began before recorded r).machine.execLine setup.limits cue.number
      cue.text = .ok (some statement, machine) := by
    change r.machine.execLine setup.limits cue.number cue.text = _
    simp only [Machine.execLine, hl, he]
  have hE : entries setup.limits r cue =
      [⟨cue.number, statement, (Replay.settle cue.origin r machine statement).1⟩] := by
    simp only [entries, hl, hd, he]
  have hs := @settle_beside setup began before recorded r moves cue.origin cue.number machine
    statement
  refine ⟨by rw [hr], by rw [hr]; exact firstDrop_notices _ _ _, ?_, ?_, ?_⟩
  · simp only [line, hm, executed_append, executed_reported, List.nil_append]
    rw [hE]
    exact executed_settle _ cue.origin cue.number statement _
  · simp only [line, hm]
    rw [hE, ranked, ranked, List.append_nil, List.map_map]
    exact hs
  · simp only [line, hm]

theorem ends_of_refused {halt : Halt} (he : entries setup.limits r cue = [])
    (hm : r.machine.execLine setup.limits cue.number cue.text = .error halt) :
    Ends setup began before recorded cue r halt := by
  have refused : (beside setup began before recorded r).machine.execLine setup.limits cue.number
      cue.text = .error halt := hm
  exact ⟨he, by simp only [line, refused]⟩

/-- Every line makes both runs go on, or halts both, or is left out by the replay and halts the
live run. -/
theorem line_beside (moves : setup.pausesMoveClock = true) (cue : Cue) (r : Replay.State) :
    (∃ r', GoesOn setup began before recorded cue r r') ∨
      (∃ halt, Ends setup began before recorded cue r halt ∧
        Replay.line setup.limits cue.origin r cue.number cue.text = ⟨[], [], .error halt⟩) ∨
      ∃ cause pin, Ends setup began before recorded cue r (.fault ⟨cue.number, cause⟩) ∧
        Replay.line setup.limits cue.origin r cue.number cue.text =
          ⟨[], [.writeDropped pin cue.number], .ok r⟩ := by
  cases hl : Statement.ofLine? cue.text with
  | error problem =>
      refine .inr (.inl ⟨problem.atLine cue.number, ends_of_refused ?_ ?_, ?_⟩)
      · simp only [entries, hl]
      · simp only [Machine.execLine, hl]
      · simp only [Replay.line, hl]
  | ok found =>
      cases found with
      | none => exact .inl ⟨r, goesOn_of_empty hl⟩
      | some statement =>
          cases hd : Replay.dropped? r.machine.board statement with
          | some pin =>
              obtain ⟨cause, he, -⟩ := Machine.exec_of_dropped hd setup.limits
              refine .inr (.inr ⟨cause, pin, ends_of_refused ?_ ?_, ?_⟩)
              · simp only [entries, hl, hd]
              · simp only [Machine.execLine, hl, he, Problem.atLine]
              · simp only [Replay.line, hl, hd]
          | none =>
              cases he : r.machine.exec setup.limits statement with
              | error problem =>
                  refine .inr (.inl ⟨problem.atLine cue.number, ends_of_refused ?_ ?_, ?_⟩)
                  · simp only [entries, hl, hd, he]
                  · simp only [Machine.execLine, hl, he]
                  · simp only [Replay.line, hl, hd, he]
              | ok machine => exact .inl ⟨_, goesOn_of_executed moves hl hd he⟩

theorem follow_cons (cues : List Cue) :
    follow setup (beside setup began before recorded r) (cue :: cues) =
      (line setup cue.origin (beside setup began before recorded r) cue.number
        cue.text).andThen fun s => follow setup s cues := rfl

theorem watches_append (a b : List Entry) :
    setup.watches (a ++ b) = setup.watches a ++ setup.watches b := by
  unfold Setup.watches
  split_ifs
  · exact List.map_append
  · rfl

theorem GoesOn.cons (on : GoesOn setup began before recorded cue r r') {cues : List Cue}
    {steps : List Entry}
    (along : Alongside setup began (before + paces (entries setup.limits r cue))
      (recorded ++ (ranked before (entries setup.limits r cue)).map (delayed setup.stepDelayMs))
      (journal setup.limits r' cues) (Replay.follow setup.limits r' cues)
      (follow setup (beside setup began (before + paces (entries setup.limits r cue))
        (recorded ++ (ranked before (entries setup.limits r cue)).map (delayed setup.stepDelayMs))
        r') cues) steps) :
    Alongside setup began before recorded (journal setup.limits r (cue :: cues))
      (Replay.follow setup.limits r (cue :: cues))
      (follow setup (beside setup began before recorded r) (cue :: cues))
      (entries setup.limits r cue ++ steps) := by
  have hj : journal setup.limits r (cue :: cues) =
      entries setup.limits r cue ++ journal setup.limits r' cues := by
    simp only [journal, on.replay]
  have hd : firstDrop (Replay.follow setup.limits r (cue :: cues)).notices =
      firstDrop (Replay.follow setup.limits r' cues).notices := by
    rw [Replay.follow, Replay.andThen_of_ok on.replay, firstDrop_append, on.heeded, Option.none_or]
  have hr : (Replay.follow setup.limits r (cue :: cues)).result =
      (Replay.follow setup.limits r' cues).result := by
    rw [Replay.follow, Replay.andThen_of_ok on.replay]
  rw [follow_cons, andThen_of_finished on.ending, on.state_eq]
  refine ⟨?_, ?_, ?_, ?_, ?_⟩
  · rw [hj]
    exact (List.prefix_append_right_inj _).mpr along.steps_prefix
  · intro h
    rw [hj, along.steps_eq (hd ▸ h)]
  · rw [executed_append, on.executed_eq, along.executed_eq, watches_append]
  · obtain ⟨t, ht⟩ := along.state_eq
    refine ⟨t, ?_⟩
    rw [Replay.paces_append, Replay.ranked_append, List.map_append, ← Nat.add_assoc, ← List.append_assoc]
    exact ht
  · unfold Parallels
    rw [hd, hr]
    exact along.ending

theorem Ends.alongside {halt : Halt} (ends : Ends setup began before recorded cue r halt)
    {cues : List Cue} {all : List Entry} {p : Replay.Progress}
    (steps_eq : firstDrop p.notices = none → [] = all)
    (ending : Parallels p.notices p.result (.halted halt)) :
    Alongside setup began before recorded all p
      (follow setup (beside setup began before recorded r) (cue :: cues)) [] := by
  rw [follow_cons, ends.line_eq, andThen_of_not_finished (by simp)]
  refine ⟨List.nil_prefix, steps_eq, watches_nil.symm, ⟨r, ?_⟩, ending⟩
  simp only [ranked, List.map_nil, List.append_nil]
  rfl

theorem follow_beside (moves : setup.pausesMoveClock = true) (cues : List Cue)
    (before : Nat) (recorded : List Event) (r : Replay.State) :
    ∃ steps, Alongside setup began before recorded (journal setup.limits r cues)
      (Replay.follow setup.limits r cues)
      (follow setup (beside setup began before recorded r) cues) steps := by
  induction cues generalizing before recorded r with
  | nil =>
      refine ⟨[], List.nil_prefix, fun _ => rfl, watches_nil.symm, ⟨r, ?_⟩, rfl⟩
      simp only [ranked, List.map_nil, List.append_nil]
      rfl
  | cons cue rest ih =>
      obtain ⟨r', on⟩ | ⟨halt, ends, hr⟩ | ⟨cause, pin, ends, hr⟩ := line_beside moves cue r
      · obtain ⟨steps, along⟩ := ih _ _ r'
        exact ⟨_, on.cons along⟩
      · have hf : Replay.follow setup.limits r (cue :: rest) = ⟨[], [], .error halt⟩ := by
          rw [Replay.follow, hr]
          rfl
        refine ⟨[], ends.alongside ?_ ?_⟩
        · intro _
          simp only [journal, ends.entries_eq, hr, List.append_nil]
        · rw [hf]
          rfl
      · -- The replay goes on, but the first write that it leaves out is here.
        have hd : firstDrop (Replay.follow setup.limits r (cue :: rest)).notices =
            some cue.number := by
          rw [Replay.follow, hr]
          rfl
        refine ⟨[], ends.alongside ?_ ?_⟩
        · intro h
          rw [hd] at h
          cases h
        · unfold Parallels
          rw [hd]
          exact ⟨cause, rfl⟩

end

end SketchGrader.Live
