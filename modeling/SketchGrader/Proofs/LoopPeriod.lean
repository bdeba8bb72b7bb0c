import Mathlib.Algebra.Ring.Int.Defs
import SketchGrader.Proofs.Appearance

/-!
# The period of a loop

Which lines of a body are executed depends on the directions of the pins and on the timers. Both are
given by statements that are never left out, so they are the same after every pass of the loop body,
and from the second pass on every pass has the same acts. Acts repeated leave the pins as they are
after the first time, so from the third pass on the events repeat with the period of the loop.
-/

namespace SketchGrader

namespace Machine

/-- Machines that execute the same statements. -/
structure SameShape (m m' : Machine) : Prop where
  directions : ∀ q, m.direction? q = m'.direction? q
  timers : ∀ t, m.timer t = m'.timer t

theorem direction?_after (m : Machine) (e : Effect) (q : Int) :
    (m.after e).direction? q = (m.direction? q).map (latest (Effect.declared? q) [e]).getD :=
  direction?_afterAll m [e] q

theorem SameShape.after {m m' : Machine} (h : SameShape m m') (e : Effect) :
    SameShape (m.after e) (m'.after e) where
  directions := by
    intro q
    rw [direction?_after, direction?_after, h.directions]
  timers := by
    intro t
    rw [timer_after, timer_after, h.timers]

theorem SameShape.permits {m m' : Machine} (h : SameShape m m') {limits : Limits}
    {statement : Statement} (permitted : m.Permits limits statement) :
    m'.Permits limits statement := by
  cases statement with
  | pinMode pin mode => simpa only [Permits, h.directions] using permitted
  | digitalWrite pin word => simpa only [Permits, h.directions] using permitted
  | setDuty pin percent => simpa only [Permits, h.directions] using permitted
  | timerPwm timer pin duty => simpa only [Permits, h.directions, h.timers] using permitted
  | _ => exact permitted

theorem SameShape.dropped?_eq {m m' : Machine} (h : SameShape m m') (statement : Statement) :
    Replay.dropped? m.board statement = Replay.dropped? m'.board statement := by
  apply Option.ext
  intro pin
  rw [Replay.dropped?_eq_some, Replay.dropped?_eq_some, h.directions]

end Machine

namespace Statement

theorem HasEffect.unique {statement : Statement} {e e' : Effect} (h : statement.HasEffect e)
    (h' : statement.HasEffect e') : e = e' := by
  cases h with
  | declare hd =>
      cases h' with
      | declare hd' => rw [Option.some.inj (hd.symm.trans hd')]
  | level hon =>
      cases h' with
      | level hon' => rw [Option.some.inj (hon.symm.trans hon')]
  | duty hpwm =>
      cases h' with
      | duty hpwm' => rw [Except.ok.inj (hpwm.symm.trans hpwm')]
  | pulse hpwm hpercent =>
      cases h' with
      | pulse hpwm' hpercent' =>
          rw [Except.ok.inj (hpwm.symm.trans hpwm'), Except.ok.inj (hpercent.symm.trans hpercent')]
  | start timer period =>
      cases h'
      rfl
  | stop timer =>
      cases h'
      rfl
  | wait ms =>
      cases h'
      rfl
  | conditional text =>
      cases h'
      rfl

theorem HasEffect.writes_of_written {statement : Statement} {e : Effect}
    (h : statement.HasEffect e) {pin : Int} (written : statement.writtenPin? = some pin) :
    e.writes pin = true := by
  cases h with
  | level hon =>
      cases written
      exact beq_self_eq_true pin
  | duty hpwm =>
      cases written
      exact beq_self_eq_true pin
  | pulse hpwm hpercent =>
      cases written
      exact beq_self_eq_true pin
  | _ => cases written

theorem HasEffect.writes_of_dropped {statement : Statement} {e : Effect}
    (h : statement.HasEffect e) {m : Machine} {pin : Int}
    (dropped : Replay.dropped? m.board statement = some pin) : e.writes pin = true :=
  h.writes_of_written (Replay.dropped?_eq_some.mp dropped).1

end Statement

/-- The milliseconds that a line waits. -/
def Cue.delay (cue : Cue) : Int :=
  match Statement.ofLine? cue.text with
  | .ok (some (.wait ms)) => ms
  | _ => 0

/-- The sum of the waits of the loop body. -/
def Program.loopPeriod (p : Program) : Int := ((p.cues .loop).map Cue.delay).sum

namespace Replay

theorem Rests.congr {m m' : Machine} (h : m.SameShape m') {text : Text} (rests : Rests m text) :
    Rests m' text := by
  obtain hl | ⟨statement, pin, hl, hd⟩ := rests
  · exact .inl hl
  · exact .inr ⟨statement, pin, hl, h.dropped?_eq statement ▸ hd⟩

theorem Acts.congr {m m' : Machine} (h : m.SameShape m') {limits : Limits} {text : Text}
    {e : Effect} (acts : Acts limits m text e) : Acts limits m' text e := by
  obtain ⟨statement, hl, hd, permitted, heff⟩ := acts
  exact ⟨statement, hl, h.dropped?_eq statement ▸ hd, h.permits permitted, heff⟩

theorem Enacts.congr {m m' : Machine} (h : m.SameShape m') {limits : Limits} {cues : List Cue}
    {acts : List Act} (enacts : Enacts limits m cues acts) : Enacts limits m' cues acts := by
  induction enacts generalizing m' with
  | done m => exact .done m'
  | rest hr _ ih => exact .rest (hr.congr h) (ih h)
  | act he _ ih => exact .act (he.congr h) (ih (h.after _))

/-! ## The acts of a pass -/

theorem Rests.delay_eq {m : Machine} {cue : Cue} (h : Rests m cue.text) : cue.delay = 0 := by
  unfold Cue.delay
  obtain hl | ⟨statement, pin, hl, hd⟩ := h
  · rw [hl]
  · rw [hl]
    cases statement with
    | wait ms => cases hd
    | _ => rfl

theorem Acts.delay_eq {limits : Limits} {m : Machine} {cue : Cue} {e : Effect}
    (h : Acts limits m cue.text e) : cue.delay = e.duration := by
  obtain ⟨statement, hl, -, -, heff⟩ := h
  unfold Cue.delay
  rw [hl]
  cases heff <;> rfl

theorem Acts.unique {limits : Limits} {m m' : Machine} {text : Text} {e e' : Effect}
    (h : Acts limits m text e) (h' : Acts limits m' text e') : e = e' := by
  obtain ⟨statement, hl, -, -, heff⟩ := h
  obtain ⟨statement', hl', -, -, heff'⟩ := h'
  rw [hl] at hl'
  cases hl'
  exact heff.unique heff'

/-- A line that is executed here and left out there is a write. -/
theorem Acts.silent_of_rests {β : Type} {f : Effect → Option β}
    (quiet : ∀ e q, e.writes q = true → f e = none) {limits : Limits} {m m' : Machine}
    {text : Text} {e : Effect} (h : Acts limits m text e) (rests : Rests m' text) :
    f e = none := by
  obtain ⟨statement, hl, -, -, heff⟩ := h
  obtain hr | ⟨statement', pin, hr, hd⟩ := rests
  · rw [hl] at hr
    cases hr
  · rw [hl] at hr
    cases hr
    exact quiet e pin (heff.writes_of_dropped hd)

/-- Two enactments of the same lines agree in everything but the writes. -/
theorem Enacts.filterMap_eq {β : Type} {f : Effect → Option β}
    (quiet : ∀ e q, e.writes q = true → f e = none) {limits : Limits} {m m' : Machine}
    {cues : List Cue} {acts acts' : List Act} (h : Enacts limits m cues acts)
    (h' : Enacts limits m' cues acts') :
    (acts.map (·.2)).filterMap f = (acts'.map (·.2)).filterMap f := by
  induction h generalizing m' acts' with
  | done m =>
      cases h'
      rfl
  | rest hr _ ih =>
      cases h' with
      | rest _ hacts => exact ih hacts
      | act he hacts =>
          rw [List.map_cons, List.filterMap_cons, he.silent_of_rests quiet hr]
          exact ih hacts
  | act he _ ih =>
      cases h' with
      | rest hr hacts =>
          rw [List.map_cons, List.filterMap_cons, he.silent_of_rests quiet hr]
          exact ih hacts
      | act he' hacts =>
          simp only [List.map_cons, List.filterMap_cons, he.unique he', ih hacts]

theorem Enacts.latest_eq {β : Type} {f : Effect → Option β}
    (quiet : ∀ e q, e.writes q = true → f e = none) {limits : Limits} {m m' : Machine}
    {cues : List Cue} {acts acts' : List Act} (h : Enacts limits m cues acts)
    (h' : Enacts limits m' cues acts') :
    latest f (acts.map (·.2)) = latest f (acts'.map (·.2)) :=
  congrArg List.getLast? (h.filterMap_eq quiet h')

/-- Two passes over the same lines leave machines of one shape: every direction and every timer is
as it was given last, by a statement that is never left out. -/
theorem sameShape_of_enacts {limits : Limits} {s : State} {cues : List Cue} {first second : List Act}
    (h : Enacts limits s.machine cues first)
    (h' : Enacts limits (s.takeAll first).2.machine cues second) :
    (s.takeAll first).2.machine.SameShape ((s.takeAll first).2.takeAll second).2.machine := by
  rw [machine_takeAll _ second]
  constructor
  · intro q
    have same : latest (Effect.declared? q) (first.map (·.2)) =
        latest (Effect.declared? q) (second.map (·.2)) :=
      h.latest_eq (fun e pin hw => (e.silent_of_writes hw).1 q) h'
    rw [Machine.direction?_afterAll, ← same, machine_takeAll, Machine.direction?_afterAll,
      Option.map_map]
    congr 1
    funext d
    rw [Function.comp_apply, ← Option.getD_or, Option.or_self]
  · intro t
    have same : latest (Effect.timed? t) (first.map (·.2)) =
        latest (Effect.timed? t) (second.map (·.2)) :=
      h.latest_eq (fun e pin hw => (e.silent_of_writes hw).2 t) h'
    rw [Machine.timer_afterAll, ← same, machine_takeAll, Machine.timer_afterAll, ← Option.getD_or,
      Option.or_self]

theorem Enacts.duration_eq {limits : Limits} {m : Machine} {cues : List Cue} {acts : List Act}
    (h : Enacts limits m cues acts) :
    (acts.map (·.2.duration)).sum = (cues.map Cue.delay).sum := by
  induction h with
  | done m => rfl
  | rest hr _ ih =>
      rw [List.map_cons, List.sum_cons, hr.delay_eq, ih, Int.zero_add]
  | act he _ ih =>
      rw [List.map_cons, List.sum_cons, List.map_cons, List.sum_cons, he.delay_eq, ih]

theorem takeAll_clock (s : State) (acts : List Act) :
    (s.takeAll acts).2.clock = s.clock + (acts.map (·.2.duration)).sum := by
  induction acts generalizing s with
  | nil => exact (Int.add_zero s.clock).symm
  | cons act rest ih =>
      have h : (s.takeAll (act :: rest)).2.clock =
          (s.take act.1 act.2).2.clock + (rest.map (·.2.duration)).sum := ih _
      rw [h, take_clock, List.map_cons, List.sum_cons, Int.add_assoc]

/-! ## Repetition -/

/-- States that differ in the time only, as far as acts can tell. -/
structure State.Alike (offset : Int) (s s' : State) : Prop where
  pins : ∀ q, s'.machine.board.get? q = s.machine.board.get? q
  memory : ∀ q, s'.emission.get? q = s.emission.get? q
  clock : s'.clock = s.clock + offset

theorem State.Alike.observe {offset : Int} {s s' : State} (h : s.Alike offset s') (origin : Body)
    (kind : EventKind) (pin : Int) :
    (s'.observe origin kind pin).1 = (s.observe origin kind pin).1.map (·.shift offset) := by
  cases hs : s.machine.board.get? pin with
  | none =>
      rw [observe_of_none hs, observe_of_none ((h.pins pin).trans hs)]
      rfl
  | some state =>
      rw [observe_of_some hs, observe_of_some ((h.pins pin).trans hs), h.memory pin]
      split_ifs with same
      · rfl
      · rw [h.clock]
        rfl

theorem State.Alike.take {offset : Int} {s s' : State} (h : s.Alike offset s') (origin : Body)
    (e : Effect) :
    (s'.take origin e).1 = (s.take origin e).1.map (·.shift offset) ∧
      (s.take origin e).2.Alike offset (s'.take origin e).2 := by
  have pins : ∀ q, (s'.machine.after e).board.get? q = (s.machine.after e).board.get? q := by
    intro q
    rw [Machine.get?_after, Machine.get?_after, h.pins]
  have changed : State.Alike offset { s with machine := s.machine.after e }
      { s' with machine := s'.machine.after e } := ⟨pins, h.memory, h.clock⟩
  refine ⟨?_, ?_, ?_, ?_⟩
  · cases e with
    | level pin on => exact changed.observe origin .digital pin
    | drive pin pwm duty => exact changed.observe origin .pwm pin
    | _ => rfl
  · intro q
    rw [machine_take, machine_take, pins]
  · intro q
    simp [get?_take, State.look?, pins, h.memory]
  · rw [take_clock, take_clock, h.clock]
    omega

theorem State.Alike.takeAll {offset : Int} {s s' : State} (h : s.Alike offset s') (acts : List Act) :
    (s'.takeAll acts).1 = (s.takeAll acts).1.map (·.shift offset) ∧
      (s.takeAll acts).2.Alike offset (s'.takeAll acts).2 := by
  induction acts generalizing s s' with
  | nil => exact ⟨rfl, h⟩
  | cons act rest ih =>
      obtain ⟨now, after⟩ := h.take act.1 act.2
      obtain ⟨later, final⟩ := ih after
      refine ⟨?_, final⟩
      simp only [State.takeAll, List.map_append, now, later]

/-- The second time the acts change nothing but the time. -/
theorem alike_of_repeated {s : State} (current : s.Current) (acts : List Act) :
    (s.takeAll acts).2.Alike (acts.map (·.2.duration)).sum
      ((s.takeAll acts).2.takeAll acts).2 := by
  have pins : ∀ q, ((s.takeAll acts).2.takeAll acts).2.machine.board.get? q =
      (s.takeAll acts).2.machine.board.get? q := by
    intro q
    rw [machine_takeAll _ acts, machine_takeAll s acts, Machine.get?_afterAll,
      Machine.get?_afterAll, Option.map_map]
    congr 1
    funext state
    exact Effect.settled_settled q _ state
  refine ⟨pins, ?_, takeAll_clock _ acts⟩
  intro q
  by_cases written : ∃ act ∈ acts, act.2.writes q = true
  · rw [memory_of_written (current_takeAll current acts) written,
      memory_of_written current written, State.look?, State.look?, pins]
  · have quiet : ∀ act ∈ acts, act.2.writes q = false := by simpa using written
    exact (takeAll_of_quiet quiet (s.takeAll acts).2).1

/-- The state after a number of passes with the same acts. -/
def State.repeatedly (s : State) (acts : List Act) : Nat → State
  | 0 => s
  | k + 1 => ((s.repeatedly acts k).takeAll acts).2

theorem current_repeatedly {s : State} (h : s.Current) (acts : List Act) (k : Nat) :
    (s.repeatedly acts k).Current := by
  induction k with
  | zero => exact h
  | succ k ih => exact current_takeAll ih acts

theorem alike_repeatedly {s : State} (current : s.Current) (acts : List Act) (k : Nat) :
    (s.repeatedly acts (k + 1)).Alike (acts.map (·.2.duration)).sum
      (s.repeatedly acts (k + 2)) :=
  alike_of_repeated (current_repeatedly current acts k) acts

/-- Once a pass has come to its acts after a pass over the same lines, all further passes do. -/
theorem enacts_repeatedly {limits : Limits} {s : State} {cues : List Cue}
    {first acts : List Act} (h : Enacts limits s.machine cues first)
    (h' : Enacts limits (s.takeAll first).2.machine cues acts) (k : Nat) :
    Enacts limits ((s.takeAll first).2.repeatedly acts k).machine cues acts ∧
      ((s.takeAll first).2.repeatedly acts k).machine.SameShape
        ((s.takeAll first).2.repeatedly acts (k + 1)).machine := by
  induction k with
  | zero => exact ⟨h', sameShape_of_enacts h h'⟩
  | succ k ih =>
      -- One shape before and after a pass gives the same acts, and these give one shape again.
      obtain ⟨enacts, shape⟩ := ih
      have next := enacts.congr shape
      exact ⟨next, sameShape_of_enacts enacts next⟩

section
variable {usable : List Int} {limits : Limits} {p : Program} {s : State} {first acts : List Act}

/-- A replay of two passes comes to the acts of all further passes. -/
theorem exists_acts {s' : State} (h : (follow limits (start usable) (p.script 2)).result = .ok s') :
    ∃ s first acts, (follow limits (start usable) (p.script 0)).result = .ok s ∧
      Enacts limits s.machine (p.cues .loop) first ∧
      Enacts limits (s.takeAll first).2.machine (p.cues .loop) acts := by
  rw [Program.script_succ, Program.script_succ] at h
  obtain ⟨t, ht, hlast⟩ := follow_append_ok h
  obtain ⟨s, hs, hfirst⟩ := follow_append_ok ht
  obtain ⟨first, enacts, htake⟩ := follow_ok hfirst
  obtain ⟨acts, enacts', -⟩ := follow_ok hlast
  refine ⟨s, first, acts, hs, enacts, ?_⟩
  rw [htake]
  exact enacts'

section
variable (hs : (follow limits (start usable) (p.script 0)).result = .ok s)
variable (enacts : Enacts limits s.machine (p.cues .loop) first)
variable (enacts' : Enacts limits (s.takeAll first).2.machine (p.cues .loop) acts)

include hs enacts enacts'

theorem follow_script (k : Nat) :
    (follow limits (start usable) (p.script (k + 1))).result =
      .ok ((s.takeAll first).2.repeatedly acts k) := by
  induction k with
  | zero =>
      rw [Program.script_succ, follow_append, andThen_of_ok hs]
      exact enacts.follow_eq.2
  | succ k ih =>
      rw [Program.script_succ, follow_append, andThen_of_ok ih]
      exact (enacts_repeatedly enacts enacts' k).1.follow_eq.2

theorem events_script (k : Nat) :
    (follow limits (start usable) (p.script (k + 2))).events =
      (follow limits (start usable) (p.script (k + 1))).events ++
        (((s.takeAll first).2.repeatedly acts k).takeAll acts).1 := by
  rw [Program.script_succ, follow_append, andThen_of_ok (follow_script hs enacts enacts' k),
    (enacts_repeatedly enacts enacts' k).1.follow_eq.1]

omit enacts in
/-- The events of a pass from the third on are those of the pass before, one period later. -/
theorem events_shift (k : Nat) :
    (((s.takeAll first).2.repeatedly acts (k + 2)).takeAll acts).1 =
      (((s.takeAll first).2.repeatedly acts (k + 1)).takeAll acts).1.map
        (·.shift p.loopPeriod) := by
  have current := current_follow (current_start usable) hs
  have alike := alike_repeatedly (current_takeAll current first) acts k
  rw [enacts'.duration_eq] at alike
  exact (alike.takeAll acts).1

end

end

/-- If two passes of the loop body go well, any number of passes does. Each further pass adds events
at the end, and from the third pass on what a pass adds is what the pass before added, later by the
period of the loop. -/
theorem loop_passes_settle (usable : List Int) (limits : Limits) (p : Program)
    (returns : ∃ timeline, (extract usable limits p 2).outcome = .ok timeline) :
    ∃ events : Int → List Event,
      (∀ n, 1 ≤ n → ∃ timeline, (extract usable limits p n).outcome = .ok timeline ∧
        timeline.events = events n) ∧
      (∀ n, 1 ≤ n → events n <+: events (n + 1)) ∧
      (∀ n, 3 ≤ n → (events (n + 1)).drop (events n).length =
        ((events n).drop (events (n - 1)).length).map (·.shift p.loopPeriod)) := by
  obtain ⟨timeline, ht⟩ := returns
  obtain ⟨⟨s', hs'⟩, -⟩ := extract_eq_ok.mp ht
  obtain ⟨s, first, acts, hs, enacts, enacts'⟩ := exists_acts hs'
  refine ⟨fun n => (follow limits (start usable) (p.script n.toNat)).events, ?_, ?_, ?_⟩
  · intro n hn
    have hcount : (max 1 n).toNat = (n - 1).toNat + 1 := by omega
    have ok := follow_script hs enacts enacts' (n - 1).toNat
    rw [← hcount] at ok
    refine ⟨_, extract_eq_ok.mpr ⟨⟨_, ok⟩, rfl⟩, ?_⟩
    rw [Int.max_eq_right hn]
  · intro n hn
    have hn' : n.toNat = (n - 1).toNat + 1 := by omega
    have hsucc : (n + 1).toNat = (n - 1).toNat + 2 := by omega
    simp only [hn', hsucc, events_script hs enacts enacts']
    exact List.prefix_append _ _
  · intro n hn
    obtain ⟨k, rfl⟩ : ∃ k : Nat, n = k + 3 := ⟨(n - 3).toNat, by omega⟩
    have hlast : ((k : Int) + 3 + 1).toNat = k + 2 + 2 := by omega
    have hmiddle : ((k : Int) + 3).toNat = k + 1 + 2 := by omega
    have hbefore : ((k : Int) + 3 - 1).toNat = k + 1 + 1 := by omega
    have added := events_script hs enacts enacts' (k + 1)
    have added' := events_script hs enacts enacts' (k + 2)
    simp only [hlast, hmiddle, hbefore]
    rw [added', List.drop_left, added, List.drop_left]
    exact events_shift hs enacts' k

/-- A sketch that blinks with a pin and switches on another, which it declares too late. -/
def latecomer : Program :=
  { setupBody := "pinMode(8, OUTPUT);".toList
    loopBody := ("digitalWrite(9, HIGH);\npinMode(9, OUTPUT);\n" ++
      "digitalWrite(8, HIGH);\ndelay(100);\ndigitalWrite(8, LOW);\ndelay(150);").toList }

/-- The write to pin 9 is left out in the first pass and gives an event in the second only, so the
second and the third pass are not yet alike. -/
theorem loop_passes_settle_latecomer :
    latecomer.loopPeriod = 250 ∧
    (run [8, 9] {} latecomer 3).events.drop (run [8, 9] {} latecomer 2).events.length ≠
      ((run [8, 9] {} latecomer 2).events.drop (run [8, 9] {} latecomer 1).events.length).map
        (·.shift 250) ∧
    ∃ events : Int → List Event,
      (∀ n, 1 ≤ n → ∃ timeline, (extract [8, 9] {} latecomer n).outcome = .ok timeline ∧
        timeline.events = events n) ∧
      (∀ n, 1 ≤ n → events n <+: events (n + 1)) ∧
      (∀ n, 3 ≤ n → (events (n + 1)).drop (events n).length =
        ((events n).drop (events (n - 1)).length).map (·.shift latecomer.loopPeriod)) := by
  have returns : (extract [8, 9] {} latecomer 2).outcome = .ok
      ⟨[⟨0, 8, true, .digital, .loop, none⟩, ⟨100, 8, false, .digital, .loop, none⟩,
        ⟨250, 9, true, .digital, .loop, none⟩, ⟨250, 8, true, .digital, .loop, none⟩,
        ⟨350, 8, false, .digital, .loop, none⟩], 350, true⟩ := by
    decide +kernel
  exact ⟨by decide +kernel, by decide +kernel,
    loop_passes_settle [8, 9] {} latecomer ⟨_, returns⟩⟩

end Replay

end SketchGrader
