import Mathlib.Data.List.TakeWhile
import SketchGrader.Proofs.Latest
import SketchGrader.Timeline.Replay

/-!
# Scripts

A replay comes to the lines of its bodies one after the other. A script is the flat list of these
lines, and following it is the replay, so every moment of a replay is reached by following an
initial part of its script.

What a replay makes of a script falls into two parts. The acts are the effects of the lines that
are neither empty nor left out; which these are depends on the machine only. Taking the acts one by
one then gives the events.
-/

namespace SketchGrader

namespace Text

theorem trim_eq_nil {t : Text} : trim t = [] ↔ ∀ c ∈ t, isBlank c = true := by
  simp only [trim, trimRight, trimLeft, List.reverse_eq_nil_iff, List.dropWhile_eq_nil_iff,
    List.mem_reverse]
  constructor
  · intro h
    have empty : t.dropWhile isBlank = [] := by
      cases hd : t.dropWhile isBlank with
      | nil => rfl
      | cons c rest =>
          have blank := h c (by simp [hd])
          have sharp := List.head_dropWhile_not isBlank (l := t) (by simp [hd])
          simp [hd, blank] at sharp
    exact List.dropWhile_eq_nil_iff.mp empty
  · intro h c hc
    exact h c ((List.dropWhile_sublist isBlank).subset hc)

theorem mem_of_mem_split {separator : Char} {t piece : Text} {c : Char}
    (hp : piece ∈ split separator t) (hc : c ∈ piece) : c ∈ t := by
  induction t generalizing piece with
  | nil =>
      rw [split, List.mem_singleton] at hp
      simp [hp] at hc
  | cons d rest ih =>
      rw [split] at hp
      split_ifs at hp with hd
      · obtain rfl | hp := List.mem_cons.mp hp
        · cases hc
        · exact List.mem_cons_of_mem d (ih hp hc)
      · split at hp
        next =>
          rw [List.mem_singleton.mp hp] at hc
          simpa using Or.inl (List.mem_singleton.mp hc)
        next first more hs =>
          obtain rfl | hp := List.mem_cons.mp hp
          · obtain rfl | hc := List.mem_cons.mp hc
            · exact List.mem_cons_self
            · exact List.mem_cons_of_mem d (ih (by simp [hs]) hc)
          · exact List.mem_cons_of_mem d (ih (by simp [hs, hp]) hc)

end Text

/-- A line as a replay comes to it: the body it stands in, its number and its text. -/
structure Cue where
  origin : Body
  number : Int
  text : Text
  deriving DecidableEq, Repr

namespace Program

/-- The lines of a body. -/
def cues (p : Program) (b : Body) : List Cue :=
  (p.statementLines b).map fun line => ⟨b, line.1, line.2⟩

/-- The setup body once and the loop body a number of times. -/
def script (p : Program) (count : Nat) : List Cue :=
  p.cues .setup ++ (List.replicate count (p.cues .loop)).flatten

theorem numbered_eq_nil {texts : List Text} (h : ∀ text ∈ texts, Text.trim text = [])
    (number : Int) : numbered number texts = [] := by
  induction texts generalizing number with
  | nil => rfl
  | cons text rest ih =>
      have blank : Text.trim text = [] := h text List.mem_cons_self
      simp only [numbered, blank, List.isEmpty_nil, Bool.true_or, if_true]
      exact ih (fun other ho => h other (List.mem_cons_of_mem text ho)) (number + 1)

/-- Without anything to repeat there are no lines in the loop body. -/
theorem cues_of_not_looping {p : Program} (h : p.isLooping = false) : p.cues .loop = [] := by
  have blank : ∀ c ∈ p.loopBody, Text.isBlank c = true := by
    apply Text.trim_eq_nil.mp
    simpa [isLooping] using h
  have none : p.statementLines .loop = [] := by
    apply numbered_eq_nil
    intro text ht
    apply Text.trim_eq_nil.mpr
    intro c hc
    exact blank c (Text.mem_of_mem_split ht hc)
  rw [cues, none, List.map_nil]

theorem script_succ (p : Program) (count : Nat) :
    p.script (count + 1) = p.script count ++ p.cues .loop := by
  simp only [script, List.replicate_succ', List.flatten_append, List.flatten_singleton,
    List.append_assoc]

end Program

namespace Replay

/-- Follows a script. -/
def follow (limits : Limits) (s : State) : List Cue → Progress
  | [] => ⟨[], [], .ok s⟩
  | cue :: rest =>
    (line limits cue.origin s cue.number cue.text).andThen fun s => follow limits s rest

@[simp] theorem andThen_of_error {p : Progress} {halt : Halt} (h : p.result = .error halt)
    (next : State → Progress) : p.andThen next = p := by
  obtain ⟨events, notices, result⟩ := p
  subst h
  rfl

@[simp] theorem andThen_of_ok {p : Progress} {s : State} (h : p.result = .ok s)
    (next : State → Progress) :
    p.andThen next =
      ⟨p.events ++ (next s).events, p.notices ++ (next s).notices, (next s).result⟩ := by
  simp only [Progress.andThen, h]

/-- What goes on and goes well went well before. -/
theorem andThen_ok {p : Progress} {next : State → Progress} {s : State}
    (h : (p.andThen next).result = .ok s) : ∃ t, p.result = .ok t ∧ (next t).result = .ok s := by
  cases hp : p.result with
  | error halt =>
      rw [andThen_of_error hp, hp] at h
      cases h
  | ok t =>
      rw [andThen_of_ok hp] at h
      exact ⟨t, rfl, h⟩

theorem andThen_assoc (p : Progress) (f g : State → Progress) :
    (p.andThen f).andThen g = p.andThen fun s => (f s).andThen g := by
  cases hp : p.result with
  | error halt => rw [andThen_of_error hp, andThen_of_error hp, andThen_of_error hp]
  | ok s =>
      rw [andThen_of_ok hp, andThen_of_ok hp]
      cases hf : (f s).result with
      | error halt => simp only [Progress.andThen, hf]
      | ok t => simp only [Progress.andThen, hf, List.append_assoc]

@[simp] theorem follow_append (limits : Limits) (s : State) (a b : List Cue) :
    follow limits s (a ++ b) = (follow limits s a).andThen fun s => follow limits s b := by
  induction a generalizing s with
  | nil => simp [follow]
  | cons cue rest ih => simp only [List.cons_append, follow, ih, andThen_assoc]

theorem follow_append_ok {limits : Limits} {s s' : State} {a b : List Cue}
    (h : (follow limits s (a ++ b)).result = .ok s') :
    ∃ t, (follow limits s a).result = .ok t ∧ (follow limits t b).result = .ok s' := by
  rw [follow_append] at h
  exact andThen_ok h

theorem follow_cons_ok {limits : Limits} {s s' : State} {cue : Cue} {rest : List Cue}
    (h : (follow limits s (cue :: rest)).result = .ok s') :
    ∃ t, (line limits cue.origin s cue.number cue.text).result = .ok t ∧
      (follow limits t rest).result = .ok s' :=
  andThen_ok h

theorem lines_eq_follow (limits : Limits) (origin : Body) (s : State)
    (body : List (Int × Text)) :
    lines limits origin s body =
      follow limits s (body.map fun line => ⟨origin, line.1, line.2⟩) := by
  induction body generalizing s with
  | nil => rfl
  | cons line rest ih => simp only [lines, List.map_cons, follow, ih]

theorem passes_eq_follow (limits : Limits) (p : Program) (s : State) (count : Nat) :
    passes limits (p.statementLines .loop) s count =
      follow limits s (List.replicate count (p.cues .loop)).flatten := by
  induction count generalizing s with
  | zero => rfl
  | succ count ih =>
      simp only [passes, lines_eq_follow, List.replicate_succ, List.flatten_cons, follow_append,
        ih]
      rfl

/-- Where every replay begins. -/
def start (usable : List Int) : State := { machine := Machine.ofPins usable }

theorem run_eq_follow (usable : List Int) (limits : Limits) (p : Program) (count : Nat) :
    run usable limits p count = follow limits (start usable) (p.script count) := by
  rw [Program.script, follow_append]
  simp only [run, lines_eq_follow, passes_eq_follow]
  rfl

theorem extract_eq_ok {usable : List Int} {limits : Limits} {p : Program} {iterations : Int}
    {timeline : Sequence} :
    (extract usable limits p iterations).outcome = .ok timeline ↔
      (∃ s, (follow limits (start usable) (p.script (max 1 iterations).toNat)).result = .ok s) ∧
        timeline =
          let events := (follow limits (start usable) (p.script (max 1 iterations).toNat)).events
          ⟨events, lastTime events, p.isLooping⟩ := by
  simp only [extract, run_eq_follow]
  split
  next halt hp => simp [hp]
  next s hp => simp [hp, eq_comm]

theorem extract_eq_error {usable : List Int} {limits : Limits} {p : Program} {iterations : Int}
    {halt : Halt} :
    (extract usable limits p iterations).outcome = .error halt ↔
      (follow limits (start usable) (p.script (max 1 iterations).toNat)).result = .error halt := by
  simp only [extract, run_eq_follow]
  split
  next other hp => simp [hp]
  next s hp => simp [hp]

/-! ## Acts -/

/-- A write is left out if its pin is usable and no output. -/
theorem dropped?_eq_some {m : Machine} {statement : Statement} {pin : Int} :
    dropped? m.board statement = some pin ↔
      statement.writtenPin? = some pin ∧
        ∃ direction, m.direction? pin = some direction ∧ direction ≠ .output := by
  unfold dropped? Machine.direction?
  cases statement.writtenPin? with
  | none => simp
  | some p =>
      simp only [Option.some.injEq]
      constructor
      · intro h
        split at h
        next state hs =>
          split_ifs at h with hd
          cases h
          exact ⟨rfl, state.direction, by rw [hs]; rfl, hd⟩
        next => cases h
      · rintro ⟨rfl, direction, known, hd⟩
        obtain ⟨state, hs, rfl⟩ := Option.map_eq_some_iff.mp known
        simp only [hs, if_neg hd]

/-- A line that leaves a replay where it stands: it holds no statement, or a write that is left
out. -/
def Rests (m : Machine) (text : Text) : Prop :=
  Statement.ofLine? text = .ok none ∨
    ∃ statement pin, Statement.ofLine? text = .ok (some statement) ∧
      dropped? m.board statement = some pin

/-- A line that is executed with an effect. -/
def Acts (limits : Limits) (m : Machine) (text : Text) (e : Effect) : Prop :=
  ∃ statement, Statement.ofLine? text = .ok (some statement) ∧
    dropped? m.board statement = none ∧ m.Permits limits statement ∧
      statement.HasEffect e

/-- The event of a pin in a state. -/
def eventOf (time : Int) (origin : Body) (kind : EventKind) (pin : Int) (state : PinState) :
    Event :=
  ⟨time, pin, state.isOn, kind, origin, if kind = .pwm then some state.duty else none⟩

theorem emission_of_same {memory : Emission} {pin : Int} {state : PinState}
    (h : memory.get? pin = some state.appearance) (kind : EventKind) (origin : Body)
    (time : Int) : memory.observe state pin kind origin time = (none, memory) := by
  rw [Emission.observe, if_pos h]

theorem emission_of_changed {memory : Emission} {pin : Int} {state : PinState}
    (h : memory.get? pin ≠ some state.appearance) (kind : EventKind) (origin : Body)
    (time : Int) :
    memory.observe state pin kind origin time =
      (some (eventOf time origin kind pin state), memory.set pin state.appearance) := by
  rw [Emission.observe, if_neg h]
  rfl

/-- The event that a pin gives, if it is usable and looks different from before. -/
def State.observe (s : State) (origin : Body) (kind : EventKind) (pin : Int) :
    List Event × State :=
  match s.machine.board.get? pin with
  | none => ([], s)
  | some state =>
    let (event, emission) := s.emission.observe state pin kind origin s.clock
    (event.toList, { s with emission })

theorem observe_of_none {s : State} {pin : Int} (h : s.machine.board.get? pin = none)
    (origin : Body) (kind : EventKind) : s.observe origin kind pin = ([], s) := by
  simp only [State.observe, h]

theorem observe_of_some {s : State} {pin : Int} {state : PinState}
    (h : s.machine.board.get? pin = some state) (origin : Body) (kind : EventKind) :
    s.observe origin kind pin =
      if s.emission.get? pin = some state.appearance then ([], s)
      else
        ([eventOf s.clock origin kind pin state],
          { s with emission := s.emission.set pin state.appearance }) := by
  by_cases same : s.emission.get? pin = some state.appearance
  · simp only [State.observe, h, emission_of_same same, if_pos same, Option.toList_none]
  · simp only [State.observe, h, emission_of_changed same, if_neg same, Option.toList_some]

/-- The moment after an effect. -/
def State.take (s : State) (origin : Body) : Effect → List Event × State
  | .elapse ms => ([], { s with clock := s.clock + ms })
  | .level pin on =>
    State.observe { s with machine := s.machine.after (.level pin on) } origin .digital pin
  | .drive pin pwm duty =>
    State.observe { s with machine := s.machine.after (.drive pin pwm duty) } origin .pwm pin
  | e => ([], { s with machine := s.machine.after e })

theorem settle_eq_take {statement : Statement} {e : Effect} (h : statement.HasEffect e)
    (s : State) (origin : Body) :
    settle origin s (s.machine.after e) statement = s.take origin e := by
  cases h <;> rfl

/-- A line that goes well either changes nothing or takes its effect. -/
theorem line_ok {limits : Limits} {origin : Body} {s s' : State} {number : Int} {text : Text}
    (h : (line limits origin s number text).result = .ok s') :
    (Rests s.machine text ∧ (line limits origin s number text).events = [] ∧ s' = s) ∨
      ∃ e, Acts limits s.machine text e ∧
        s.take origin e = ((line limits origin s number text).events, s') := by
  unfold line at h ⊢
  split at h
  next problem hl => cases h
  next hl =>
    cases h
    exact .inl ⟨.inl hl, rfl, rfl⟩
  next statement hl =>
    split at h
    next pin hd =>
      cases h
      exact .inl ⟨.inr ⟨statement, pin, hl, hd⟩, rfl, rfl⟩
    next hd =>
      split at h
      next problem he => cases h
      next machine he =>
        obtain ⟨permitted, e, heff, rfl⟩ := Machine.exec_eq_ok.mp he
        refine .inr ⟨e, ⟨statement, hl, hd, permitted, heff⟩, ?_⟩
        cases h
        exact (settle_eq_take heff s origin).symm

theorem line_of_rests {s : State} {text : Text} (h : Rests s.machine text) (limits : Limits)
    (origin : Body) (number : Int) :
    (line limits origin s number text).events = [] ∧
      (line limits origin s number text).result = .ok s := by
  obtain hl | ⟨statement, pin, hl, hd⟩ := h
  · simp only [line, hl, and_self]
  · simp only [line, hl, hd, and_self]

theorem line_of_acts {limits : Limits} {s : State} {text : Text} {e : Effect}
    (h : Acts limits s.machine text e) (origin : Body) (number : Int) :
    (line limits origin s number text).events = (s.take origin e).1 ∧
      (line limits origin s number text).result = .ok (s.take origin e).2 := by
  obtain ⟨statement, hl, hd, permitted, heff⟩ := h
  have he := Machine.exec_eq_ok.mpr ⟨permitted, e, heff, rfl⟩
  simp only [line, hl, hd, he, settle_eq_take heff, and_self]

/-! ## Time -/

@[simp] theorem observe_clock (s : State) (origin : Body) (kind : EventKind) (pin : Int) :
    (s.observe origin kind pin).2.clock = s.clock := by
  unfold State.observe
  split <;> rfl

@[simp] theorem take_clock (s : State) (origin : Body) (e : Effect) :
    (s.take origin e).2.clock = s.clock + e.duration := by
  cases e with
  | level pin on => exact (observe_clock _ origin .digital pin).trans (Int.add_zero _).symm
  | drive pin pwm duty => exact (observe_clock _ origin .pwm pin).trans (Int.add_zero _).symm
  | elapse ms => rfl
  | idle => exact (Int.add_zero _).symm
  | declare pin direction => exact (Int.add_zero _).symm
  | timer timer state => exact (Int.add_zero _).symm

theorem Acts.duration_nonneg {limits : Limits} {m : Machine} {text : Text} {e : Effect}
    (h : Acts limits m text e) : 0 ≤ e.duration := by
  obtain ⟨statement, -, -, permitted, heff⟩ := h
  exact Machine.duration_nonneg permitted heff

/-! ## Given events -/

/-- A pin gives an event only if it looks different from what is remembered. -/
theorem mem_observe {s : State} {origin : Body} {kind : EventKind} {pin : Int} {event : Event}
    (h : event ∈ (s.observe origin kind pin).1) :
    ∃ state, s.machine.board.get? pin = some state ∧
      s.emission.get? pin ≠ some state.appearance ∧
      event = eventOf s.clock origin kind pin state := by
  cases hs : s.machine.board.get? pin with
  | none =>
      rw [observe_of_none hs] at h
      cases h
  | some state =>
      rw [observe_of_some hs] at h
      split_ifs at h with same
      · cases h
      · exact ⟨state, rfl, same, List.mem_singleton.mp h⟩

/-- An effect gives the event of a usable pin with a new look, at the time on the clock. -/
theorem mem_take {s : State} {origin : Body} {e : Effect} {event : Event}
    (h : event ∈ (s.take origin e).1) :
    ∃ pin kind state, e.writes pin = true ∧
      (s.machine.after e).board.get? pin = some state ∧
      s.emission.get? pin ≠ some state.appearance ∧
      event = eventOf s.clock origin kind pin state ∧
      (kind = .digital → ∃ on, e = .level pin on) := by
  cases e with
  | level pin on =>
      obtain ⟨state, hs, changed, rfl⟩ := mem_observe h
      exact ⟨pin, .digital, state, beq_self_eq_true pin, hs, changed, rfl, fun _ => ⟨on, rfl⟩⟩
  | drive pin pwm duty =>
      obtain ⟨state, hs, changed, rfl⟩ := mem_observe h
      exact ⟨pin, .pwm, state, beq_self_eq_true pin, hs, changed, rfl, nofun⟩
  | elapse ms => cases h
  | idle => cases h
  | declare pin direction => cases h
  | timer timer state => cases h

theorem line_events_of_error {limits : Limits} {origin : Body} {s : State} {number : Int}
    {text : Text} {halt : Halt} (h : (line limits origin s number text).result = .error halt) :
    (line limits origin s number text).events = [] := by
  unfold line at h ⊢
  split at h
  next => rfl
  next => rfl
  next =>
    split at h
    next => rfl
    next =>
      split at h
      next => rfl
      next => cases h

/-- A line gives an event only through its effect. -/
theorem acts_of_mem_line {limits : Limits} {origin : Body} {s : State} {number : Int} {text : Text}
    {event : Event} (h : event ∈ (line limits origin s number text).events) :
    ∃ e, Acts limits s.machine text e ∧ event ∈ (s.take origin e).1 ∧
      (line limits origin s number text).result = .ok (s.take origin e).2 := by
  cases hp : (line limits origin s number text).result with
  | error halt =>
      rw [line_events_of_error hp] at h
      cases h
  | ok t =>
      obtain ⟨-, hev, -⟩ | ⟨e, he, htake⟩ := line_ok hp
      · rw [hev] at h
        cases h
      · exact ⟨e, he, by rwa [htake], by rw [htake]⟩

theorem mem_line {limits : Limits} {origin : Body} {s : State} {number : Int} {text : Text}
    {event : Event} (h : event ∈ (line limits origin s number text).events) :
    ∃ e, event ∈ (s.take origin e).1 ∧
      (line limits origin s number text).result = .ok (s.take origin e).2 := by
  obtain ⟨e, -, he⟩ := acts_of_mem_line h
  exact ⟨e, he⟩

theorem line_time {limits : Limits} {origin : Body} {s : State} {number : Int} {text : Text}
    {event : Event} (h : event ∈ (line limits origin s number text).events) :
    event.time = s.clock := by
  obtain ⟨e, he, -⟩ := mem_line h
  obtain ⟨pin, kind, state, -, -, -, rfl, -⟩ := mem_take he
  rfl

theorem line_origin {limits : Limits} {origin : Body} {s : State} {number : Int} {text : Text}
    {event : Event} (h : event ∈ (line limits origin s number text).events) :
    event.origin = origin := by
  obtain ⟨e, he, -⟩ := mem_line h
  obtain ⟨pin, kind, state, -, -, -, rfl, -⟩ := mem_take he
  rfl

/-- An effect in the body it comes from. -/
abbrev Act := Body × Effect

/-- The acts of a script, as a machine comes to it. -/
inductive Enacts (limits : Limits) : Machine → List Cue → List Act → Prop
  | done (m : Machine) : Enacts limits m [] []
  | rest {m : Machine} {cue : Cue} {cues : List Cue} {acts : List Act} :
      Rests m cue.text → Enacts limits m cues acts → Enacts limits m (cue :: cues) acts
  | act {m : Machine} {cue : Cue} {cues : List Cue} {acts : List Act} {e : Effect} :
      Acts limits m cue.text e → Enacts limits (m.after e) cues acts →
        Enacts limits m (cue :: cues) ((cue.origin, e) :: acts)

/-- Takes acts one by one. -/
def State.takeAll (s : State) : List Act → List Event × State
  | [] => ([], s)
  | act :: rest =>
    let taken := s.take act.1 act.2
    let more := taken.2.takeAll rest
    (taken.1 ++ more.1, more.2)

@[simp] theorem machine_observe (s : State) (origin : Body) (kind : EventKind) (pin : Int) :
    (s.observe origin kind pin).2.machine = s.machine := by
  unfold State.observe
  split <;> rfl

@[simp] theorem machine_take (s : State) (origin : Body) (e : Effect) :
    (s.take origin e).2.machine = s.machine.after e := by
  cases e with
  | level pin on => exact machine_observe _ origin .digital pin
  | drive pin pwm duty => exact machine_observe _ origin .pwm pin
  | idle => rfl
  | elapse ms => rfl
  | declare pin direction => rfl
  | timer timer state => rfl

theorem machine_of_take {s s' : State} {origin : Body} {e : Effect} {events : List Event}
    (h : s.take origin e = (events, s')) : s'.machine = s.machine.after e := by
  rw [← machine_take s origin e, h]

@[simp] theorem machine_takeAll (s : State) (acts : List Act) :
    (s.takeAll acts).2.machine = s.machine.afterAll (acts.map (·.2)) := by
  induction acts generalizing s with
  | nil => rfl
  | cons act rest ih =>
      have h : (s.takeAll (act :: rest)).2.machine =
          (s.take act.1 act.2).2.machine.afterAll (rest.map (·.2)) := ih _
      rw [h, machine_take]
      rfl

/-- Following a script that goes well is taking its acts. -/
theorem follow_ok {limits : Limits} {s s' : State} {cues : List Cue}
    (h : (follow limits s cues).result = .ok s') :
    ∃ acts, Enacts limits s.machine cues acts ∧
      s.takeAll acts = ((follow limits s cues).events, s') := by
  induction cues generalizing s with
  | nil =>
      cases h
      exact ⟨[], .done _, rfl⟩
  | cons cue rest ih =>
      obtain ⟨t, hp, h⟩ := follow_cons_ok h
      obtain ⟨acts, hacts, htake⟩ := ih h
      rw [follow, andThen_of_ok hp]
      obtain ⟨hr, hev, rfl⟩ | ⟨e, he, htaken⟩ := line_ok hp
      · exact ⟨acts, .rest hr hacts, by rw [htake, hev, List.nil_append]⟩
      · refine ⟨(cue.origin, e) :: acts, .act he (machine_of_take htaken ▸ hacts), ?_⟩
        simp only [State.takeAll, htaken, htake]

theorem Enacts.follow_eq {limits : Limits} {s : State} {cues : List Cue} {acts : List Act}
    (h : Enacts limits s.machine cues acts) :
    (follow limits s cues).events = (s.takeAll acts).1 ∧
      (follow limits s cues).result = .ok (s.takeAll acts).2 := by
  induction cues generalizing s acts with
  | nil =>
      cases h
      exact ⟨rfl, rfl⟩
  | cons cue rest ih =>
      cases h with
      | rest hr hacts =>
          obtain ⟨hev, hres⟩ := line_of_rests hr limits cue.origin cue.number
          obtain ⟨hev', hres'⟩ := ih hacts
          rw [follow, andThen_of_ok hres]
          exact ⟨by rw [hev, hev', List.nil_append], hres'⟩
      | act he hacts =>
          obtain ⟨hev, hres⟩ := line_of_acts he cue.origin cue.number
          rw [← machine_take s cue.origin] at hacts
          obtain ⟨hev', hres'⟩ := ih hacts
          rw [follow, andThen_of_ok hres]
          exact ⟨by rw [hev, hev']; rfl, hres'⟩

end Replay

end SketchGrader
