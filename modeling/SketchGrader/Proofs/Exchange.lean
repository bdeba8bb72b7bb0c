import SketchGrader.Proofs.LoopPeriod
import SketchGrader.Proofs.SourceLines

/-!
# Exchange of neighbouring writes

A write reads and changes nothing but its own pin: whether it goes through depends on the direction
of the pin and on the timers, which no write changes, and the event it gives depends on how the pin
looks and on what is remembered of it. Two neighbouring writes to different pins may therefore be
exchanged. The events of each pin stay the same, and so does the time of the last event, as no time
passes between the two.
-/

namespace SketchGrader

/-! ## Machines -/

namespace Effect

/-- A write leaves all other pins alone. -/
theorem onPin_of_writes {e : Effect} {pin q : Int} (h : e.writes pin = true) (other : q ≠ pin)
    (s : PinState) : e.onPin q s = s := by
  cases e with
  | level p on => exact if_neg (beq_iff_eq.mp h ▸ other)
  | drive p pwm duty => exact if_neg (beq_iff_eq.mp h ▸ other)
  | _ => cases h

theorem writes_other {e : Effect} {pin q : Int} (h : e.writes pin = true) (other : q ≠ pin) :
    e.writes q = false := by
  cases e with
  | level p on => exact beq_false_of_ne (beq_iff_eq.mp h ▸ other)
  | drive p pwm duty => exact beq_false_of_ne (beq_iff_eq.mp h ▸ other)
  | _ => cases h

theorem duration_of_writes {e : Effect} {pin : Int} (h : e.writes pin = true) : e.duration = 0 := by
  cases e with
  | elapse ms => cases h
  | _ => rfl

end Effect

/-- After a write a machine executes the same statements as before. -/
theorem Machine.sameShape_of_writes {e : Effect} {pin : Int} (h : e.writes pin = true)
    (m : Machine) : m.SameShape (m.after e) := by
  obtain ⟨declares, times⟩ := e.silent_of_writes h
  constructor
  · intro q
    rw [direction?_after, latest_singleton, declares]
    exact Option.map_id'.symm
  · intro t
    rw [timer_after, Effect.onTimer_eq_latest, latest_singleton, times]
    rfl

theorem Machine.SameShape.symm {m m' : Machine} (h : m.SameShape m') : m'.SameShape m :=
  ⟨fun q => (h.directions q).symm, fun t => (h.timers t).symm⟩

theorem Machine.SameShape.trans {m m' m'' : Machine} (h : m.SameShape m') (h' : m'.SameShape m'') :
    m.SameShape m'' :=
  ⟨fun q => (h.directions q).trans (h'.directions q), fun t => (h.timers t).trans (h'.timers t)⟩

theorem Machine.sameShape_swap {e f : Effect} {q r : Int} (he : e.writes q = true)
    (hf : f.writes r = true) (m : Machine) :
    ((m.after e).after f).SameShape ((m.after f).after e) := by
  have first : m.SameShape ((m.after e).after f) :=
    (m.sameShape_of_writes he).trans ((m.after e).sameShape_of_writes hf)
  have second : m.SameShape ((m.after f).after e) :=
    (m.sameShape_of_writes hf).trans ((m.after f).sameShape_of_writes he)
  exact first.symm.trans second

namespace Replay

/-! ## Scripts -/

/-- A line that holds a write to the pin. -/
def WritesTo (pin : Int) (text : Text) : Prop :=
  ∃ statement, Statement.ofLine? text = .ok (some statement) ∧ statement.writtenPin? = some pin

theorem Acts.writes {limits : Limits} {m : Machine} {text : Text} {e : Effect} {pin : Int}
    (h : Acts limits m text e) (hw : WritesTo pin text) : e.writes pin = true := by
  obtain ⟨statement, reads, -, -, heff⟩ := h
  obtain ⟨statement', reads', written⟩ := hw
  rw [reads] at reads'
  cases reads'
  exact heff.writes_of_written written

/-- Scripts that differ in the order of neighbouring writes to different pins. The numbers of the
lines stay where they are. -/
inductive Exchanged : List Cue → List Cue → Prop
  | done : Exchanged [] []
  | keep (cue : Cue) {cues cues' : List Cue} :
      Exchanged cues cues' → Exchanged (cue :: cues) (cue :: cues')
  | swap (origin : Body) (m n : Int) {t u : Text} {q r : Int} {cues cues' : List Cue} :
      WritesTo q t → WritesTo r u → q ≠ r → Exchanged cues cues' →
        Exchanged (⟨origin, m, t⟩ :: ⟨origin, n, u⟩ :: cues)
          (⟨origin, m, u⟩ :: ⟨origin, n, t⟩ :: cues')

namespace Exchanged

theorem refl (cues : List Cue) : Exchanged cues cues := by
  induction cues with
  | nil => exact .done
  | cons cue rest ih => exact .keep cue ih

theorem symm {cues cues' : List Cue} (h : Exchanged cues cues') : Exchanged cues' cues := by
  induction h with
  | done => exact .done
  | keep cue _ ih => exact .keep cue ih
  | swap origin m n ht hu different _ ih => exact .swap origin m n hu ht different.symm ih

theorem append {a a' b b' : List Cue} (h : Exchanged a a') (h' : Exchanged b b') :
    Exchanged (a ++ b) (a' ++ b') := by
  induction h with
  | done => exact h'
  | keep cue _ ih => exact .keep cue ih
  | swap origin m n ht hu different _ ih => exact .swap origin m n ht hu different ih

theorem repeated {cues cues' : List Cue} (h : Exchanged cues cues') (count : Nat) :
    Exchanged (List.replicate count cues).flatten (List.replicate count cues').flatten := by
  induction count with
  | zero => exact .done
  | succ count ih =>
      rw [List.replicate_succ, List.replicate_succ, List.flatten_cons, List.flatten_cons]
      exact h.append ih

end Exchanged

/-- Acts that differ in the order of neighbouring writes to different pins. -/
inductive Swapped : List Act → List Act → Prop
  | done : Swapped [] []
  | keep (act : Act) {acts acts' : List Act} :
      Swapped acts acts' → Swapped (act :: acts) (act :: acts')
  | swap (origin : Body) {e f : Effect} {q r : Int} {acts acts' : List Act} :
      e.writes q = true → f.writes r = true → q ≠ r → Swapped acts acts' →
        Swapped ((origin, e) :: (origin, f) :: acts) ((origin, f) :: (origin, e) :: acts')

/-- An exchanged script has exchanged acts: each of the two writes is executed or left out as
before, since the other one does not change the shape of the machine. -/
theorem Enacts.exchanged {limits : Limits} {m : Machine} {cues cues' : List Cue} {acts : List Act}
    (h : Enacts limits m cues acts) (exchanged : Exchanged cues cues') :
    ∃ acts', Enacts limits m cues' acts' ∧ Swapped acts acts' := by
  induction exchanged generalizing m acts with
  | done =>
      cases h
      exact ⟨[], .done m, .done⟩
  | keep cue _ ih =>
      cases h with
      | rest hr hacts =>
          obtain ⟨acts', hacts', swapped⟩ := ih hacts
          exact ⟨acts', .rest hr hacts', swapped⟩
      | act he hacts =>
          obtain ⟨acts', hacts', swapped⟩ := ih hacts
          exact ⟨_, .act he hacts', .keep _ swapped⟩
  | swap origin k n ht hu different _ ih =>
      cases h with
      | rest hr h =>
          cases h with
          | rest hr' hacts =>
              obtain ⟨acts', hacts', swapped⟩ := ih hacts
              exact ⟨acts', .rest hr' (.rest hr hacts'), swapped⟩
          | act hf hacts =>
              obtain ⟨acts', hacts', swapped⟩ := ih hacts
              have shape := m.sameShape_of_writes (hf.writes hu)
              exact ⟨_, .act hf (.rest (hr.congr shape) hacts'), .keep _ swapped⟩
      | act he h =>
          have shape := m.sameShape_of_writes (he.writes ht)
          cases h with
          | rest hr' hacts =>
              obtain ⟨acts', hacts', swapped⟩ := ih hacts
              exact ⟨_, .rest (hr'.congr shape.symm) (.act he hacts'), .keep _ swapped⟩
          | act hf hacts =>
              have shape' := m.sameShape_of_writes (hf.writes hu)
              obtain ⟨acts', hacts', swapped⟩ :=
                ih (hacts.congr (Machine.sameShape_swap (he.writes ht) (hf.writes hu) m))
              exact ⟨_, .act (hf.congr shape.symm) (.act (he.congr shape') hacts'),
                .swap origin (he.writes ht) (hf.writes hu) different swapped⟩

/-! ## Events -/

/-- Lists with the same events of each pin in the same order, and with the same time at the end. -/
structure Interleaved (events events' : List Event) : Prop where
  pins : ∀ q, events.filter (·.pin == q) = events'.filter (·.pin == q)
  last : events.getLast?.map (·.time) = events'.getLast?.map (·.time)

namespace Interleaved

theorem refl (events : List Event) : Interleaved events events := ⟨fun _ => rfl, rfl⟩

theorem append {a a' b b' : List Event} (h : Interleaved a a') (h' : Interleaved b b') :
    Interleaved (a ++ b) (a' ++ b') where
  pins := by
    intro q
    rw [List.filter_append, List.filter_append, h.pins, h'.pins]
  last := by
    rw [List.getLast?_append, List.getLast?_append, Option.map_or, Option.map_or, h.last, h'.last]

/-- Events of two pins at one time may stand in either order. -/
theorem swap {a b : List Event} {q r : Int} {time : Int} (different : q ≠ r)
    (ha : ∀ event ∈ a, event.pin = q ∧ event.time = time)
    (hb : ∀ event ∈ b, event.pin = r ∧ event.time = time) : Interleaved (a ++ b) (b ++ a) where
  pins := by
    intro pin
    rw [List.filter_append, List.filter_append]
    by_cases hq : q = pin
    · have none : b.filter (·.pin == pin) = [] := by
        apply List.filter_eq_nil_iff.mpr
        intro event hevent
        rw [(hb event hevent).1, beq_iff_eq]
        exact fun hr => different (hq.trans hr.symm)
      rw [none, List.append_nil, List.nil_append]
    · have none : a.filter (·.pin == pin) = [] := by
        apply List.filter_eq_nil_iff.mpr
        intro event hevent
        rw [(ha event hevent).1, beq_iff_eq]
        exact hq
      rw [none, List.append_nil, List.nil_append]
  last := by
    have atEnd : ∀ c : List Event, (∀ event ∈ c, event.time = time) →
        c.getLast?.map (·.time) = if c = [] then none else some time := by
      intro c hc
      cases hl : c.getLast? with
      | none => simp [List.getLast?_eq_none_iff.mp hl]
      | some event =>
          have filled : c ≠ [] := by
            rintro rfl
            cases hl
          rw [if_neg filled, Option.map_some, hc event (List.mem_of_getLast? hl)]
    have both : ∀ event, event ∈ a ∨ event ∈ b → event.time = time := by
      rintro event (h | h)
      · exact (ha event h).2
      · exact (hb event h).2
    rw [atEnd _ fun event h => both event (List.mem_append.mp h),
      atEnd _ fun event h => both event (List.mem_append.mp h).symm]
    simp only [List.append_eq_nil_iff, and_comm]

end Interleaved

/-- States that a write to the pin does not tell apart. -/
structure State.AgreeAt (q : Int) (s s' : State) : Prop where
  pin : s'.machine.board.get? q = s.machine.board.get? q
  memory : s'.emission.get? q = s.emission.get? q
  clock : s'.clock = s.clock

namespace State.AgreeAt

variable {q : Int} {s s' s'' : State}

theorem symm (h : s.AgreeAt q s') : s'.AgreeAt q s := ⟨h.pin.symm, h.memory.symm, h.clock.symm⟩

theorem trans (h : s.AgreeAt q s') (h' : s'.AgreeAt q s'') : s.AgreeAt q s'' :=
  ⟨h'.pin.trans h.pin, h'.memory.trans h.memory, h'.clock.trans h.clock⟩

theorem observe (h : s.AgreeAt q s') (origin : Body) (kind : EventKind) :
    (s'.observe origin kind q).1 = (s.observe origin kind q).1 := by
  cases hs : s.machine.board.get? q with
  | none => rw [observe_of_none hs, observe_of_none (h.pin.trans hs)]
  | some state =>
      rw [observe_of_some hs, observe_of_some (h.pin.trans hs), h.memory, h.clock]
      split_ifs <;> rfl

/-- A write gives the same event in both, and what it leaves is the same again. -/
theorem take (h : s.AgreeAt q s') {e : Effect} (hw : e.writes q = true) (origin : Body) :
    (s'.take origin e).1 = (s.take origin e).1 ∧
      (s.take origin e).2.AgreeAt q (s'.take origin e).2 := by
  have after : (s'.machine.after e).board.get? q = (s.machine.after e).board.get? q := by
    rw [Machine.get?_after, Machine.get?_after, h.pin]
  have changed : AgreeAt q { s with machine := s.machine.after e }
      { s' with machine := s'.machine.after e } := ⟨after, h.memory, h.clock⟩
  refine ⟨?_, ?_, ?_, ?_⟩
  · cases e with
    | level pin on =>
        obtain rfl := beq_iff_eq.mp hw
        exact changed.observe origin .digital
    | drive pin pwm duty =>
        obtain rfl := beq_iff_eq.mp hw
        exact changed.observe origin .pwm
    | _ => cases hw
  · rw [machine_take, machine_take, after]
  · simp [get?_take, State.look?, after, h.memory]
  · rw [take_clock, take_clock, h.clock]

end State.AgreeAt

theorem State.alike_of_agreeAt {s s' : State} (h : ∀ q, s.AgreeAt q s') : s.Alike 0 s' :=
  ⟨fun q => (h q).pin, fun q => (h q).memory, (h 0).clock.trans (Int.add_zero _).symm⟩

theorem State.Alike.agreeAt {s s' : State} (h : s.Alike 0 s') (q : Int) : s.AgreeAt q s' :=
  ⟨h.pins q, h.memory q, h.clock.trans (Int.add_zero _)⟩

section
variable {e f : Effect} {q r : Int}

theorem mem_take_of_writes {s : State} (he : e.writes q = true) (origin : Body) :
    ∀ event ∈ (s.take origin e).1, event.pin = q ∧ event.time = s.clock := by
  intro event hevent
  obtain ⟨pin, kind, state, writes, -, -, rfl, -⟩ := mem_take hevent
  refine ⟨?_, rfl⟩
  by_contra other
  have other : pin ≠ q := other
  rw [Effect.writes_other he other] at writes
  cases writes

/-- A write is not noticed at another pin. -/
theorem agreeAt_take (he : e.writes q = true) (other : r ≠ q) (s : State) (origin : Body) :
    s.AgreeAt r (s.take origin e).2 where
  pin := by
    have same : e.onPin r = id := funext (Effect.onPin_of_writes he other)
    rw [machine_take, Machine.get?_after, same, Option.map_id]
    rfl
  memory := by
    rw [get?_take, Effect.writes_other he other]
    rfl
  clock := by rw [take_clock, Effect.duration_of_writes he, Int.add_zero]

/-- Two writes to different pins leave the same in either order. -/
theorem alike_swap (he : e.writes q = true) (hf : f.writes r = true) (different : q ≠ r)
    (s : State) (origin : Body) :
    ((s.take origin e).2.take origin f).2.Alike 0 ((s.take origin f).2.take origin e).2 := by
  apply State.alike_of_agreeAt
  intro pin
  -- At the pin of a write the other one goes unnoticed, and at any other pin both do.
  by_cases hq : pin = q
  · subst hq
    have first : (s.take origin e).2.AgreeAt pin ((s.take origin f).2.take origin e).2 :=
      ((agreeAt_take hf different s origin).take he origin).2
    exact (agreeAt_take hf different (s.take origin e).2 origin).symm.trans first
  · by_cases hr : pin = r
    · subst hr
      have second : (s.take origin f).2.AgreeAt pin ((s.take origin e).2.take origin f).2 :=
        ((agreeAt_take he hq s origin).take hf origin).2
      exact second.symm.trans (agreeAt_take he hq (s.take origin f).2 origin)
    · have first : s.AgreeAt pin ((s.take origin e).2.take origin f).2 :=
        (agreeAt_take he hq s origin).trans (agreeAt_take hf hr _ origin)
      have second : s.AgreeAt pin ((s.take origin f).2.take origin e).2 :=
        (agreeAt_take hf hr s origin).trans (agreeAt_take he hq _ origin)
      exact first.symm.trans second

/-- Two writes to different pins give the same events of each pin in either order. -/
theorem interleaved_swap (he : e.writes q = true) (hf : f.writes r = true) (different : q ≠ r)
    (s : State) (origin : Body) :
    Interleaved ((s.take origin e).1 ++ ((s.take origin e).2.take origin f).1)
      ((s.take origin f).1 ++ ((s.take origin f).2.take origin e).1) := by
  rw [((agreeAt_take he different.symm s origin).take hf origin).1,
    ((agreeAt_take hf different s origin).take he origin).1]
  exact .swap different (mem_take_of_writes he origin) (mem_take_of_writes hf origin)

end

theorem State.Alike.take_eq {s s' : State} (h : s.Alike 0 s') (origin : Body) (e : Effect) :
    (s'.take origin e).1 = (s.take origin e).1 ∧
      (s.take origin e).2.Alike 0 (s'.take origin e).2 := by
  obtain ⟨events, alike⟩ := h.take origin e
  refine ⟨?_, alike⟩
  rw [events]
  exact (List.map_congr_left fun event _ => by simp [Event.shift]).trans (List.map_id _)

theorem State.Alike.trans {s s' s'' : State} (h : s.Alike 0 s') (h' : s'.Alike 0 s'') :
    s.Alike 0 s'' :=
  State.alike_of_agreeAt fun q => (h.agreeAt q).trans (h'.agreeAt q)

/-- Exchanged acts give the same events of each pin. -/
theorem Swapped.takeAll {acts acts' : List Act} (h : Swapped acts acts') {s s' : State}
    (alike : s.Alike 0 s') : Interleaved (s.takeAll acts).1 (s'.takeAll acts').1 := by
  induction h generalizing s s' with
  | done => exact .refl []
  | keep act _ ih =>
      obtain ⟨now, after⟩ := alike.take_eq act.1 act.2
      have events : Interleaved (s.take act.1 act.2).1 (s'.take act.1 act.2).1 := by
        rw [now]
        exact .refl _
      exact events.append (ih after)
  | @swap origin e f q r acts acts' he hf different _ ih =>
      obtain ⟨now, after⟩ := alike.take_eq origin f
      obtain ⟨now', after'⟩ := after.take_eq origin e
      have events := interleaved_swap he hf different s origin
      rw [← now, ← now'] at events
      have later := ih ((alike_swap he hf different s origin).trans after')
      simp only [State.takeAll, ← List.append_assoc]
      exact events.append later

end Replay

/-! ## Lines of a body -/

namespace Text

/-- The text with the given lines. -/
def ofLines (lines : List Text) : Text := ['\n'].intercalate lines

theorem lines_of_plain {line : Text} (h : '\n' ∉ line) : lines line = [line] := by
  induction line with
  | nil => rfl
  | cons c line ih =>
      rw [List.mem_cons, not_or] at h
      obtain ⟨first, more, hrest, hcons⟩ := lines_cons (Ne.symm h.1) line
      rw [ih h.2, List.cons.injEq] at hrest
      rw [hcons, ← hrest.1, ← hrest.2]

theorem lines_ofLines {ls : List Text} (filled : ls ≠ []) (plain : ∀ line ∈ ls, '\n' ∉ line) :
    lines (ofLines ls) = ls := by
  induction ls with
  | nil => exact absurd rfl filled
  | cons line rest ih =>
      obtain ⟨hline, hrest⟩ := List.forall_mem_cons.mp plain
      cases rest with
      | nil => rw [ofLines, List.intercalate_singleton, lines_of_plain hline]
      | cons next rest =>
          rw [ofLines, List.intercalate_cons_cons, List.append_assoc, List.singleton_append,
            lines_ended hline]
          exact congrArg (line :: ·) (ih (List.cons_ne_nil _ _) hrest)

/-- A list of lines with two of them exchanged. -/
def exchangeAt (i j : Nat) (ls : List Text) : List Text :=
  match ls[i]?, ls[j]? with
  | some a, some b => (ls.set i b).set j a
  | _, _ => ls

theorem exchangeAt_append (before between after : List Text) (a b : Text) :
    exchangeAt before.length (before.length + 1 + between.length)
        (before ++ a :: (between ++ b :: after)) =
      before ++ b :: (between ++ a :: after) := by
  have index : before.length + 1 + between.length - before.length = between.length + 1 := by omega
  have first : (before ++ a :: (between ++ b :: after))[before.length]? = some a := by simp
  have second : (before ++ a :: (between ++ b :: after))[before.length + 1 + between.length]? =
      some b := by
    rw [List.getElem?_append_right (by omega), index, List.getElem?_cons_succ]
    simp
  simp only [exchangeAt, first, second]
  rw [List.set_append_right _ _ (Nat.le_refl _), Nat.sub_self, List.set_cons_zero,
    List.set_append_right _ _ (by omega), index, List.set_cons_succ,
    List.set_append_right _ _ (Nat.le_refl _), Nat.sub_self, List.set_cons_zero]

end Text

namespace Program

/-- The program with another text for one of its bodies. -/
def withBody (p : Program) (b : Body) (text : Text) : Program :=
  match b with
  | .setup => { p with setupBody := text }
  | .loop => { p with loopBody := text }

/-- The program with two lines of one body exchanged, given by their numbers. -/
def exchange (p : Program) (b : Body) (m n : Int) : Program :=
  p.withBody b (Text.ofLines (Text.exchangeAt (m - p.firstLine b).toNat (n - p.firstLine b).toNat
    (Text.lines (p.body b))))

theorem numbered_append (first : Int) (a b : List Text) :
    numbered first (a ++ b) = numbered first a ++ numbered (first + a.length) b := by
  induction a generalizing first with
  | nil => simp [numbered]
  | cons raw rest ih =>
      have count : first + ((raw :: rest).length : Int) = first + 1 + rest.length := by
        rw [List.length_cons]
        omega
      rw [List.cons_append, count]
      simp only [numbered, ih]
      split_ifs <;> rfl

/-- Whether a trimmed line is left out of the lines that may hold a statement. -/
def isSkipped (text : Text) : Bool := text.isEmpty || ['/', '/'].isPrefixOf text

theorem numbered_cons (first : Int) (raw : Text) (rest : List Text) :
    numbered first (raw :: rest) =
      if isSkipped (Text.trim raw) then numbered (first + 1) rest
      else (first, Text.trim raw) :: numbered (first + 1) rest := rfl

/-- The first of the numbered lines, with the lines in front of it that are left out. -/
theorem numbered_eq_cons {first m : Int} {ls : List Text} {t : Text} {rest : List (Int × Text)}
    (h : numbered first ls = (m, t) :: rest) :
    ∃ skipped raw more, ls = skipped ++ raw :: more ∧ numbered first skipped = [] ∧
      m = first + skipped.length ∧ t = Text.trim raw ∧ isSkipped t = false ∧
      numbered (m + 1) more = rest := by
  induction ls generalizing first with
  | nil => cases h
  | cons raw ls ih =>
      rw [numbered_cons] at h
      split_ifs at h with hs
      · obtain ⟨skipped, raw', more, rfl, none, hm, ht, hskip, hrest⟩ := ih h
        refine ⟨raw :: skipped, raw', more, rfl, ?_, ?_, ht, hskip, hrest⟩
        · rw [numbered_cons, if_pos hs, none]
        · rw [hm, List.length_cons]
          omega
      · obtain ⟨hhead, htail⟩ := List.cons.inj h
        obtain ⟨rfl, rfl⟩ := Prod.mk.inj hhead
        exact ⟨[], raw, ls, rfl, rfl, (Int.add_zero _).symm, rfl, eq_false_of_ne_true hs, htail⟩

theorem numbered_eq_append {first : Int} {ls : List Text} {front rest : List (Int × Text)}
    (h : numbered first ls = front ++ rest) :
    ∃ before after, ls = before ++ after ∧ numbered first before = front ∧
      numbered (first + before.length) after = rest := by
  induction front generalizing first ls with
  | nil => exact ⟨[], ls, rfl, rfl, by simpa using h⟩
  | cons line front ih =>
      obtain ⟨m, t⟩ := line
      obtain ⟨skipped, raw, more, rfl, none, hm, ht, hskip, hmore⟩ := numbered_eq_cons h
      obtain ⟨before, after, rfl, hbefore, hafter⟩ := ih hmore
      have reached : numbered first (skipped ++ raw :: before) = (m, t) :: front := by
        rw [numbered_append, none, ← hm, numbered_cons, ← ht, hskip, hbefore]
        rfl
      refine ⟨skipped ++ raw :: before, after, by simp, reached, ?_⟩
      rw [← hafter, hm, List.length_append, List.length_cons]
      congr 1
      omega

theorem body_withBody (p : Program) (b : Body) (text : Text) :
    (p.withBody b text).body b = text := by
  cases b <;> rfl

theorem firstLine_withBody (p : Program) (b c : Body) (text : Text) :
    (p.withBody b text).firstLine c = p.firstLine c := by
  cases b <;> cases c <;> rfl

theorem statementLines_withBody {b c : Body} (other : c ≠ b) (p : Program) (text : Text) :
    (p.withBody b text).statementLines c = p.statementLines c := by
  cases b with
  | setup =>
      cases c with
      | setup => exact absurd rfl other
      | loop => rfl
  | loop =>
      cases c with
      | setup => rfl
      | loop => exact absurd rfl other

/-- Exchanging two neighbouring lines exchanges their texts and leaves everything else. -/
theorem statementLines_exchange {p : Program} {b : Body} {front back : List (Int × Text)}
    {m n : Int} {t u : Text} (h : p.statementLines b = front ++ (m, t) :: (n, u) :: back) :
    (p.exchange b m n).statementLines b = front ++ (m, u) :: (n, t) :: back := by
  obtain ⟨before, later, hlines, hfront, hlater⟩ := numbered_eq_append h
  obtain ⟨skipped, raw, more, rfl, none, hm, ht, hskip, hmore⟩ := numbered_eq_cons hlater
  obtain ⟨between, raw', after, rfl, none', hn, hu, hskip', hback⟩ := numbered_eq_cons hmore
  have indexM : (m - p.firstLine b).toNat = (before ++ skipped).length := by
    rw [List.length_append]
    omega
  have indexN : (n - p.firstLine b).toNat = (before ++ skipped).length + 1 + between.length := by
    rw [List.length_append]
    omega
  have whole : Text.lines (p.body b) = before ++ skipped ++ raw :: (between ++ raw' :: after) := by
    rw [hlines, List.append_assoc]
  have exchanged : Text.lines ((p.exchange b m n).body b) =
      before ++ skipped ++ raw' :: (between ++ raw :: after) := by
    rw [exchange, body_withBody, whole, indexM, indexN, Text.exchangeAt_append]
    apply Text.lines_ofLines
    · simp
    · intro line hline
      apply Text.newline_notMem_lines (t := p.body b)
      rw [whole]
      simp only [List.mem_append, List.mem_cons] at hline ⊢
      tauto
  have place : p.firstLine b + ((before ++ skipped).length : Int) = m := by
    rw [List.length_append]
    omega
  rw [statementLines, exchanged, exchange, firstLine_withBody, numbered_append, place,
    numbered_append, hfront, none, List.append_nil, numbered_cons, ← hu, hskip',
    if_neg Bool.false_ne_true, numbered_append, none', List.nil_append, ← hn, numbered_cons, ← ht,
    hskip, if_neg Bool.false_ne_true, hback]

theorem isLooping_of_statementLines {p : Program} (h : p.statementLines .loop ≠ []) :
    p.isLooping = true := by
  cases hp : p.isLooping with
  | true => rfl
  | false =>
      have none := cues_of_not_looping hp
      rw [cues, List.map_eq_nil_iff] at none
      exact absurd none h

theorem isLooping_exchange {p : Program} {b : Body} {front back : List (Int × Text)} {m n : Int}
    {t u : Text} (h : p.statementLines b = front ++ (m, t) :: (n, u) :: back) :
    (p.exchange b m n).isLooping = p.isLooping := by
  cases b with
  | setup => rfl
  | loop =>
      have looping : p.isLooping = true := isLooping_of_statementLines (by simp [h])
      rw [looping]
      exact isLooping_of_statementLines (by simp [statementLines_exchange h])

theorem cues_exchange {p : Program} {b : Body} {front back : List (Int × Text)} {m n : Int}
    {t u : Text} {q r : Int} (h : p.statementLines b = front ++ (m, t) :: (n, u) :: back)
    (ht : Replay.WritesTo q t) (hu : Replay.WritesTo r u) (different : q ≠ r) (c : Body) :
    Replay.Exchanged (p.cues c) ((p.exchange b m n).cues c) := by
  by_cases hc : c = b
  · subst hc
    rw [cues, cues, h, statementLines_exchange h]
    simp only [List.map_append, List.map_cons]
    exact (Replay.Exchanged.refl _).append (.swap c m n ht hu different (.refl _))
  · rw [cues, cues, exchange, statementLines_withBody hc]
    exact .refl _

end Program

namespace Replay

/-- If a script goes well, then so does an exchanged one, with the same events of each pin. -/
theorem follow_exchanged {limits : Limits} {usable : List Int} {cues cues' : List Cue}
    (exchanged : Exchanged cues cues') {s : State}
    (h : (follow limits (start usable) cues).result = .ok s) :
    (∃ s', (follow limits (start usable) cues').result = .ok s') ∧
      Interleaved (follow limits (start usable) cues).events
        (follow limits (start usable) cues').events := by
  obtain ⟨acts, enacts, -⟩ := follow_ok h
  obtain ⟨acts', enacts', swapped⟩ := enacts.exchanged exchanged
  refine ⟨⟨_, enacts'.follow_eq.2⟩, ?_⟩
  rw [enacts.follow_eq.1, enacts'.follow_eq.1]
  exact swapped.takeAll (State.alike_of_agreeAt fun _ => ⟨rfl, rfl, rfl⟩)

/-- Neighbouring writes to different pins may be exchanged. If two neighbouring lines of one body
hold writes to different pins, then the program with their texts exchanged has a timeline exactly if
the program has one. The two timelines last equally long, and each pin has the same events in them,
at the same times. -/
theorem neighbouring_writes_commute (usable : List Int) (limits : Limits) (p : Program)
    (iterations : Int) (b : Body) (front back : List (Int × Text)) (m n : Int) (t u : Text)
    (first second : Statement) (q r : Int)
    (lines : p.statementLines b = front ++ (m, t) :: (n, u) :: back)
    (readsFirst : Statement.ofLine? t = .ok (some first))
    (readsSecond : Statement.ofLine? u = .ok (some second))
    (writesFirst : first.writtenPin? = some q) (writesSecond : second.writtenPin? = some r)
    (different : q ≠ r) :
    ((∃ timeline, (extract usable limits p iterations).outcome = .ok timeline) ↔
        ∃ timeline, (extract usable limits (p.exchange b m n) iterations).outcome = .ok timeline) ∧
      ∀ timeline timeline', (extract usable limits p iterations).outcome = .ok timeline →
        (extract usable limits (p.exchange b m n) iterations).outcome = .ok timeline' →
        timeline'.totalMs = timeline.totalMs ∧ timeline'.isLooping = timeline.isLooping ∧
          ∀ pin,
            timeline'.events.filter (·.pin == pin) = timeline.events.filter (·.pin == pin) := by
  have cues := Program.cues_exchange lines ⟨first, readsFirst, writesFirst⟩
    ⟨second, readsSecond, writesSecond⟩ different
  have scripts : Exchanged (p.script (max 1 iterations).toNat)
      ((p.exchange b m n).script (max 1 iterations).toNat) :=
    (cues .setup).append ((cues .loop).repeated _)
  simp only [extract_eq_ok]
  constructor
  · constructor
    · rintro ⟨timeline, ⟨s, hs⟩, -⟩
      exact ⟨_, (follow_exchanged scripts hs).1, rfl⟩
    · rintro ⟨timeline, ⟨s, hs⟩, -⟩
      exact ⟨_, (follow_exchanged scripts.symm hs).1, rfl⟩
  · rintro timeline timeline' ⟨⟨s, hs⟩, rfl⟩ ⟨-, rfl⟩
    have same := (follow_exchanged scripts hs).2
    refine ⟨?_, Program.isLooping_exchange lines, fun pin => (same.pins pin).symm⟩
    rw [lastTime, lastTime, same.last]

/-- A sketch that drives two pins in each pass, with lines without a statement in between. -/
def duet : Program where
  setupBody := "pinMode(9, OUTPUT);\nTimer0.initialize();\npinMode(13, OUTPUT);".toList
  loopBody :=
    ("Timer0.pwm(9, 128);\n\n// lamp\n digitalWrite(13, HIGH);\ndelay(5);\n" ++
      "digitalWrite(13, LOW);").toList

theorem neighbouring_writes_commute_duet :
    (duet.exchange .loop 1 4).loopBody =
        (" digitalWrite(13, HIGH);\n\n// lamp\nTimer0.pwm(9, 128);\ndelay(5);\n" ++
          "digitalWrite(13, LOW);").toList ∧
      (extract [9, 13] {} duet 2).outcome = .ok
        ⟨[⟨0, 9, true, .pwm, .loop, some 50⟩, ⟨0, 13, true, .digital, .loop, none⟩,
          ⟨5, 13, false, .digital, .loop, none⟩, ⟨5, 13, true, .digital, .loop, none⟩,
          ⟨10, 13, false, .digital, .loop, none⟩], 10, true⟩ ∧
      ∃ timeline, (extract [9, 13] {} (duet.exchange .loop 1 4) 2).outcome = .ok timeline ∧
        timeline.totalMs = 10 ∧
        timeline.events.filter (·.pin == 9) = [⟨0, 9, true, .pwm, .loop, some 50⟩] := by
  have returns : (extract [9, 13] {} duet 2).outcome = .ok
      ⟨[⟨0, 9, true, .pwm, .loop, some 50⟩, ⟨0, 13, true, .digital, .loop, none⟩,
        ⟨5, 13, false, .digital, .loop, none⟩, ⟨5, 13, true, .digital, .loop, none⟩,
        ⟨10, 13, false, .digital, .loop, none⟩], 10, true⟩ := by
    decide +kernel
  have lines : duet.statementLines .loop =
      [] ++ (1, "Timer0.pwm(9, 128);".toList) :: (4, "digitalWrite(13, HIGH);".toList) ::
        [(5, "delay(5);".toList), (6, "digitalWrite(13, LOW);".toList)] := by
    decide +kernel
  obtain ⟨both, same⟩ :=
    neighbouring_writes_commute [9, 13] {} duet 2 .loop [] _ 1 4 _ _ (.timerPwm .zero 9 128)
      (.digitalWrite 13 "HIGH".toList) 9 13 lines (by decide +kernel) (by decide +kernel) rfl rfl
      (by decide)
  obtain ⟨timeline, exchanged⟩ := both.mp ⟨_, returns⟩
  obtain ⟨total, -, pins⟩ := same _ _ returns exchanged
  refine ⟨by decide +kernel, returns, timeline, exchanged, total, ?_⟩
  exact (pins 9).trans (by decide +kernel)

end Replay

end SketchGrader
