import SketchGrader.Proofs.LiveAgreement
import SketchGrader.Proofs.PacedComparison
import SketchGrader.Proofs.TargetMemory

/-!
# The target code of a level as a submission

The target code of a level, submitted for the level itself, is compared with its own timeline. A
replay gives the same timeline once more, so the check finds no difference. A live run pauses after
every statement other than a wait; what the comparison then finds are the gaps in which too many of
these pauses fall.
-/

namespace SketchGrader

/-! ## Exact scores -/

namespace Verdict

theorem scored_exact (settings : CompareSettings Rat) (total slips : Nat) :
    ∃ score, scored settings (slipped total slips) = .ok score := by
  by_cases h : total = 0
  · exact ⟨100, if_pos h⟩
  · rw [scored_of_total h, weigh_exact settings h]
    exact ⟨_, rfl⟩

/-- Weights that sum to one give a full score for full counts. -/
theorem scored_full {settings : CompareSettings Rat}
    (whole : settings.intervalWeight + settings.pinWeight + settings.stateWeight +
      settings.pwmWeight = 1) (total : Nat) :
    scored settings (slipped total 0) = .ok 100 := by
  by_cases h : total = 0
  · exact if_pos h
  · have nonzero : (total : ℚ) ≠ 0 := by exact_mod_cast h
    have share : (settings.intervalWeight * (total : ℚ) + settings.pinWeight * total +
        settings.stateWeight * total + settings.pwmWeight * total) / total = 1 := by
      rw [← add_mul, ← add_mul, ← add_mul, whole, one_mul, div_self nonzero]
    rw [scored_of_total h, weigh_exact settings h]
    simp only [slipped, Nat.sub_zero, share]
    decide +kernel

end Verdict

/-- No tolerance is negative, and a full score passes. -/
structure CompareSettings.Fair {α : Type} [Weighing α] (settings : CompareSettings α) : Prop where
  tolerance : 0 ≤ settings.toleranceMs
  simultaneous : 0 ≤ settings.simultaneousToleranceMs
  pwm : 0 ≤ settings.pwmTolerance
  passable : settings.passScore ≤ 100

theorem CompareSettings.fair_default {α : Type} [Weighing α] : ({} : CompareSettings α).Fair where
  tolerance := (by decide : (0 : Int) ≤ 50)
  simultaneous := (by decide : (0 : Int) ≤ 100)
  pwm := (by decide : (0 : Int) ≤ 25)
  passable := (by decide : (80 : Int) ≤ 100)

theorem CompareSettings.Fair.allowedGap_nonneg {α : Type} [Weighing α]
    {settings : CompareSettings α} (fair : settings.Fair) {tolerance : Int} (h : 0 ≤ tolerance)
    (gap : Int) : 0 ≤ Judgement.allowedGap settings tolerance gap := by
  unfold Judgement.allowedGap
  split_ifs
  · exact fair.simultaneous
  · exact h

namespace Grader

section
variable {α : Type} [Weighing α] {g : Grader α} {level : Level} {p : Program} {s : Sequence}

/-- The target code of a level gives a program and a timeline, and nothing but this timeline is
remembered for the number of the level. -/
structure Holds (g : Grader α) (level : Level) (p : Program) (s : Sequence) : Prop where
  timeline : (g.replay level.targetCode.toList level.validationLoops).outcome = .ok (p, s)
  memory : ∀ t, g.remembered? level.id = some t → g.own level = .ok t

theorem replay_eq_ok {source : Text} {count : Int} :
    (g.replay source count).outcome = .ok (p, s) ↔
      (Program.read source).outcome = .ok p ∧
        (Replay.extract g.settings.usablePins g.settings.limits p count).outcome = .ok s := by
  simp only [replay, Traced.outcome_andThen, Traced.ofReported, Traced.done]
  constructor
  · intro h
    cases hr : (Program.read source).outcome with
    | error halt =>
        rw [hr] at h
        cases h
    | ok q =>
        rw [hr, Except.bind] at h
        cases he : (Replay.extract g.settings.usablePins g.settings.limits q count).outcome with
        | error halt =>
            rw [he] at h
            cases h
        | ok timeline =>
            rw [he] at h
            cases h
            exact ⟨rfl, he⟩
  · rintro ⟨hr, he⟩
    rw [hr, Except.bind, he]
    rfl

theorem Holds.own_eq (h : g.Holds level p s) : g.own level = .ok s := by
  rw [own, h.timeline]
  rfl

theorem Holds.outcome_check (h : g.Holds level p s) (source : Text) (mode : Mode)
    (tolerance : Option Int) :
    (g.check level source mode tolerance).1.outcome =
      (g.against level source mode tolerance s).outcome := by
  have used : (g.target level).1.outcome = .ok s := by
    rw [outcome_target]
    cases hm : g.remembered? level.id with
    | none => exact h.own_eq
    | some t => exact (h.memory t hm).symm.trans h.own_eq
  rw [Grader.outcome_check, used]
  rfl

theorem Holds.read_eq (h : g.Holds level p s) :
    (Program.read level.targetCode.toList).outcome = .ok p := (replay_eq_ok.mp h.timeline).1

theorem Holds.extract_eq (h : g.Holds level p s) :
    (Replay.extract g.settings.usablePins g.settings.limits p level.validationLoops).outcome =
      .ok s := (replay_eq_ok.mp h.timeline).2

/-- Every duty in the timeline of a level has a pulse width. -/
theorem Holds.scales (h : g.Holds level p s) {event : Event} (mem : event ∈ s.events) :
    ∃ width, event.scaledDuty = .ok width := by
  obtain ⟨-, rfl⟩ := Replay.extract_eq_ok.mp h.extract_eq
  exact Replay.scaledDuty_of_follow mem

/-- A submission that comes to a timeline is graded by the comparison. -/
theorem outcome_grade {ran : Traced (Attempt (Sequence × Int))} {candidate : Sequence}
    {iterations : Int} (h : ran.outcome = .ok (.ok (candidate, iterations)))
    (tolerance : Option Int) :
    (ran.andThen fun attempt => g.grade level s tolerance attempt).outcome =
      (Verdict.compare g.settings.compare s candidate tolerance).outcome.map
        fun verdict => ⟨level.id, s, candidate, verdict, none, iterations⟩ := by
  rw [Traced.outcome_andThen, h]
  simp only [Except.bind, grade, Traced.outcome_andThen, Traced.ofReported, Traced.done]
  cases (Verdict.compare g.settings.compare s candidate tolerance).outcome with
  | error halt => rfl
  | ok verdict => rfl

theorem Holds.attemptStatic_eq (h : g.Holds level p s) :
    (g.attemptStatic level level.targetCode.toList).outcome =
      .ok (.ok (s, if p.isLooping then level.validationLoops else 0)) := by
  unfold attemptStatic attempt
  rw [Traced.outcome_andThen, h.timeline]
  rfl

/-- The events of a program, as a level runs it, with the number of statements other than waits in
front of each. -/
def rankedEvents (g : Grader α) (level : Level) (p : Program) : List (Nat × Event) :=
  Replay.ranked 0 (Replay.journal g.settings.limits (Replay.start g.settings.usablePins)
    (p.script level.validationLoops.toNat))

/-- What is recorded of events that come later by the pauses in front of them. -/
def recorded (pause : Int) (rs : List (Nat × Event)) : Sequence :=
  ⟨rs.map (Replay.delayed pause), Replay.lastTime (rs.map (Replay.delayed pause)), false⟩

theorem Holds.attemptLive_eq (h : g.Holds level p s) (forward : 0 ≤ g.settings.live.stepDelayMs)
    (repeats : 1 ≤ level.validationLoops)
    (heeded : Live.firstDrop (Replay.extract g.settings.usablePins g.settings.limits p
      level.validationLoops).notices = none) :
    (attemptLive g.liveSetup level level.targetCode.toList).outcome =
      .ok (.ok (recorded g.settings.live.stepDelayMs (g.rankedEvents level p),
        if p.isLooping then level.validationLoops else 0)) := by
  have ran := @Live.run_of_timeline g.liveSetup {} forward rfl rfl rfl p level.validationLoops
    repeats s heeded h.extract_eq
  have limit : (level.validationLoops.toNat : Int) = level.validationLoops := by omega
  unfold attemptLive attempt
  rw [Traced.outcome_andThen]
  simp only [Traced.ofReported, h.read_eq, Except.bind, attemptOfRun, ran, Live.resultOf]
  cases p.isLooping with
  | true =>
      simp only [if_true, limit]
      rfl
  | false => rfl

end

/-! ## Replayed submissions -/

section
variable {α : Type} [Weighing α] {g : Grader α} {level : Level} {p : Program} {s : Sequence}

/-- A replayed target differs from itself in nothing, so only the score is left to be computed. -/
theorem Holds.static_eq (h : g.Holds level p s) (fair : g.settings.compare.Fair)
    {tolerance : Option Int} (nonneg : ∀ t, tolerance = some t → 0 ≤ t) :
    (g.check level level.targetCode.toList .static tolerance).1.outcome =
      (Verdict.scored g.settings.compare (Verdict.slipped s.events.length 0)).map fun score =>
        ⟨level.id, s, s, ⟨decide (g.settings.compare.passScore ≤ score), score, [],
          Verdict.slipped s.events.length 0⟩, none,
            if p.isLooping then level.validationLoops else 0⟩ := by
  have allowed : 0 ≤ tolerance.getD g.settings.compare.toleranceMs := by
    cases tolerance with
    | none => exact fair.tolerance
    | some t => exact nonneg t rfl
  have target : s.events = (s.events.map (0, ·)).map Prod.snd := by
    rw [List.map_map]
    exact (List.map_id _).symm
  have candidate : s.events = (s.events.map (0, ·)).map (Replay.delayed 0) := by
    rw [Replay.map_delayed_zero]
    exact target
  have scales : ∀ r ∈ s.events.map ((0 : Nat), ·), ∃ width, r.2.scaledDuty = .ok width := by
    intro r hr
    obtain ⟨event, mem, rfl⟩ := List.mem_map.mp hr
    exact h.scales mem
  have compared := Verdict.compare_paced fair.pwm fair.passable 0 scales target candidate tolerance
  have agree : Verdict.lateGaps 0 (Verdict.Slips g.settings.compare
      (tolerance.getD g.settings.compare.toleranceMs) 0) (s.events.map (0, ·)) = [] := by
    apply Verdict.lateGaps_eq_nil_iff.mpr
    intro i a b _ _ far
    rw [Verdict.Slips, Int.zero_mul] at far
    have near := fair.allowedGap_nonneg allowed (b.2.time - a.2.time)
    omega
  rw [h.outcome_check]
  refine (outcome_grade h.attemptStatic_eq tolerance).trans ?_
  rw [compared, agree, List.length_map, List.length_nil]
  cases Verdict.scored g.settings.compare (Verdict.slipped s.events.length 0) with
  | error halt => rfl
  | ok score => rfl

end

/-- The target code of a level passes the static check of the level. The grade has no fault and no
difference, as many passes as the level asks for if there is a loop, and full counts; its score is
what full counts weigh. In exact numbers there always is one, and it is 100 if the weights sum to
one. -/
theorem own_target_passes_static_check (level : Level) (tolerance : Option Int) (p : Program)
    (s : Sequence) (nonneg : ∀ t, tolerance = some t → 0 ≤ t) :
    let n := s.events.length
    let passes := if p.isLooping then level.validationLoops else 0
    (∀ (α : Type) [Weighing α] (g : Grader α), g.Holds level p s → g.settings.compare.Fair →
      (g.check level level.targetCode.toList .static tolerance).1.outcome =
        (Verdict.scored g.settings.compare ⟨n, n, n, n, n⟩).map fun score =>
          ⟨level.id, s, s, ⟨decide (g.settings.compare.passScore ≤ score), score, [],
            ⟨n, n, n, n, n⟩⟩, none, passes⟩) ∧
      ∀ g : Grader Rat, g.Holds level p s → g.settings.compare.Fair →
        ∃ grade, (g.check level level.targetCode.toList .static tolerance).1.outcome = .ok grade ∧
          grade.fault = none ∧ grade.verdict.differences = [] ∧ grade.iterations = passes ∧
          grade.verdict.details = ⟨n, n, n, n, n⟩ ∧
          (g.settings.compare.intervalWeight + g.settings.compare.pinWeight +
              g.settings.compare.stateWeight + g.settings.compare.pwmWeight = 1 →
            grade.verdict.score = 100 ∧ grade.passed = true) := by
  intro n passes
  refine ⟨fun α _ g h fair => h.static_eq fair nonneg, ?_⟩
  intro g h fair
  obtain ⟨score, hscore⟩ := Verdict.scored_exact g.settings.compare n 0
  have graded := h.static_eq fair nonneg
  rw [hscore] at graded
  refine ⟨_, graded, rfl, rfl, rfl, rfl, ?_⟩
  intro whole
  rw [Verdict.scored_full whole] at hscore
  cases hscore
  exact ⟨rfl, decide_eq_true fair.passable⟩

/-- A level in which a pin is driven by a pulse width while another one is lit. -/
def glow : Level where
  id := 7
  name := "glow"
  targetCode :=
    "void setup() \x7b\n  pinMode(9, OUTPUT);\n  pinMode(13, OUTPUT);\n\x7d\n" ++
      "void loop() \x7b\n  setDutyCycle(9, 40);\n  digitalWrite(13, HIGH);\n  delay(100);\n" ++
      "  setDutyCycle(9, 0);\n  delay(20);\n\x7d\n"
  validationLoops := 2

/-- The program of the level. -/
def glowProgram : Program where
  setupBody := "\n  pinMode(9, OUTPUT);\n  pinMode(13, OUTPUT);\n".toList
  loopBody :=
    ("\n  setDutyCycle(9, 40);\n  digitalWrite(13, HIGH);\n  delay(100);\n" ++
      "  setDutyCycle(9, 0);\n  delay(20);\n").toList
  setupLine := 1
  loopLine := 5

/-- The timeline of the level. -/
def glowTimeline : Sequence :=
  ⟨[⟨0, 9, true, .pwm, .loop, some 40⟩, ⟨0, 13, true, .digital, .loop, none⟩,
    ⟨100, 9, false, .pwm, .loop, some 0⟩, ⟨120, 9, true, .pwm, .loop, some 40⟩,
    ⟨220, 9, false, .pwm, .loop, some 0⟩], 220, true⟩

theorem glow_read : (Program.read glow.targetCode.toList).outcome = .ok glowProgram := by
  decide +kernel

theorem glow_extract : (Replay.extract defaultPins {} glowProgram 2).outcome = .ok glowTimeline := by
  decide +kernel

/-- A grader that remembers the timeline of the level already. -/
theorem own_target_passes_static_check_glow :
    let g : Grader Rat := { targets := [(7, glowTimeline)] }
    g.Holds glow glowProgram glowTimeline ∧ g.settings.compare.Fair ∧
      ∃ grade, (g.check glow glow.targetCode.toList .static (some 0)).1.outcome = .ok grade ∧
        grade.fault = none ∧ grade.verdict.differences = [] ∧ grade.iterations = 2 ∧
        grade.verdict.details = ⟨5, 5, 5, 5, 5⟩ ∧ grade.verdict.score = 100 ∧
        grade.passed = true := by
  intro g
  have timeline : (g.replay glow.targetCode.toList glow.validationLoops).outcome =
      .ok (glowProgram, glowTimeline) := replay_eq_ok.mpr ⟨glow_read, glow_extract⟩
  have held : g.Holds glow glowProgram glowTimeline := by
    refine ⟨timeline, ?_⟩
    intro t ht
    cases ht
    rw [own, timeline]
    rfl
  have zero : ∀ t, some (0 : Int) = some t → 0 ≤ t := by
    intro t ht
    cases ht
    decide
  obtain ⟨grade, graded, faultless, agree, passes, full, whole⟩ :=
    (own_target_passes_static_check glow (some 0) glowProgram glowTimeline zero).2 g held
      CompareSettings.fair_default
  exact ⟨held, CompareSettings.fair_default, grade, graded, faultless, agree, passes, full,
    whole (by decide +kernel)⟩

/-! ## Live submissions -/

/-- Between the writes that give two events, the first of them included, there are more statements
other than waits than the usual tolerances make up for: more than one, or more than two if the
events are less than 10 milliseconds apart. -/
def Crowded (a b : Nat × Event) : Prop :=
  a.1 + (if b.2.time - a.2.time < 10 then 2 else 1) < b.1

instance : DecidableRel Crowded := fun _ _ => inferInstanceAs (Decidable (_ < _))

/-- The differences are the crowded gaps, in order and one for each, longer by 50 milliseconds for a
statement. -/
def TellsCrowded (rs : List (Nat × Event)) (differences : List Difference) : Prop :=
  differences = Verdict.lateGaps 50 Crowded rs

theorem slips_iff_crowded {α : Type} [Weighing α] {a b : Nat × Event} (h : a.1 ≤ b.1) :
    Verdict.Slips ({} : CompareSettings α) 50 50 a b ↔ Crowded a b := by
  have usual : Judgement.allowedGap ({} : CompareSettings α) 50 (b.2.time - a.2.time) =
      if b.2.time - a.2.time < 10 then 100 else 50 := rfl
  unfold Verdict.Slips Crowded
  rw [usual]
  split_ifs <;> omega

/-- Crowded gaps are timing differences, so without one of them there is no difference. -/
theorem TellsCrowded.untimed_iff {rs : List (Nat × Event)} {differences : List Difference}
    (h : TellsCrowded rs differences) :
    (∀ d ∈ differences, d.kind ≠ .timing) ↔
      ∀ i a b, rs[i]? = some a → rs[i + 1]? = some b → ¬ Crowded a b := by
  have timed : ∀ d ∈ differences, d.kind = .timing := by
    intro d hd
    rw [h] at hd
    obtain ⟨x, -, rfl⟩ := List.mem_map.mp hd
    rfl
  rw [← @Verdict.lateGaps_eq_nil_iff 50, ← h, List.eq_nil_iff_forall_not_mem]
  apply forall_congr'
  intro d
  exact ⟨fun untimed hd => untimed hd (timed d hd), fun none hd => (none hd).elim⟩

/-- The usual pace and the usual comparison, for a level that asks for a pass of the loop and a
program whose replay leaves no write out. -/
structure RunsLive {α : Type} [Weighing α] (g : Grader α) (level : Level) (p : Program) :
    Prop where
  pace : g.settings.live.stepDelayMs = 50
  compare : g.settings.compare = {}
  repeats : 1 ≤ level.validationLoops
  heeded : Live.firstDrop (Replay.extract g.settings.usablePins g.settings.limits p
    level.validationLoops).notices = none

section
variable {α : Type} [Weighing α] {g : Grader α} {level : Level} {p : Program} {s : Sequence}

theorem Holds.events_eq (h : g.Holds level p s) (repeats : 1 ≤ level.validationLoops) :
    s.events = (g.rankedEvents level p).map Prod.snd := by
  obtain ⟨-, rfl⟩ := Replay.extract_eq_ok.mp h.extract_eq
  rw [Int.max_eq_right repeats]
  exact (Live.ranked_journal_events ..).symm

/-- The events of a live run are those of the timeline, each later by the pauses in front of it, so
the differences are the gaps with too many pauses. -/
theorem Holds.live_eq (h : g.Holds level p s) (live : g.RunsLive level p) :
    let rs := g.rankedEvents level p
    ∃ differences, TellsCrowded rs differences ∧
      (g.check level level.targetCode.toList (.live g.liveSetup) none).1.outcome =
        (Verdict.scored ({} : CompareSettings α)
          (Verdict.slipped rs.length differences.length)).map fun score =>
            ⟨level.id, s, recorded 50 rs, ⟨decide (80 ≤ score), score, differences,
              Verdict.slipped rs.length differences.length⟩, none,
                if p.isLooping then level.validationLoops else 0⟩ := by
  intro rs
  have target : s.events = rs.map Prod.snd := h.events_eq live.repeats
  have fair : g.settings.compare.Fair := by
    rw [live.compare]
    exact CompareSettings.fair_default
  have scales : ∀ r ∈ rs, ∃ width, r.2.scaledDuty = .ok width := by
    intro r hr
    apply h.scales
    rw [target]
    exact List.mem_map_of_mem hr
  have forward : 0 ≤ g.settings.live.stepDelayMs := by
    rw [live.pace]
    decide
  have ran := h.attemptLive_eq forward live.repeats live.heeded
  rw [live.pace] at ran
  have candidate : (recorded 50 rs).events = rs.map (Replay.delayed 50) := rfl
  have compared := Verdict.compare_paced fair.pwm fair.passable 50 scales target candidate none
  have crowded : Verdict.lateGaps 50 (Verdict.Slips ({} : CompareSettings α)
      ((none : Option Int).getD ({} : CompareSettings α).toleranceMs) 50) rs =
        Verdict.lateGaps 50 Crowded rs := by
    apply Verdict.lateGaps_congr
    intro i a b ha hb
    exact slips_iff_crowded (Replay.rank_le_next ha hb)
  rw [live.compare] at compared
  dsimp only at compared
  rw [crowded] at compared
  refine ⟨Verdict.lateGaps 50 Crowded rs, rfl, ?_⟩
  rw [h.outcome_check]
  refine (outcome_grade ran none).trans ?_
  rw [live.compare, compared]
  cases Verdict.scored ({} : CompareSettings α) (Verdict.slipped rs.length
      (Verdict.lateGaps 50 Crowded rs).length) with
  | error halt => rfl
  | ok score => rfl

end

/-- The target code of a level, run live at the usual pace, ends without a fault and differs from
the target in its gaps at most. The crowded gaps are told in order, one difference each, so no
timing difference is found exactly if no two events that follow each other have a crowded gap. The
score is what the counts weigh, and in exact numbers there always is one. -/
theorem own_target_live_check_finds_crowded_gaps (level : Level) (p : Program) (s : Sequence) :
    (∀ (α : Type) [Weighing α] (g : Grader α), g.Holds level p s → g.RunsLive level p →
      let rs := g.rankedEvents level p
      s.events = rs.map Prod.snd ∧ ∃ differences, TellsCrowded rs differences ∧
        (g.check level level.targetCode.toList (.live g.liveSetup) none).1.outcome =
          (Verdict.scored ({} : CompareSettings α)
            (Verdict.slipped rs.length differences.length)).map fun score =>
              ⟨level.id, s, recorded 50 rs, ⟨decide (80 ≤ score), score, differences,
                Verdict.slipped rs.length differences.length⟩, none,
                  if p.isLooping then level.validationLoops else 0⟩) ∧
      ∀ g : Grader Rat, g.Holds level p s → g.RunsLive level p →
        let rs := g.rankedEvents level p
        ∃ grade, (g.check level level.targetCode.toList (.live g.liveSetup) none).1.outcome =
            .ok grade ∧ grade.fault = none ∧ TellsCrowded rs grade.verdict.differences ∧
          ((∀ d ∈ grade.verdict.differences, d.kind ≠ .timing) ↔
            ∀ i a b, rs[i]? = some a → rs[i + 1]? = some b → ¬ Crowded a b) := by
  constructor
  · intro α _ g h live
    exact ⟨h.events_eq live.repeats, h.live_eq live⟩
  · intro g h live rs
    obtain ⟨differences, told, graded⟩ := h.live_eq live
    obtain ⟨score, hscore⟩ := Verdict.scored_exact {} rs.length differences.length
    rw [hscore] at graded
    exact ⟨_, graded, rfl, told, told.untimed_iff⟩

/-- In a single pass of the loop no gap is crowded. -/
theorem own_target_live_check_finds_crowded_gaps_glow :
    let g : Grader Rat := {}
    let level := { glow with validationLoops := 1 }
    let timeline : Sequence := ⟨glowTimeline.events.take 3, 100, true⟩
    g.Holds level glowProgram timeline ∧ g.RunsLive level glowProgram ∧
      ∃ grade, (g.check level level.targetCode.toList (.live g.liveSetup) none).1.outcome =
          .ok grade ∧ grade.fault = none ∧ ∀ d ∈ grade.verdict.differences, d.kind ≠ .timing := by
  intro g level timeline
  have held : g.Holds level glowProgram timeline :=
    ⟨replay_eq_ok.mpr ⟨glow_read, by decide +kernel⟩, fun t ht => by cases ht⟩
  have live : g.RunsLive level glowProgram := ⟨rfl, rfl, by decide, by decide +kernel⟩
  have ranked : g.rankedEvents level glowProgram = [2, 3, 4].zip timeline.events := by
    decide +kernel
  obtain ⟨grade, graded, faultless, -, untimed⟩ :=
    (own_target_live_check_finds_crowded_gaps level glowProgram timeline).2 g held live
  refine ⟨held, live, grade, graded, faultless, untimed.mpr ?_⟩
  rw [ranked]
  intro i a b ha hb
  cases i with
  | zero =>
      cases ha
      cases hb
      decide
  | succ i =>
      cases i with
      | zero =>
          cases ha
          cases hb
          decide
      | succ i => cases hb

/-- In the second pass the lit pin is lit again, which gives no event but takes a pause: the last
gap is 200 milliseconds long instead of 100. -/
theorem repeated_write_crowds_live_check :
    ¬ ∀ (g : Grader) (level : Level) (p : Program) (s : Sequence), g.Holds level p s →
      g.RunsLive level p →
        ∃ grade, (g.check level level.targetCode.toList (.live g.liveSetup) none).1.outcome =
            .ok grade ∧ grade.fault = none ∧
          ∀ d ∈ grade.verdict.differences, d.kind ≠ .timing := by
  intro claim
  let g : Grader := {}
  have held : g.Holds glow glowProgram glowTimeline :=
    ⟨replay_eq_ok.mpr ⟨glow_read, glow_extract⟩, fun t ht => by cases ht⟩
  have live : g.RunsLive glow glowProgram := ⟨rfl, rfl, by decide, by decide +kernel⟩
  obtain ⟨grade, graded, -, untimed⟩ := claim g glow glowProgram glowTimeline held live
  obtain ⟨differences, told, graded'⟩ := held.live_eq live
  rw [graded'] at graded
  have same : grade.verdict.differences = differences := by
    cases hs : Verdict.scored ({} : CompareSettings) (Verdict.slipped
        (g.rankedEvents glow glowProgram).length differences.length) with
    | error halt =>
        rw [hs] at graded
        cases graded
    | ok score =>
        rw [hs] at graded
        cases graded
        rfl
  rw [same] at untimed
  have ranked : g.rankedEvents glow glowProgram = [2, 3, 4, 5, 7].zip glowTimeline.events := by
    decide +kernel
  rw [ranked] at told
  exact told.untimed_iff.mp untimed 3 _ _ rfl rfl (by decide)

end Grader

end SketchGrader
