import Mathlib.Tactic.SplitIfs
import SketchGrader.Grading.Grader

/-!
# What a grader remembers

A grader works out the target timeline of a level when it is first asked for it and keeps it under
the number of the level. A timeline that cannot be worked out is not kept. The target that is used
for a level is therefore that of the first request with its number that came to a timeline, and it
is the level's own if the requests with its number agree.
-/

namespace SketchGrader

@[simp] theorem Traced.outcome_andThen {α β : Type} (x : Traced α) (next : α → Traced β) :
    (x.andThen next).outcome = x.outcome.bind fun a => (next a).outcome := by
  unfold Traced.andThen
  cases x.outcome with
  | error halt => rfl
  | ok a => rfl

namespace Grader

variable {α : Type} [Weighing α]

/-- The target timeline that the code of a level gives. -/
def own (g : Grader α) (level : Level) : Except Halt Sequence :=
  (g.replay level.targetCode.toList level.validationLoops).outcome.map (·.2)

/-- What a grader is asked for. -/
inductive Request where
  | target (level : Level)
  | check (level : Level) (source : Text) (mode : Mode) (tolerance : Option Int)

/-- The level that a request is about. -/
def Request.level : Request → Level
  | .target level => level
  | .check level _ _ _ => level

/-- The grader after a request. -/
def serve (g : Grader α) : Request → Grader α
  | .target level => (g.target level).2
  | .check level source mode tolerance => (g.check level source mode tolerance).2

/-- The grader after some requests. -/
def serveAll (g : Grader α) (requests : List Request) : Grader α := requests.foldl serve g

/-- The first timeline that a request for a level number came to. -/
def settled? (g : Grader α) (requests : List Request) (id : Int) : Option Sequence :=
  requests.findSome? fun r => if r.level.id = id then (g.own r.level).toOption else none

/-- Grades a submission against a target. -/
def against (g : Grader α) (level : Level) (source : Text) (mode : Mode) (tolerance : Option Int)
    (target : Sequence) : Traced Grade :=
  (match mode with
    | .live setup => attemptLive setup level source
    | .static => g.attemptStatic level source).andThen fun attempt =>
      g.grade level target tolerance attempt

theorem check_eq (g : Grader α) (level : Level) (source : Text) (mode : Mode)
    (tolerance : Option Int) :
    g.check level source mode tolerance =
      ((g.target level).1.andThen ((g.target level).2.against level source mode tolerance),
        (g.target level).2) := rfl

theorem serve_eq (g : Grader α) (r : Request) : g.serve r = (g.target r.level).2 := by
  cases r with
  | target level => rfl
  | check level source mode tolerance => rfl

section
variable {g h : Grader α}

theorem own_of_settings (same : g.settings = h.settings) (level : Level) :
    g.own level = h.own level := by
  simp only [own, replay, same]

theorem settled?_of_settings (same : g.settings = h.settings) (requests : List Request)
    (id : Int) : g.settled? requests id = h.settled? requests id := by
  simp only [settled?, own_of_settings same]

theorem against_of_settings (same : g.settings = h.settings) (level : Level) (source : Text)
    (mode : Mode) (tolerance : Option Int) (target : Sequence) :
    g.against level source mode tolerance target =
      h.against level source mode tolerance target := by
  simp only [against, attemptStatic, replay, grade, same]

end

section
variable {g : Grader α} {level : Level}

theorem target_of_remembered {s : Sequence} (h : g.remembered? level.id = some s) :
    g.target level = (.done s, g) := by
  simp only [target, h]

theorem target_of_forgotten (h : g.remembered? level.id = none) :
    (g.target level).1.outcome = g.own level ∧
      (g.target level).2 = match g.own level with
        | .error _ => g
        | .ok s => { g with targets := (level.id, s) :: g.targets } := by
  simp only [target, own, h]
  cases (g.replay level.targetCode.toList level.validationLoops).outcome with
  | error halt => exact ⟨rfl, rfl⟩
  | ok read => exact ⟨rfl, rfl⟩

end

theorem remembered?_keep (g : Grader α) (id id' : Int) (s : Sequence) :
    remembered? { g with targets := (id, s) :: g.targets } id' =
      if id = id' then some s else g.remembered? id' := by
  unfold remembered?
  rw [List.find?_cons]
  split_ifs with h
  · simp only [h, beq_self_eq_true, Option.map_some]
  · simp only [beq_eq_false_iff_ne.mpr h]

@[simp] theorem settings_target (g : Grader α) (level : Level) :
    (g.target level).2.settings = g.settings := by
  cases hm : g.remembered? level.id with
  | some s => rw [target_of_remembered hm]
  | none =>
      rw [(target_of_forgotten hm).2]
      cases g.own level with
      | error halt => rfl
      | ok s => rfl

/-- The target that is used for a level is the remembered one, or else the level's own. -/
theorem outcome_target (g : Grader α) (level : Level) :
    (g.target level).1.outcome =
      match g.remembered? level.id with
      | some s => .ok s
      | none => g.own level := by
  cases hm : g.remembered? level.id with
  | some s =>
      rw [target_of_remembered hm]
      rfl
  | none => exact (target_of_forgotten hm).1

/-- A request adds at most the timeline of its own level, and never replaces one. -/
theorem remembered?_target (g : Grader α) (level : Level) (id : Int) :
    (g.target level).2.remembered? id =
      (g.remembered? id).or (if level.id = id then (g.own level).toOption else none) := by
  cases hm : g.remembered? level.id with
  | some s =>
      rw [target_of_remembered hm]
      split_ifs with h
      · rw [← h, hm]
        rfl
      · exact Option.or_none.symm
  | none =>
      rw [(target_of_forgotten hm).2]
      cases g.own level with
      | error halt => simp only [Except.toOption, ite_self, Option.or_none]
      | ok s =>
          simp only [remembered?_keep, Except.toOption]
          split_ifs with h
          · rw [← h, hm]
            rfl
          · exact Option.or_none.symm

theorem settings_serveAll (g : Grader α) (requests : List Request) :
    (g.serveAll requests).settings = g.settings := by
  unfold serveAll
  induction requests generalizing g with
  | nil => rfl
  | cons r rest ih => rw [List.foldl_cons, ih, serve_eq, settings_target]

/-- What is remembered after some requests is what was remembered before, or else what the first
request with the number came to. -/
theorem remembered?_serveAll (g : Grader α) (requests : List Request) (id : Int) :
    (g.serveAll requests).remembered? id = (g.remembered? id).or (g.settled? requests id) := by
  induction requests generalizing g with
  | nil => exact Option.or_none.symm
  | cons r rest ih =>
      have first : g.serveAll (r :: rest) = (g.serve r).serveAll rest := rfl
      have same : (g.serve r).settings = g.settings := by
        rw [serve_eq, settings_target]
      rw [first, ih, settled?_of_settings same, serve_eq, remembered?_target, Option.or_assoc]
      congr 1
      unfold settled?
      rw [List.findSome?_cons]
      cases (if r.level.id = id then (g.own r.level).toOption else none) with
      | none => rfl
      | some s => rfl

/-- The timeline that a level's own code gives is used if the requests with its number agree. -/
theorem settled?_of_agree {g : Grader α} {requests : List Request} {level : Level}
    (agree : ∀ r ∈ requests, r.level.id = level.id → g.own r.level = g.own level) {s : Sequence}
    (settled : g.settled? requests level.id = some s) : g.own level = .ok s := by
  rcases List.exists_of_findSome?_eq_some settled with ⟨r, mem, found⟩
  split_ifs at found with h
  rw [agree r mem h] at found
  cases ho : g.own level with
  | error halt =>
      rw [ho] at found
      cases found
  | ok t =>
      rw [ho] at found
      cases found
      rfl

theorem outcome_check (g : Grader α) (level : Level) (source : Text) (mode : Mode)
    (tolerance : Option Int) :
    (g.check level source mode tolerance).1.outcome =
      (g.target level).1.outcome.bind
        fun target => (g.against level source mode tolerance target).outcome := by
  rw [check_eq, Traced.outcome_andThen]
  simp only [against_of_settings (settings_target g level)]

/-- A grader that has worked out nothing yet uses, after any requests, the timeline that the first
of them with the number of the level came to, and the level's own if there is none; a check grades
against it, or fails as it does. If all requests with this number have the level's own target, then
the level gets what it gets from the grader that has served nobody. -/
theorem first_request_settles_target (g : Grader) (new : g.targets = [])
    (requests : List Request) (level : Level) :
    let later := g.serveAll requests
    let used := match g.settled? requests level.id with
      | some s => .ok s
      | none => g.own level
    (later.target level).1.outcome = used ∧
      (∀ source mode tolerance, (later.check level source mode tolerance).1.outcome =
        used.bind fun target => (g.against level source mode tolerance target).outcome) ∧
      ((∀ r ∈ requests, r.level.id = level.id → g.own r.level = g.own level) →
        (later.target level).1.outcome = g.own level ∧
          ∀ source mode tolerance, (later.check level source mode tolerance).1.outcome =
            (g.check level source mode tolerance).1.outcome) := by
  intro later used
  have forgotten : g.remembered? level.id = none := by
    simp only [remembered?, new, List.find?_nil, Option.map_none]
  have same : later.settings = g.settings := settings_serveAll g requests
  have alone : (g.target level).1.outcome = g.own level := by
    rw [outcome_target, forgotten]
  have answer : (later.target level).1.outcome = used := by
    rw [outcome_target, remembered?_serveAll, forgotten, own_of_settings same]
    rfl
  have graded : ∀ source mode tolerance, (later.check level source mode tolerance).1.outcome =
      used.bind fun target => (g.against level source mode tolerance target).outcome := by
    intro source mode tolerance
    rw [outcome_check, answer]
    simp only [against_of_settings same]
  refine ⟨answer, graded, ?_⟩
  intro agree
  have mine : used = g.own level := by
    cases hs : g.settled? requests level.id with
    | none => simp only [used, hs]
    | some s => simp only [used, hs, settled?_of_agree agree hs]
  constructor
  · rw [answer, mine]
  · intro source mode tolerance
    rw [graded, mine, outcome_check, alone]

/-- A level that lights a pin. -/
def lamp (id : Int) (pin : String) : Level where
  id := id
  name := "lamp"
  targetCode :=
    "void setup() \x7b\n  pinMode(" ++ pin ++ ", OUTPUT);\n" ++
      "  digitalWrite(" ++ pin ++ ", HIGH);\n\x7d\n"

/-- The timeline of a level that lights a pin. -/
def lit (pin : Int) : Sequence := ⟨[⟨0, pin, true, .digital, .setup, none⟩], 0, false⟩

/-- Requests for another level and for one with a mistake do not change what a level gets. -/
theorem first_request_settles_target_lamps :
    let g : Grader := { book := .ofLevels [lamp 1 "13", lamp 2 "12", lamp 3 "99"] }
    let level := lamp 2 "12"
    let requests : List Request :=
      [.target (lamp 3 "99"), .check level [] .static none, .target (lamp 1 "13"), .target level]
    g.targets = [] ∧ (g.own (lamp 3 "99")).toOption = none ∧
      (g.own level).toOption = some (lit 12) ∧
      (∀ r ∈ requests, r.level.id = level.id → g.own r.level = g.own level) ∧
      ((g.serveAll requests).target level).1.outcome = g.own level ∧
      ∀ source mode tolerance,
        ((g.serveAll requests).check level source mode tolerance).1.outcome =
          (g.check level source mode tolerance).1.outcome := by
  intro g level requests
  have agree : ∀ r ∈ requests, r.level.id = level.id → g.own r.level = g.own level := by
    intro r mem number
    simp only [requests, List.mem_cons, List.not_mem_nil, or_false] at mem
    rcases mem with rfl | rfl | rfl | rfl
    · cases number
    · rfl
    · cases number
    · rfl
  have settled := first_request_settles_target g rfl requests level
  exact ⟨rfl, by decide +kernel, by decide +kernel, agree, settled.2.2 agree⟩

/-- In a book with two levels of one number, the second gets the target of the first. -/
theorem shared_number_shares_target :
    ¬ ∀ (g : Grader) (requests : List Request) (level : Level),
      g.targets = [] → (∀ r ∈ requests, r.level ∈ g.book.levels) → level ∈ g.book.levels →
      ((g.serveAll requests).target level).1.outcome = g.own level := by
  intro claim
  let g : Grader := { book := .ofLevels [lamp 1 "13", lamp 1 "12"] }
  have held : ∀ level ∈ [lamp 1 "13", lamp 1 "12"], level ∈ g.book.levels := by
    intro level mem
    exact List.mem_mergeSort.mpr mem
  have own := claim g [.target (lamp 1 "13")] (lamp 1 "12") rfl
    (by
      intro r mem
      cases List.mem_singleton.mp mem
      exact held _ List.mem_cons_self)
    (held _ (List.mem_cons_of_mem _ List.mem_cons_self))
  have used : ((g.serveAll [.target (lamp 1 "13")]).target (lamp 1 "12")).1.outcome.toOption =
      some (lit 13) := by decide +kernel
  have mine : (g.own (lamp 1 "12")).toOption = some (lit 12) := by decide +kernel
  rw [own, mine] at used
  exact absurd used (by decide)

end Grader

end SketchGrader
