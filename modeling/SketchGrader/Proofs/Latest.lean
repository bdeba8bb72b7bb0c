import SketchGrader.Proofs.Effect

/-!
# The latest effect

Every effect either leaves a field of a pin or a timer alone or gives it a value of its own. After
any number of effects a field therefore holds what the latest effect on it gave, and going through
the same effects once more changes nothing.
-/

namespace SketchGrader

/-- What the last element says of those that say something. -/
def latest {α β : Type} (f : α → Option β) (xs : List α) : Option β :=
  (xs.filterMap f).getLast?

@[simp] theorem latest_append {α β : Type} (f : α → Option β) (xs ys : List α) :
    latest f (xs ++ ys) = (latest f ys).or (latest f xs) := by
  rw [latest, List.filterMap_append, List.getLast?_append]
  rfl

@[simp] theorem latest_singleton {α β : Type} (f : α → Option β) (x : α) : latest f [x] = f x := by
  cases h : f x <;> simp [latest, h]

theorem exists_of_latest {α β : Type} {f : α → Option β} {xs : List α} {b : β}
    (h : latest f xs = some b) : ∃ x ∈ xs, f x = some b :=
  List.mem_filterMap.mp (List.mem_of_getLast? h)

namespace Effect

/-- The direction that an effect gives to a pin. -/
def declared? (q : Int) : Effect → Option Direction
  | declare pin direction => if q = pin then some direction else none
  | _ => none

/-- The digital level that an effect gives to a pin. -/
def leveled? (q : Int) : Effect → Option Bool
  | level pin on => if q = pin then some on else none
  | _ => none

/-- The pulse width and the duty that an effect gives to a pin. -/
def driven? (q : Int) : Effect → Option (Int × Int)
  | drive pin pwm duty => if q = pin then some (max 0 (min 255 pwm), duty) else none
  | _ => none

/-- The state that an effect gives to a timer. -/
def timed? (t : Timer) : Effect → Option TimerState
  | timer other state => if t = other then some state else none
  | _ => none

theorem silent_of_writes {e : Effect} {q : Int} (h : e.writes q = true) :
    (∀ p, e.declared? p = none) ∧ ∀ t, e.timed? t = none := by
  cases e with
  | level pin on => exact ⟨fun _ => rfl, fun _ => rfl⟩
  | drive pin pwm duty => exact ⟨fun _ => rfl, fun _ => rfl⟩
  | _ => cases h

/-- The state of a pin after a list of effects: each field holds what it was given last. -/
def settled (q : Int) (es : List Effect) (s : PinState) : PinState where
  direction := (latest (declared? q) es).getD s.direction
  level := (latest (leveled? q) es).getD s.level
  pwm := ((latest (driven? q) es).getD (s.pwm, s.duty)).1
  duty := ((latest (driven? q) es).getD (s.pwm, s.duty)).2

theorem onPin_eq_settled (q : Int) (e : Effect) (s : PinState) :
    e.onPin q s = settled q [e] s := by
  simp only [settled, latest_singleton]
  cases e with
  | declare pin direction => by_cases h : q = pin <;> simp [onPin, declared?, leveled?, driven?, h]
  | level pin on => by_cases h : q = pin <;> simp [onPin, declared?, leveled?, driven?, h]
  | drive pin pwm duty =>
      by_cases h : q = pin <;> simp [onPin, declared?, leveled?, driven?, PinState.drive, h]
  | _ => rfl

theorem onTimer_eq_latest (t : Timer) (e : Effect) (s : TimerState) :
    e.onTimer t s = (latest (timed? t) [e]).getD s := by
  rw [latest_singleton]
  cases e with
  | timer other state => by_cases h : t = other <;> simp [onTimer, timed?, h]
  | _ => rfl

@[simp] theorem settled_append (q : Int) (a b : List Effect) (s : PinState) :
    settled q (a ++ b) s = settled q b (settled q a s) := by
  simp [settled, Option.getD_or]

theorem settled_settled (q : Int) (es : List Effect) (s : PinState) :
    settled q es (settled q es s) = settled q es s := by
  rw [← settled_append]
  simp [settled, Option.or_self]

end Effect

namespace Machine

/-- The machine after a list of effects. -/
def afterAll (m : Machine) (es : List Effect) : Machine := es.foldl after m

theorem get?_afterAll (m : Machine) (es : List Effect) (q : Int) :
    (m.afterAll es).board.get? q = (m.board.get? q).map (Effect.settled q es) := by
  induction es generalizing m with
  | nil => exact Option.map_id'.symm
  | cons e es ih =>
      have h : (m.afterAll (e :: es)).board.get? q =
          ((m.after e).board.get? q).map (Effect.settled q es) := ih (m.after e)
      rw [h, get?_after, Option.map_map]
      congr 1
      funext s
      rw [Function.comp_apply, Effect.onPin_eq_settled, ← Effect.settled_append,
        List.singleton_append]

theorem timer_afterAll (m : Machine) (es : List Effect) (t : Timer) :
    (m.afterAll es).timer t = (latest (Effect.timed? t) es).getD (m.timer t) := by
  induction es generalizing m with
  | nil => rfl
  | cons e es ih =>
      have h : (m.afterAll (e :: es)).timer t =
          (latest (Effect.timed? t) es).getD ((m.after e).timer t) := ih (m.after e)
      rw [h, timer_after, Effect.onTimer_eq_latest, ← Option.getD_or, ← latest_append,
        List.singleton_append]

theorem direction?_afterAll (m : Machine) (es : List Effect) (q : Int) :
    (m.afterAll es).direction? q =
      (m.direction? q).map (latest (Effect.declared? q) es).getD := by
  simp only [direction?, get?_afterAll, Option.map_map]
  rfl

end Machine

end SketchGrader
