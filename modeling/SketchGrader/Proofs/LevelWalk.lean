import Mathlib.Data.List.Nodup
import Mathlib.Data.List.Sort
import SketchGrader.Level.Book

/-!
# Walking through the level book

The next level and the one before are found in the ascending list of numbers, from the first place
where a number stands. The level before is always the one with the greatest smaller number. The next
level is the one with the least greater number, unless the number itself stands twice: then it is
its own next. So going on from the smallest number leads through all levels, and back the same way,
exactly if no two levels have the same number; otherwise it stays at the smallest number that is
repeated.
-/

namespace SketchGrader.LevelBook

/-- Two numbers of a list, the smaller first, with none of the list in between. -/
structure Adjacent (ids : List Int) (x y : Int) : Prop where
  left : x ∈ ids
  right : y ∈ ids
  lt : x < y
  gap : ∀ z ∈ ids, z ≤ x ∨ y ≤ z

/-! ## Ascending lists -/

section
variable {ids : List Int} {a b x y : Int}

theorem not_adjacent_singleton : ¬ Adjacent [a] x y := by
  intro near
  have hx := List.mem_singleton.mp near.left
  have hy := List.mem_singleton.mp near.right
  have := near.lt
  omega

/-- A least number in front makes no difference to the others. -/
theorem adjacent_cons_iff (least : ∀ z ∈ ids, a ≤ z) (hx : x ∈ ids) :
    Adjacent (a :: ids) x y ↔ Adjacent ids x y := by
  have hax := least x hx
  constructor
  · intro h
    have hy : y ∈ ids := by
      obtain rfl | hy := List.mem_cons.mp h.right
      · have := h.lt
        omega
      · exact hy
    exact ⟨hx, hy, h.lt, fun z hz => h.gap z (List.mem_cons_of_mem a hz)⟩
  · intro h
    refine ⟨List.mem_cons_of_mem a hx, List.mem_cons_of_mem a h.right, h.lt, ?_⟩
    intro z hz
    obtain rfl | hz := List.mem_cons.mp hz
    · exact .inl hax
    · exact h.gap z hz

theorem adjacent_head_iff (least : ∀ z ∈ ids, b ≤ z) (hab : a < b) :
    Adjacent (a :: b :: ids) a y ↔ y = b := by
  have above : ∀ z ∈ b :: ids, b ≤ z := List.forall_mem_cons.mpr ⟨Int.le_refl b, least⟩
  constructor
  · intro h
    have lt := h.lt
    have hy : y ∈ b :: ids := by
      obtain rfl | hy := List.mem_cons.mp h.right
      · omega
      · exact hy
    have low := above y hy
    obtain hb | high := h.gap b (by simp) <;> omega
  · rintro rfl
    refine ⟨List.mem_cons_self, by simp, hab, ?_⟩
    intro z hz
    obtain rfl | hz := List.mem_cons.mp hz
    · exact .inl (Int.le_refl z)
    · exact .inr (above z hz)

theorem follower?_eq_some_iff (sorted : ids.Pairwise (· ≤ ·)) :
    follower? x ids = some y ↔
      (2 ≤ ids.count x ∧ y = x) ∨ (ids.count x = 1 ∧ Adjacent ids x y) := by
  induction ids with
  | nil => simp [follower?]
  | cons a rest ih =>
      cases rest with
      | nil =>
          have few : [a].count x ≤ 1 := List.count_le_length
          constructor
          · intro h
            cases h
          · rintro (⟨many, -⟩ | ⟨-, near⟩)
            · omega
            · exact absurd near not_adjacent_singleton
      | cons b rest =>
          obtain ⟨least, sorted'⟩ := List.pairwise_cons.mp sorted
          have hab : a ≤ b := least b List.mem_cons_self
          rw [follower?]
          split_ifs with hax
          · subst hax
            rw [Option.some.injEq, List.count_cons_self]
            by_cases hb : b = a
            · -- The number stands twice and follows itself.
              subst hb
              rw [List.count_cons_self]
              constructor
              · intro h
                exact .inl ⟨by omega, h.symm⟩
              · rintro (⟨-, h⟩ | ⟨once, -⟩)
                · exact h.symm
                · omega
            · have hab : a < b := by omega
              have least' := (List.pairwise_cons.mp sorted').1
              have absent : a ∉ b :: rest := by
                intro ha
                obtain rfl | ha := List.mem_cons.mp ha
                · exact hb rfl
                · have := least' a ha
                  omega
              rw [List.count_eq_zero_of_not_mem absent, adjacent_head_iff least' hab]
              constructor
              · intro h
                exact .inr ⟨rfl, h.symm⟩
              · rintro (⟨many, -⟩ | ⟨-, h⟩)
                · omega
                · exact h.symm
          · rw [ih sorted', List.count_cons_of_ne hax]
            refine or_congr_right (and_congr_right fun once => ?_)
            have hx : x ∈ b :: rest := List.count_pos_iff.mp (by omega)
            exact (adjacent_cons_iff least hx).symm

theorem predecessor?_eq_some_iff (sorted : ids.Pairwise (· ≤ ·)) :
    predecessor? y ids = some x ↔ Adjacent ids x y := by
  induction ids with
  | nil =>
      constructor
      · intro h
        cases h
      · intro h
        cases h.left
  | cons a rest ih =>
      cases rest with
      | nil =>
          constructor
          · intro h
            cases h
          · intro near
            exact absurd near not_adjacent_singleton
      | cons b rest =>
          obtain ⟨least, sorted'⟩ := List.pairwise_cons.mp sorted
          obtain ⟨least', -⟩ := List.pairwise_cons.mp sorted'
          have hab : a ≤ b := least b List.mem_cons_self
          rw [predecessor?]
          split_ifs with hay hby
          · constructor
            · intro h
              cases h
            · intro near
              have lt := near.lt
              obtain rfl | hx := List.mem_cons.mp near.left
              · omega
              · have := least x hx
                omega
          · subst hby
            have hab : a < b := by omega
            rw [Option.some.injEq]
            constructor
            · rintro rfl
              exact (adjacent_head_iff least' hab).mpr rfl
            · intro near
              have lt := near.lt
              obtain rfl | hx := List.mem_cons.mp near.left
              · rfl
              · obtain rfl | hx := List.mem_cons.mp hx
                · omega
                · have := least' x hx
                  omega
          · rw [ih sorted']
            constructor
            · intro near
              exact (adjacent_cons_iff least near.left).mpr near
            · intro near
              have hx : x ∈ b :: rest := by
                obtain rfl | hx := List.mem_cons.mp near.left
                · have hy : y ∈ b :: rest :=
                    (List.mem_cons.mp near.right).resolve_left (Ne.symm hay)
                  have low : b ≤ y := List.forall_mem_cons.mpr ⟨Int.le_refl b, least'⟩ y hy
                  obtain high | high := near.gap b (by simp)
                  · have same : b = x := by omega
                    exact same ▸ List.mem_cons_self
                  · exact absurd (Int.le_antisymm low high) hby
                · exact hx
              exact (adjacent_cons_iff least hx).mp near

/-- From the first place of a number the next place follows. -/
theorem follower?_of_first {k : Nat} (hk : ids[k]? = some x) (first : x ∉ ids.take k) :
    follower? x ids = ids[k + 1]? := by
  induction ids generalizing k with
  | nil => cases hk
  | cons a rest ih =>
      cases k with
      | zero =>
          cases hk
          cases rest with
          | nil => rfl
          | cons b rest => simp [follower?]
      | succ k =>
          rw [List.take_succ_cons, List.mem_cons, not_or] at first
          cases rest with
          | nil => cases hk
          | cons b rest =>
              rw [follower?, if_neg (Ne.symm first.1), ih hk first.2]
              rfl

theorem notMem_take {k : Nat} (hk : ids[k]? = some x) (once : ids.count x ≤ 1) :
    x ∉ ids.take k := by
  intro before
  have split : ids.count x = (ids.take k).count x + (ids.drop k).count x := by
    rw [← List.count_append, List.take_append_drop]
  have behind : x ∈ ids.drop k := by
    apply List.mem_of_mem_head?
    rw [List.head?_drop, hk]
    rfl
  have := List.count_pos_iff.mpr before
  have := List.count_pos_iff.mpr behind
  omega

end

/-! ## The book -/

/-- The numbers of some levels. -/
def numbers (levels : List Level) : List Int := levels.map (·.id)

theorem numbers_perm (levels : List Level) :
    (numbers (ofLevels levels).levels).Perm (numbers levels) :=
  (List.mergeSort_perm levels _).map _

theorem sorted_numbers (levels : List Level) :
    (numbers (ofLevels levels).levels).Pairwise (· ≤ ·) := by
  apply List.pairwise_map.mpr
  exact List.pairwise_mergeSort' (Order.Preimage Level.id (· ≤ ·)) levels

section
variable {levels : List Level} {x y : Int}

theorem adjacent_perm {ids ids' : List Int} (h : ids.Perm ids') :
    Adjacent ids x y ↔ Adjacent ids' x y := by
  constructor
  · intro near
    exact ⟨h.mem_iff.mp near.left, h.mem_iff.mp near.right, near.lt,
      fun z hz => near.gap z (h.mem_iff.mpr hz)⟩
  · intro near
    exact ⟨h.mem_iff.mpr near.left, h.mem_iff.mpr near.right, near.lt,
      fun z hz => near.gap z (h.mem_iff.mp hz)⟩

/-- A number that stands once is followed by the least greater one, and one that stands more often
by itself. -/
theorem next?_eq_some_iff :
    (ofLevels levels).next? x = some y ↔
      (2 ≤ (numbers levels).count x ∧ y = x) ∨
        ((numbers levels).count x = 1 ∧ Adjacent (numbers levels) x y) := by
  have h := numbers_perm levels
  rw [← h.count_eq, ← adjacent_perm h]
  exact follower?_eq_some_iff (sorted_numbers levels)

/-- In front of a number stands the greatest smaller one. -/
theorem previous?_eq_some_iff :
    (ofLevels levels).previous? y = some x ↔ Adjacent (numbers levels) x y := by
  rw [← adjacent_perm (numbers_perm levels)]
  exact predecessor?_eq_some_iff (sorted_numbers levels)

end

/-- The numbers that are met from the smallest one on by going to the next level. -/
def walk (b : LevelBook) : Nat → Option Int
  | 0 => (numbers b.levels).min?
  | k + 1 => (b.walk k).bind b.next?

section
variable {b : LevelBook} (sorted : (numbers b.levels).Pairwise (· ≤ ·))
include sorted

theorem walk_zero : b.walk 0 = (numbers b.levels)[0]? := by
  rw [walk]
  cases hids : numbers b.levels with
  | nil => rfl
  | cons first rest =>
      rw [hids, List.pairwise_cons] at sorted
      rw [List.getElem?_cons_zero, List.min?_eq_some_iff]
      exact ⟨List.mem_cons_self, List.forall_mem_cons.mpr ⟨Int.le_refl first, sorted.1⟩⟩

/-- The walk goes along the list as long as no number has been met before. -/
theorem walk_eq_getElem? {k : Nat}
    (fresh : ∀ j < k, ∀ x, (numbers b.levels)[j]? = some x → x ∉ (numbers b.levels).take j) :
    b.walk k = (numbers b.levels)[k]? := by
  induction k with
  | zero => exact walk_zero sorted
  | succ k ih =>
      rw [walk, ih fun j hj => fresh j (by omega)]
      cases hk : (numbers b.levels)[k]? with
      | none =>
          have beyond := List.getElem?_eq_none_iff.mp hk
          exact (List.getElem?_eq_none_iff.mpr (by omega)).symm
      | some x =>
          exact follower?_of_first hk (fresh k (by omega) x hk)

end

/-! ## Walks -/

/-- From the smallest number the walk meets every number once, in ascending order, and ends. -/
def WalksThrough (levels : List Level) : Prop :=
  ∃ visited : List Int, visited.Pairwise (· < ·) ∧ (∀ id, id ∈ visited ↔ id ∈ numbers levels) ∧
    ∀ k, (ofLevels levels).walk k = visited[k]?

section
variable {levels : List Level}

theorem next?_of_repeated {x : Int} (repeated : 2 ≤ (numbers levels).count x) :
    (ofLevels levels).next? x = some x :=
  next?_eq_some_iff.mpr (.inl ⟨repeated, rfl⟩)

theorem walksThrough_of_nodup (distinct : (numbers levels).Nodup) : WalksThrough levels := by
  have perm := numbers_perm levels
  have nodup : (numbers (ofLevels levels).levels).Nodup := perm.nodup_iff.mpr distinct
  refine ⟨numbers (ofLevels levels).levels, ?_, fun id => perm.mem_iff, ?_⟩
  · apply (sorted_numbers levels).imp₂ _ nodup
    intro a b le ne
    omega
  · intro k
    apply walk_eq_getElem? (sorted_numbers levels)
    intro j _ x hj
    exact notMem_take hj (List.nodup_iff_count_le_one.mp nodup x)

/-- A number that stands twice is met again and again. -/
theorem nodup_of_walksThrough (h : WalksThrough levels) : (numbers levels).Nodup := by
  obtain ⟨visited, ascending, met, walks⟩ := h
  rw [List.nodup_iff_count_le_one]
  intro x
  by_contra many
  have repeated : 2 ≤ (numbers levels).count x := by omega
  obtain ⟨k, hk⟩ := List.mem_iff_getElem?.mp
    ((met x).mpr (List.count_pos_iff.mp (Nat.lt_of_lt_of_le Nat.zero_lt_two repeated)))
  have again : visited[k + 1]? = some x := by
    rw [← walks (k + 1), walk, walks k, hk, Option.bind_some, next?_of_repeated repeated]
  obtain ⟨hi, hx⟩ := List.getElem?_eq_some_iff.mp hk
  obtain ⟨hj, hx'⟩ := List.getElem?_eq_some_iff.mp again
  have lt := List.pairwise_iff_getElem.mp ascending k (k + 1) hi hj (by omega)
  omega

theorem inverse_iff_nodup :
    (∀ x y, (ofLevels levels).next? x = some y ↔ (ofLevels levels).previous? y = some x) ↔
      (numbers levels).Nodup := by
  simp only [next?_eq_some_iff, previous?_eq_some_iff, List.nodup_iff_count_le_one]
  constructor
  · intro inverse x
    by_contra many
    exact Int.lt_irrefl x ((inverse x x).mp (.inl ⟨by omega, rfl⟩)).lt
  · intro distinct x y
    have once := distinct x
    constructor
    · rintro (⟨many, -⟩ | ⟨-, near⟩)
      · omega
      · exact near
    · intro near
      have := List.count_pos_iff.mpr near.left
      exact .inr ⟨by omega, near⟩

/-- The walk comes to the smallest number that stands twice, and stays there. -/
theorem walk_stays {x : Int} (repeated : 2 ≤ (numbers levels).count x)
    (smallest : ∀ y, 2 ≤ (numbers levels).count y → x ≤ y) :
    ∃ n, ∀ k, n ≤ k → (ofLevels levels).walk k = some x := by
  have perm := numbers_perm levels
  have sorted := sorted_numbers levels
  have mem : x ∈ numbers (ofLevels levels).levels := by
    rw [← List.count_pos_iff, perm.count_eq]
    omega
  obtain ⟨front, back, hids, first⟩ := List.eq_append_cons_of_mem mem
  have below : ∀ y ∈ front, y < x := by
    intro y hy
    have le : y ≤ x := by
      rw [hids, List.pairwise_append] at sorted
      exact sorted.2.2 y hy x List.mem_cons_self
    have ne : y ≠ x := fun h => first (h ▸ hy)
    omega
  have reached : (ofLevels levels).walk front.length = some x := by
    rw [walk_eq_getElem? sorted]
    · rw [hids]
      simp
    · intro j hj y hy
      have hy' : y ∈ front := by
        rw [hids, List.getElem?_append_left hj] at hy
        exact List.mem_of_getElem? hy
      apply notMem_take hy
      rw [perm.count_eq]
      by_contra many
      have := smallest y (by omega)
      have := below y hy'
      omega
  refine ⟨front.length, fun k hk => ?_⟩
  induction hk with
  | refl => exact reached
  | step _ ih => rw [walk, ih, Option.bind_some, next?_of_repeated repeated]

end

/-- Going on from the smallest number meets every level once, in ascending order, and ends, exactly
if no two levels have the same number. Under the same condition, and only under this one, going to
the next level and going back undo each other. Otherwise the walk comes to the smallest number that
is repeated and stays there. -/
theorem walk_visits_levels_iff_distinct (levels : List Level) :
    (WalksThrough levels ↔ (numbers levels).Nodup) ∧
      ((∀ x y, (ofLevels levels).next? x = some y ↔ (ofLevels levels).previous? y = some x) ↔
        (numbers levels).Nodup) ∧
      ∀ x, 2 ≤ (numbers levels).count x →
        (∀ y, 2 ≤ (numbers levels).count y → x ≤ y) →
        ∃ n, ∀ k, n ≤ k → (ofLevels levels).walk k = some x := by
  refine ⟨⟨nodup_of_walksThrough, walksThrough_of_nodup⟩, inverse_iff_nodup, ?_⟩
  intro x repeated smallest
  exact walk_stays repeated smallest

/-- A level with the given number. -/
def blank (id : Int) : Level := { id, name := "", targetCode := "" }

/-- Three levels with different numbers are walked through; if two have the same number, the walk
does not come past it. -/
theorem walk_visits_levels_iff_distinct_three :
    WalksThrough [blank 3, blank 1, blank 2] ∧
      (∃ n, ∀ k, n ≤ k → (ofLevels [blank 2, blank 1, blank 1]).walk k = some 1) := by
  obtain ⟨walks, -, -⟩ := walk_visits_levels_iff_distinct [blank 3, blank 1, blank 2]
  obtain ⟨-, -, stays⟩ := walk_visits_levels_iff_distinct [blank 2, blank 1, blank 1]
  refine ⟨walks.mpr (by decide), stays 1 (by decide) ?_⟩
  intro y repeated
  by_contra below
  have absent : y ∉ numbers [blank 2, blank 1, blank 1] := by
    intro mem
    have least : ∀ z ∈ numbers [blank 2, blank 1, blank 1], 1 ≤ z := by decide
    exact below (least y mem)
  rw [List.count_eq_zero_of_not_mem absent] at repeated
  cases repeated

/-- Two levels may have the same number, and then the next level of this number is itself, so that
the walk does not come to an end and does not lead back. -/
theorem repeated_number_is_its_own_next :
    ¬ ∀ levels : List Level, WalksThrough levels ∧
      ∀ x y, (ofLevels levels).next? x = some y ↔ (ofLevels levels).previous? y = some x := by
  intro claim
  obtain ⟨-, inverse⟩ := claim [blank 1, blank 1, blank 2]
  have next : (ofLevels [blank 1, blank 1, blank 2]).next? 1 = some 1 :=
    next?_of_repeated (by decide)
  exact Int.lt_irrefl 1 (previous?_eq_some_iff.mp ((inverse 1 1).mp next)).lt

end SketchGrader.LevelBook
