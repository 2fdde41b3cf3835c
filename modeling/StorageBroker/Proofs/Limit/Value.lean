import StorageBroker.Limit.Store

/-! # The limits of an entity

The store is seen through the value of each limit. One lemma for each operation says what the
operation does to these values. -/

set_option autoImplicit false

namespace StorageBroker

namespace LimitStore

def value? (s : LimitStore) (entity : LimitEntity) (limitClass : LimitClass) : Option UInt64 :=
  (s.classes entity).get? limitClass

variable {s : LimitStore} {entity other : LimitEntity} {limitClass : LimitClass}

theorem value?_empty : LimitStore.empty.value? entity limitClass = none := rfl

theorem countForJob_eq_zero {job : JobId} :
    s.countForJob job = 0 ↔ ∀ limitClass, s.value? (.job job) limitClass = none :=
  Table.size_eq_zero

theorem value?_insert (rows : Table LimitEntity (Table LimitClass UInt64))
    (values : Table LimitClass UInt64) :
    value? ⟨rows.insert other values⟩ entity limitClass =
      if entity = other then values.get? limitClass else value? ⟨rows⟩ entity limitClass := by
  simp only [value?, classes, Table.get?_insert]
  by_cases same : entity = other
  · rw [if_pos same, if_pos same]
    rfl
  · rw [if_neg same, if_neg same]

theorem value?_erase (rows : Table LimitEntity (Table LimitClass UInt64)) :
    value? ⟨rows.erase other⟩ entity limitClass =
      if entity = other then none else value? ⟨rows⟩ entity limitClass := by
  simp only [value?, classes, Table.get?_erase]
  by_cases same : entity = other
  · rw [if_pos same, if_pos same]
    rfl
  · rw [if_neg same, if_neg same]

theorem value?_set (limit : Limit) : (s.set limit).2.value? entity limitClass =
    if entity = limit.entity ∧ limitClass = limit.limitClass then some limit.value
    else s.value? entity limitClass := by
  simp only [set, value?_insert, Table.get?_insert]
  by_cases same : entity = limit.entity
  · subst same
    rw [if_pos rfl]
    simp [value?]
  · rw [if_neg same, if_neg fun both => same both.1]

theorem value?_purgeJob (job : JobId) : (s.purgeJob job).2.value? entity limitClass =
    if entity = .job job then none else s.value? entity limitClass :=
  value?_erase s.rows

theorem value?_of_row {values : Table LimitClass UInt64}
    (row : s.rows.get? entity = some values) :
    s.value? entity limitClass = values.get? limitClass := by
  rw [value?, classes, row]
  rfl

theorem value?_of_no_row (row : s.rows.get? entity = none) :
    s.value? entity limitClass = none := by
  rw [value?, classes, row]
  rfl

/-- Whether a row is written back or dropped for having no class left, its values are those. -/
theorem value?_writeBack (rows : Table LimitEntity (Table LimitClass UInt64))
    (rest : Table LimitClass UInt64) :
    value? ⟨if rest.size = 0 then rows.erase other else rows.insert other rest⟩ entity limitClass =
      if entity = other then rest.get? limitClass else value? ⟨rows⟩ entity limitClass := by
  by_cases bare : rest.size = 0
  · rw [if_pos bare, value?_erase, Table.size_eq_zero.mp bare]
  · rw [if_neg bare, value?_insert]

theorem value?_remove_all : (s.remove other none).2.value? entity limitClass =
    if entity = other then none else s.value? entity limitClass := by
  unfold remove
  cases row : s.rows.get? other with
  | none =>
      by_cases same : entity = other
      · subst same
        rw [if_pos rfl]
        exact value?_of_no_row row
      · rw [if_neg same]
  | some values => exact value?_erase s.rows

theorem value?_remove_one (target : LimitClass) :
    (s.remove other (some target)).2.value? entity limitClass =
      if entity = other ∧ limitClass = target then none else s.value? entity limitClass := by
  by_cases same : entity = other ∧ limitClass = target
  · obtain ⟨rfl, rfl⟩ := same
    rw [if_pos ⟨rfl, rfl⟩]
    unfold remove
    cases row : s.rows.get? entity with
    | none => exact value?_of_no_row row
    | some values =>
        by_cases present : values.contains limitClass = true
        · simp only [if_pos present, value?_writeBack, Table.get?_erase, if_true]
        · simp only [if_neg present, value?_of_row row]
          simpa [Table.contains] using present
  · rw [if_neg same]
    unfold remove
    cases row : s.rows.get? other with
    | none => rfl
    | some values =>
        by_cases present : values.contains target = true
        · simp only [if_pos present, value?_writeBack, Table.get?_erase]
          by_cases here : entity = other
          · subst here
            rw [if_pos rfl, if_neg fun target => same ⟨rfl, target⟩, value?_of_row row]
          · rw [if_neg here]
        · simp only [if_neg present]

/-- A removal adds nothing. -/
theorem value?_of_remove {named : Option LimitClass} {value : UInt64}
    (left : (s.remove other named).2.value? entity limitClass = some value) :
    s.value? entity limitClass = some value := by
  cases named with
  | none =>
      rw [value?_remove_all] at left
      exact (Option.ite_none_left_eq_some.mp left).2
  | some target =>
      rw [value?_remove_one] at left
      exact (Option.ite_none_left_eq_some.mp left).2

end LimitStore

end StorageBroker
