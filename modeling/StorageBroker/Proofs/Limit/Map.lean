import Mathlib.Data.List.Sort
import StorageBroker.Proofs.Limit.Value

/-! # The limits as one map

The store keeps the limits of an entity in a table of their own, and drops the table with its last
limit. It answers as one map from entities and classes to values does, over every history. -/

set_option autoImplicit false

namespace StorageBroker

/-! ## The order of a list of limits -/

def LimitClass.rank : LimitClass → Nat
  | .bandwidth => 0
  | .iops => 1

theorem LimitClass.rank_injective : Function.Injective LimitClass.rank := by
  intro a b same
  cases a <;> cases b <;> first | rfl | exact nomatch same

theorem LimitClass.mem_all (limitClass : LimitClass) : limitClass ∈ LimitClass.all := by
  cases limitClass <;> decide

/-- One limit is listed before another one on its entity. -/
def Limit.Before (a b : Limit) : Prop := a.limitClass.rank < b.limitClass.rank

instance : Std.Irrefl Limit.Before :=
  ⟨fun _ => Nat.lt_irrefl _⟩

instance : Std.Antisymm Limit.Before :=
  ⟨fun _ _ before after => absurd after (Nat.lt_asymm before)⟩

/-! ## Tables with the same values -/

namespace Table

variable {κ α : Type}

theorem nodup_rows (t : Table κ α) : t.rows.Nodup := t.nodup_keys.of_map

variable [DecidableEq κ]

theorem mem_rows_iff {t : Table κ α} {k : κ} {v : α} : (k, v) ∈ t.rows ↔ t.get? k = some v :=
  ⟨get?_of_mem_rows, mem_rows_of_get?⟩

theorem size_eq_of_get? {t u : Table κ α} (same : ∀ k, t.get? k = u.get? k) : t.size = u.size := by
  have perm : t.rows.Perm u.rows := by
    refine (List.perm_ext_iff_of_nodup t.nodup_rows u.nodup_rows).mpr fun row => ?_
    rw [mem_rows_iff, mem_rows_iff, same]
  exact perm.length_eq

end Table

/-! ## The map -/

/-- The limits as one map: the value of each entity and class. -/
abbrev LimitMap : Type := Table (LimitEntity × LimitClass) UInt64

namespace LimitMap

open LimitStore (Operation Answer)

def column (m : LimitMap) (entity : LimitEntity) : Table LimitClass UInt64 where
  rows := (m.rows.filter fun row => row.1.1 = entity).map fun row => (row.1.2, row.2)
  nodup_keys := by
    rw [List.map_map]
    refine List.Nodup.map_on ?_ (m.nodup_rows.filter _)
    intro a first b second same
    obtain ⟨first, mine⟩ := List.mem_filter.mp first
    obtain ⟨second, mine'⟩ := List.mem_filter.mp second
    refine List.inj_on_of_nodup_map m.nodup_keys first second (Prod.ext ?_ same)
    exact (of_decide_eq_true mine).trans (of_decide_eq_true mine').symm

/-- The entries of an entity, in the order of their classes. -/
def entries (m : LimitMap) (entity : LimitEntity) : List Limit :=
  ((m.column entity).rows.map fun row => ⟨entity, row.1, row.2⟩).mergeSort fun a b =>
    a.limitClass.rank ≤ b.limitClass.rank

def count (m : LimitMap) (entity : LimitEntity) : Nat := (m.column entity).size

def drop (m : LimitMap) (entity : LimitEntity) : LimitMap := m.filter fun key _ => key.1 ≠ entity

def apply (m : LimitMap) : Operation → Except LimitError Answer × LimitMap
  | .set limit =>
    (.ok (.previous (m.get? (limit.entity, limit.limitClass))),
      m.insert (limit.entity, limit.limitClass) limit.value)
  | .get scope entity =>
    (if entity.scope = scope then .ok (.limits (m.entries entity))
      else .error (.scopeMismatch scope entity), m)
  | .remove entity (some limitClass) =>
    if (m.get? (entity, limitClass)).isSome then (.ok (.count 1), m.erase (entity, limitClass))
    else (.error (.notFound entity), m)
  | .remove entity none =>
    if m.count entity = 0 then (.error (.notFound entity), m)
    else (.ok (.count (m.count entity)), m.drop entity)
  | .purgeJob job => (.ok (.count (m.count (.job job))), m.drop (.job job))
  | .countForJob job => (.ok (.count (m.count (.job job))), m)

variable {m : LimitMap} {entity other : LimitEntity} {limitClass : LimitClass}

theorem get?_column : (m.column entity).get? limitClass = m.get? (entity, limitClass) := by
  refine Option.ext fun value => ?_
  rw [← Table.mem_rows_iff, ← Table.mem_rows_iff]
  simp only [column, List.mem_map, List.mem_filter, decide_eq_true_eq, Prod.mk.injEq]
  constructor
  · rintro ⟨⟨⟨e, c⟩, v⟩, ⟨listed, rfl⟩, rfl, rfl⟩
    exact listed
  · intro listed
    exact ⟨_, ⟨listed, rfl⟩, rfl, rfl⟩

theorem get?_drop : (m.drop other).get? (entity, limitClass) =
    if entity = other then none else m.get? (entity, limitClass) := by
  rw [drop, Table.get?_filter]
  by_cases same : entity = other
  · cases m.get? (entity, limitClass) <;> simp [same]
  · cases m.get? (entity, limitClass) <;> simp [same]

theorem count_eq_zero :
    m.count entity = 0 ↔ ∀ limitClass, m.get? (entity, limitClass) = none := by
  simp only [count, Table.size_eq_zero, get?_column]

theorem length_entries : (m.entries entity).length = m.count entity := by
  rw [entries, List.length_mergeSort, List.length_map]
  rfl

theorem mem_entries {limit : Limit} : limit ∈ m.entries entity ↔
    limit.entity = entity ∧ m.get? (entity, limit.limitClass) = some limit.value := by
  obtain ⟨e, c, v⟩ := limit
  simp only [entries, List.mem_mergeSort, List.mem_map, Limit.mk.injEq]
  rw [← get?_column, ← Table.mem_rows_iff]
  constructor
  · rintro ⟨row, listed, rfl, rfl, rfl⟩
    exact ⟨rfl, listed⟩
  · rintro ⟨rfl, listed⟩
    exact ⟨_, listed, rfl, rfl, rfl⟩

/-- Each class is listed once, in the order of the classes. -/
theorem entries_pairwise (m : LimitMap) (entity : LimitEntity) :
    (m.entries entity).Pairwise Limit.Before := by
  have sorted : (m.entries entity).Pairwise
      fun a b => decide (a.limitClass.rank ≤ b.limitClass.rank) = true :=
    List.pairwise_mergeSort (by simp only [decide_eq_true_eq]; omega)
      (by simp only [Bool.or_eq_true, decide_eq_true_eq]; omega) _
  -- the classes are the keys of the column, and sorting only permutes them
  have apart : (m.entries entity).Pairwise fun a b => a.limitClass ≠ b.limitClass := by
    refine ((List.mergeSort_perm _ _).pairwise_iff fun apart => apart.symm).mpr ?_
    exact List.pairwise_map.mpr (List.pairwise_map.mp (m.column entity).nodup_keys)
  refine (sorted.and apart).imp ?_
  rintro a b ⟨earlier, apart⟩
  exact Nat.lt_of_le_of_ne (of_decide_eq_true earlier)
    fun tie => apart (LimitClass.rank_injective tie)

end LimitMap

namespace LimitStore

variable {s : LimitStore} {m : LimitMap}

/-! ## One operation on the store -/

def Occupied (s : LimitStore) : Prop :=
  ∀ entity row, s.rows.get? entity = some row → row.size ≠ 0

theorem Occupied.erase (full : s.Occupied) (entity : LimitEntity) :
    Occupied ⟨s.rows.erase entity⟩ := by
  intro other row found
  rw [Table.get?_erase] at found
  exact full other row (Option.ite_none_left_eq_some.mp found).2

theorem Occupied.insert (full : s.Occupied) (entity : LimitEntity)
    {row : Table LimitClass UInt64} (some_left : row.size ≠ 0) :
    Occupied ⟨s.rows.insert entity row⟩ := by
  intro other row' found
  rw [Table.get?_insert] at found
  by_cases here : other = entity
  · rw [if_pos here] at found
    obtain rfl := Option.some.inj found
    exact some_left
  · rw [if_neg here] at found
    exact full other row' found

/-- An operation leaves no row without limits: a row is made for a limit and goes with its last. -/
theorem apply_preserves_occupied (full : s.Occupied) (op : Operation) :
    (s.apply op).2.Occupied := by
  cases op with
  | get scope entity => exact full
  | countForJob job => exact full
  | purgeJob job => exact full.erase _
  | set limit =>
      -- the row that is written has the limit that is set
      refine full.insert _ fun bare => ?_
      have absent := Table.size_eq_zero.mp bare limit.limitClass
      rw [Table.get?_insert, if_pos rfl] at absent
      exact nomatch absent
  | remove entity named =>
      show (s.remove entity named).2.Occupied
      unfold LimitStore.remove
      cases row : s.rows.get? entity with
      | none => exact full
      | some values =>
          cases named with
          | none => exact full.erase _
          | some target =>
              by_cases present : values.contains target = true
              · by_cases bare : (values.erase target).size = 0
                · simpa only [if_pos present, if_pos bare] using full.erase entity
                · simpa only [if_pos present, if_neg bare] using full.insert entity bare
              · simpa only [if_neg present] using full

theorem remove_one_answer (s : LimitStore) (entity : LimitEntity) (target : LimitClass) :
    (s.remove entity (some target)).1 =
      if (s.value? entity target).isSome then .ok 1 else .error (.notFound entity) := by
  unfold LimitStore.remove
  cases row : s.rows.get? entity with
  | none =>
      rw [value?_of_no_row row]
      rfl
  | some values =>
      rw [value?_of_row row]
      by_cases present : values.contains target = true
      · simp only [if_pos present]
        exact (if_pos present).symm
      · simp only [if_neg present]
        exact (if_neg present).symm

theorem remove_all_answer (full : s.Occupied) (entity : LimitEntity) :
    (s.remove entity none).1 =
      if (s.classes entity).size = 0 then .error (.notFound entity)
      else .ok (s.classes entity).size := by
  unfold LimitStore.remove classes
  cases row : s.rows.get? entity with
  | none => rfl
  | some values => exact (if_neg (full entity values row)).symm

theorem apply_refused {op : Operation} {e : LimitError} (failed : (s.apply op).1 = .error e) :
    (s.apply op).2 = s := by
  cases op with
  | set limit => cases failed
  | get scope entity => rfl
  | purgeJob job => cases failed
  | countForJob job => rfl
  | remove entity named =>
      show (s.remove entity named).2 = s
      replace failed : (s.remove entity named).1.map Answer.count = .error e := failed
      unfold LimitStore.remove at failed ⊢
      cases row : s.rows.get? entity with
      | none => rfl
      | some values =>
          cases named with
          | none =>
              simp only [row] at failed
              cases failed
          | some target =>
              by_cases present : values.contains target = true
              · simp only [row, if_pos present] at failed
                cases failed
              · simp only [if_neg present]

def Operation.entity : Operation → LimitEntity
  | .set limit => limit.entity
  | .get _ entity => entity
  | .remove entity _ => entity
  | .purgeJob job => .job job
  | .countForJob job => .job job

theorem apply_elsewhere {op : Operation} {entity : LimitEntity} (apart : entity ≠ op.entity)
    (limitClass : LimitClass) :
    (s.apply op).2.value? entity limitClass = s.value? entity limitClass := by
  cases op with
  | set limit => exact (value?_set limit).trans (if_neg fun both => apart both.1)
  | get scope entity => rfl
  | purgeJob job => exact (value?_purgeJob job).trans (if_neg apart)
  | countForJob job => rfl
  | remove other named =>
      cases named with
      | none => exact value?_remove_all.trans (if_neg apart)
      | some target => exact (value?_remove_one target).trans (if_neg fun both => apart both.1)

/-! ## The store and the map -/

/-- The values of a store are those of a map, and no entity has a row without limits. -/
structure Refines (s : LimitStore) (m : LimitMap) : Prop where
  values : ∀ entity limitClass, s.value? entity limitClass = m.get? (entity, limitClass)
  occupied : s.Occupied

theorem refines_empty : Refines empty Table.empty :=
  ⟨fun _ _ => rfl, fun _ _ found => nomatch found⟩

section

variable (same : s.Refines m)
include same

theorem Refines.size_classes (entity : LimitEntity) : (s.classes entity).size = m.count entity :=
  Table.size_eq_of_get? fun limitClass => by
    rw [LimitMap.get?_column, ← same.values]
    rfl

theorem Refines.get (scope : LimitScope) (entity : LimitEntity) :
    s.get scope entity =
      if entity.scope = scope then .ok (m.entries entity)
      else .error (.scopeMismatch scope entity) := by
  unfold LimitStore.get
  congr 2
  -- both lists rise by class, so it is enough that they have the same members
  refine List.Pairwise.eq_of_mem_iff (r := Limit.Before) ?_ (m.entries_pairwise entity) ?_
  · rw [List.pairwise_filterMap]
    have rising : LimitClass.all.Pairwise fun a b => a.rank < b.rank := by decide
    refine rising.imp fun {a b} before first listed second listed' => ?_
    obtain ⟨_, _, rfl⟩ := Option.map_eq_some_iff.mp listed
    obtain ⟨_, _, rfl⟩ := Option.map_eq_some_iff.mp listed'
    exact before
  · rintro ⟨e, limitClass, value⟩
    rw [LimitMap.mem_entries, ← same.values, List.mem_filterMap]
    constructor
    · rintro ⟨c, _, listed⟩
      obtain ⟨v, found, equal⟩ := Option.map_eq_some_iff.mp listed
      obtain ⟨rfl, rfl, rfl⟩ := Limit.mk.inj equal
      exact ⟨rfl, found⟩
    · rintro ⟨rfl, found⟩
      exact ⟨limitClass, limitClass.mem_all, Option.map_eq_some_iff.mpr ⟨value, found, rfl⟩⟩

theorem Refines.answer (op : Operation) : (s.apply op).1 = (m.apply op).1 := by
  cases op with
  | set limit => rw [LimitMap.apply, ← same.values]; rfl
  | get scope entity =>
      show (s.get scope entity).map Answer.limits = _
      rw [same.get, LimitMap.apply]
      by_cases kind : entity.scope = scope
      · rw [if_pos kind, if_pos kind]
        rfl
      · rw [if_neg kind, if_neg kind]
        rfl
  | purgeJob job =>
      show Except.ok (Answer.count (s.classes (.job job)).size) = _
      rw [same.size_classes]
      rfl
  | countForJob job =>
      show Except.ok (Answer.count (s.classes (.job job)).size) = _
      rw [same.size_classes]
      rfl
  | remove entity named =>
      show (s.remove entity named).1.map Answer.count = _
      cases named with
      | none =>
          rw [remove_all_answer same.occupied, same.size_classes, LimitMap.apply]
          by_cases bare : m.count entity = 0
          · rw [if_pos bare, if_pos bare]
            rfl
          · rw [if_neg bare, if_neg bare]
            rfl
      | some target =>
          rw [remove_one_answer, same.values, LimitMap.apply]
          by_cases present : (m.get? (entity, target)).isSome = true
          · rw [if_pos present, if_pos present]
            rfl
          · rw [if_neg present, if_neg present]
            rfl

theorem Refines.follow (op : Operation) (entity : LimitEntity) (limitClass : LimitClass) :
    (s.apply op).2.value? entity limitClass = (m.apply op).2.get? (entity, limitClass) := by
  cases op with
  | get scope other => exact same.values entity limitClass
  | countForJob job => exact same.values entity limitClass
  | set limit =>
      show (s.set limit).2.value? entity limitClass = _
      simp only [value?_set, LimitMap.apply, Table.get?_insert, Prod.mk.injEq, same.values]
  | purgeJob job =>
      show (s.purgeJob job).2.value? entity limitClass = _
      rw [value?_purgeJob, same.values, LimitMap.apply, LimitMap.get?_drop]
  | remove other named =>
      show (s.remove other named).2.value? entity limitClass = _
      cases named with
      | none =>
          rw [value?_remove_all, same.values, LimitMap.apply]
          by_cases bare : m.count other = 0
          · -- there is nothing to drop
            rw [if_pos bare]
            by_cases here : entity = other
            · rw [if_pos here, here, LimitMap.count_eq_zero.mp bare]
            · rw [if_neg here]
          · rw [if_neg bare, LimitMap.get?_drop]
      | some target =>
          rw [value?_remove_one, same.values, LimitMap.apply]
          by_cases present : (m.get? (other, target)).isSome = true
          · simp only [if_pos present, Table.get?_erase, Prod.mk.injEq]
          · rw [if_neg present]
            by_cases here : entity = other ∧ limitClass = target
            · obtain ⟨rfl, rfl⟩ := here
              rw [if_pos ⟨rfl, rfl⟩]
              exact (Option.not_isSome_iff_eq_none.mp present).symm
            · rw [if_neg here]

theorem Refines.apply (op : Operation) : (s.apply op).2.Refines (m.apply op).2 :=
  ⟨same.follow op, apply_preserves_occupied same.occupied op⟩

end

/-! ## Histories -/

/-- What the operations of a history answer one after the other, and what they leave. -/
def outcomes {σ : Type} (apply : σ → Operation → Except LimitError Answer × σ) (s : σ) :
    List Operation → List (Except LimitError Answer) × σ
  | [] => ([], s)
  | op :: history =>
    let done := apply s op
    let later := outcomes apply done.2 history
    (done.1 :: later.1, later.2)

theorem outcomes_state (s : LimitStore) (history : List Operation) :
    (outcomes apply s history).2 = s.run history := by
  induction history generalizing s with
  | nil => rfl
  | cons op history ih => exact ih _

theorem Refines.run (same : s.Refines m) (history : List Operation) :
    (outcomes LimitStore.apply s history).1 = (outcomes LimitMap.apply m history).1 ∧
      (s.run history).Refines (outcomes LimitMap.apply m history).2 := by
  induction history generalizing s m with
  | nil => exact ⟨rfl, same⟩
  | cons op history ih =>
      obtain ⟨answers, kept⟩ := ih (same.apply op)
      exact ⟨congrArg₂ List.cons (same.answer op) answers, kept⟩

/-- Over every history from an empty store, the answers are those of one map from entities and
classes to values, and the store then holds the values of that map. The map lists exactly the
entries of an entity, one for each class and in the order of the classes, and counts them. An
operation leaves the limits of other entities as they are, and one that is refused leaves
everything. -/
theorem answers_as_one_map (history : List Operation) :
    let m := (outcomes LimitMap.apply Table.empty history).2
    (outcomes LimitStore.apply empty history).1 =
      (outcomes LimitMap.apply Table.empty history).1 ∧
    (outcomes LimitStore.apply empty history).2 = empty.run history ∧
    (∀ entity limitClass,
      (empty.run history).value? entity limitClass = m.get? (entity, limitClass)) ∧
    (∀ entity, (m.entries entity).Pairwise Limit.Before ∧
      (m.entries entity).length = m.count entity ∧
      ∀ limit, limit ∈ m.entries entity ↔
        limit.entity = entity ∧ m.get? (entity, limit.limitClass) = some limit.value) ∧
    (∀ (s : LimitStore) (op : Operation) entity limitClass, entity ≠ op.entity →
      (s.apply op).2.value? entity limitClass = s.value? entity limitClass) ∧
    ∀ (s : LimitStore) (op : Operation) e, (s.apply op).1 = .error e → (s.apply op).2 = s := by
  intro m
  obtain ⟨answers, kept⟩ := refines_empty.run history
  refine ⟨answers, outcomes_state empty history, kept.values, fun entity => ?_, ?_, ?_⟩
  · exact ⟨m.entries_pairwise entity, LimitMap.length_entries, fun limit => LimitMap.mem_entries⟩
  · exact fun s op entity limitClass apart => apply_elsewhere apart limitClass
  · exact fun s op e failed => apply_refused failed

-- the row of an entity goes with its last limit, so that nothing is found afterwards
example : (outcomes LimitStore.apply empty [.set ⟨.node "n01", .iops, 5⟩,
    .remove (.node "n01") (some .iops), .remove (.node "n01") none]).1 =
      [.ok (.previous none), .ok (.count 1), .error (.notFound (.node "n01"))] := by decide

end LimitStore

end StorageBroker
