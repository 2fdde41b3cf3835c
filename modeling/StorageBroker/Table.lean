/-! # Keyed tables

A `Table κ α` is a finite map that remembers the order in which its keys were first written.
It is seen through `get?`; one lemma per operation says what the operation does to that view. -/

set_option autoImplicit false

namespace StorageBroker

/-- Rows in the order in which their keys were first written, each key once. -/
@[ext]
structure Table (κ α : Type) where
  rows : List (κ × α)
  nodup_keys : (rows.map Prod.fst).Nodup

namespace Table

variable {κ α β : Type}

def keys (t : Table κ α) : List κ := t.rows.map Prod.fst

def values (t : Table κ α) : List α := t.rows.map Prod.snd

def size (t : Table κ α) : Nat := t.rows.length

def empty : Table κ α := ⟨[], by simp⟩

instance : EmptyCollection (Table κ α) := ⟨empty⟩

instance : Inhabited (Table κ α) := ⟨empty⟩

instance [DecidableEq κ] [DecidableEq α] : DecidableEq (Table κ α) := fun t u =>
  decidable_of_iff (t.rows = u.rows) ⟨Table.ext, fun h => h ▸ rfl⟩

/-- Changes every value; keys stay. -/
def mapValues (f : κ → α → β) (t : Table κ α) : Table κ β :=
  ⟨t.rows.map fun row => (row.1, f row.1 row.2), by simpa [Function.comp_def] using t.nodup_keys⟩

def filter (p : κ → α → Bool) (t : Table κ α) : Table κ α :=
  ⟨t.rows.filter fun row => p row.1 row.2,
    List.Sublist.nodup (List.Sublist.map _ List.filter_sublist) t.nodup_keys⟩

variable [DecidableEq κ]

def find (k : κ) : List (κ × α) → Option α
  | [] => none
  | row :: rest => if row.1 = k then some row.2 else find k rest

def get? (t : Table κ α) (k : κ) : Option α := find k t.rows

def contains (t : Table κ α) (k : κ) : Bool := (t.get? k).isSome

def erase (t : Table κ α) (k : κ) : Table κ α := t.filter fun key _ => key ≠ k

/-- Writes one value among rows: in place if the key has a row, else at the end. -/
def put (k : κ) (v : α) : List (κ × α) → List (κ × α)
  | [] => [(k, v)]
  | row :: rest => if row.1 = k then (k, v) :: rest else row :: put k v rest

theorem mem_map_fst_put {k x : κ} {v : α} {rows : List (κ × α)} :
    x ∈ (put k v rows).map Prod.fst ↔ x = k ∨ x ∈ rows.map Prod.fst := by
  induction rows with
  | nil => simp [put]
  | cons row rest ih => by_cases h : row.1 = k <;> grind [put]

theorem nodup_put {k : κ} {v : α} {rows : List (κ × α)} (h : (rows.map Prod.fst).Nodup) :
    ((put k v rows).map Prod.fst).Nodup := by
  induction rows with
  | nil => simp [put]
  | cons row rest ih =>
    simp only [List.map_cons, List.nodup_cons] at h
    by_cases hk : row.1 = k
    · subst hk
      rw [put, if_pos rfl, List.map_cons, List.nodup_cons]
      exact h
    · rw [put, if_neg hk, List.map_cons, List.nodup_cons, mem_map_fst_put, not_or]
      exact ⟨⟨hk, h.1⟩, ih h.2⟩

/-- Writes a value: in place if the key has a row, else in a new row at the end. -/
def insert (t : Table κ α) (k : κ) (v : α) : Table κ α := ⟨put k v t.rows, nodup_put t.nodup_keys⟩

@[simp]
theorem get?_empty (k : κ) : (empty : Table κ α).get? k = none := rfl

theorem find_put (k x : κ) (v : α) (rows : List (κ × α)) :
    find x (put k v rows) = if x = k then some v else find x rows := by
  induction rows with
  | nil => grind [put, find]
  | cons row rest ih => grind [put, find]

@[simp, grind =]
theorem get?_insert (t : Table κ α) (k x : κ) (v : α) :
    (t.insert k v).get? x = if x = k then some v else t.get? x :=
  find_put k x v t.rows

/-- Of two values written under one key the later one stays. -/
theorem put_put (k : κ) (v w : α) (rows : List (κ × α)) :
    put k v (put k w rows) = put k v rows := by
  induction rows with
  | nil => simp [put]
  | cons row rest ih => grind [put]

/-- Writing the value of a row again changes nothing. -/
theorem put_of_find {k : κ} {v : α} {rows : List (κ × α)} (found : find k rows = some v) :
    put k v rows = rows := by
  induction rows with
  | nil => simp [find] at found
  | cons row rest ih => grind [put, find]

theorem filter_put (k : κ) (v : α) (rows : List (κ × α)) :
    ((put k v rows).filter fun row => row.1 ≠ k) = rows.filter fun row => row.1 ≠ k := by
  induction rows with
  | nil => simp [put]
  | cons row rest ih => grind [put]

theorem insert_insert (t : Table κ α) (k : κ) (v w : α) :
    (t.insert k w).insert k v = t.insert k v :=
  Table.ext (put_put k v w t.rows)

theorem insert_insert_cancel {t : Table κ α} {k : κ} {v : α} (w : α) (found : t.get? k = some v) :
    (t.insert k w).insert k v = t := by
  rw [insert_insert]
  exact Table.ext (put_of_find found)

theorem erase_insert (t : Table κ α) (k : κ) (v : α) : (t.insert k v).erase k = t.erase k :=
  Table.ext (filter_put k v t.rows)

theorem find_eq_none {k : κ} {rows : List (κ × α)} :
    find k rows = none ↔ k ∉ rows.map Prod.fst := by
  induction rows with
  | nil => simp [find]
  | cons row rest ih => grind [find]

theorem erase_of_absent {t : Table κ α} {k : κ} (absent : t.get? k = none) : t.erase k = t := by
  refine Table.ext (List.filter_eq_self.mpr fun row listed => ?_)
  have apart : row.1 ≠ k := fun same =>
    find_eq_none.mp absent (same ▸ List.mem_map_of_mem listed)
  exact decide_eq_true apart

/-- Among rows with different keys, writing over a value changes that value alone. -/
theorem put_eq_map {k : κ} {v : α} (w : α) {rows : List (κ × α)} (found : find k rows = some v)
    (nodup : (rows.map Prod.fst).Nodup) :
    put k w rows = rows.map fun row => (row.1, if row.1 = k then w else row.2) := by
  induction rows with
  | nil => simp [find] at found
  | cons row rest ih =>
      rw [List.map_cons, List.nodup_cons] at nodup
      by_cases same : row.1 = k
      · subst same
        have others : (rest.map fun other => (other.1, if other.1 = row.1 then w else other.2)) =
            rest := by
          refine (List.map_congr_left fun other listed => ?_).trans (List.map_id rest)
          have apart : other.1 ≠ row.1 := fun same =>
            nodup.1 (same ▸ List.mem_map_of_mem listed)
          rw [if_neg apart]
          rfl
        rw [put, if_pos rfl, List.map_cons, others, if_pos rfl]
      · rw [find, if_neg same] at found
        rw [put, if_neg same, List.map_cons, if_neg same, ih found nodup.2]

theorem insert_eq_mapValues {t : Table κ α} {k : κ} {v : α} (w : α) (found : t.get? k = some v) :
    t.insert k w = t.mapValues fun x u => if x = k then w else u :=
  Table.ext (put_eq_map w found t.nodup_keys)

theorem find_filter (p : κ → α → Bool) (k : κ) {rows : List (κ × α)}
    (h : (rows.map Prod.fst).Nodup) :
    find k (rows.filter fun row => p row.1 row.2) = (find k rows).filter (p k) := by
  induction rows with
  | nil => rfl
  | cons row rest ih =>
    simp only [List.map_cons, List.nodup_cons] at h
    have absent : row.1 = k → find k rest = none := fun e => find_eq_none.2 (e ▸ h.1)
    grind [find, Option.filter]

@[simp, grind =]
theorem get?_filter (t : Table κ α) (p : κ → α → Bool) (k : κ) :
    (t.filter p).get? k = (t.get? k).filter (p k) :=
  find_filter p k t.nodup_keys

@[simp, grind =]
theorem get?_erase (t : Table κ α) (k x : κ) :
    (t.erase k).get? x = if x = k then none else t.get? x := by
  rw [erase, get?_filter]
  cases t.get? x <;> grind [Option.filter]

theorem find_map (f : κ → α → β) (k : κ) (rows : List (κ × α)) :
    find k (rows.map fun row => (row.1, f row.1 row.2)) = (find k rows).map (f k) := by
  induction rows with
  | nil => rfl
  | cons row rest ih => grind [find]

@[simp, grind =]
theorem get?_mapValues (t : Table κ α) (f : κ → α → β) (k : κ) :
    (t.mapValues f).get? k = (t.get? k).map (f k) :=
  find_map f k t.rows

theorem contains_insert {t : Table κ α} {k x : κ} {v : α} :
    (t.insert k v).contains x = true ↔ x = k ∨ t.contains x = true := by
  unfold contains
  rw [get?_insert]
  by_cases same : x = k <;> simp [same]

theorem size_eq_zero {t : Table κ α} : t.size = 0 ↔ ∀ k, t.get? k = none := by
  unfold size get?
  constructor
  · intro short k
    rw [List.length_eq_zero_iff.mp short]
    rfl
  · intro blank
    cases rows : t.rows with
    | nil => rfl
    | cons row rest =>
        have found := blank row.1
        rw [rows, find, if_pos rfl] at found
        exact absurd found (by simp)

theorem mem_of_find {k : κ} {v : α} {rows : List (κ × α)} (found : find k rows = some v) :
    (k, v) ∈ rows := by
  induction rows with
  | nil => exact absurd found (by simp [find])
  | cons row rest ih =>
      by_cases same : row.1 = k
      · subst same
        rw [find, if_pos rfl] at found
        obtain rfl := Option.some.inj found
        exact List.mem_cons_self
      · rw [find, if_neg same] at found
        exact List.mem_cons_of_mem row (ih found)

theorem find_of_mem {row : κ × α} {rows : List (κ × α)} (nodup : (rows.map Prod.fst).Nodup)
    (listed : row ∈ rows) : find row.1 rows = some row.2 := by
  induction rows with
  | nil => exact absurd listed List.not_mem_nil
  | cons first rest ih =>
      rw [List.map_cons, List.nodup_cons] at nodup
      rcases List.mem_cons.mp listed with rfl | later
      · rw [find, if_pos rfl]
      · have apart : first.1 ≠ row.1 := fun same => nodup.1 (same ▸ List.mem_map_of_mem later)
        rw [find, if_neg apart, ih nodup.2 later]

theorem mem_rows_of_get? {t : Table κ α} {k : κ} {v : α} (found : t.get? k = some v) :
    (k, v) ∈ t.rows :=
  mem_of_find found

theorem get?_of_mem_rows {t : Table κ α} {row : κ × α} (listed : row ∈ t.rows) :
    t.get? row.1 = some row.2 :=
  find_of_mem t.nodup_keys listed

theorem mem_values_iff {t : Table κ α} {v : α} : v ∈ t.values ↔ ∃ k, t.get? k = some v := by
  unfold values
  constructor
  · intro listed
    obtain ⟨row, member, rfl⟩ := List.mem_map.mp listed
    exact ⟨row.1, get?_of_mem_rows member⟩
  · rintro ⟨k, found⟩
    exact List.mem_map.mpr ⟨(k, v), mem_rows_of_get? found, rfl⟩

section

variable {t : Table κ α} {keys : List κ}

/-- Distinct keys are as many as the rows that they lead to. -/
theorem length_filter_values (distinct : keys.Nodup) {p : α → Bool}
    (same : ∀ k, k ∈ keys ↔ ∃ v, t.get? k = some v ∧ p v = true) :
    (t.values.filter p).length = keys.length := by
  have rows : ((t.rows.filter fun row => p row.2).map Prod.fst).Nodup :=
    t.nodup_keys.sublist (List.filter_sublist.map _)
  have perm : keys.Perm ((t.rows.filter fun row => p row.2).map Prod.fst) := by
    refine (List.perm_ext_iff_of_nodup distinct rows).mpr fun k => ?_
    rw [same, List.mem_map]
    constructor
    · rintro ⟨v, found, passes⟩
      exact ⟨(k, v), List.mem_filter.mpr ⟨mem_rows_of_get? found, passes⟩, rfl⟩
    · rintro ⟨row, listed, rfl⟩
      obtain ⟨listed, passes⟩ := List.mem_filter.mp listed
      exact ⟨row.2, get?_of_mem_rows listed, passes⟩
  rw [perm.length_eq, List.length_map, values, List.filter_map, List.length_map]
  rfl

/-- Every row is found by looking up every key. -/
theorem length_filterMap_get? (distinct : keys.Nodup) (all : ∀ k, k ∈ keys) :
    (keys.filterMap t.get?).length = t.size := by
  have found : (keys.filter t.contains).Nodup := distinct.filter _
  have rows := length_filter_values (t := t) (p := fun _ => true) found fun k => by
    simp [all k, contains, Option.isSome_iff_exists]
  rw [List.length_filterMap_eq_countP, List.countP_eq_length_filter]
  refine rows.symm.trans ?_
  rw [List.filter_eq_self.mpr fun _ _ => rfl, values, List.length_map]
  rfl

end

end Table

end StorageBroker
