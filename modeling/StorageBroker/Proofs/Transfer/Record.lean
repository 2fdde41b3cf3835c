import Mathlib.Algebra.Group.Int.Defs
import StorageBroker.Proofs.Transfer.Forward

/-! # What a history says of the transfers that are tracked

Two things are read off a history: the transfers that it has created, in order, and for each
transfer the shifts of priority that it has granted. A tracked transfer holds the place among the
created ones that it was created in, and its priority is the sum of its shifts, cut off at the ends
of the range at each step. -/

set_option autoImplicit false

namespace StorageBroker

namespace TransferLedger

open Numbered (turn turns)

/-! ## Reading a history -/

/-- What the turns of a history give, one after another. -/
def gather {α : Type} (give : Numbered TransferLedger → Turn → Option α)
    (s : Numbered TransferLedger) : List Turn → List α
  | [] => []
  | next :: rest => (give s next).toList ++ gather give (turn apply s next) rest

def created? (s : Numbered TransferLedger) : Turn → Option Transfer
  | .own (.create job sources targets limits mapping) =>
    (create s job sources targets limits mapping).1.toOption
  | _ => none

/-- The shift that a turn grants to the priority of a transfer. -/
def shift? (id : TransferId) (s : Numbered TransferLedger) : Turn → Option Int64
  | .own (.setPriority target delta) =>
    if target = id then (s.store.setPriority target delta).1.toOption.map fun _ => delta else none
  | _ => none

/-- The transfers that a history has created, in the order of creation. -/
def creations (s : Numbered TransferLedger) (history : List Turn) : List Transfer :=
  gather created? s history

/-- The shifts that a history has granted to the priority of a transfer, in their order. -/
def shifts (s : Numbered TransferLedger) (id : TransferId) (history : List Turn) : List Int64 :=
  gather (shift? id) s history

/-- A priority after a shift, cut off at the ends of the range of 64 bits. -/
def shifted (priority : Int) (delta : Int64) : Int :=
  max (-2 ^ 63) (min (2 ^ 63 - 1) (priority + delta.toInt))

theorem toInt_shiftPriority (a b : Int64) : (shiftPriority a b).toInt = shifted a.toInt b := by
  have low : Int64.minValue.toInt = -2 ^ 63 := rfl
  have high : Int64.maxValue.toInt = 2 ^ 63 - 1 := rfl
  unfold shiftPriority shifted
  simp only [low, high]
  by_cases under : a.toInt + b.toInt < -2 ^ 63
  · rw [if_pos under, low]
    omega
  · rw [if_neg under]
    by_cases above : 2 ^ 63 - 1 < a.toInt + b.toInt
    · rw [if_pos above, high]
      omega
    · rw [if_neg above, Int64.toInt_ofInt_of_le (by omega) (by omega)]
      omega

/-! ## What a turn creates -/

/-- Cancelling moves no transfer from its place. -/
theorem cancelLive_places (state : Nat × TransferLedger) (id : TransferId) :
    (cancelLive state id).2.byJob = state.2.byJob ∧
    (cancelLive state id).2.created = state.2.created := by
  unfold cancelLive
  split
  · exact ⟨rfl, rfl⟩
  · split <;> exact ⟨rfl, rfl⟩

theorem cancelLives_places (state : Nat × TransferLedger) (ids : List TransferId) :
    (ids.foldl cancelLive state).2.byJob = state.2.byJob ∧
    (ids.foldl cancelLive state).2.created = state.2.created := by
  induction ids generalizing state with
  | nil => exact ⟨rfl, rfl⟩
  | cons id rest ih =>
      have first := cancelLive_places state id
      have last := ih (cancelLive state id)
      exact ⟨last.1.trans first.1, last.2.trans first.2⟩

theorem evictJob_created (l : TransferLedger) (job : JobId) :
    (l.evictJob job).2.created = l.created := by
  unfold evictJob
  cases l.byJob.get? job <;> rfl

theorem Effect.created_of_none {s s' : Numbered TransferLedger} (effect : Effect none s s') :
    s'.store.created = s.store.created := by
  cases effect with
  | created asked drawn numbered pending => exact nomatch asked
  | nothing | rewritten found live task stays | moved found live task forward => rfl

/-- A turn creates nothing, or a transfer under a number that it draws. -/
theorem created?_outcome (s : Numbered TransferLedger) (next : Turn) :
    (created? s next = none ∧ (turn apply s next).store.created = s.store.created) ∨
    ∃ t, created? s next = some t ∧ (turn apply s next).store.created = s.store.created + 1 ∧
      s.ids.issued < t.id.raw.toNat ∧ t.id.raw.toNat ≤ (turn apply s next).ids.issued := by
  cases next with
  | elsewhere drawn => exact .inl ⟨rfl, rfl⟩
  | own operation =>
      cases operation with
      | create job sources targets limits mapping =>
          simp only [created?, turn, apply]
          rcases create_outcome s job sources targets limits mapping with
            ⟨e, refused⟩ | ⟨raw, ids, t, drawn, -, rfl, done⟩
          · rw [refused]
            exact .inl ⟨rfl, rfl⟩
          · rw [done]
            have value := IdAllocator.allocate_some drawn
            exact .inr ⟨_, rfl, rfl, by simp only; omega, by simp only; omega⟩
      | setPriority id delta =>
          exact .inl ⟨rfl, (setPriority_effect s.ids s.store id delta).created_of_none⟩
      | cancel id => exact .inl ⟨rfl, (cancel_effect s.ids s.store id).created_of_none⟩
      | update id status progress =>
          exact .inl ⟨rfl, (update_effect s.ids s.store id status progress).created_of_none⟩
      | cancelAll job => exact .inl ⟨rfl, (cancelLives_places (0, s.store) _).2⟩
      | evictJob job => exact .inl ⟨rfl, evictJob_created s.store job⟩
      | transfer id | transfersFor job | pending job | priority id | wait id =>
          exact .inl ⟨rfl, rfl⟩

/-! ## Where a tracked transfer comes from -/

/-- A tracked transfer before and after a turn that grants it these shifts. -/
structure Kept (granted : List Int64) (before now : LedgerEntry) : Prop where
  task : before.transfer.SameTask now.transfer
  order : now.order = before.order
  priority : now.transfer.priority.toInt =
    granted.foldl shifted before.transfer.priority.toInt

theorem Kept.refl (entry : LedgerEntry) : Kept [] entry entry :=
  ⟨.refl _, rfl, rfl⟩

theorem Kept.cancelled (entry : LedgerEntry) : Kept [] entry entry.cancelled := by
  unfold LedgerEntry.cancelled
  split
  · exact .refl entry
  · exact ⟨⟨rfl, rfl, rfl, rfl, rfl, rfl⟩, rfl, rfl⟩

section

variable {s : Numbered TransferLedger} {id : TransferId} {now : LedgerEntry}

/-- What is tracked after one transfer is written back was tracked before, that transfer under
its old state. -/
theorem kept_of_write (sound : s.store.Sound) {target : TransferId} {entry : LedgerEntry}
    {transfer : Transfer} {granted : List Int64} (known : s.store.entries.get? target = some entry)
    (found : (s.store.write entry transfer).entries.get? id = some now)
    (task : entry.transfer.SameTask transfer)
    (mine : target = id → Kept granted entry { entry with transfer })
    (others : target ≠ id → granted = []) :
    ∃ before, s.store.entries.get? id = some before ∧ Kept granted before now := by
  have named : transfer.id = target := task.id.trans (sound.filed target entry known)
  rw [get?_write, named] at found
  by_cases same : id = target
  · subst same
    rw [if_pos rfl] at found
    obtain rfl := Option.some.inj found
    exact ⟨entry, known, mine rfl⟩
  · rw [if_neg same] at found
    obtain rfl := others (Ne.symm same)
    exact ⟨now, found, .refl now⟩

/-- A tracked transfer was tracked before the turn, or the turn has created it. -/
theorem turn_origin (orderly : Orderly s) (next : Turn)
    (found : (turn apply s next).store.entries.get? id = some now) :
    (∃ before, s.store.entries.get? id = some before ∧ Kept (shift? id s next).toList before now) ∨
    (created? s next = some now.transfer ∧ now.order = s.store.created ∧
      now.transfer.priority = 0 ∧ shift? id s next = none) := by
  have sound := orderly.sound
  have same : ∀ {granted : List Int64}, s.store.entries.get? id = some now → granted = [] →
      ∃ before, s.store.entries.get? id = some before ∧ Kept granted before now := by
    rintro granted still rfl
    exact ⟨now, still, .refl now⟩
  cases next with
  | elsewhere drawn => exact .inl (same found rfl)
  | own operation =>
      cases operation with
      | create job sources targets limits mapping =>
          simp only [created?, turn, apply] at found ⊢
          rcases create_outcome s job sources targets limits mapping with
            ⟨e, refused⟩ | ⟨raw, ids, t, -, -, rfl, done⟩
          · rw [refused] at found
            exact .inl (same found rfl)
          · rw [done] at found ⊢
            rw [Table.get?_insert] at found
            by_cases new : id = ⟨raw⟩
            · rw [if_pos new] at found
              obtain rfl := Option.some.inj found
              exact .inr ⟨rfl, rfl, rfl, rfl⟩
            · rw [if_neg new] at found
              exact .inl (same found rfl)
      | setPriority target delta =>
          simp only [shift?, turn, apply] at found ⊢
          refine .inl ?_
          rcases s.store.setPriority_outcome target delta with
            ⟨e, refused⟩ | ⟨entry, known, -, done⟩
          · rw [refused] at found ⊢
            exact same found (by simp [Except.toOption])
          · rw [done] at found ⊢
            refine kept_of_write sound known found ⟨rfl, rfl, rfl, rfl, rfl, rfl⟩ ?_ ?_
            · intro mine
              rw [if_pos mine]
              exact ⟨⟨rfl, rfl, rfl, rfl, rfl, rfl⟩, rfl, toInt_shiftPriority _ _⟩
            · intro other
              rw [if_neg other]
              rfl
      | cancel target =>
          refine .inl ?_
          simp only [turn, apply] at found
          rcases s.store.cancel_outcome target with
            ⟨e, refused⟩ | ⟨entry, -, -, done⟩ | ⟨entry, known, -, done⟩
          · rw [refused] at found
            exact same found rfl
          · rw [done] at found
            exact same found rfl
          · rw [done] at found
            exact kept_of_write sound known found ⟨rfl, rfl, rfl, rfl, rfl, rfl⟩
              (fun _ => ⟨⟨rfl, rfl, rfl, rfl, rfl, rfl⟩, rfl, rfl⟩) (fun _ => rfl)
      | update target status progress =>
          refine .inl ?_
          simp only [turn, apply] at found
          rcases s.store.update_outcome target status progress with
            ⟨e, refused⟩ | ⟨entry, known, -, -, ⟨-, done⟩ | ⟨-, done⟩⟩
          · rw [refused] at found
            exact same found rfl
          · rw [done] at found
            exact kept_of_write sound known found ⟨rfl, rfl, rfl, rfl, rfl, rfl⟩
              (fun _ => ⟨⟨rfl, rfl, rfl, rfl, rfl, rfl⟩, rfl, rfl⟩) (fun _ => rfl)
          · rw [done] at found
            exact kept_of_write sound known found ⟨rfl, rfl, rfl, rfl, rfl, rfl⟩
              (fun _ => ⟨⟨rfl, rfl, rfl, rfl, rfl, rfl⟩, rfl, rfl⟩) (fun _ => rfl)
      | cancelAll job =>
          refine .inl ?_
          simp only [turn, apply] at found
          rw [cancelAll_get? sound, Option.map_eq_some_iff] at found
          obtain ⟨before, known, rfl⟩ := found
          refine ⟨before, known, ?_⟩
          by_cases mine : before.transfer.jobId = job
          · rw [if_pos mine]
            exact .cancelled before
          · rw [if_neg mine]
            exact .refl before
      | evictJob job =>
          simp only [turn, apply] at found
          rw [evictJob_get? sound, Option.filter_eq_some_iff] at found
          exact .inl (same found.1 rfl)
      | transfer target | transfersFor job | pending job | priority target | wait target =>
          exact .inl (same found rfl)

theorem tracked_of_shift? {next : Turn} {delta : Int64} (granted : shift? id s next = some delta) :
    (s.store.entries.get? id).isSome := by
  cases next with
  | elsewhere drawn => exact nomatch granted
  | own operation =>
      cases operation with
      | setPriority target shift =>
          simp only [shift?] at granted
          by_cases mine : target = id
          · subst mine
            rw [if_pos rfl] at granted
            rcases s.store.setPriority_outcome target shift with
              ⟨e, refused⟩ | ⟨entry, known, -, -⟩
            · rw [refused] at granted
              exact nomatch granted
            · simp [known]
          · rw [if_neg mine] at granted
            exact nomatch granted
      | _ => exact nomatch granted

end

/-! ## The record of a history -/

/-- A ledger agrees with what was created and with the shifts that were granted. -/
structure Recorded (made : List Transfer) (granted : TransferId → List Int64)
    (s : Numbered TransferLedger) : Prop where
  counted : s.store.created = made.length
  issued : ∀ t ∈ made, t.id.raw.toNat ≤ s.ids.issued
  rising : made.Pairwise fun a b => a.id.raw.toNat < b.id.raw.toNat
  placed : ∀ id entry, s.store.entries.get? id = some entry →
    ∃ t, made[entry.order]? = some t ∧ t.SameTask entry.transfer
  unissued : ∀ id : TransferId, s.ids.issued < id.raw.toNat → granted id = []
  priority : ∀ id entry, s.store.entries.get? id = some entry →
    entry.transfer.priority.toInt = (granted id).foldl shifted 0

theorem recorded_empty (ids : IdAllocator) : Recorded [] (fun _ => []) ⟨ids, empty⟩ where
  counted := rfl
  issued := by simp
  rising := .nil
  placed := by intro id entry found; simp [empty] at found
  unissued := by intro id above; rfl
  priority := by intro id entry found; simp [empty] at found

section

variable {s : Numbered TransferLedger} {made : List Transfer} {granted : TransferId → List Int64}

theorem turn_preserves_recorded (orderly : Orderly s) (recorded : Recorded made granted s)
    (next : Turn) :
    Recorded (made ++ (created? s next).toList) (fun id => granted id ++ (shift? id s next).toList)
      (turn apply s next) where
  counted := by
    rw [List.length_append, ← recorded.counted]
    rcases created?_outcome s next with ⟨none, counted⟩ | ⟨t, some, counted, -, -⟩
    · simp [none, counted]
    · simp [some, counted]
  issued := by
    intro t listed
    have later := (turn_draws orderly next).1
    rcases List.mem_append.mp listed with before | new
    · exact Nat.le_trans (recorded.issued t before) later
    · rcases created?_outcome s next with ⟨none, -⟩ | ⟨t', some, -, -, drawn⟩
      · simp [none] at new
      · rw [some, Option.toList_some, List.mem_singleton] at new
        exact new ▸ drawn
  rising := by
    refine List.pairwise_append.mpr ⟨recorded.rising, ?_, ?_⟩
    · cases created? s next <;> simp
    · intro a before b new
      have old := recorded.issued a before
      rcases created?_outcome s next with ⟨none, -⟩ | ⟨t, some, -, above, -⟩
      · simp [none] at new
      · rw [some, Option.toList_some, List.mem_singleton] at new
        rw [new]
        omega
  placed := by
    intro id entry found
    rcases turn_origin orderly next found with ⟨before, known, kept⟩ | ⟨new, order, -, -⟩
    · obtain ⟨t, place, task⟩ := recorded.placed id before known
      refine ⟨t, ?_, task.trans kept.task⟩
      rw [kept.order, List.getElem?_append_left (List.getElem?_eq_some_iff.mp place).1, place]
    · refine ⟨entry.transfer, ?_, .refl _⟩
      rw [order, recorded.counted, new]
      simp
  unissued := by
    intro id above
    have before : s.ids.issued < id.raw.toNat := Nat.lt_of_le_of_lt (turn_draws orderly next).1 above
    have none : shift? id s next = none := by
      cases now : shift? id s next with
      | none => rfl
      | some delta =>
          have issued := orderly.issued id (tracked_of_shift? now)
          omega
    simp [recorded.unissued id before, none]
  priority := by
    intro id entry found
    rcases turn_origin orderly next found with ⟨before, known, kept⟩ | ⟨new, -, zero, none⟩
    · rw [kept.priority, recorded.priority id before known, List.foldl_append]
    · -- nothing was granted under a number that had not been drawn
      have named := (turn_preserves_sound orderly next).filed id entry found
      have unissued : granted id = [] := by
        rcases created?_outcome s next with ⟨nothing, -⟩ | ⟨t, some, -, above, -⟩
        · exact absurd (nothing.symm.trans new) (by simp)
        · obtain rfl := Option.some.inj (some.symm.trans new)
          exact recorded.unissued id (named ▸ above)
      simp [zero, none, unissued]

theorem turns_preserve_recorded (orderly : Orderly s) (recorded : Recorded made granted s)
    (history : List Turn) :
    Recorded (made ++ creations s history) (fun id => granted id ++ shifts s id history)
      (turns apply s history) := by
  induction history generalizing s made granted with
  | nil => simpa [creations, shifts, gather, turns] using recorded
  | cons next rest ih =>
      have after := ih (turn_preserves_orderly orderly next)
        (turn_preserves_recorded orderly recorded next)
      simpa [creations, shifts, gather, turns, List.append_assoc] using after

end

/-- What a history has left of the transfers that it created and of the shifts that it granted. -/
theorem turns_recorded (ids : IdAllocator) (history : List Turn) :
    Recorded (creations ⟨ids, empty⟩ history) (fun id => shifts ⟨ids, empty⟩ id history)
      (turns apply ⟨ids, empty⟩ history) := by
  have recorded := turns_preserve_recorded (orderly_empty ids) (recorded_empty ids) history
  simpa using recorded

end TransferLedger

end StorageBroker
