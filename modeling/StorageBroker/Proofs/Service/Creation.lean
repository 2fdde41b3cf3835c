import Mathlib.Data.List.Induction
import Mathlib.Data.List.Nodup
import StorageBroker.Proofs.Service.Gain

/-! # Numbers and the entities that they name

Read off a run, the created entities have rising numbers, and every number drawn went to one of them
or to a registration that failed because its storage was in use. -/

set_option autoImplicit false

namespace StorageBroker

/-! ## File systems bear their numbers -/

/-- Every parallel file system is registered under its own id. -/
def Registry.PfsNamed (r : Registry) : Prop := ∀ id pfs, r.pfs.get? id = some pfs → pfs.id = id

theorem Registry.Effect.preserves_pfsNamed {op : Registry.Operation} {s s' : Numbered Registry}
    (effect : Registry.Effect op s s') (named : s.store.PfsNamed) : s'.store.PfsNamed := by
  have inserted : ∀ {key : PfsId} {made : PfsStorage}, made.id = key →
      ∀ id pfs, (s.store.pfs.insert key made).get? id = some pfs → pfs.id = id := by
    intro key made same id pfs found
    rw [Table.get?_insert] at found
    by_cases here : id = key
    · rw [if_pos here] at found
      obtain rfl := Option.some.inj found
      rw [same, here]
    · rw [if_neg here] at found
      exact named id pfs found
  cases effect with
  | pfsAdded drawn numbered => exact inserted numbered
  | @pfsUpdated key pfs context found =>
      have same : pfs.id = key := named key pfs found
      exact inserted same
  | @pfsRemoved key gone found =>
      intro id pfs left
      rw [Table.get?_erase] at left
      split at left
      · exact absurd left (by simp)
      · exact named id pfs left
  | nothing | number drawn | jobAdded drawn numbered unused claims | jobUpdated found kept moved
  | jobRemoved asked found | adhocAdded drawn unclaimed down | contextSet context found still
  | adhocRemoved found still | bound found only claims | unbound found sides
  | deploymentSet found moves => exact named

/-- What is registered under a number is of one kind, so the number leads to it. -/
theorem Registry.storage_iff {r : Registry}
    (apart : ∀ raw, r.adhoc.get? ⟨raw⟩ = none ∨ r.pfs.get? ⟨raw⟩ = none)
    (named : r.PfsNamed) (raw : UInt64) :
    (∀ storage, r.storage raw = .ok (.adhoc storage) ↔ r.adhocStorage ⟨raw⟩ = .ok storage) ∧
    (∀ pfs, r.storage raw = .ok (.pfs pfs) ↔ r.pfsStorage ⟨raw⟩ = .ok pfs) ∧
    (r.storage raw = .error (.storageNotFound raw) ↔
      r.adhoc.get? ⟨raw⟩ = none ∧ r.pfs.get? ⟨raw⟩ = none) ∧
    ∀ storage, r.storage raw = .ok storage → storage.rawId = raw := by
  unfold storage adhocStorage pfsStorage
  cases first : r.adhoc.get? ⟨raw⟩ with
  | some entry =>
      rcases apart raw with gone | gone
      · exact absurd (first.symm.trans gone) (by simp)
      · simp [gone, Storage.rawId, AdhocEntry.view, eq_comm]
  | none =>
      cases second : r.pfs.get? ⟨raw⟩ with
      | none => simp
      | some pfs => simp [Storage.rawId, named _ _ second]

namespace Machine

theorem run_pfsNamed (config : ServiceConfig) (history : List Event) :
    ((fresh config).run history).service.registry.PfsNamed := by
  refine ((fresh config).run_changes history).invariant
    (P := fun s => s.registry.PfsNamed) (fun s s' change named => ?_) ?_
  · cases change with
    | registry may stays effect => exact effect.preserves_pfsNamed named
    | jobRemoved registered | transfers registered effect | operations registered tied effect
    | limitSet registered limit | limitsRemoved registered entity limitClass => exact named
  · intro id pfs found
    exact absurd found (by simp [fresh, Service.fresh, Registry.empty])

/-! ## What an event creates -/

def created? (m : Machine) : Event → Option Entity
  | .call (.request request) => request.created? (m.service.startRequest request).1
  | _ => none

/-- Whether an event draws a number for a job that is not registered after all. -/
def isVain (m : Machine) : Event → Bool
  | .call (.request request) => request.isVain (m.service.startRequest request).1
  | _ => false

/-- The entities created during a history, the oldest first. -/
def created (m : Machine) : List Event → List Entity
  | [] => []
  | event :: rest => (m.created? event).toList ++ (m.step event).created rest

/-- The number of registrations during a history that drew a number in vain. -/
def vain (m : Machine) : List Event → Nat
  | [] => 0
  | event :: rest => (m.isVain event).toNat + (m.step event).vain rest

theorem Step.gains {m m' : Machine} {event : Event} (step : Step m event m')
    (orderly : m.service.Orderly) :
    Service.Gains (m.created? event) (m.isVain event) m.service m'.service := by
  have draws := step.changes.draws orderly
  cases step with
  | started call =>
      rw [settle_service] at draws ⊢
      cases call with
      | request request => exact Service.startRequest_gains orderly request
      | shutdown =>
          have steady : Service.Steady m.service (m.service.start .shutdown).2 :=
            .of_moved (m.service.sweep_moved (fun _ same => same) _ 0)
          exact .of_draws draws steady.ids
  | resumed sent held went =>
      rw [settle_service] at draws ⊢
      cases sent <;> exact .of_draws draws (Service.resume_steady went).ids
  | idle nothing deaf =>
      cases event with
      | call call => exact absurd nothing (by simp [Event.call?])
      | answer id result | wake id | expire id => exact .nothing _

/-! ## Whole runs -/

/-- A past that accounts for the numbers of a machine: the entities created so far, in order, and
how many numbers were drawn in vain. -/
structure Accounts (past : List Entity) (vain : Nat) (m : Machine) : Prop where
  ordered : past.Pairwise fun a b => a.raw < b.raw
  issued : ∀ e ∈ past, e.raw.toNat ≤ m.service.ids.issued
  known : ∀ e, m.service.keeps e = true → e ∈ past
  count : m.service.ids.issued = past.length + vain

theorem Step.preserves_accounts {past : List Entity} {vain : Nat} {m m' : Machine} {event : Event}
    (step : Step m event m') (orderly : m.service.Orderly) (accounts : Accounts past vain m) :
    Accounts (past ++ (m.created? event).toList) (vain + (m.isVain event).toNat) m' := by
  have gains := step.gains orderly
  have count := gains.count
  refine ⟨?_, ?_, ?_, ?_⟩
  · rw [List.pairwise_append]
    refine ⟨accounts.ordered, ?_, ?_⟩
    · cases m.created? event <;> simp
    · intro old member new made
      rw [Option.mem_toList] at made
      have early := accounts.issued old member
      have number := gains.number new made
      rw [UInt64.lt_iff_toNat_lt]
      omega
  · intro e member
    rw [List.mem_append, Option.mem_toList] at member
    rcases member with old | new
    · have early := accounts.issued e old
      omega
    · have number := gains.number e new
      rw [Option.mem_def.mp new] at count
      simp only [Option.toList_some, List.length_singleton] at count
      omega
  · intro e kept
    rw [List.mem_append, Option.mem_toList]
    rcases gains.kept e kept with before | made
    · exact .inl (accounts.known e before)
    · exact .inr made
  · rw [count, accounts.count, List.length_append]
    omega

theorem run_preserves_accounts {past : List Entity} {vain : Nat} {m : Machine}
    (orderly : m.service.Orderly) (accounts : Accounts past vain m) (history : List Event) :
    Accounts (past ++ m.created history) (vain + m.vain history) (m.run history) := by
  induction history generalizing past vain m with
  | nil => simpa [created, Machine.vain, run] using accounts
  | cons event rest ih =>
      have step := m.step_step event
      have now := ih (step.changes.preserve_orderly orderly)
        (step.preserves_accounts orderly accounts)
      rw [List.append_assoc, Nat.add_assoc] at now
      exact now

theorem run_accounts (config : ServiceConfig) (history : List Event) :
    Accounts ((fresh config).created history) ((fresh config).vain history)
      ((fresh config).run history) := by
  have initial : Accounts [] 0 (fresh config) := by
    refine ⟨.nil, by simp, ?_, rfl⟩
    intro e kept
    cases e <;> exact absurd kept Bool.false_ne_true
  simpa using run_preserves_accounts (Service.orderly_fresh config) initial history

theorem created_append (m : Machine) (before after : List Event) :
    m.created (before ++ after) = m.created before ++ (m.run before).created after :=
  collect_append (fun _ => rfl) (fun _ _ _ => rfl) m before after

theorem run_created (config : ServiceConfig) (history : List Event) (e : Entity) :
    e ∈ (fresh config).created history ↔ ∃ before after, history = before ++ after ∧
      ((fresh config).run before).service.keeps e = true := by
  constructor
  · intro member
    induction history using List.reverseRecOn with
    | nil => simp [created] at member
    | append_singleton history event ih =>
        rw [created_append, List.mem_append] at member
        rcases member with old | new
        · obtain ⟨before, after, rfl, kept⟩ := ih old
          exact ⟨before, after ++ [event], by rw [List.append_assoc], kept⟩
        · have made : ((fresh config).run history).created? event = some e := by
            simpa [created] using new
          have gains := (((fresh config).run history).step_step event).gains
            (run_orderly config history)
          refine ⟨history ++ [event], [], by simp, ?_⟩
          rw [run_append]
          exact gains.recorded e made
  · rintro ⟨before, after, rfl, kept⟩
    rw [created_append, List.mem_append]
    exact .inl ((run_accounts config before).known e kept)

/-- In every run:

* the entities created so far have rising numbers, whatever their kinds, and they are the entities
  that have ever been on record, so a number names one entity and is never used again;
* a number leads to the storage of that number that is registered, of whichever kind, and to nothing
  if there is none;
* the numbers drawn are as many as the entities created and the registrations of jobs that failed
  because their storage was in use;
* the next event puts on record the entity that it is said to create and no other one, and it draws
  a number only for that entity or for such a registration. -/
theorem numbers_name_one_entity (config : ServiceConfig) (history : List Event) :
    let start := fresh config
    let m := start.run history
    let created := start.created history
    ((created.Pairwise fun a b => a.raw < b.raw) ∧
      (∀ e, e ∈ created ↔ ∃ before after, history = before ++ after ∧
        (start.run before).service.keeps e = true) ∧
      ∀ a ∈ created, ∀ b ∈ created, a.raw = b.raw → a = b) ∧
    (∀ raw, let r := m.service.registry
      (∀ storage, r.storage raw = .ok (.adhoc storage) ↔ r.adhocStorage ⟨raw⟩ = .ok storage) ∧
      (∀ pfs, r.storage raw = .ok (.pfs pfs) ↔ r.pfsStorage ⟨raw⟩ = .ok pfs) ∧
      (r.storage raw = .error (.storageNotFound raw) ↔
        r.adhoc.get? ⟨raw⟩ = none ∧ r.pfs.get? ⟨raw⟩ = none) ∧
      ∀ storage, r.storage raw = .ok storage → storage.rawId = raw) ∧
    m.service.ids.issued = created.length + start.vain history ∧
    ∀ event, let after := (m.step event).service
      (∀ e, m.created? event = some e ↔ m.service.keeps e = false ∧ after.keeps e = true) ∧
      after.ids.issued =
        m.service.ids.issued + (m.created? event).toList.length + (m.isVain event).toNat := by
  intro start m created
  have accounts : Accounts created (start.vain history) m := run_accounts config history
  have orderly : m.service.Orderly := run_orderly config history
  have single : ∀ a ∈ created, ∀ b ∈ created, a.raw = b.raw → a = b := by
    have distinct : (created.map Entity.raw).Nodup :=
      List.pairwise_map.mpr (accounts.ordered.imp fun less => UInt64.ne_of_lt less)
    intro a first b second same
    exact List.inj_on_of_nodup_map distinct first second same
  refine ⟨⟨accounts.ordered, run_created config history, single⟩, ?_, accounts.count, ?_⟩
  · intro raw
    have apart : ∀ number, m.service.registry.adhoc.get? ⟨number⟩ = none ∨
        m.service.registry.pfs.get? ⟨number⟩ = none := by
      intro number
      by_contra both
      rw [not_or, ← ne_eq, ← ne_eq, Option.ne_none_iff_isSome, Option.ne_none_iff_isSome] at both
      have same := single (.adhoc ⟨number⟩) (accounts.known _ both.1) (.pfs ⟨number⟩)
        (accounts.known _ both.2) rfl
      exact absurd same (by simp)
    exact Registry.storage_iff apart (run_pfsNamed config history) raw
  · intro event after
    have gains := (m.step_step event).gains orderly
    refine ⟨fun e => ⟨fun made => ⟨?_, gains.recorded e made⟩, ?_⟩, gains.count⟩
    · rw [Bool.eq_false_iff]
      intro kept
      have spent := orderly.issued_of_keeps kept
      have number := gains.number e made
      omega
    · rintro ⟨absent, kept⟩
      rcases gains.kept e kept with before | made
      · exact absurd (absent.symm.trans before) (by simp)
      · exact made

/-- A job that asks for a storage in use costs a number, and the next entity has the one after. -/
theorem refused_job_costs_number :
    let history : List Event := [
      .call (.request (.registerAdhocStorage "burst" .gekkofs
        ⟨"ctl:1", "", .separateNew, .readWrite, 60, false⟩ ⟨[⟨"n01", .regular⟩]⟩)),
      .call (.request (.registerJob 10 ⟨[]⟩ ⟨[], [], [], some ⟨1⟩⟩)),
      .call (.request (.registerJob 11 ⟨[]⟩ ⟨[], [], [], some ⟨1⟩⟩)),
      .call (.request (.registerPfsStorage "home" .gpfs ⟨"/home"⟩))]
    (fresh .standard).created history = [.adhoc ⟨1⟩, .job ⟨2⟩, .pfs ⟨4⟩] ∧
    (fresh .standard).vain history = 1 ∧
    ((fresh .standard).run history).service.ids.issued = 4 := by
  intro history
  have numbers := numbers_name_one_entity .standard history
  have created : (fresh .standard).created history = [.adhoc ⟨1⟩, .job ⟨2⟩, .pfs ⟨4⟩] := rfl
  have vain : (fresh .standard).vain history = 1 := rfl
  have issued := numbers.2.2.1
  rw [created, vain] at issued
  exact ⟨created, vain, issued⟩

end Machine

end StorageBroker
