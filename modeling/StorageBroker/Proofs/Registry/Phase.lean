import StorageBroker.Proofs.History
import StorageBroker.Proofs.Registry.Entry
import StorageBroker.Proofs.Registry.InFlight

/-! # What a deployment shows of the past

A deployment and a teardown are phases: each has an operation that begins it and two that end it.
The state of a storage's deployment tells which phase is open and which mount path was recorded
last. `Shows` says what a state has to do to tell so; whatever the history, it does. -/

set_option autoImplicit false

namespace StorageBroker.Registry

/-- What is done to a storage in two steps. -/
inductive Phase
  | deployment
  | teardown
  deriving DecidableEq, Repr

namespace Phase

variable (id : AdhocId)

def begins : Phase → Operation
  | .deployment => .beginDeploy id
  | .teardown => .beginTeardown id

def aborts : Phase → Operation
  | .deployment => .abortDeploy id
  | .teardown => .abortTeardown id

inductive Ends : Phase → Operation → Prop
  | completeDeploy (path : String) : Ends .deployment (.completeDeploy id path)
  | abortDeploy : Ends .deployment (.abortDeploy id)
  | completeTeardown : Ends .teardown (.completeTeardown id)
  | abortTeardown : Ends .teardown (.abortTeardown id)

/-- The states that a phase puts a storage in while it is open. -/
inductive Marks : Phase → Deployment → Prop
  | deploying : Marks .deployment .deploying
  | tearingDown (path : String) : Marks .teardown (.tearingDown path)

end Phase

/-- A phase has begun on a storage after the first part of a history and has not ended since. -/
def Phase.OpenSince (phase : Phase) (start : Numbered Registry)
    (history : List (Numbered.Turn Operation)) (id : AdhocId)
    (first : List (Numbered.Turn Operation)) : Prop :=
  start.OpenSince apply history (phase.begins id) (phase.Ends id) first

/-- A storage has been deployed on a path after the first part of a history and has not been torn
down since. -/
def MountedSince (start : Numbered Registry) (history : List (Numbered.Turn Operation))
    (id : AdhocId) (path : String) (first : List (Numbered.Turn Operation)) : Prop :=
  start.OpenSince apply history (.completeDeploy id path) (· = .completeTeardown id) first

/-! ## When an operation of deployment succeeds -/

section

variable {s : Numbered Registry} {id : AdhocId} {entry : AdhocEntry}

/-- An operation that may move the deployment of a storage moves it and changes nothing else. -/
theorem apply_moves {op : Operation} {before after : Deployment}
    (found : s.store.adhoc.get? id = some entry) (state : entry.deployment = before)
    (moves : Operation.Moves id op before after) :
    s.Succeeds apply op ∧ (apply s op).2 = ⟨s.ids, s.store.setDeployment id entry after⟩ := by
  cases moves with
  | begin => simp [Numbered.Succeeds, apply, beginDeploy, found, state, Except.map]
  | complete path => simp [Numbered.Succeeds, apply, completeDeploy, found, state, Except.map]
  | abort => simp [Numbered.Succeeds, apply, abortDeploy, found, state, Except.map]
  | beginTeardown path =>
      simp [Numbered.Succeeds, apply, beginTeardown, found, state, Except.map]
  | completeTeardown path =>
      simp [Numbered.Succeeds, apply, completeTeardown, found, state, Except.map]
  | abortTeardown path =>
      simp [Numbered.Succeeds, apply, abortTeardown, found, state, Except.map]

theorem succeeds_beginDeploy : s.Succeeds apply (.beginDeploy id) ↔
    ∃ entry, s.store.adhoc.get? id = some entry ∧ entry.deployment = .undeployed := by
  constructor
  · rintro ⟨answer, done⟩
    rcases s.store.beginDeploy_outcome id with ⟨e, refused⟩ | ⟨entry, found, state, -⟩
    · simp [apply, refused, Except.map] at done
    · exact ⟨entry, found, state⟩
  · rintro ⟨entry, found, state⟩
    exact (apply_moves found state .begin).1

theorem succeeds_completeDeploy {path : String} : s.Succeeds apply (.completeDeploy id path) ↔
    ∃ entry, s.store.adhoc.get? id = some entry ∧ entry.deployment = .deploying := by
  constructor
  · rintro ⟨answer, done⟩
    rcases s.store.completeDeploy_outcome id path with ⟨e, refused⟩ | ⟨entry, found, state, -⟩
    · simp [apply, refused, Except.map] at done
    · exact ⟨entry, found, state⟩
  · rintro ⟨entry, found, state⟩
    exact (apply_moves found state (.complete path)).1

theorem succeeds_beginTeardown : s.Succeeds apply (.beginTeardown id) ↔
    ∃ entry path, s.store.adhoc.get? id = some entry ∧ entry.deployment = .deployed path := by
  constructor
  · rintro ⟨answer, done⟩
    rcases s.store.beginTeardown_outcome id with ⟨e, refused⟩ | ⟨entry, path, found, state, -⟩
    · simp [apply, refused, Except.map] at done
    · exact ⟨entry, path, found, state⟩
  · rintro ⟨entry, path, found, state⟩
    exact (apply_moves found state (.beginTeardown path)).1

theorem succeeds_completeTeardown : s.Succeeds apply (.completeTeardown id) ↔
    ∃ entry path, s.store.adhoc.get? id = some entry ∧ entry.deployment = .tearingDown path := by
  constructor
  · rintro ⟨answer, done⟩
    rcases s.store.completeTeardown_outcome id with ⟨e, refused⟩ | ⟨entry, path, found, state, -⟩
    · simp [apply, refused, Except.map] at done
    · exact ⟨entry, path, found, state⟩
  · rintro ⟨entry, path, found, state⟩
    exact (apply_moves found state (.completeTeardown path)).1

theorem Phase.exists_moves_of_succeeds {phase : Phase} (done : s.Succeeds apply (phase.begins id)) :
    ∃ entry mark, s.store.adhoc.get? id = some entry ∧
      Operation.Moves id (phase.begins id) entry.deployment mark := by
  cases phase with
  | deployment =>
      obtain ⟨entry, found, state⟩ := succeeds_beginDeploy.mp done
      exact ⟨entry, .deploying, found, state ▸ .begin⟩
  | teardown =>
      obtain ⟨entry, path, found, state⟩ := succeeds_beginTeardown.mp done
      exact ⟨entry, .tearingDown path, found, state ▸ .beginTeardown path⟩

theorem Phase.apply_aborts {phase : Phase} (found : s.store.adhoc.get? id = some entry)
    (idle : ¬ phase.Marks entry.deployment) : apply s (phase.aborts id) = (.ok .done, s) := by
  cases phase with
  | deployment =>
      cases state : entry.deployment with
      | deploying => exact absurd (state ▸ .deploying) idle
      | undeployed | deployed path | tearingDown path =>
          simp [aborts, apply, abortDeploy, found, state, Except.map]
  | teardown =>
      cases state : entry.deployment with
      | tearingDown path => exact absurd (state ▸ .tearingDown path) idle
      | undeployed | deploying | deployed path =>
          simp [aborts, apply, abortTeardown, found, state, Except.map]

theorem Phase.aborts_answer {phase : Phase} (done : s.Succeeds apply (phase.aborts id)) :
    (apply s (phase.aborts id)).1 = .ok .done := by
  obtain ⟨answer, done⟩ := done
  cases phase with
  | deployment =>
      rw [aborts, apply] at done ⊢
      cases aborted : (s.store.abortDeploy id).1 with
      | error e => simp [aborted, Except.map] at done
      | ok nothing => simp [aborted, Except.map]
  | teardown =>
      rw [aborts, apply] at done ⊢
      cases aborted : (s.store.abortTeardown id).1 with
      | error e => simp [aborted, Except.map] at done
      | ok nothing => simp [aborted, Except.map]

end

/-! ## Phases and moves -/

namespace Phase

variable {phase : Phase} {id : AdhocId} {op : Operation} {before mark after : Deployment}

theorem marks_of_begins (begun : Operation.Moves id (phase.begins id) before mark) :
    phase.Marks mark := by
  cases phase <;> cases begun <;> constructor

theorem Marks.isChanging (marked : phase.Marks mark) : mark.isChanging = true := by
  cases marked <;> rfl

/-- Nothing moves a marked storage but what ends the phase. -/
theorem Marks.ends (marked : phase.Marks mark) (moves : Operation.Moves id op mark after) :
    phase.Ends id op := by
  cases marked <;> cases moves <;> constructor

theorem aborts_undoes (begun : Operation.Moves id (phase.begins id) before mark) :
    Operation.Moves id (phase.aborts id) mark before := by
  cases phase <;> cases begun <;> constructor

end Phase

/-! ## One turn -/

theorem turn_draws (s : Numbered Registry) (next : Numbered.Turn Operation) :
    Draws s (s.turn apply next) := by
  cases next with
  | own op => exact (apply_effect s op).draws
  | elsewhere drawn => exact .elsewhere s.store (s.ids.issued_le_take drawn)

/-- What a turn makes of the deployment of a storage: a new storage is undeployed; for one that was
there before, the turn moves its deployment if it may, and leaves it alone otherwise. -/
theorem turn_deployment {s : Numbered Registry} (issued : Issued s) {id : AdhocId}
    (next : Numbered.Turn Operation) {now : AdhocEntry}
    (found : (s.turn apply next).store.adhoc.get? id = some now) :
    (s.store.adhoc.get? id = none ∧ s.ids.issued < id.raw.toNat ∧
      now.deployment = .undeployed) ∨
    ∃ entry, s.store.adhoc.get? id = some entry ∧
      ((∃ op, next = .own op ∧ Operation.Moves id op entry.deployment now.deployment) ∨
        ((∀ op after, next = .own op → ¬ Operation.Moves id op entry.deployment after) ∧
          now.deployment = entry.deployment)) := by
  cases next with
  | elsewhere drawn => exact .inr ⟨now, found, .inr ⟨by simp, rfl⟩⟩
  | own op =>
      cases known : s.store.adhoc.get? id with
      | none =>
          left
          have absent : slotOf s.store.adhoc id = none := by rw [slotOf, known]; rfl
          have present :
              slotOf (apply s op).2.store.adhoc id = some { now with client := none } := by
            rw [slotOf, show (apply s op).2.store.adhoc.get? id = some now from found]
            rfl
          rcases (apply_effect s op).slot issued id with same | ⟨-, unissued, entry, new, down⟩ |
            ⟨entry, context, old, -⟩ | ⟨entry, old, -⟩ | ⟨entry, deployment, old, -⟩
          · exact absurd (present.symm.trans (same.trans absent)) (by simp)
          · obtain rfl := Option.some.inj (present.symm.trans new)
            exact ⟨rfl, unissued, down⟩
          all_goals exact absurd (absent.symm.trans old) (by simp)
      | some entry =>
          refine .inr ⟨entry, rfl, ?_⟩
          by_cases may : ∃ after, Operation.Moves id op entry.deployment after
          · obtain ⟨after, moves⟩ := may
            have moved := (apply_moves known rfl moves).2
            rw [Numbered.turn, moved, setDeployment, Table.get?_insert, if_pos rfl] at found
            obtain rfl := Option.some.inj found
            exact .inl ⟨op, rfl, moves⟩
          · refine .inr ⟨fun asked after same moves => may ⟨after, ?_⟩, ?_⟩
            · obtain rfl := Numbered.Turn.own.inj same
              exact moves
            · have step := apply_entry issued known op
              rw [show (apply s op).2.store.adhoc.get? id = some now from found] at step
              cases step with
              | same | claimed asked free | released asked held | contextSet asked clear => rfl
              | moved moves => exact absurd ⟨_, moves⟩ may

/-! ## What a state shows -/

/-- A state of a storage's deployment that shows that an operation is open: the operation moves the
storage into the state, what ends it moves the storage out, and nothing else does either. -/
structure Shows (id : AdhocId) (opens : Operation) (ends : Operation → Prop)
    (state : Deployment → Prop) : Prop where
  initially : ¬ state .undeployed
  opened : ∀ s : Numbered Registry, s.Succeeds apply opens →
    ∃ entry after, s.store.adhoc.get? id = some entry ∧
      Operation.Moves id opens entry.deployment after
  ended : ∀ (s : Numbered Registry) (entry : AdhocEntry) (op : Operation),
    s.store.adhoc.get? id = some entry → state entry.deployment → ends op → s.Succeeds apply op →
      ∃ after, Operation.Moves id op entry.deployment after
  moved : ∀ op before after, Operation.Moves id op before after →
    (state after ↔ op = opens ∨ (state before ∧ ¬ ends op))

theorem shows_phase (id : AdhocId) (phase : Phase) :
    Shows id (phase.begins id) (phase.Ends id) phase.Marks where
  initially := by
    rintro ⟨⟩
  opened s done := Phase.exists_moves_of_succeeds done
  ended := by
    rintro s entry op - marked ends -
    generalize entry.deployment = mark at marked
    cases marked with
    | deploying =>
        cases ends with
        | completeDeploy path => exact ⟨_, .complete path⟩
        | abortDeploy => exact ⟨_, .abort⟩
    | tearingDown path =>
        cases ends with
        | completeTeardown => exact ⟨_, .completeTeardown path⟩
        | abortTeardown => exact ⟨_, .abortTeardown path⟩
  moved := by
    intro op before after moves
    constructor
    · intro marked
      left
      cases moves <;> cases marked <;> rfl
    · rintro (rfl | ⟨marked, goes⟩)
      · exact Phase.marks_of_begins moves
      · exact absurd (marked.ends moves) goes

theorem shows_mount (id : AdhocId) (path : String) :
    Shows id (.completeDeploy id path) (· = .completeTeardown id)
      (fun deployment => deployment.mountPath? = some path) where
  initially := by simp [Deployment.mountPath?]
  opened s done := by
    obtain ⟨entry, found, state⟩ := succeeds_completeDeploy.mp done
    exact ⟨entry, .deployed path, found, state ▸ .complete path⟩
  ended := by
    rintro s entry op found - rfl done
    obtain ⟨other, left, known, state⟩ := succeeds_completeTeardown.mp done
    obtain rfl := Option.some.inj (known.symm.trans found)
    exact ⟨.undeployed, state ▸ .completeTeardown left⟩
  moved := by
    intro op before after moves
    cases moves <;> simp [Deployment.mountPath?, eq_comm]

/-! ## After any history -/

theorem turns_preserve_issued {s : Numbered Registry} (issued : Issued s)
    (history : List (Numbered.Turn Operation)) : Issued (s.turns apply history) :=
  Numbered.turns_invariant (P := Issued) (fun s next held => held.of_draws (turn_draws s next))
    issued history

/-- What is open has a storage whose number is spent, and a registered storage is in the state that
shows it. -/
structure Tells (id : AdhocId) (state : Deployment → Prop) (s : Numbered Registry)
    (opened : Prop) : Prop where
  spent : opened → id.raw.toNat ≤ s.ids.issued
  told : ∀ entry, s.store.adhoc.get? id = some entry → (state entry.deployment ↔ opened)

section

variable {id : AdhocId} {opens : Operation} {ends : Operation → Prop} {state : Deployment → Prop}
  (shows : Shows id opens ends state)
include shows

theorem Shows.registered {s : Numbered Registry} (done : s.Succeeds apply opens) :
    ∃ entry, s.store.adhoc.get? id = some entry := by
  obtain ⟨entry, after, found, -⟩ := shows.opened s done
  exact ⟨entry, found⟩

theorem Shows.turn {s : Numbered Registry} (issued : Issued s) {opened : Prop}
    (tells : Tells id state s opened) (next : Numbered.Turn Operation) :
    Tells id state (s.turn apply next)
      ((next = .own opens ∧ s.Succeeds apply opens) ∨
        (opened ∧ ∀ asked, next = .own asked → ends asked → ¬ s.Succeeds apply asked)) where
  spent := by
    intro now
    refine Nat.le_trans ?_ (turn_draws s next).later
    rcases now with ⟨-, done⟩ | ⟨still, -⟩
    · obtain ⟨entry, found⟩ := shows.registered done
      exact issued.adhoc id (by simp [found])
    · exact tells.spent still
  told := by
    intro entry found
    rcases turn_deployment issued next found with ⟨absent, unissued, down⟩ |
      ⟨before, known, ⟨op, rfl, moves⟩ | ⟨stuck, same⟩⟩
    · -- the number of a new storage was not spent, so nothing is open
      rw [down]
      refine iff_of_false shows.initially ?_
      rintro (⟨-, done⟩ | ⟨still, -⟩)
      · obtain ⟨other, known⟩ := shows.registered done
        exact absurd (absent.symm.trans known) (by simp)
      · have early := tells.spent still
        omega
    · have done := (apply_moves known rfl moves).1
      rw [shows.moved op _ _ moves, tells.told before known]
      refine or_congr ⟨?_, ?_⟩ (and_congr_right fun _ => ⟨?_, ?_⟩)
      · rintro rfl
        exact ⟨rfl, done⟩
      · rintro ⟨here, -⟩
        exact Numbered.Turn.own.inj here
      · rintro goes asked here ending
        exact absurd (Numbered.Turn.own.inj here ▸ ending) goes
      · intro goes ending
        exact goes op rfl ending done
    · rw [same, tells.told before known]
      constructor
      · intro still
        refine .inr ⟨still, fun asked here ending done => ?_⟩
        have shown := (tells.told before known).mpr still
        obtain ⟨after, moves⟩ := shows.ended s before asked known shown ending done
        exact stuck asked after here moves
      · rintro (⟨here, done⟩ | ⟨still, -⟩)
        · obtain ⟨other, after, there, moves⟩ := shows.opened s done
          obtain rfl := Option.some.inj (there.symm.trans known)
          exact absurd moves (stuck opens after here)
        · exact still

theorem Shows.turns (ids : IdAllocator) (history : List (Numbered.Turn Operation)) :
    Tells id state ((⟨ids, empty⟩ : Numbered Registry).turns apply history)
      (∃ first, (⟨ids, empty⟩ : Numbered Registry).OpenSince apply history opens ends first) := by
  induction history using List.reverseRecOn with
  | nil =>
      refine ⟨?_, fun entry found => absurd found (by simp [Numbered.turns, empty])⟩
      rintro ⟨first, opened⟩
      exact absurd opened Numbered.not_openSince_nil
  | append_singleton history next ih =>
      rw [Numbered.exists_openSince_concat, Numbered.turns_concat]
      exact shows.turn (turns_preserve_issued (issued_empty ids) history) ih next

end

/-- While a phase is open, the storage is what it was when the phase began, apart from the mark and
from its client. -/
theorem Phase.OpenSince.entry {ids : IdAllocator} {id : AdhocId} {phase : Phase}
    {history first : List (Numbered.Turn Operation)}
    (opened : phase.OpenSince ⟨ids, empty⟩ history id first) :
    ∃ before mark client,
      ((⟨ids, empty⟩ : Numbered Registry).turns apply first).store.adhoc.get? id = some before ∧
      Operation.Moves id (phase.begins id) before.deployment mark ∧
      ((⟨ids, empty⟩ : Numbered Registry).turns apply history).store.adhoc.get? id =
        some { before with client, deployment := mark } := by
  induction history using List.reverseRecOn with
  | nil => exact absurd opened Numbered.not_openSince_nil
  | append_singleton history next ih =>
      rw [Numbered.turns_concat]
      rcases Numbered.openSince_concat.mp opened with ⟨rfl, rfl, done⟩ | ⟨still, goes⟩
      · obtain ⟨before, mark, found, moves⟩ := exists_moves_of_succeeds done
        refine ⟨before, mark, before.client, found, moves, ?_⟩
        rw [Numbered.turn, (apply_moves found rfl moves).2, setDeployment, Table.get?_insert,
          if_pos rfl]
      · obtain ⟨before, mark, client, known, begun, found⟩ := ih still
        have issued := turns_preserve_issued (issued_empty ids) history
        have marked := marks_of_begins begun
        cases next with
        | elsewhere drawn => exact ⟨before, mark, client, known, begun, found⟩
        | own op =>
            have step := apply_entry issued found op
            rw [Numbered.turn]
            generalize next : (apply _ op).2.store.adhoc.get? id = now at step ⊢
            cases step with
            | same => exact ⟨before, mark, client, known, begun, rfl⟩
            | @claimed job asked free => exact ⟨before, mark, some job, known, begun, rfl⟩
            | released asked held => exact ⟨before, mark, none, known, begun, rfl⟩
            | contextSet asked clear =>
                exact absurd marked.isChanging (by simp [isChanging_of_no_obstacle clear])
            | moved moves =>
                exact absurd (apply_moves found rfl moves).1 (goes op rfl (marked.ends moves))
            | removed asked clear =>
                exact absurd marked.isChanging (by simp [isChanging_of_no_obstacle clear])

end StorageBroker.Registry
