import Mathlib.Algebra.GroupWithZero.Nat
import StorageBroker.Proofs.Net.Framing
import StorageBroker.Proofs.Wire.Message
import StorageBroker.Proofs.Wire.Size

/-! # How much a message holds

The content of a value is the number of elements in its lists and of bytes in its texts, at any
depth. Each of them has its own byte in the written form, and one more is left: for an element it is
the first byte of the element, for a text or a list it is in its length. So a reader never makes
more of a payload than the payload is long. -/

set_option autoImplicit false

namespace StorageBroker.Wire

/-- A form has room for so many elements and text bytes, and for one byte more. -/
def Room (held : Nat) (form : List UInt8) : Prop := held < form.length

end Wire

/-- Types whose values hold list elements and text bytes, each with a byte of the written form. -/
class Content (α : Type) [Wire α] where
  content : α → Nat
  room (a : α) : Wire.Room (content a) (Wire.encode a)

namespace Wire.Room

open Content (content)

variable {α : Type} [Wire α] [Content α] {held : Nat} {form : List UInt8}

theorem first (a : α) : Room (content a) (encode a) := Content.room a

theorem place (n : Nat) : Room 0 (encodeNat n) := by
  unfold Room encodeNat encodeGroups
  split <;> simp

theorem field (before : Room held form) (a : α) : Room (held + content a) (form ++ encode a) := by
  have here := Content.room a
  unfold Room at before here ⊢
  rw [List.length_append]
  omega

/-- The place of a constructor and its first field. -/
theorem choice (n : Nat) (a : α) : Room (content a) (encodeNat n ++ encode a) := by
  have both := (place n).field a
  rwa [Nat.zero_add] at both

end Wire.Room

abbrev Content.scalar {α : Type} [Wire α] [LawfulWire α] : Content α where
  content _ := 0
  room a := List.length_pos_iff.mpr (Wire.encode_ne_nil a)

namespace Wire

open Content (content)
open Room (first choice)

variable {α : Type}

/-! ## Scalars and containers -/

instance : Content UInt64 := .scalar
instance : Content UInt32 := .scalar
instance : Content Int64 := .scalar
instance : Content Bool := .scalar
instance : Content FloatBits := .scalar

instance : Content String where
  content s := s.utf8ByteSize
  room s := by
    have size : Room 0 (encodeNat s.utf8ByteSize) := .place _
    unfold Room at size ⊢
    rw [length_encode_text]
    omega

instance [Wire α] [Content α] : Content (Option α) where
  content
    | none => 0
    | some a => content a
  room
    | none => Nat.one_pos
    | some a => Nat.lt_succ_of_lt (Content.room a)

theorem length_add_sum_le [Wire α] [Content α] (as : List α) :
    as.length + (as.map content).sum ≤ (as.flatMap encode).length := by
  induction as with
  | nil => exact Nat.le_refl 0
  | cons a as ih =>
      have here := Content.room a
      unfold Room at here
      rw [List.map_cons, List.sum_cons, List.flatMap_cons, List.length_append, List.length_cons]
      omega

instance [Wire α] [Content α] : Content (List α) where
  content as := as.length + (as.map content).sum
  room as := by
    have count : Room 0 (encodeNat as.length) := .place _
    have held := length_add_sum_le as
    change _ < (encodeNat as.length ++ as.flatMap encode).length
    unfold Room at count
    rw [List.length_append]
    omega

/-! ## Identifiers and enumerations -/

instance : Content JobId where
  content id := content id.raw
  room id := first id.raw

instance : Content AdhocId where
  content id := content id.raw
  room id := first id.raw

instance : Content PfsId where
  content id := content id.raw
  room id := first id.raw

instance : Content TransferId where
  content id := content id.raw
  room id := first id.raw

instance : Content OperationId where
  content id := content id.raw
  room id := first id.raw

instance : Content StatusCode := .scalar
instance : Content NodeKind := .scalar
instance : Content AdhocKind := .scalar
instance : Content ExecutionMode := .scalar
instance : Content AccessMode := .scalar
instance : Content PfsKind := .scalar
instance : Content LimitScope := .scalar
instance : Content LimitClass := .scalar
instance : Content Mapping := .scalar
instance : Content TransferStatus := .scalar
instance : Content OperationStatus := .scalar
instance : Content OperationOutcome := .scalar

/-! ## Jobs -/

instance : Content Node where
  content n := content n.hostname + content n.kind
  room n := first n.hostname |>.field n.kind

instance : Content Dataset where
  content d := content d.id
  room d := first d.id

instance : Content DatasetRoute where
  content r := content r.source + content r.target
  room r := first r.source |>.field r.target

instance : Content JobResources where
  content r := content r.nodes
  room r := first r.nodes

instance : Content JobRequirements where
  content r := content r.inputs + content r.outputs + content r.expectedOutputs +
    content r.adhocStorage
  room r := first r.inputs |>.field r.outputs |>.field r.expectedOutputs |>.field r.adhocStorage

instance : Content Job where
  content j := content j.id + content j.slurmId + content j.resources + content j.requirements
  room j := first j.id |>.field j.slurmId |>.field j.resources |>.field j.requirements

instance : Content JobInfo where
  content i := content i.jobId + content i.controllerAddress + content i.ioProcs
  room i := first i.jobId |>.field i.controllerAddress |>.field i.ioProcs

/-! ## Storage -/

instance : Content AdhocContext where
  content c := content c.controllerAddress + content c.moverAddress + content c.executionMode +
    content c.accessMode + content c.walltime + content c.shouldFlush
  room c := first c.controllerAddress |>.field c.moverAddress |>.field c.executionMode
    |>.field c.accessMode |>.field c.walltime |>.field c.shouldFlush

instance : Content AdhocResources where
  content r := content r.nodes
  room r := first r.nodes

instance : Content AdhocStorage where
  content s := content s.id + content s.name + content s.kind + content s.context +
    content s.resources + content s.client + content s.mountPath
  room s := first s.id |>.field s.name |>.field s.kind |>.field s.context |>.field s.resources
    |>.field s.client |>.field s.mountPath

instance : Content PfsContext where
  content c := content c.mountPoint
  room c := first c.mountPoint

instance : Content PfsStorage where
  content s := content s.id + content s.name + content s.kind + content s.context
  room s := first s.id |>.field s.name |>.field s.kind |>.field s.context

/-! ## Limits and transfers -/

instance : Content LimitEntity where
  content
    | .dataset d => content d
    | .node hostname => content hostname
    | .job id => content id
  room
    | .dataset d => choice 0 d
    | .node hostname => choice 1 hostname
    | .job id => choice 2 id

instance : Content Limit where
  content l := content l.entity + content l.limitClass + content l.value
  room l := first l.entity |>.field l.limitClass |>.field l.value

instance : Content Progress where
  content p := content p.bytesTransferred + content p.totalBytes + content p.error
  room p := first p.bytesTransferred |>.field p.totalBytes |>.field p.error

instance : Content Transfer where
  content t := content t.id + content t.jobId + content t.sources + content t.targets +
    content t.limits + content t.mapping + content t.priority + content t.status +
    content t.progress
  room t := first t.id |>.field t.jobId |>.field t.sources |>.field t.targets |>.field t.limits
    |>.field t.mapping |>.field t.priority |>.field t.status |>.field t.progress

/-! ## Data operations -/

instance : Content Argument where
  content
    | .int i => content i
    | .uint n => content n
    | .float f => content f
    | .text s => content s
    | .flag b => content b
  room
    | .int i => choice 0 i
    | .uint n => choice 1 n
    | .float f => choice 2 f
    | .text s => choice 3 s
    | .flag b => choice 4 b

instance : Content Connection where
  content c := content c.inputs + content c.outputs + content c.streaming + content c.arguments
  room c := first c.inputs |>.field c.outputs |>.field c.streaming |>.field c.arguments

instance : Content Link where
  content l := content l.transfer + content l.streaming + content l.arguments
  room l := first l.transfer |>.field l.streaming |>.field l.arguments

instance : Content DataOperation where
  content o := content o.id + content o.jobId + content o.executable + content o.arguments +
    content o.status + content o.connection + content o.link + content o.outcome
  room o := first o.id |>.field o.jobId |>.field o.executable |>.field o.arguments
    |>.field o.status |>.field o.connection |>.field o.link |>.field o.outcome

instance : Content JobStatistics where
  content s := content s.pendingTransfers + content s.inProgressTransfers +
    content s.finishedTransfers + content s.failedTransfers + content s.cancelledTransfers +
    content s.dataOperations + content s.limits
  room s := first s.pendingTransfers |>.field s.inProgressTransfers |>.field s.finishedTransfers
    |>.field s.failedTransfers |>.field s.cancelledTransfers |>.field s.dataOperations
    |>.field s.limits

/-! ## Messages -/

instance : Content Request where
  content
    | .ping => 0
    | .registerJob slurmId resources requirements => content slurmId + content resources +
      content requirements
    | .updateJob job resources requirements => content job + content resources +
      content requirements
    | .removeJob job => content job
    | .getJob job => content job
    | .query slurmId => content slurmId
    | .registerAdhocStorage name kind context resources => content name + content kind +
      content context + content resources
    | .updateAdhocStorage adhoc context caller => content adhoc + content context + content caller
    | .removeAdhocStorage adhoc caller => content adhoc + content caller
    | .getAdhocStorage adhoc => content adhoc
    | .deployAdhocStorage adhoc => content adhoc
    | .terminateAdhocStorage adhoc => content adhoc
    | .bindAdhocStorage adhoc job => content adhoc + content job
    | .unbindAdhocStorage adhoc => content adhoc
    | .currentClient adhoc => content adhoc
    | .registerPfsStorage name kind context => content name + content kind + content context
    | .updatePfsStorage pfs context => content pfs + content context
    | .removePfsStorage pfs => content pfs
    | .getPfsStorage pfs => content pfs
    | .transferDatasets job sources targets limits mapping => content job + content sources +
      content targets + content limits + content mapping
    | .getPendingTransfers job => content job
    | .setTransferPriority transfer delta => content transfer + content delta
    | .getTransferPriority transfer => content transfer
    | .cancelTransfer transfer => content transfer
    | .transferUpdate transfer status progress => content transfer + content status +
      content progress
    | .transferStatus transfer => content transfer
    | .waitTransfer transfer timeoutMs => content transfer + content timeoutMs
    | .setLimit job limit => content job + content limit
    | .getLimits job scope entity => content job + content scope + content entity
    | .removeLimits job entity limitClass => content job + content entity + content limitClass
    | .defineDataOperation job executable arguments => content job + content executable +
      content arguments
    | .connectDataOperation job operation connection => content job + content operation +
      content connection
    | .linkTransfer job operation link => content job + content operation + content link
    | .finalizeDataOperation job operation => content job + content operation
    | .getStatistics job => content job
    | .adhocDeploy adhoc kind context resources => content adhoc + content kind + content context +
      content resources
    | .adhocTerminate adhoc kind resources => content adhoc + content kind + content resources
    | .startTransfer transfer => content transfer
  room
    | .ping => Room.place 0
    | .registerJob slurmId resources requirements => choice 1 slurmId |>.field resources
      |>.field requirements
    | .updateJob job resources requirements => choice 2 job |>.field resources
      |>.field requirements
    | .removeJob job => choice 3 job
    | .getJob job => choice 4 job
    | .query slurmId => choice 5 slurmId
    | .registerAdhocStorage name kind context resources => choice 6 name |>.field kind
      |>.field context |>.field resources
    | .updateAdhocStorage adhoc context caller => choice 7 adhoc |>.field context |>.field caller
    | .removeAdhocStorage adhoc caller => choice 8 adhoc |>.field caller
    | .getAdhocStorage adhoc => choice 9 adhoc
    | .deployAdhocStorage adhoc => choice 10 adhoc
    | .terminateAdhocStorage adhoc => choice 11 adhoc
    | .bindAdhocStorage adhoc job => choice 12 adhoc |>.field job
    | .unbindAdhocStorage adhoc => choice 13 adhoc
    | .currentClient adhoc => choice 14 adhoc
    | .registerPfsStorage name kind context => choice 15 name |>.field kind |>.field context
    | .updatePfsStorage pfs context => choice 16 pfs |>.field context
    | .removePfsStorage pfs => choice 17 pfs
    | .getPfsStorage pfs => choice 18 pfs
    | .transferDatasets job sources targets limits mapping => choice 19 job |>.field sources
      |>.field targets |>.field limits |>.field mapping
    | .getPendingTransfers job => choice 20 job
    | .setTransferPriority transfer delta => choice 21 transfer |>.field delta
    | .getTransferPriority transfer => choice 22 transfer
    | .cancelTransfer transfer => choice 23 transfer
    | .transferUpdate transfer status progress => choice 24 transfer |>.field status
      |>.field progress
    | .transferStatus transfer => choice 25 transfer
    | .waitTransfer transfer timeoutMs => choice 26 transfer |>.field timeoutMs
    | .setLimit job limit => choice 27 job |>.field limit
    | .getLimits job scope entity => choice 28 job |>.field scope |>.field entity
    | .removeLimits job entity limitClass => choice 29 job |>.field entity |>.field limitClass
    -- the form of this one is put together from the last field on
    | .defineDataOperation job executable arguments => by
        have room := choice 30 job |>.field executable |>.field arguments
        rw [List.append_assoc, List.append_assoc] at room
        exact room
    | .connectDataOperation job operation connection => choice 31 job |>.field operation
      |>.field connection
    | .linkTransfer job operation link => choice 32 job |>.field operation |>.field link
    | .finalizeDataOperation job operation => choice 33 job |>.field operation
    | .getStatistics job => choice 34 job
    | .adhocDeploy adhoc kind context resources => choice 35 adhoc |>.field kind |>.field context
      |>.field resources
    | .adhocTerminate adhoc kind resources => choice 36 adhoc |>.field kind |>.field resources
    | .startTransfer transfer => choice 37 transfer

instance : Content Reply where
  content
    | .empty => 0
    | .job job => content job
    | .jobInfo info => content info
    | .adhocStorage storage => content storage
    | .pfsStorage storage => content storage
    | .mountPath path => content path
    | .client job => content job
    | .transfer transfer => content transfer
    | .transfers transfers => content transfers
    | .priority value => content value
    | .transferStatus status progress => content status + content progress
    | .limits limits => content limits
    | .removed count => content count
    | .dataOperation operation => content operation
    | .outcome outcome => content outcome
    | .statistics statistics => content statistics
  room
    | .empty => Room.place 0
    | .job job => choice 1 job
    | .jobInfo info => choice 2 info
    | .adhocStorage storage => choice 3 storage
    | .pfsStorage storage => choice 4 storage
    | .mountPath path => choice 5 path
    | .client job => choice 6 job
    | .transfer transfer => choice 7 transfer
    | .transfers transfers => choice 8 transfers
    | .priority value => choice 9 value
    | .transferStatus status progress => choice 10 status |>.field progress
    | .limits limits => choice 11 limits
    | .removed count => choice 12 count
    | .dataOperation operation => choice 13 operation
    | .outcome outcome => choice 14 outcome
    | .statistics statistics => choice 15 statistics

instance : Content Response where
  content r := content r.code + content r.message + content r.reply
  room r := first r.code |>.field r.message |>.field r.reply

/-! ## Accepted payloads -/

section Accepted

variable {α : Type} [Wire α] {payload : List UInt8} {a : α}

theorem ofPayload?_of_announces {count left : Nat}
    (announced : Decoder.Announces (decode : Decoder α) payload count left) (short : left < count) :
    ∃ e, ofPayload? (α := α) payload = .error e := by
  obtain ⟨e, failed⟩ := Decoder.error_of_announces announced short
  exact ⟨e, by rw [ofPayload?, failed]; rfl⟩

variable [TightWire α]

theorem ofPayload?_eq_ok (accepted : ofPayload? payload = .ok a) :
    ∃ used rest, payload = used ++ rest ∧ Padded used (encode a) := by
  cases read : decode (α := α) payload with
  | error e => simp [ofPayload?, read, Except.map] at accepted
  | ok step =>
      obtain rfl : step.1 = a := by simpa [ofPayload?, read, Except.map] using accepted
      obtain ⟨used, split, padded⟩ := decode_eq_ok read
      exact ⟨used, step.2, split, padded⟩

/-- A payload is the written form of its value, or it is longer. -/
theorem eq_or_length_lt_of_ofPayload? (accepted : ofPayload? payload = .ok a) :
    payload = encode a ∨ (encode a).length < payload.length := by
  obtain ⟨used, rest, rfl, padded⟩ := ofPayload?_eq_ok accepted
  rw [List.length_append]
  rcases padded.eq_or_length_lt with rfl | longer
  · rcases rest with _ | ⟨b, rest⟩
    · exact .inl (List.append_nil _)
    · exact .inr (by rw [List.length_cons]; omega)
  · exact .inr (by omega)

end Accepted

/-- What an accepted payload and its message have to do with each other. -/
structure NotExpanded {α : Type} [Wire α] [Content α] (payload : List UInt8) (a : α) : Prop where
  /-- Padded numbers, and bytes after the value, are all that is lost. -/
  slack : ∃ used rest, payload = used ++ rest ∧ Padded used (encode a)
  shorter : payload = encode a ∨ (encode a).length < payload.length
  holds : content a ≤ payload.length
  resent : ∀ stream rest, Frame.read stream = .ok (some (payload, rest)) →
    Frame.writeMessage a = .ok (Frame.frame (encode a)) ∧ (encode a).length ≤ Frame.limit

theorem notExpanded {α : Type} [Wire α] [TightWire α] [Content α] {payload : List UInt8} {a : α}
    (accepted : ofPayload? payload = .ok a) : NotExpanded payload a := by
  have shorter := eq_or_length_lt_of_ofPayload? accepted
  have most : (encode a).length ≤ payload.length :=
    shorter.elim (fun same => Nat.le_of_eq (congrArg List.length same.symm)) Nat.le_of_lt
  refine ⟨ofPayload?_eq_ok accepted, shorter, ?_, fun stream rest arrived => ?_⟩
  · exact Nat.le_of_lt (Nat.lt_of_lt_of_le (Content.room a) most)
  · have fits := Nat.le_trans most (Frame.read_eq_some.mp arrived).1
    exact ⟨Frame.write_eq_ok.mpr ⟨fits, rfl⟩, fits⟩

/-- What is accepted as a request or a response is its written form with some numbers padded and some
bytes after it, and it is longer if it is not the written form itself. The message has no more list
elements and text bytes than the payload has bytes, and if the payload came in a frame, the message
can be sent in a frame. A length that promises more than what is left of a payload is refused
wherever it stands. -/
theorem decoding_never_expands :
    (∀ (payload : List UInt8) (m : Request), ofPayload? payload = .ok m → NotExpanded payload m) ∧
    (∀ (payload : List UInt8) (m : Response), ofPayload? payload = .ok m → NotExpanded payload m) ∧
    (∀ (payload : List UInt8) (count left : Nat),
      Decoder.Announces (decode : Decoder Request) payload count left → left < count →
      ∃ e, ofPayload? (α := Request) payload = .error e) ∧
    ∀ (payload : List UInt8) (count left : Nat),
      Decoder.Announces (decode : Decoder Response) payload count left → left < count →
      ∃ e, ofPayload? (α := Response) payload = .error e :=
  ⟨fun _ _ => notExpanded, fun _ _ => notExpanded, fun _ _ _ => ofPayload?_of_announces,
    fun _ _ _ => ofPayload?_of_announces⟩

/-- A query with its number in two bytes and its place in three, with a byte after it, is accepted
and sent on in two bytes. A storage whose name is to have 200 bytes, of which two are there, is
refused. -/
theorem padded_query_shrinks :
    let payload : List UInt8 := [0x85, 0x80, 0x00, 0x87, 0x00, 0xff]
    (∃ m : Request, ofPayload? payload = .ok m ∧ Frame.writeMessage m = .ok [0, 0, 0, 2, 5, 7]) ∧
    ∃ e, ofPayload? (α := Request) [6, 0xc8, 0x01, 0x61, 0x62] = .error e := by
  intro payload
  obtain ⟨requests, -, lengths, -⟩ := decoding_never_expands
  refine ⟨⟨.query 7, rfl, ?_⟩, ?_⟩
  · have fits : payload.length ≤ Frame.limit := by decide
    exact ((requests payload (.query 7) rfl).resent _ _ (Frame.read_frame fits [])).1
  · have place := decodeNat32_encodeNat (n := 6) [0xc8, 0x01, 0x61, 0x62] (by decide)
    have size := decodeNat64_encodeNat (n := 200) [0x61, 0x62] (by decide)
    exact lengths _ 200 2 (.next place (.first (.text size))) (by decide)

end Wire

end StorageBroker
