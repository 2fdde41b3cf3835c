import StorageBroker.Proofs.Wire.Model
import StorageBroker.Wire.Message

/-! # Reading back messages

Requests and responses are read back from what is written, whatever bytes follow. So no two
messages are written alike, and none is written as the beginning of another one. -/

set_option autoImplicit false

namespace StorageBroker.Wire

open Decoder.Reads (start)
open Decoder.Tight (field place whole refused)

instance : LawfulWire Request where
  reads
    | .ping => start Request |>.place 0 |>.whole
    | .registerJob slurmId resources requirements => start Request |>.place 1 |>.field slurmId
        |>.field resources |>.field requirements |>.whole
    | .updateJob job resources requirements => start Request |>.place 2 |>.field job
        |>.field resources |>.field requirements |>.whole
    | .removeJob job => start Request |>.place 3 |>.field job |>.whole
    | .getJob job => start Request |>.place 4 |>.field job |>.whole
    | .query slurmId => start Request |>.place 5 |>.field slurmId |>.whole
    | .registerAdhocStorage name kind context resources => start Request |>.place 6 |>.field name
        |>.field kind |>.field context |>.field resources |>.whole
    | .updateAdhocStorage adhoc context caller => start Request |>.place 7 |>.field adhoc
        |>.field context |>.field caller |>.whole
    | .removeAdhocStorage adhoc caller => start Request |>.place 8 |>.field adhoc |>.field caller
        |>.whole
    | .getAdhocStorage adhoc => start Request |>.place 9 |>.field adhoc |>.whole
    | .deployAdhocStorage adhoc => start Request |>.place 10 |>.field adhoc |>.whole
    | .terminateAdhocStorage adhoc => start Request |>.place 11 |>.field adhoc |>.whole
    | .bindAdhocStorage adhoc job => start Request |>.place 12 |>.field adhoc |>.field job |>.whole
    | .unbindAdhocStorage adhoc => start Request |>.place 13 |>.field adhoc |>.whole
    | .currentClient adhoc => start Request |>.place 14 |>.field adhoc |>.whole
    | .registerPfsStorage name kind context => start Request |>.place 15 |>.field name |>.field kind
        |>.field context |>.whole
    | .updatePfsStorage pfs context => start Request |>.place 16 |>.field pfs |>.field context
        |>.whole
    | .removePfsStorage pfs => start Request |>.place 17 |>.field pfs |>.whole
    | .getPfsStorage pfs => start Request |>.place 18 |>.field pfs |>.whole
    | .transferDatasets job sources targets limits mapping => start Request |>.place 19 |>.field job
        |>.field sources |>.field targets |>.field limits |>.field mapping |>.whole
    | .getPendingTransfers job => start Request |>.place 20 |>.field job |>.whole
    | .setTransferPriority transfer delta => start Request |>.place 21 |>.field transfer
        |>.field delta |>.whole
    | .getTransferPriority transfer => start Request |>.place 22 |>.field transfer |>.whole
    | .cancelTransfer transfer => start Request |>.place 23 |>.field transfer |>.whole
    | .transferUpdate transfer status progress => start Request |>.place 24 |>.field transfer
        |>.field status |>.field progress |>.whole
    | .transferStatus transfer => start Request |>.place 25 |>.field transfer |>.whole
    | .waitTransfer transfer timeoutMs => start Request |>.place 26 |>.field transfer
        |>.field timeoutMs |>.whole
    | .setLimit job limit => start Request |>.place 27 |>.field job |>.field limit |>.whole
    | .getLimits job scope entity => start Request |>.place 28 |>.field job |>.field scope
        |>.field entity |>.whole
    | .removeLimits job entity limitClass => start Request |>.place 29 |>.field job |>.field entity
        |>.field limitClass |>.whole
    -- the fields of this one are put together from the last one on
    | .defineDataOperation job executable arguments =>
      start Request |>.place 30 |>.field job |>.field executable |>.field arguments
        |>.whole (by rw [List.append_assoc, List.append_assoc]; rfl)
    | .connectDataOperation job operation connection => start Request |>.place 31 |>.field job
        |>.field operation |>.field connection |>.whole
    | .linkTransfer job operation link => start Request |>.place 32 |>.field job |>.field operation
        |>.field link |>.whole
    | .finalizeDataOperation job operation => start Request |>.place 33 |>.field job
        |>.field operation |>.whole
    | .getStatistics job => start Request |>.place 34 |>.field job |>.whole
    | .adhocDeploy adhoc kind context resources => start Request |>.place 35 |>.field adhoc
        |>.field kind |>.field context |>.field resources |>.whole
    | .adhocTerminate adhoc kind resources => start Request |>.place 36 |>.field adhoc |>.field kind
        |>.field resources |>.whole
    | .startTransfer transfer => start Request |>.place 37 |>.field transfer |>.whole

instance : TightWire Request where
  tight := place fun
    | 0 => whole
    | 1 => field fun _ => field fun _ => field fun _ => whole
    | 2 => field fun _ => field fun _ => field fun _ => whole
    | 3 => field fun _ => whole
    | 4 => field fun _ => whole
    | 5 => field fun _ => whole
    | 6 => field fun _ => field fun _ => field fun _ => field fun _ => whole
    | 7 => field fun _ => field fun _ => field fun _ => whole
    | 8 => field fun _ => field fun _ => whole
    | 9 => field fun _ => whole
    | 10 => field fun _ => whole
    | 11 => field fun _ => whole
    | 12 => field fun _ => field fun _ => whole
    | 13 => field fun _ => whole
    | 14 => field fun _ => whole
    | 15 => field fun _ => field fun _ => field fun _ => whole
    | 16 => field fun _ => field fun _ => whole
    | 17 => field fun _ => whole
    | 18 => field fun _ => whole
    | 19 => field fun _ => field fun _ => field fun _ => field fun _ => field fun _ => whole
    | 20 => field fun _ => whole
    | 21 => field fun _ => field fun _ => whole
    | 22 => field fun _ => whole
    | 23 => field fun _ => whole
    | 24 => field fun _ => field fun _ => field fun _ => whole
    | 25 => field fun _ => whole
    | 26 => field fun _ => field fun _ => whole
    | 27 => field fun _ => field fun _ => whole
    | 28 => field fun _ => field fun _ => field fun _ => whole
    | 29 => field fun _ => field fun _ => field fun _ => whole
    | 30 => field fun _ => field fun _ => field fun _ =>
      whole (by rw [List.append_assoc, List.append_assoc]; rfl)
    | 31 => field fun _ => field fun _ => field fun _ => whole
    | 32 => field fun _ => field fun _ => field fun _ => whole
    | 33 => field fun _ => field fun _ => whole
    | 34 => field fun _ => whole
    | 35 => field fun _ => field fun _ => field fun _ => field fun _ => whole
    | 36 => field fun _ => field fun _ => field fun _ => whole
    | 37 => field fun _ => whole
    | _ + 38 => refused _

instance : LawfulWire Reply where
  reads
    | .empty => start Reply |>.place 0 |>.whole
    | .job job => start Reply |>.place 1 |>.field job |>.whole
    | .jobInfo info => start Reply |>.place 2 |>.field info |>.whole
    | .adhocStorage storage => start Reply |>.place 3 |>.field storage |>.whole
    | .pfsStorage storage => start Reply |>.place 4 |>.field storage |>.whole
    | .mountPath path => start Reply |>.place 5 |>.field path |>.whole
    | .client job => start Reply |>.place 6 |>.field job |>.whole
    | .transfer transfer => start Reply |>.place 7 |>.field transfer |>.whole
    | .transfers transfers => start Reply |>.place 8 |>.field transfers |>.whole
    | .priority value => start Reply |>.place 9 |>.field value |>.whole
    | .transferStatus status progress => start Reply |>.place 10 |>.field status |>.field progress
        |>.whole
    | .limits limits => start Reply |>.place 11 |>.field limits |>.whole
    | .removed count => start Reply |>.place 12 |>.field count |>.whole
    | .dataOperation operation => start Reply |>.place 13 |>.field operation |>.whole
    | .outcome outcome => start Reply |>.place 14 |>.field outcome |>.whole
    | .statistics statistics => start Reply |>.place 15 |>.field statistics |>.whole

instance : TightWire Reply where
  tight := place fun
    | 0 => whole
    | 1 => field fun _ => whole
    | 2 => field fun _ => whole
    | 3 => field fun _ => whole
    | 4 => field fun _ => whole
    | 5 => field fun _ => whole
    | 6 => field fun _ => whole
    | 7 => field fun _ => whole
    | 8 => field fun _ => whole
    | 9 => field fun _ => whole
    | 10 => field fun _ => field fun _ => whole
    | 11 => field fun _ => whole
    | 12 => field fun _ => whole
    | 13 => field fun _ => whole
    | 14 => field fun _ => whole
    | 15 => field fun _ => whole
    | _ + 16 => refused _

instance : LawfulWire Response where
  reads
    | ⟨code, message, reply⟩ =>
      start Response |>.field code |>.field message |>.field reply |>.whole

instance : TightWire Response where
  tight := field fun _ => field fun _ => field fun _ => whole

theorem ofPayload?_encode {α : Type} [Wire α] [LawfulWire α] (a : α) (rest : List UInt8)
    (short : (encode a).length < UInt64.size) : ofPayload? (encode a ++ rest) = .ok a := by
  unfold ofPayload?
  rw [decode_encode a rest short]
  rfl

/-- Every request and every response is read back as it was, whatever bytes follow, and it is
written as the beginning of another message only if the two are the same. A message must be short
enough for its length to be said in 64 bits. -/
theorem messages_read_back :
    (∀ (m : Request) (rest : List UInt8), (encode m).length < UInt64.size →
      decode (encode m ++ rest) = .ok (m, rest) ∧ ofPayload? (encode m ++ rest) = .ok m) ∧
    (∀ (m : Response) (rest : List UInt8), (encode m).length < UInt64.size →
      decode (encode m ++ rest) = .ok (m, rest) ∧ ofPayload? (encode m ++ rest) = .ok m) ∧
    (∀ m m' : Request, (encode m').length < UInt64.size → (encode m <+: encode m' ↔ m = m')) ∧
    ∀ m m' : Response, (encode m').length < UInt64.size → (encode m <+: encode m' ↔ m = m') := by
  refine ⟨?_, ?_, ?_, ?_⟩
  · intro m rest short
    exact ⟨decode_encode m rest short, ofPayload?_encode m rest short⟩
  · intro m rest short
    exact ⟨decode_encode m rest short, ofPayload?_encode m rest short⟩
  · intro m m' short
    exact isPrefix_iff m short
  · intro m m' short
    exact isPrefix_iff m short

/-- A request with numbers of all widths, a negative one, a signalling float and a text with bytes
of more than seven bits is read back from among other bytes. -/
theorem odd_arguments_read_back :
    let m : Request := .defineDataOperation ⟨18446744073709551615⟩ "/bin/größe"
      [.float ⟨0x7ff4000000000001⟩, .int (-9223372036854775808), .uint 128, .text "", .flag true]
    (encode m).length < UInt64.size ∧ decode (encode m ++ [0xff, 0]) = .ok (m, [0xff, 0]) ∧
      ofPayload? (encode m ++ [0xff, 0]) = .ok m := by
  intro m
  have short : (encode m).length < UInt64.size := by decide
  exact ⟨short, messages_read_back.1 m [0xff, 0] short⟩

end StorageBroker.Wire
