import StorageBroker.Message.Request
import StorageBroker.Wire.Model

/-! # Written forms of requests and responses

Each is written as the place of its constructor and then the constructor's fields. -/

set_option autoImplicit false

namespace StorageBroker.Wire

instance : Wire Request where
  encode
    | .ping => encodeNat 0
    | .registerJob slurmId resources requirements =>
      encodeNat 1 ++ encode slurmId ++ encode resources ++ encode requirements
    | .updateJob job resources requirements =>
      encodeNat 2 ++ encode job ++ encode resources ++ encode requirements
    | .removeJob job => encodeNat 3 ++ encode job
    | .getJob job => encodeNat 4 ++ encode job
    | .query slurmId => encodeNat 5 ++ encode slurmId
    | .registerAdhocStorage name kind context resources =>
      encodeNat 6 ++ encode name ++ encode kind ++ encode context ++ encode resources
    | .updateAdhocStorage adhoc context caller =>
      encodeNat 7 ++ encode adhoc ++ encode context ++ encode caller
    | .removeAdhocStorage adhoc caller => encodeNat 8 ++ encode adhoc ++ encode caller
    | .getAdhocStorage adhoc => encodeNat 9 ++ encode adhoc
    | .deployAdhocStorage adhoc => encodeNat 10 ++ encode adhoc
    | .terminateAdhocStorage adhoc => encodeNat 11 ++ encode adhoc
    | .bindAdhocStorage adhoc job => encodeNat 12 ++ encode adhoc ++ encode job
    | .unbindAdhocStorage adhoc => encodeNat 13 ++ encode adhoc
    | .currentClient adhoc => encodeNat 14 ++ encode adhoc
    | .registerPfsStorage name kind context =>
      encodeNat 15 ++ encode name ++ encode kind ++ encode context
    | .updatePfsStorage pfs context => encodeNat 16 ++ encode pfs ++ encode context
    | .removePfsStorage pfs => encodeNat 17 ++ encode pfs
    | .getPfsStorage pfs => encodeNat 18 ++ encode pfs
    | .transferDatasets job sources targets limits mapping =>
      encodeNat 19 ++ encode job ++ encode sources ++ encode targets ++ encode limits ++
        encode mapping
    | .getPendingTransfers job => encodeNat 20 ++ encode job
    | .setTransferPriority transfer delta => encodeNat 21 ++ encode transfer ++ encode delta
    | .getTransferPriority transfer => encodeNat 22 ++ encode transfer
    | .cancelTransfer transfer => encodeNat 23 ++ encode transfer
    | .transferUpdate transfer status progress =>
      encodeNat 24 ++ encode transfer ++ encode status ++ encode progress
    | .transferStatus transfer => encodeNat 25 ++ encode transfer
    | .waitTransfer transfer timeoutMs => encodeNat 26 ++ encode transfer ++ encode timeoutMs
    | .setLimit job limit => encodeNat 27 ++ encode job ++ encode limit
    | .getLimits job scope entity => encodeNat 28 ++ encode job ++ encode scope ++ encode entity
    | .removeLimits job entity limitClass =>
      encodeNat 29 ++ encode job ++ encode entity ++ encode limitClass
    | .defineDataOperation job executable arguments =>
      encodeNat 30 ++ (encode job ++ (encode executable ++ encode arguments))
    | .connectDataOperation job operation connection =>
      encodeNat 31 ++ encode job ++ encode operation ++ encode connection
    | .linkTransfer job operation link =>
      encodeNat 32 ++ encode job ++ encode operation ++ encode link
    | .finalizeDataOperation job operation => encodeNat 33 ++ encode job ++ encode operation
    | .getStatistics job => encodeNat 34 ++ encode job
    | .adhocDeploy adhoc kind context resources =>
      encodeNat 35 ++ encode adhoc ++ encode kind ++ encode context ++ encode resources
    | .adhocTerminate adhoc kind resources =>
      encodeNat 36 ++ encode adhoc ++ encode kind ++ encode resources
    | .startTransfer transfer => encodeNat 37 ++ encode transfer
  decode := do
    match ← decodeNat32 with
    | 0 => return .ping
    | 1 => return .registerJob (← decode) (← decode) (← decode)
    | 2 => return .updateJob (← decode) (← decode) (← decode)
    | 3 => return .removeJob (← decode)
    | 4 => return .getJob (← decode)
    | 5 => return .query (← decode)
    | 6 => return .registerAdhocStorage (← decode) (← decode) (← decode) (← decode)
    | 7 => return .updateAdhocStorage (← decode) (← decode) (← decode)
    | 8 => return .removeAdhocStorage (← decode) (← decode)
    | 9 => return .getAdhocStorage (← decode)
    | 10 => return .deployAdhocStorage (← decode)
    | 11 => return .terminateAdhocStorage (← decode)
    | 12 => return .bindAdhocStorage (← decode) (← decode)
    | 13 => return .unbindAdhocStorage (← decode)
    | 14 => return .currentClient (← decode)
    | 15 => return .registerPfsStorage (← decode) (← decode) (← decode)
    | 16 => return .updatePfsStorage (← decode) (← decode)
    | 17 => return .removePfsStorage (← decode)
    | 18 => return .getPfsStorage (← decode)
    | 19 => return .transferDatasets (← decode) (← decode) (← decode) (← decode) (← decode)
    | 20 => return .getPendingTransfers (← decode)
    | 21 => return .setTransferPriority (← decode) (← decode)
    | 22 => return .getTransferPriority (← decode)
    | 23 => return .cancelTransfer (← decode)
    | 24 => return .transferUpdate (← decode) (← decode) (← decode)
    | 25 => return .transferStatus (← decode)
    | 26 => return .waitTransfer (← decode) (← decode)
    | 27 => return .setLimit (← decode) (← decode)
    | 28 => return .getLimits (← decode) (← decode) (← decode)
    | 29 => return .removeLimits (← decode) (← decode) (← decode)
    | 30 => return .defineDataOperation (← decode) (← decode) (← decode)
    | 31 => return .connectDataOperation (← decode) (← decode) (← decode)
    | 32 => return .linkTransfer (← decode) (← decode) (← decode)
    | 33 => return .finalizeDataOperation (← decode) (← decode)
    | 34 => return .getStatistics (← decode)
    | 35 => return .adhocDeploy (← decode) (← decode) (← decode) (← decode)
    | 36 => return .adhocTerminate (← decode) (← decode) (← decode)
    | 37 => return .startTransfer (← decode)
    | _ => Decoder.fail .unknownVariant

instance : Wire Reply where
  encode
    | .empty => encodeNat 0
    | .job job => encodeNat 1 ++ encode job
    | .jobInfo info => encodeNat 2 ++ encode info
    | .adhocStorage storage => encodeNat 3 ++ encode storage
    | .pfsStorage storage => encodeNat 4 ++ encode storage
    | .mountPath path => encodeNat 5 ++ encode path
    | .client job => encodeNat 6 ++ encode job
    | .transfer transfer => encodeNat 7 ++ encode transfer
    | .transfers transfers => encodeNat 8 ++ encode transfers
    | .priority value => encodeNat 9 ++ encode value
    | .transferStatus status progress => encodeNat 10 ++ encode status ++ encode progress
    | .limits limits => encodeNat 11 ++ encode limits
    | .removed count => encodeNat 12 ++ encode count
    | .dataOperation operation => encodeNat 13 ++ encode operation
    | .outcome outcome => encodeNat 14 ++ encode outcome
    | .statistics statistics => encodeNat 15 ++ encode statistics
  decode := do
    match ← decodeNat32 with
    | 0 => return .empty
    | 1 => return .job (← decode)
    | 2 => return .jobInfo (← decode)
    | 3 => return .adhocStorage (← decode)
    | 4 => return .pfsStorage (← decode)
    | 5 => return .mountPath (← decode)
    | 6 => return .client (← decode)
    | 7 => return .transfer (← decode)
    | 8 => return .transfers (← decode)
    | 9 => return .priority (← decode)
    | 10 => return .transferStatus (← decode) (← decode)
    | 11 => return .limits (← decode)
    | 12 => return .removed (← decode)
    | 13 => return .dataOperation (← decode)
    | 14 => return .outcome (← decode)
    | 15 => return .statistics (← decode)
    | _ => Decoder.fail .unknownVariant

instance : Wire Response where
  encode r := encode r.code ++ encode r.message ++ encode r.reply
  decode := do return ⟨← decode, ← decode, ← decode⟩

/-- Reads a whole payload; bytes after the value are ignored. -/
def ofPayload? {α : Type} [Wire α] (payload : List UInt8) : Except WireError α :=
  (decode (α := α) payload).map Prod.fst

end StorageBroker.Wire
