import StorageBroker.Proofs.Wire.Slack
import StorageBroker.Wire.Model

/-! # Reading back the domain

A record is read back because its fields are, in the order in which they are written, and a choice
because the place of its constructor leads to the fields of that constructor. In the same order it
is seen that nothing is read but their forms, padded. -/

set_option autoImplicit false

namespace StorageBroker.Wire

open Decoder.Reads (start)
open Decoder.Tight (field place whole refused)

/-! ## Identifiers and enumerations -/

instance : LawfulWire JobId where
  reads | ⟨raw⟩ => start JobId |>.field raw |>.whole

instance : TightWire JobId where
  tight := field fun _ => whole

instance : LawfulWire AdhocId where
  reads | ⟨raw⟩ => start AdhocId |>.field raw |>.whole

instance : TightWire AdhocId where
  tight := field fun _ => whole

instance : LawfulWire PfsId where
  reads | ⟨raw⟩ => start PfsId |>.field raw |>.whole

instance : TightWire PfsId where
  tight := field fun _ => whole

instance : LawfulWire TransferId where
  reads | ⟨raw⟩ => start TransferId |>.field raw |>.whole

instance : TightWire TransferId where
  tight := field fun _ => whole

instance : LawfulWire OperationId where
  reads | ⟨raw⟩ => start OperationId |>.field raw |>.whole

instance : TightWire OperationId where
  tight := field fun _ => whole

instance : LawfulWire StatusCode :=
  lawful_enumeration (fun code => by cases code <;> decide) (by decide)

instance : TightWire StatusCode := tight_enumeration (by decide)

instance : LawfulWire NodeKind :=
  lawful_enumeration (fun kind => by cases kind <;> decide) (by decide)

instance : TightWire NodeKind := tight_enumeration (by decide)

instance : LawfulWire AdhocKind :=
  lawful_enumeration (fun kind => by cases kind <;> decide) (by decide)

instance : TightWire AdhocKind := tight_enumeration (by decide)

instance : LawfulWire ExecutionMode :=
  lawful_enumeration (fun mode => by cases mode <;> decide) (by decide)

instance : TightWire ExecutionMode := tight_enumeration (by decide)

instance : LawfulWire AccessMode :=
  lawful_enumeration (fun mode => by cases mode <;> decide) (by decide)

instance : TightWire AccessMode := tight_enumeration (by decide)

instance : LawfulWire PfsKind :=
  lawful_enumeration (fun kind => by cases kind <;> decide) (by decide)

instance : TightWire PfsKind := tight_enumeration (by decide)

instance : LawfulWire LimitScope :=
  lawful_enumeration (fun scope => by cases scope <;> decide) (by decide)

instance : TightWire LimitScope := tight_enumeration (by decide)

instance : LawfulWire LimitClass :=
  lawful_enumeration (fun limitClass => by cases limitClass <;> decide) (by decide)

instance : TightWire LimitClass := tight_enumeration (by decide)

instance : LawfulWire Mapping :=
  lawful_enumeration (fun mapping => by cases mapping <;> decide) (by decide)

instance : TightWire Mapping := tight_enumeration (by decide)

instance : LawfulWire TransferStatus :=
  lawful_enumeration (fun status => by cases status <;> decide) (by decide)

instance : TightWire TransferStatus := tight_enumeration (by decide)

instance : LawfulWire OperationStatus :=
  lawful_enumeration (fun status => by cases status <;> decide) (by decide)

instance : TightWire OperationStatus := tight_enumeration (by decide)

instance : LawfulWire OperationOutcome :=
  lawful_enumeration (fun outcome => by cases outcome <;> decide) (by decide)

instance : TightWire OperationOutcome := tight_enumeration (by decide)

/-! ## Jobs -/

instance : LawfulWire Node where
  reads | ⟨hostname, kind⟩ => start Node |>.field hostname |>.field kind |>.whole

instance : TightWire Node where
  tight := field fun _ => field fun _ => whole

instance : LawfulWire Dataset where
  reads | ⟨id⟩ => start Dataset |>.field id |>.whole

instance : TightWire Dataset where
  tight := field fun _ => whole

instance : LawfulWire DatasetRoute where
  reads | ⟨source, target⟩ => start DatasetRoute |>.field source |>.field target |>.whole

instance : TightWire DatasetRoute where
  tight := field fun _ => field fun _ => whole

instance : LawfulWire JobResources where
  reads | ⟨nodes⟩ => start JobResources |>.field nodes |>.whole

instance : TightWire JobResources where
  tight := field fun _ => whole

instance : LawfulWire JobRequirements where
  reads
    | ⟨inputs, outputs, expectedOutputs, adhocStorage⟩ =>
      start JobRequirements |>.field inputs |>.field outputs |>.field expectedOutputs
        |>.field adhocStorage |>.whole

instance : TightWire JobRequirements where
  tight := field fun _ => field fun _ => field fun _ => field fun _ => whole

instance : LawfulWire Job where
  reads
    | ⟨id, slurmId, resources, requirements⟩ =>
      start Job |>.field id |>.field slurmId |>.field resources |>.field requirements |>.whole

instance : TightWire Job where
  tight := field fun _ => field fun _ => field fun _ => field fun _ => whole

instance : LawfulWire JobInfo where
  reads
    | ⟨jobId, controllerAddress, ioProcs⟩ =>
      start JobInfo |>.field jobId |>.field controllerAddress |>.field ioProcs |>.whole

instance : TightWire JobInfo where
  tight := field fun _ => field fun _ => field fun _ => whole

/-! ## Storage -/

instance : LawfulWire AdhocContext where
  reads
    | ⟨controllerAddress, moverAddress, executionMode, accessMode, walltime, shouldFlush⟩ =>
      start AdhocContext |>.field controllerAddress |>.field moverAddress |>.field executionMode
        |>.field accessMode |>.field walltime |>.field shouldFlush |>.whole

instance : TightWire AdhocContext where
  tight :=
    field fun _ => field fun _ => field fun _ => field fun _ => field fun _ =>
      field fun _ => whole

instance : LawfulWire AdhocResources where
  reads | ⟨nodes⟩ => start AdhocResources |>.field nodes |>.whole

instance : TightWire AdhocResources where
  tight := field fun _ => whole

instance : LawfulWire AdhocStorage where
  reads
    | ⟨id, name, kind, context, resources, client, mountPath⟩ =>
      start AdhocStorage |>.field id |>.field name |>.field kind |>.field context |>.field resources
        |>.field client |>.field mountPath |>.whole

instance : TightWire AdhocStorage where
  tight :=
    field fun _ => field fun _ => field fun _ => field fun _ => field fun _ =>
      field fun _ => field fun _ => whole

instance : LawfulWire PfsContext where
  reads | ⟨mountPoint⟩ => start PfsContext |>.field mountPoint |>.whole

instance : TightWire PfsContext where
  tight := field fun _ => whole

instance : LawfulWire PfsStorage where
  reads
    | ⟨id, name, kind, context⟩ =>
      start PfsStorage |>.field id |>.field name |>.field kind |>.field context |>.whole

instance : TightWire PfsStorage where
  tight := field fun _ => field fun _ => field fun _ => field fun _ => whole

/-! ## Limits and transfers -/

instance : LawfulWire LimitEntity where
  reads
    | .dataset d => start LimitEntity |>.place 0 |>.field d |>.whole
    | .node hostname => start LimitEntity |>.place 1 |>.field hostname |>.whole
    | .job id => start LimitEntity |>.place 2 |>.field id |>.whole

instance : TightWire LimitEntity where
  tight := place fun
    | 0 => field fun _ => whole
    | 1 => field fun _ => whole
    | 2 => field fun _ => whole
    | _ + 3 => refused _

instance : LawfulWire Limit where
  reads
    | ⟨entity, limitClass, value⟩ =>
      start Limit |>.field entity |>.field limitClass |>.field value |>.whole

instance : TightWire Limit where
  tight := field fun _ => field fun _ => field fun _ => whole

instance : LawfulWire Progress where
  reads
    | ⟨bytesTransferred, totalBytes, error⟩ =>
      start Progress |>.field bytesTransferred |>.field totalBytes |>.field error |>.whole

instance : TightWire Progress where
  tight := field fun _ => field fun _ => field fun _ => whole

instance : LawfulWire Transfer where
  reads
    | ⟨id, jobId, sources, targets, limits, mapping, priority, status, progress⟩ =>
      start Transfer |>.field id |>.field jobId |>.field sources |>.field targets |>.field limits
        |>.field mapping |>.field priority |>.field status |>.field progress |>.whole

instance : TightWire Transfer where
  tight :=
    field fun _ => field fun _ => field fun _ => field fun _ => field fun _ =>
      field fun _ => field fun _ => field fun _ => field fun _ => whole

/-! ## Data operations -/

instance : LawfulWire Argument where
  reads
    | .int i => start Argument |>.place 0 |>.field i |>.whole
    | .uint n => start Argument |>.place 1 |>.field n |>.whole
    | .float f => start Argument |>.place 2 |>.field f |>.whole
    | .text s => start Argument |>.place 3 |>.field s |>.whole
    | .flag b => start Argument |>.place 4 |>.field b |>.whole

instance : TightWire Argument where
  tight := place fun
    | 0 => field fun _ => whole
    | 1 => field fun _ => whole
    | 2 => field fun _ => whole
    | 3 => field fun _ => whole
    | 4 => field fun _ => whole
    | _ + 5 => refused _

instance : LawfulWire Connection where
  reads
    | ⟨inputs, outputs, streaming, arguments⟩ =>
      start Connection |>.field inputs |>.field outputs |>.field streaming |>.field arguments
        |>.whole

instance : TightWire Connection where
  tight := field fun _ => field fun _ => field fun _ => field fun _ => whole

instance : LawfulWire Link where
  reads
    | ⟨transfer, streaming, arguments⟩ =>
      start Link |>.field transfer |>.field streaming |>.field arguments |>.whole

instance : TightWire Link where
  tight := field fun _ => field fun _ => field fun _ => whole

instance : LawfulWire DataOperation where
  reads
    | ⟨id, jobId, executable, arguments, status, connection, link, outcome⟩ =>
      start DataOperation |>.field id |>.field jobId |>.field executable |>.field arguments
        |>.field status |>.field connection |>.field link |>.field outcome |>.whole

instance : TightWire DataOperation where
  tight :=
    field fun _ => field fun _ => field fun _ => field fun _ => field fun _ =>
      field fun _ => field fun _ => field fun _ => whole

instance : LawfulWire JobStatistics where
  reads
    | ⟨pending, inProgress, finished, failed, cancelled, dataOperations, limits⟩ =>
      start JobStatistics |>.field pending |>.field inProgress |>.field finished |>.field failed
        |>.field cancelled |>.field dataOperations |>.field limits |>.whole

instance : TightWire JobStatistics where
  tight :=
    field fun _ => field fun _ => field fun _ => field fun _ => field fun _ =>
      field fun _ => field fun _ => whole

end StorageBroker.Wire
