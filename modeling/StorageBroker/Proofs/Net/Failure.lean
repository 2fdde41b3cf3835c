import StorageBroker.Proofs.Net.Pairing

/-! # What the failure of a call says

A call fails by what its peer does instead of giving the reply that the call is for, or by what
happens on its own side. Each fault of a peer has its status code, and no failed call has the code
of a success. -/

set_option autoImplicit false

namespace StorageBroker

/-! ## Faults of a peer -/

/-- A reply of the form that a request is for. -/
def Request.Expects : Request → Reply → Prop
  | .adhocDeploy .., reply => ∃ path, reply = .mountPath path
  | _, reply => reply = .empty

/-- What a peer can send instead of the reply that a request is for, and the status code that stands
for it. -/
inductive Fault (request : Request) (stream : List UInt8) (closes : Bool) : StatusCode → Prop
  | refused {payload rest : List UInt8} {response : Response}
      (whole : stream = Frame.frame payload ++ rest) (fits : payload.length ≤ Frame.limit)
      (decoded : Wire.ofPayload? payload = .ok response) (fails : response.code ≠ .success) :
      Fault request stream closes response.code
  | wrongReply {payload rest : List UInt8} {response : Response}
      (whole : stream = Frame.frame payload ++ rest) (fits : payload.length ≤ Frame.limit)
      (decoded : Wire.ofPayload? payload = .ok response) (succeeds : response.code = .success)
      (unexpected : ¬ request.Expects response.reply) : Fault request stream closes .undetermined
  | undecodable {payload rest : List UInt8} {e : WireError}
      (whole : stream = Frame.frame payload ++ rest) (fits : payload.length ≤ Frame.limit)
      (garbled : Wire.ofPayload? (α := Response) payload = .error e) :
      Fault request stream closes .undetermined
  | oversized {size : Nat} {rest : List UInt8} (announced : stream = Frame.header size ++ rest)
      (large : Frame.limit < size) (word : size < 4294967296) :
      Fault request stream closes .badArguments
  | closedEarly (closed : closes = true) (short : stream.length < 4) :
      Fault request stream closes .undetermined
  | closedMidway {size : Nat} {rest : List UInt8} (closed : closes = true)
      (announced : stream = Frame.header size ++ rest) (fits : size ≤ Frame.limit)
      (short : rest.length < size) : Fault request stream closes .undetermined

/-- The fault of a peer in a call over a connection: what there is to be read once it has made its
move. On a connection that it has closed before, this is what it had sent by then. -/
def Client.Attempt.Fault (next : Client.Attempt) (channel : Channel) (code : StatusCode) : Prop :=
  StorageBroker.Fault next.request (channel.after next.move).unread (channel.after next.move).closed
    code

theorem Request.read_expected {request : Request} {reply : Reply} (expected : request.Expects reply) :
    ∃ text, request.read reply = .ok text := by
  cases request with
  | adhocDeploy adhoc kind context resources =>
      obtain ⟨path, rfl⟩ := expected
      exact ⟨path, rfl⟩
  | _ =>
      obtain rfl := expected
      exact ⟨"", rfl⟩

theorem Request.read_unexpected {request : Request} {reply : Reply}
    (unexpected : ¬ request.Expects reply) :
    ∃ text, request.read reply = .error (.unexpectedReply text) := by
  cases request with
  | adhocDeploy adhoc kind context resources =>
      cases reply with
      | mountPath path => exact absurd ⟨path, rfl⟩ unexpected
      | _ => exact ⟨_, rfl⟩
  | _ =>
      cases reply with
      | empty => exact absurd rfl unexpected
      | _ => exact ⟨_, rfl⟩

/-- What a call gives by a fault of its peer: an error with the code of the fault. -/
def Request.Fails (request : Request) (result : CallResult) (code : StatusCode) : Prop :=
  ∃ r e, result = some r ∧ request.told r = .error e ∧ e.code = code

theorem Request.fails_of_error {request : Request} (e : NetError) :
    request.Fails (some (.error e)) e.code :=
  ⟨_, e, rfl, rfl, rfl⟩

theorem Request.fails_of_refusal {request : Request} {response : Response}
    (fails : response.code ≠ .success) :
    request.Fails (some (.ok response)) response.code := by
  refine ⟨_, .remote response.code (response.message.getD ""), rfl, ?_, rfl⟩
  simp only [told, Except.bind, Response.outcome, if_neg fails]

theorem Request.fails_of_unexpected {request : Request} {response : Response}
    (succeeds : response.code = .success) (unexpected : ¬ request.Expects response.reply) :
    request.Fails (some (.ok response)) .undetermined := by
  obtain ⟨text, read⟩ := read_unexpected unexpected
  refine ⟨_, .unexpectedReply text, rfl, ?_, rfl⟩
  simp only [told, Except.bind, Response.outcome, if_pos succeeds, read]

namespace Client

/-- What is read from the stream of a peer at fault. -/
theorem readResponse_of_fault {request : Request} {channel : Channel} {code : StatusCode}
    (fault : Fault request channel.unread channel.closed code) :
    request.Fails ((readResponse channel).map (Except.map Prod.fst)) code := by
  unfold readResponse
  cases fault with
  | @refused payload rest response whole fits decoded fails =>
      rw [whole, Frame.read_frame fits rest]
      simp only [decoded]
      exact Request.fails_of_refusal fails
  | @wrongReply payload rest response whole fits decoded succeeds unexpected =>
      rw [whole, Frame.read_frame fits rest]
      simp only [decoded]
      exact Request.fails_of_unexpected succeeds unexpected
  | @undecodable payload rest e whole fits garbled =>
      rw [whole, Frame.read_frame fits rest]
      simp only [garbled]
      exact Request.fails_of_error (.ofWire e)
  | @oversized size rest announced large word =>
      rw [announced, Frame.read_oversized large word rest]
      exact Request.fails_of_error (.frameTooLarge size Frame.limit)
  | closedEarly closed short =>
      rw [Frame.read_of_short short, closed]
      exact Request.fails_of_error .closed
  | @closedMidway size rest closed announced fits short =>
      rw [announced, Frame.read_incomplete fits short, closed]
      exact Request.fails_of_error (.io .earlyEof)

theorem exchange_of_fault {next : Attempt} {channel : Channel} {code : StatusCode}
    (uncut : next.cut = none) (fits : (Wire.encode next.request).length ≤ Frame.limit)
    (fault : next.Fault channel code) :
    next.request.Fails (exchange channel next.request next.move next.cut).1 code := by
  have written : Frame.writeMessage next.request = .ok (Frame.frame (Wire.encode next.request)) :=
    Frame.write_eq_ok.mpr ⟨fits, rfl⟩
  have unhindered : ∀ point, Interruption.resultAt? next.cut point = none := by
    intro point
    rw [uncut]
    rfl
  have failed := readResponse_of_fault fault
  simp only [exchange, written, unhindered]
  generalize readResponse (channel.after next.move) = given at failed ⊢
  cases given with
  | none =>
      obtain ⟨r, e, gave, -⟩ := failed
      exact nomatch gave
  | some result => cases result <;> exact failed

/-- A call that nothing cuts short fails by a fault of its peer with the code of the fault. -/
theorem Attempt.report_of_fault {s : Dialogue} {next : Attempt} {channel : Channel}
    {accepted : Nat} {code : StatusCode} (uncut : next.cut = none)
    (takes : s.Takes next channel accepted)
    (fits : (Wire.encode next.request).length ≤ Frame.limit) (fault : next.Fault channel code) :
    next.request.Fails (next.report s).result code := by
  have taken : takeChannel s.client next.network s.accepted next.cut = .ok (channel, accepted) := by
    unfold takeChannel
    cases takes with
    | kept kept => rw [kept]
    | opened none connects =>
        obtain ⟨unhindered, peer, connected⟩ := connects
        simp only [none, unhindered, connected]
  have turn : next.cut ≠ some .early := by
    rw [uncut]
    simp
  unfold report call
  rw [if_neg turn, taken]
  exact exchange_of_fault uncut fits fault

end Client

/-! ## No failure looks like a success -/

/-- An error that does not come out of a response. -/
def NetError.isOwn : NetError → Bool
  | .remote _ _ => false
  | _ => true

theorem NetError.code_of_own {e : NetError} (own : e.isOwn = true) : e.code ≠ .success := by
  cases e with
  | remote code message => exact nomatch own
  | io e => cases e <;> simp [code]
  | serialization | frameTooLarge | closed | unexpectedReply | unresolved => simp [code]

theorem Frame.read_error_own {bytes : List UInt8} {e : NetError} (failed : read bytes = .error e) :
    e.isOwn = true := by
  cases announced : announced? bytes with
  | none =>
      rw [read_of_short (announced?_eq_none.mp announced)] at failed
      cases failed
  | some size =>
      simp only [read, pull, announced] at failed
      split at failed
      · exact Except.error.inj failed ▸ rfl
      · split at failed
        · exact Except.error.inj failed ▸ rfl
        · cases failed

namespace Client

/-- A result that is no error but one of the side of the call itself. -/
def CallResult.Own (result : CallResult) : Prop :=
  ∀ e, result = some (.error e) → e.isOwn = true

theorem own_of_cut {cut : Option Interruption} {point : CallPoint} {result : CallResult}
    (cuts : Interruption.resultAt? cut point = some result) : CallResult.Own result := by
  rintro e rfl
  unfold Interruption.resultAt? at cuts
  split at cuts
  · split at cuts <;> simp at cuts
  · split at cuts
    · simp only [Option.some.injEq, Except.error.injEq] at cuts
      exact cuts ▸ rfl
    · simp at cuts
  · simp at cuts
  · simp at cuts

theorem own_of_readResponse {channel : Channel} {e : NetError}
    (failed : readResponse channel = some (.error e)) : e.isOwn = true := by
  unfold readResponse at failed
  cases read : Frame.read channel.unread with
  | error found =>
      have own := Frame.read_error_own read
      rw [read] at failed
      cases found with
      | io e =>
          simp only at failed
          split at failed
          · exact Except.error.inj (Option.some.inj failed) ▸ rfl
          · exact nomatch failed
      | _ => exact Except.error.inj (Option.some.inj failed) ▸ own
  | ok front =>
      rw [read] at failed
      cases front with
      | none =>
          simp only at failed
          split at failed
          · exact Except.error.inj (Option.some.inj failed) ▸ rfl
          · exact nomatch failed
      | some front =>
          simp only at failed
          split at failed
          · exact Except.error.inj (Option.some.inj failed) ▸ rfl
          · exact nomatch failed

theorem own_of_exchange (channel : Channel) (next : Attempt) :
    CallResult.Own (exchange channel next.request next.move next.cut).1 := by
  unfold exchange
  cases written : Frame.writeMessage next.request with
  | error found =>
      rintro e ⟨⟩
      obtain ⟨-, rfl⟩ := Frame.write_eq_error.mp written
      rfl
  | ok frame =>
      simp only
      split
      · exact own_of_cut ‹_›
      · split
        · exact own_of_cut ‹_›
        · split
          · rintro e ⟨⟩
          · rintro e ⟨⟩
            exact own_of_readResponse ‹_›
          · rintro e ⟨⟩

theorem own_of_takeChannel {s : Dialogue} {next : Attempt} {result : CallResult}
    (failed : takeChannel s.client next.network s.accepted next.cut = .error result) :
    CallResult.Own result := by
  unfold takeChannel at failed
  split at failed
  · exact nomatch failed
  · split at failed
    · obtain rfl := Except.error.inj failed
      exact own_of_cut ‹_›
    · split at failed
      · obtain rfl := Except.error.inj failed
        rintro e ⟨⟩
        rfl
      · exact nomatch failed

/-- A call never gives an error that a peer reports: such an error is read from a response. -/
theorem Attempt.own_of_report (s : Dialogue) (next : Attempt) :
    CallResult.Own (next.report s).result := by
  unfold report call
  split
  · rintro e ⟨⟩
  · split
    · exact own_of_takeChannel ‹_›
    · exact own_of_exchange _ next

/-- Whatever a peer does and whatever happens to a call, its failure has the code of a failure. -/
theorem Attempt.failure_code {s : Dialogue} {next : Attempt} {r : Except NetError Response}
    {e : NetError} (gave : (next.report s).result = some r)
    (failed : next.request.told r = .error e) : e.code ≠ .success := by
  cases r with
  | error found =>
      obtain rfl := Except.error.inj failed
      exact NetError.code_of_own (own_of_report s next found gave)
  | ok response =>
      simp only [Request.told, Except.bind, Response.outcome] at failed
      by_cases succeeds : response.code = .success
      · rw [if_pos succeeds] at failed
        by_cases expected : next.request.Expects response.reply
        · obtain ⟨text, read⟩ := Request.read_expected expected
          exact nomatch read.symm.trans failed
        · obtain ⟨text, read⟩ := Request.read_unexpected expected
          obtain rfl := Except.error.inj (read.symm.trans failed)
          exact NetError.code_of_own rfl
      · rw [if_neg succeeds] at failed
        obtain rfl := Except.error.inj failed
        exact succeeds

end Client

end StorageBroker
