import StorageBroker.Proofs.Net.Gate
import StorageBroker.Proofs.Service.Ending
import StorageBroker.Proofs.Wire.Message

/-! # Every request is answered, if its answer fits

A connection of a service that is shared with others is answered payload by payload: each one has
exactly one response, written before the next payload is read. Only a response that is too large for
a frame ends the connection, and then the service has changed without an answer. -/

set_option autoImplicit false

namespace StorageBroker

namespace Shared

/-- What a payload is answered with, and what is left then: a refusal that changes nothing, or the
response to a request, worded from the result that its call has come to. -/
inductive Answers (s : Shared) (payload : List UInt8) : Response → Shared → Prop
  | refused {text : String} (refuses : Server.admitted? payload = none)
      (short : text.utf8ByteSize ≤ 100) : Answers s payload (.error .badArguments text) s
  | handled {request : Request} {events : List Event} {result : Except ServiceError Reply}
      (admits : Server.admitted? payload = some request)
      (ended : (s.machine.run (.call (.request request) :: events)).outcome? s.machine.started =
        some (.reply result)) :
      Answers s payload (.ofResult result)
        ⟨s.machine.run (.call (.request request) :: events), s.ahead.tail⟩

/-- Each payload is answered in turn, with responses that fit into frames. -/
inductive AnswersAll : Shared → List (List UInt8) → List Response → Shared → Prop
  | none (s : Shared) : AnswersAll s [] [] s
  | next {s next last : Shared} {payload : List UInt8} {response : Response}
      {payloads : List (List UInt8)} {responses : List Response}
      (answers : s.Answers payload response next)
      (fits : (Wire.encode response).length ≤ Frame.limit)
      (rest : AnswersAll next payloads responses last) :
      AnswersAll s (payload :: payloads) (response :: responses) last

theorem respond_answers {s : Shared} (tidy : s.machine.Tidy) (payload : List UInt8) :
    s.Answers payload (Server.respond handle s payload).1
      (Server.respond handle s payload).2 := by
  unfold Server.respond
  rcases Server.received_outcome payload with
    ⟨request, admits, received⟩ | ⟨text, short, refuses, received⟩
  · obtain ⟨events, result, ended, handled⟩ := handle_ends tidy request
    rw [received, Server.answer, handled]
    exact .handled admits ended
  · rw [received]
    exact .refused refuses short

theorem Answers.preserves_tidy {s next : Shared} {payload : List UInt8} {response : Response}
    (answers : s.Answers payload response next) (tidy : s.machine.Tidy) : next.machine.Tidy := by
  cases answers with
  | refused refuses short => exact tidy
  | handled admits ended =>
      exact Machine.run_preserves_tidy tidy _

/-- A response that does not fit is that to a request, never a refusal. -/
theorem Answers.admits_of_large {s next : Shared} {payload : List UInt8} {response : Response}
    (answers : s.Answers payload response next)
    (large : Frame.limit < (Wire.encode response).length) :
    ∃ request, Server.admitted? payload = some request := by
  cases answers with
  | refused refuses short => exact absurd (Server.refusal_fits short) (Nat.not_le.mpr large)
  | handled admits ended => exact ⟨_, admits⟩

/-- What a connection leaves: all its payloads are answered, or those up to one whose response is
too large. -/
inductive Leaves (s : Shared) (payloads : List (List UInt8)) (stop : Option NetError) :
    Server.Session Shared → Prop
  | complete {responses : List Response} {last : Shared}
      (answers : s.AnswersAll payloads responses last) :
      Leaves s payloads stop
        ⟨responses.map fun response => Frame.frame (Wire.encode response), last, stop⟩
  | cutShort {answered rest : List (List UInt8)} {responses : List Response} {last next : Shared}
      {payload : List UInt8} {request : Request} {response : Response}
      (split : payloads = answered ++ payload :: rest)
      (answers : s.AnswersAll answered responses last)
      (admits : Server.admitted? payload = some request)
      (due : last.Answers payload response next)
      (large : Frame.limit < (Wire.encode response).length) :
      Leaves s payloads stop
        ⟨responses.map fun response => Frame.frame (Wire.encode response), next,
          some (.frameTooLarge (Wire.encode response).length Frame.limit)⟩

theorem answerAll_leaves {s : Shared} (tidy : s.machine.Tidy) (payloads : List (List UInt8))
    (stop : Option NetError) :
    s.Leaves payloads stop (Server.answerAll handle s payloads stop) := by
  induction payloads generalizing s with
  | nil => exact .complete (.none s)
  | cons payload payloads ih =>
      have answers := respond_answers tidy payload
      generalize due : Server.respond handle s payload = answer at answers
      obtain ⟨response, next⟩ := answer
      by_cases fits : (Wire.encode response).length ≤ Frame.limit
      · have later := ih (answers.preserves_tidy tidy)
        simp only [Server.answerAll, due, Server.writeMessage_eq_ok.mpr fits]
        generalize Server.answerAll handle next payloads stop = session at later
        cases later with
        | complete rest => exact .complete (.next answers fits rest)
        | @cutShort _ _ _ _ _ _ _ _ split rest admits due large =>
            exact .cutShort (congrArg (payload :: ·) split) (.next answers fits rest) admits due
              large
      · have large := Nat.not_le.mp fits
        obtain ⟨request, admits⟩ := answers.admits_of_large large
        have refused : Frame.writeMessage response =
            .error (.frameTooLarge (Wire.encode response).length Frame.limit) :=
          Frame.write_eq_error.mpr ⟨large, rfl⟩
        simp only [Server.answerAll, due, refused]
        exact .cutShort rfl (.none s) admits answers large

/-- In every state that a service can reach, whatever the others do and whatever bytes a peer sends:
the payload of each whole frame at the front of the bytes is answered with one frame before the next
one is read, and the connection stays open. Only a response that is too large for a frame ends it. -/
theorem requests_are_answered_in_turn (config : ServiceConfig) (before : List Event)
    (ahead : List (List Event)) (stream : List UInt8) :
    Frame.Front stream (Frame.readAll stream).1 ∧
    Leaves ⟨(Machine.fresh config).run before, ahead⟩ (Frame.readAll stream).1
      (Frame.readAll stream).2
      (Server.serve handle ⟨(Machine.fresh config).run before, ahead⟩ stream) :=
  ⟨Frame.readAll_front stream, answerAll_leaves (Machine.run_tidy config before) _ _⟩

/-! ## A definition that is too large to be answered

The answer to a definition holds the definition and seven bytes more than the request. So the
executable can be so long that the request fits into a frame and its answer does not. -/

section

variable (executable : String)

/-- The operation that the first definition of the first job makes. -/
def defined : DataOperation := ⟨⟨2⟩, ⟨1⟩, executable, [], .defined, none, none, none⟩

theorem length_encode_definition :
    (Wire.encode (Request.defineDataOperation ⟨1⟩ executable [])).length =
      (Wire.encode executable).length + 3 := by
  change (Wire.encodeNat 30 ++ Wire.encodeNat 1 ++ Wire.encode executable ++ [0]).length = _
  simp only [List.length_append]
  have small : (Wire.encodeNat 30).length = 1 ∧ (Wire.encodeNat 1).length = 1 := by decide
  simp only [small, List.length_cons, List.length_nil]
  omega

theorem length_encode_defined :
    (Wire.encode (Response.ok (.dataOperation (defined executable)))).length =
      (Wire.encode executable).length + 10 := by
  change ([0] ++ [0] ++ (Wire.encodeNat 13 ++ (Wire.encodeNat 2 ++ Wire.encodeNat 1 ++
    Wire.encode executable ++ [0] ++ [0] ++ [0] ++ [0] ++ [0]))).length = _
  simp only [List.length_append]
  have small : (Wire.encodeNat 13).length = 1 ∧ (Wire.encodeNat 2).length = 1 ∧
      (Wire.encodeNat 1).length = 1 := by decide
  simp only [small, List.length_cons, List.length_nil]
  omega

/-- A service with one job and no other calls. -/
def withJob : Shared :=
  ⟨(Machine.fresh .standard).run [.call (.request (.registerJob 1 ⟨[]⟩ ⟨[], [], [], none⟩))], []⟩

def withOperation : Service :=
  let s := withJob.machine.service
  { s with ids := ⟨2⟩, pipeline := ⟨s.pipeline.operations.insert ⟨2⟩ (defined executable)⟩ }

theorem startRequest_definition (named : Text.isBlank executable = false) :
    withJob.machine.service.startRequest (.defineDataOperation ⟨1⟩ executable []) =
      (.replied (.dataOperation (defined executable)), withOperation executable) := by
  have found : withJob.machine.service.registry.job ⟨1⟩ =
      .ok ⟨⟨1⟩, 1, ⟨[]⟩, ⟨[], [], [], none⟩⟩ := rfl
  have drawn : withJob.machine.service.ids.allocate = some (2, ⟨2⟩) := rfl
  simp only [Service.startRequest, Service.defineOperation_eq, Pipeline.define, found, named, drawn]
  rfl

theorem handle_definition (named : Text.isBlank executable = false) :
    ∃ next, handle withJob (.defineDataOperation ⟨1⟩ executable []) =
      (.ok (.dataOperation (defined executable)), next) ∧
      next.machine.service = withOperation executable := by
  have begun : withJob.machine.step (.call (.request (.defineDataOperation ⟨1⟩ executable []))) =
      { withJob.machine with started := 2 }.settle 1
        (.replied (.dataOperation (defined executable)), withOperation executable) := by
    rw [← startRequest_definition executable named]
    rfl
  have answered : ((withJob.machine.step
      (.call (.request (.defineDataOperation ⟨1⟩ executable [])))).run
        [.wake 1, .expire 1]).outcome? 1 =
      some (.reply (.ok (.dataOperation (defined executable)))) := by
    rw [begun]
    rfl
  have handled := handle_of_ended (s := withJob) answered
  refine ⟨_, handled, ?_⟩
  change ((withJob.machine.step (.call (.request (.defineDataOperation ⟨1⟩ executable [])))).run
    [.wake 1, .expire 1]).service = _
  rw [begun]
  rfl

/-- A definition is carried out and not answered if its request fits into a frame exactly: no frame is
written and the connection ends. -/
theorem serve_long_definition (named : Text.isBlank executable = false)
    (size : (Wire.encode executable).length = 16777213) :
    (Wire.encode (Request.defineDataOperation ⟨1⟩ executable [])).length = Frame.limit ∧
    ∃ next, Server.serve handle withJob
        (Frame.stream [Wire.encode (Request.defineDataOperation ⟨1⟩ executable [])]) =
      ⟨[], next, some (.frameTooLarge 16777223 Frame.limit)⟩ ∧
      next.machine.service = withOperation executable := by
  have asked : (Wire.encode (Request.defineDataOperation ⟨1⟩ executable [])).length =
      Frame.limit := by
    rw [length_encode_definition, size]
    rfl
  have due : (Wire.encode (Response.ok (.dataOperation (defined executable)))).length =
      16777223 := by
    rw [length_encode_defined, size]
  obtain ⟨next, handled, changed⟩ := handle_definition executable named
  refine ⟨asked, next, ?_, changed⟩
  have read := Wire.ofPayload?_encode (Request.defineDataOperation ⟨1⟩ executable []) []
    (by rw [asked]; decide)
  rw [List.append_nil] at read
  have received : Server.received
      (Wire.encode (Request.defineDataOperation ⟨1⟩ executable [])) =
        .ok (.defineDataOperation ⟨1⟩ executable []) := by
    unfold Server.received
    rw [read]
    simp only [Server.checked, Request.complaint?, named, complain]
    rfl
  have refused : Frame.writeMessage (Response.ok (.dataOperation (defined executable))) =
      .error (.frameTooLarge 16777223 Frame.limit) :=
    Frame.write_eq_error.mpr ⟨by rw [due]; decide, by rw [due]⟩
  have sent := Frame.readAll_stream
    (show ∀ payload ∈ [Wire.encode (Request.defineDataOperation ⟨1⟩ executable [])],
      payload.length ≤ Frame.limit by
        intro payload member
        exact Nat.le_of_eq (List.mem_singleton.mp member ▸ asked)) []
  rw [List.append_nil, Frame.readAll_nil] at sent
  unfold Server.serve
  rw [sent]
  simp only [List.append_nil, Server.answerAll, Server.respond, received, Server.answer, handled,
    refused]

end

theorem utf8ByteSize_replicate (n : Nat) :
    (String.ofList (List.replicate n 'a')).utf8ByteSize = n := by
  induction n with
  | zero => rfl
  | succ n ih =>
      rw [List.replicate_succ, String.ofList_cons, String.utf8ByteSize_append, ih]
      exact Nat.add_comm 1 n

theorem isBlank_replicate {n : Nat} (some : n ≠ 0) :
    Text.isBlank (String.ofList (List.replicate n 'a')) = false := by
  unfold Text.isBlank
  rw [String.toList_ofList]
  exact List.all_eq_false.mpr ⟨'a', List.mem_replicate.mpr ⟨some, rfl⟩, by decide⟩

/-- The executable of so many letters leaves its definition unanswered, although the operation is on
record then. -/
theorem long_definition_is_not_answered :
    let executable := String.ofList (List.replicate 16777209 'a')
    let payload := Wire.encode (Request.defineDataOperation ⟨1⟩ executable [])
    let session := Server.serve handle withJob (Frame.stream [payload])
    payload.length = Frame.limit ∧
    session.frames = [] ∧ session.failure = some (.frameTooLarge 16777223 Frame.limit) ∧
    withJob.machine.service.pipeline.get ⟨1⟩ ⟨2⟩ = .error (.notFound ⟨1⟩ ⟨2⟩) ∧
    session.state.machine.service.pipeline.get ⟨1⟩ ⟨2⟩ = .ok (defined executable) := by
  have size : (Wire.encode (String.ofList (List.replicate 16777209 'a'))).length = 16777213 := by
    rw [Wire.length_encode_text, utf8ByteSize_replicate]
    decide
  have named := isBlank_replicate (n := 16777209) (by decide)
  generalize String.ofList (List.replicate 16777209 'a') = executable at size named ⊢
  obtain ⟨asked, next, served, changed⟩ := serve_long_definition executable named size
  intro executable payload session
  rw [show session = _ from served]
  refine ⟨asked, rfl, rfl, rfl, ?_⟩
  rw [changed]
  rfl

end Shared

end StorageBroker
