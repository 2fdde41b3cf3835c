import StorageBroker.Net.Server
import StorageBroker.Proofs.Net.Framing
import StorageBroker.Proofs.Wire.Size
import StorageBroker.Service.Serving

/-! # The gate of a server

Only payloads that decode to a well-formed request reach the handler. Serving any payloads is
therefore handling the admitted ones in order: the others leave no trace in the state, and each of
them is answered with a refusal, which always fits into a frame. -/

set_option autoImplicit false

namespace StorageBroker.Server

variable {σ : Type}

/-- The request of a payload that may reach the handler. -/
def admitted? (payload : List UInt8) : Option Request :=
  (Wire.ofPayload? payload).toOption.filter Request.isValid

def handleAll (handle : σ → Request → Response × σ) : σ → List Request → List Response × σ
  | s, [] => ([], s)
  | s, request :: rest =>
    let (response, s) := handle s request
    let (responses, s) := handleAll handle s rest
    (response :: responses, s)

/-! ## What is received -/

/-- A payload is admitted as a request, or refused with a text of at most a hundred bytes. -/
theorem received_outcome (payload : List UInt8) :
    (∃ request, admitted? payload = some request ∧ received payload = .ok request) ∨
    ∃ text : String, text.utf8ByteSize ≤ 100 ∧ admitted? payload = none ∧
      received payload = .error (.error .badArguments text) := by
  unfold admitted? received
  cases Wire.ofPayload? (α := Request) payload with
  | error e => exact .inr ⟨(NetError.ofWire e).message, by cases e <;> decide, rfl, rfl⟩
  | ok request =>
      cases found : request.complaint? with
      | none =>
          exact .inl ⟨request, by simp [Except.toOption, Request.isValid, found],
            by simp [checked, found]⟩
      | some complaint =>
          exact .inr ⟨complaint.text, by cases complaint <;> decide,
            by simp [Except.toOption, Request.isValid, found], by simp [checked, found]⟩

theorem isValid_of_admitted {payload : List UInt8} {request : Request}
    (admits : admitted? payload = some request) : request.isValid = true :=
  (Option.filter_eq_some_iff.mp admits).2

theorem writeMessage_eq_ok {response : Response} :
    Frame.writeMessage response = .ok (Frame.frame (Wire.encode response)) ↔
      (Wire.encode response).length ≤ Frame.limit :=
  Frame.write_eq_ok.trans (and_iff_left rfl)

theorem refusal_fits {text : String} (short : text.utf8ByteSize ≤ 100) :
    (Wire.encode (Response.error .badArguments text)).length ≤ Frame.limit := by
  have size := Wire.length_encode_error_le .badArguments text
  have room : 122 ≤ Frame.limit := by decide
  omega

/-! ## What is kept -/

section

variable {handle : σ → Request → Response × σ} {P : σ → Prop}
  (kept : ∀ s request, request.isValid = true → P s → P (handle s request).2)
include kept

theorem respond_preserves {s : σ} (held : P s) (payload : List UInt8) :
    P (respond handle s payload).2 := by
  rcases received_outcome payload with ⟨request, admits, received⟩ | ⟨text, -, -, received⟩
  · simp only [respond, received, answer]
    exact kept s request (isValid_of_admitted admits) held
  · simp only [respond, received, answer]
    exact held

theorem answerAll_preserves {s : σ} (held : P s) (payloads : List (List UInt8))
    (stop : Option NetError) : P (answerAll handle s payloads stop).state := by
  induction payloads generalizing s with
  | nil => exact held
  | cons payload rest ih =>
      have next : P (respond handle s payload).2 := respond_preserves kept held payload
      simp only [answerAll]
      cases Frame.writeMessage (respond handle s payload).1 with
      | error e => exact next
      | ok frame => exact ih next

/-- What the handling of every well-formed request keeps is kept on every connection, whatever bytes
the peer sends and whether or not the responses can be written. -/
theorem serve_preserves {s : σ} (held : P s) (stream : List UInt8) :
    P (serve handle s stream).state :=
  answerAll_preserves kept held _ _

end

/-! ## What is answered -/

/-- Answers to payloads: the admitted ones are answered with these responses in their order, and
every other one with a refusal. -/
inductive AnswersTo : List (List UInt8) → List Response → List Response → Prop
  | none : AnswersTo [] [] []
  | admitted {payload : List UInt8} {request : Request} {response : Response}
      {payloads : List (List UInt8)} {handled responses : List Response}
      (admits : admitted? payload = some request) (rest : AnswersTo payloads handled responses) :
      AnswersTo (payload :: payloads) (response :: handled) (response :: responses)
  | refused {payload : List UInt8} {text : String}
      {payloads : List (List UInt8)} {handled responses : List Response}
      (refuses : admitted? payload = .none) (rest : AnswersTo payloads handled responses) :
      AnswersTo (payload :: payloads) handled (.error .badArguments text :: responses)

section

variable (handle : σ → Request → Response × σ)

theorem answerAll_through_gate (s : σ) (payloads : List (List UInt8)) (stop : Option NetError)
    (fit : ∀ response ∈ (handleAll handle s (payloads.filterMap admitted?)).1,
      (Wire.encode response).length ≤ Frame.limit) :
    ∃ responses,
      AnswersTo payloads (handleAll handle s (payloads.filterMap admitted?)).1 responses ∧
      answerAll handle s payloads stop =
        ⟨responses.map fun response => Frame.frame (Wire.encode response),
          (handleAll handle s (payloads.filterMap admitted?)).2, stop⟩ := by
  induction payloads generalizing s with
  | nil => exact ⟨[], .none, rfl⟩
  | cons payload payloads ih =>
      rcases received_outcome payload with
        ⟨request, admits, received⟩ | ⟨text, short, refuses, received⟩
      · rw [List.filterMap_cons_some admits] at fit ⊢
        have first : (Wire.encode (handle s request).1).length ≤ Frame.limit :=
          fit _ List.mem_cons_self
        obtain ⟨responses, answers, served⟩ :=
          ih (handle s request).2 fun response member => fit response (List.mem_cons_of_mem _ member)
        refine ⟨(handle s request).1 :: responses, .admitted admits answers, ?_⟩
        simp only [answerAll, respond, received, answer, writeMessage_eq_ok.mpr first, served]
        rfl
      · rw [List.filterMap_cons_none refuses] at fit ⊢
        obtain ⟨responses, answers, served⟩ := ih s fit
        refine ⟨.error .badArguments text :: responses, .refused refuses answers, ?_⟩
        simp only [answerAll, respond, received, answer,
          writeMessage_eq_ok.mpr (refusal_fits short), served]
        rfl

/-- Serving a stream of frames is handling the admitted payloads in order, as long as the responses
fit into frames: every payload is answered, a refused one with a refusal, the state is the one that
handling leaves, and the session ends with the stream. -/
theorem serving_is_handling_admitted (s : σ) (payloads : List (List UInt8))
    (within : ∀ payload ∈ payloads, payload.length ≤ Frame.limit)
    (fit : ∀ response ∈ (handleAll handle s (payloads.filterMap admitted?)).1,
      (Wire.encode response).length ≤ Frame.limit) :
    ∃ responses,
      AnswersTo payloads (handleAll handle s (payloads.filterMap admitted?)).1 responses ∧
      serve handle s (Frame.stream payloads) =
        ⟨responses.map fun response => Frame.frame (Wire.encode response),
          (handleAll handle s (payloads.filterMap admitted?)).2, none⟩ := by
  have sent := Frame.readAll_stream within []
  rw [List.append_nil, Frame.readAll_nil, List.append_nil] at sent
  unfold serve
  rw [sent]
  exact answerAll_through_gate handle s payloads none fit

end

/-- A byte that is no request, a file system without a name, one with a name and nothing at all:
the third payload is handled and draws the only number, the others are refused. -/
theorem one_of_four_is_handled :
    let payloads := [[255], Wire.encode (Request.registerPfsStorage " " .lustre ⟨"/lustre"⟩),
      Wire.encode (Request.registerPfsStorage "lustre" .lustre ⟨"/lustre"⟩), []]
    let handled := handleAll Serving.handle (.fresh .standard) (payloads.filterMap admitted?)
    handled.1.length = 1 ∧ handled.2.timeline.machine.service.ids.issued = 1 ∧
    ∃ responses, AnswersTo payloads handled.1 responses ∧
      serve Serving.handle (.fresh .standard) (Frame.stream payloads) =
        ⟨responses.map fun response => Frame.frame (Wire.encode response), handled.2, none⟩ := by
  intro payloads handled
  exact ⟨by decide, by decide, serving_is_handling_admitted Serving.handle (.fresh .standard)
    payloads (by decide) (by decide)⟩

end StorageBroker.Server
