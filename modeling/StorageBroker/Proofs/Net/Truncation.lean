import StorageBroker.Net.Client
import StorageBroker.Proofs.Net.Framing

/-! # Streams that are cut off

A stream of frames that is cut off gives the whole frames before the cut. What the reading ends
with depends on where the cut falls in the next frame: in its payload it is an error, but in its
length it is taken for the end of the stream. -/

set_option autoImplicit false

namespace StorageBroker.Frame

theorem length_frame (payload : List UInt8) : (frame payload).length = payload.length + 4 := by
  rw [frame, List.length_append, Nat.add_comm]
  rfl

/-- Where a cut falls in the frames of payloads: the payloads of those that end before it, and what
stands before it of the next one. -/
def cutAt : Nat → List (List UInt8) → List (List UInt8) × List UInt8
  | _, [] => ([], [])
  | cut, payload :: payloads =>
    let size := (frame payload).length
    if cut < size then ([], (frame payload).take cut)
    else (payload :: (cutAt (cut - size) payloads).1, (cutAt (cut - size) payloads).2)

/-- A part of the first of these frames, and nothing if there is none. -/
def Part (part : List UInt8) : List (List UInt8) → Prop
  | [] => part = []
  | payload :: _ => part <+: frame payload ∧ part.length < (frame payload).length

/-- A cut leaves the whole frames before it and a part of the next one. -/
theorem take_stream (cut : Nat) (payloads : List (List UInt8)) :
    (stream payloads).take cut = stream (cutAt cut payloads).1 ++ (cutAt cut payloads).2 ∧
      ∃ rest, payloads = (cutAt cut payloads).1 ++ rest ∧ Part (cutAt cut payloads).2 rest := by
  induction payloads generalizing cut with
  | nil => exact ⟨List.take_nil, [], rfl, rfl⟩
  | cons payload payloads ih =>
      unfold cutAt
      by_cases inside : cut < (frame payload).length
      · simp only [if_pos inside]
        refine ⟨?_, payload :: payloads, rfl, List.take_prefix _ _, ?_⟩
        · rw [stream_cons, List.take_append_of_le_length (Nat.le_of_lt inside)]
          rfl
        · rw [List.length_take_of_le (Nat.le_of_lt inside)]
          exact inside
      · simp only [if_neg inside]
        have past := Nat.not_lt.mp inside
        obtain ⟨left, rest, split, part⟩ := ih (cut - (frame payload).length)
        refine ⟨?_, rest, by rw [List.cons_append, ← split], part⟩
        rw [stream_cons, stream_cons, List.append_assoc, ← left, List.take_append,
          List.take_of_length_le past]

theorem read_part {part : List UInt8} {rest : List (List UInt8)} (inside : Part part rest)
    (fit : ∀ payload ∈ rest, payload.length ≤ limit) :
    read part = if part.length < 4 then .ok none else .error (.io .earlyEof) := by
  by_cases short : part.length < 4
  · rw [if_pos short, read_of_short short]
  · rw [if_neg short]
    cases rest with
    | nil =>
        rw [show part = [] from inside] at short
        exact absurd (Nat.zero_lt_succ 3) short
    | cons payload rest =>
        obtain ⟨front, smaller⟩ := inside
        have fits := fit payload List.mem_cons_self
        -- the part holds the whole length
        obtain ⟨body, rfl⟩ : header payload.length <+: part :=
          List.prefix_of_prefix_length_le (List.prefix_append _ _) front (Nat.not_lt.mp short)
        refine read_incomplete fits ?_
        rw [length_frame, List.length_append] at smaller
        have four : (header payload.length).length = 4 := rfl
        omega

theorem readAll_take_stream {payloads : List (List UInt8)}
    (fit : ∀ payload ∈ payloads, payload.length ≤ limit) (cut : Nat) :
    readAll ((stream payloads).take cut) = ((cutAt cut payloads).1,
      if (cutAt cut payloads).2.length < 4 then none else some (.io .earlyEof)) := by
  obtain ⟨left, rest, split, inside⟩ := take_stream cut payloads
  have ended := read_part inside fun payload listed =>
    fit payload (split ▸ List.mem_append_right _ listed)
  have last : readAll (cutAt cut payloads).2 =
      ([], if (cutAt cut payloads).2.length < 4 then none else some (.io .earlyEof)) := by
    by_cases short : (cutAt cut payloads).2.length < 4
    · rw [if_pos short] at ended ⊢
      exact readAll_of_none ended
    · rw [if_neg short] at ended ⊢
      exact readAll_of_error ended
  rw [left, readAll_stream (fun payload listed =>
    fit payload (split ▸ List.mem_append_left _ listed)), last, List.append_nil]

/-- What a client makes of a part of a response when the peer has closed the connection. -/
theorem readResponse_part {part : List UInt8} {rest : List (List UInt8)} (inside : Part part rest)
    (fit : ∀ payload ∈ rest, payload.length ≤ limit) (number : Nat) :
    Client.readResponse ⟨number, part, true⟩ =
      some (.error (if part.length < 4 then .closed else .io .earlyEof)) := by
  have ended := read_part inside fit
  by_cases short : part.length < 4
  · rw [if_pos short] at ended ⊢
    simp only [Client.readResponse, ended, if_true]
  · rw [if_neg short] at ended ⊢
    simp only [Client.readResponse, ended, if_true]

/-- Wherever a stream of frames is cut off, the frames that end before the cut are read, and the
reading then ends without an error if less than the length of the next frame is left, hence also if
nothing is, and with an early end if a part of its payload is missing. A client takes the first for
a connection that was closed and the second for a broken one. -/
theorem cut_stream_gives_whole_frames {payloads : List (List UInt8)}
    (fit : ∀ payload ∈ payloads, payload.length ≤ limit) (cut : Nat) :
    let whole := (cutAt cut payloads).1
    let part := (cutAt cut payloads).2
    (stream payloads).take cut = stream whole ++ part ∧
    (∃ rest, payloads = whole ++ rest ∧ Part part rest) ∧
    readAll ((stream payloads).take cut) =
      (whole, if part.length < 4 then none else some (.io .earlyEof)) ∧
    ∀ number, Client.readResponse ⟨number, part, true⟩ =
      some (.error (if part.length < 4 then .closed else .io .earlyEof)) := by
  intro whole part
  obtain ⟨left, rest, split, inside⟩ := take_stream cut payloads
  refine ⟨left, ⟨rest, split, inside⟩, readAll_take_stream fit cut, ?_⟩
  exact readResponse_part inside fun payload listed =>
    fit payload (split ▸ List.mem_append_right _ listed)

theorem payload_cut_short :
    (∀ payload ∈ ([[7], [8, 9]] : List (List UInt8)), payload.length ≤ limit) ∧
    readAll ((stream [[7], [8, 9]]).take 10) = ([[7]], some (.io .earlyEof)) := by
  have fit : ∀ payload ∈ ([[7], [8, 9]] : List (List UInt8)), payload.length ≤ limit := by decide
  exact ⟨fit, (cut_stream_gives_whole_frames fit 10).2.2.1⟩

/-- A stream that is cut off within the length of its second frame is read as if it had ended
there, and a client is told that the connection was closed. -/
theorem length_cut_short_is_no_error :
    readAll ((stream [[7], [8, 9]]).take 7) = ([[7]], none) ∧
    (stream [[7]]).length < 7 ∧ 7 < (stream [[7], [8, 9]]).length ∧
    Client.readResponse ⟨1, (stream [[7]]).take 2, true⟩ = some (.error .closed) :=
  ⟨readAll_take_stream (by decide) 7, by decide, by decide, rfl⟩

end StorageBroker.Frame
