import StorageBroker.Proofs.Net.Framing

/-! # Messages sent one after the other

What is written for a list of messages is read back as their payloads, in their order, and then the
stream is at its end. Writer and reader agree on the limit and on the length: a message that is too
large leaves no trace in the stream, and no frame that was written is refused. -/

set_option autoImplicit false

namespace StorageBroker.Frame

/-! ## The length -/

/-- The bytes of a 32-bit number, the most significant first. -/
def bigEndian (word : UInt32) : List UInt8 :=
  [(word >>> 24).toUInt8, (word >>> 16).toUInt8, (word >>> 8).toUInt8, word.toUInt8]

theorem header_eq_bigEndian (size : Nat) : header size = bigEndian (UInt32.ofNat size) := by
  unfold header bigEndian
  simp only [List.cons.injEq, and_true, ← UInt8.toNat_inj, UInt8.toNat_ofNat',
    UInt32.toNat_toUInt8, UInt32.toNat_shiftRight, UInt32.toNat_ofNat', UInt32.toNat_ofNat,
    Nat.shiftRight_eq_div_pow, Nat.reducePow, Nat.reduceMod]
  omega

theorem toNat_word {size : Nat} (fits : size ≤ limit) : (UInt32.ofNat size).toNat = size := by
  rw [UInt32.toNat_ofNat']
  exact Nat.mod_eq_of_lt (Nat.lt_of_le_of_lt fits (by decide))

/-! ## Reading -/

theorem read_eq_pull (stream : List UInt8) :
    read stream = (pull stream).1.map fun payload? => payload?.map (·, (pull stream).2) :=
  rfl

/-- A frame is refused for its size exactly if the announced length is above the limit. -/
theorem read_eq_tooLarge {stream : List UInt8} {size most : Nat} :
    read stream = .error (.frameTooLarge size most) ↔
      announced? stream = some size ∧ limit < size ∧ limit = most := by
  constructor
  · intro failed
    cases announced : announced? stream with
    | none =>
        rw [read_of_short (announced?_eq_none.mp announced)] at failed
        exact nomatch failed
    | some size' =>
        obtain ⟨word, split⟩ := announced?_eq_some.mp announced
        by_cases large : limit < size'
        · rw [split, read_oversized large word] at failed
          obtain ⟨rfl, rfl⟩ := NetError.frameTooLarge.inj (Except.error.inj failed)
          exact ⟨rfl, large, rfl⟩
        · have fits := Nat.not_lt.mp large
          by_cases short : (stream.drop 4).length < size'
          · rw [split, read_incomplete fits short] at failed
            cases failed
          · simp only [read, pull, announced, if_neg large, if_neg short, Except.map,
              reduceCtorEq] at failed
  · rintro ⟨announced, large, rfl⟩
    obtain ⟨word, split⟩ := announced?_eq_some.mp announced
    rw [split, read_oversized large word]

/-! ## Sending -/

/-- A message of any type that has a written form. -/
structure Outgoing where
  {Body : Type}
  [form : Wire Body]
  body : Body

namespace Outgoing

instance (m : Outgoing) : Wire m.Body := m.form

def payload (m : Outgoing) : List UInt8 := m.form.encode m.body

def fits (m : Outgoing) : Bool := m.payload.length ≤ limit

def outcome (m : Outgoing) : Except NetError Unit :=
  if m.payload.length ≤ limit then .ok () else .error (.frameTooLarge m.payload.length limit)

end Outgoing

/-- Sends messages one after the other, each one even if one before it was refused. -/
def sendAll (written : List UInt8) : List Outgoing → List (Except NetError Unit) × List UInt8
  | [] => ([], written)
  | m :: messages =>
    let sent := send written m.body
    let later := sendAll sent.2 messages
    (sent.1 :: later.1, later.2)

theorem send_of_fits {m : Outgoing} (fits : m.payload.length ≤ limit) (written : List UInt8) :
    send written m.body = (.ok (), written ++ frame m.payload) :=
  put_of_fits fits written

theorem send_of_large {m : Outgoing} (large : limit < m.payload.length) (written : List UInt8) :
    send written m.body = (.error (.frameTooLarge m.payload.length limit), written) :=
  put_of_large large written

/-- The frames of the messages that can be sent are written, and nothing else. -/
theorem sendAll_eq (written : List UInt8) (messages : List Outgoing) :
    sendAll written messages = (messages.map Outgoing.outcome,
      written ++ stream ((messages.filter Outgoing.fits).map Outgoing.payload)) := by
  induction messages generalizing written with
  | nil => simp [sendAll, stream]
  | cons m messages ih =>
      by_cases fits : m.payload.length ≤ limit
      · have kept : m.fits = true := decide_eq_true fits
        rw [sendAll, send_of_fits fits, ih, List.filter_cons_of_pos kept, List.map_cons,
          List.map_cons, stream_cons, ← List.append_assoc, Outgoing.outcome, if_pos fits]
      · -- the next message is sent after the same bytes
        have dropped : ¬ m.fits = true := fun kept => fits (of_decide_eq_true kept)
        rw [sendAll, send_of_large (Nat.not_le.mp fits), ih, List.filter_cons_of_neg dropped,
          List.map_cons, Outgoing.outcome, if_neg fits]

/-- Messages sent one after the other are read back as the payloads of those within the limit, in
their order, and then the stream ends. One above the limit fails, and nothing of it is written. A
reading fails for size exactly if the announced length is above the limit, with the payload still
unread. What was written is never refused, and its length is never cut to 32 bits. -/
theorem sent_frames_are_read_back (messages : List Outgoing) :
    readAll (sendAll [] messages).2 =
      ((messages.filter Outgoing.fits).map Outgoing.payload, none) ∧
    ((∀ m ∈ messages, m.payload.length ≤ limit) →
      readAll (sendAll [] messages).2 = (messages.map Outgoing.payload, none)) ∧
    (sendAll [] messages).1 = messages.map Outgoing.outcome ∧
    (∀ (m : Outgoing) written, limit < m.payload.length →
      send written m.body = (.error (.frameTooLarge m.payload.length limit), written)) ∧
    (∀ bytes size most, read bytes = .error (.frameTooLarge size most) ↔
      announced? bytes = some size ∧ limit < size ∧ limit = most) ∧
    (∀ bytes, read bytes =
      (pull bytes).1.map fun payload? => payload?.map (·, (pull bytes).2)) ∧
    (∀ bytes size, announced? bytes = some size → limit < size →
      pull bytes = (.error (.frameTooLarge size limit), bytes.drop 4)) ∧
    ∀ payload bytes, write payload = .ok bytes →
      bytes = bigEndian (UInt32.ofNat payload.length) ++ payload ∧
      (UInt32.ofNat payload.length).toNat = payload.length ∧
      ∀ rest, read (bytes ++ rest) = .ok (some (payload, rest)) := by
  have back : readAll (sendAll [] messages).2 =
      ((messages.filter Outgoing.fits).map Outgoing.payload, none) := by
    have fit : ∀ payload ∈ (messages.filter Outgoing.fits).map Outgoing.payload,
        payload.length ≤ limit := by
      intro payload listed
      obtain ⟨m, kept, rfl⟩ := List.mem_map.mp listed
      exact of_decide_eq_true (List.mem_filter.mp kept).2
    have whole := readAll_stream fit []
    rw [List.append_nil, readAll_nil, List.append_nil] at whole
    rw [sendAll_eq, List.nil_append]
    exact whole
  refine ⟨back, ?_, ?_, ?_, ?_, read_eq_pull, ?_, ?_⟩
  · intro fit
    have all : messages.filter Outgoing.fits = messages :=
      List.filter_eq_self.mpr fun m listed => decide_eq_true (fit m listed)
    rw [back, all]
  · rw [sendAll_eq]
  · exact fun m written large => send_of_large large written
  · exact fun bytes size most => read_eq_tooLarge
  · exact fun bytes size announced large => pull_of_large announced large
  · intro payload bytes written
    obtain ⟨fits, rfl⟩ := write_eq_ok.mp written
    exact ⟨by rw [frame, header_eq_bigEndian], toNat_word fits, read_frame fits⟩

end StorageBroker.Frame
