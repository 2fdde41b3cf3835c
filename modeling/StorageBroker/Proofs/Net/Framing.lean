import StorageBroker.Net.Frame
import StorageBroker.Proofs.Wire.Reading

/-! # Frames are read back

A payload within the limit is read back from its frame, whatever follows the frame, and only from
its frame. So a stream of frames is read back payload by payload. -/

set_option autoImplicit false

namespace StorageBroker.Frame

def frame (payload : List UInt8) : List UInt8 := header payload.length ++ payload

def stream (payloads : List (List UInt8)) : List UInt8 := payloads.flatMap frame

theorem stream_cons (payload : List UInt8) (payloads : List (List UInt8)) :
    stream (payload :: payloads) = frame payload ++ stream payloads :=
  List.flatMap_cons

/-! ## Writing -/

theorem put_of_fits {payload : List UInt8} (fits : payload.length ≤ limit)
    (written : List UInt8) : put written payload = (.ok (), written ++ frame payload) :=
  if_neg (Nat.not_lt.mpr fits)

theorem put_of_large {payload : List UInt8} (large : limit < payload.length)
    (written : List UInt8) :
    put written payload = (.error (.frameTooLarge payload.length limit), written) :=
  if_pos large

theorem write_eq_ok {payload written : List UInt8} :
    write payload = .ok written ↔ payload.length ≤ limit ∧ frame payload = written := by
  unfold write
  by_cases large : limit < payload.length
  · simp [put_of_large large, Except.map, Nat.not_le.mpr large]
  · simp [put_of_fits (Nat.not_lt.mp large), Except.map, Nat.not_lt.mp large]

theorem write_eq_error {payload : List UInt8} {e : NetError} :
    write payload = .error e ↔ limit < payload.length ∧ .frameTooLarge payload.length limit = e := by
  unfold write
  by_cases large : limit < payload.length
  · simp [put_of_large large, Except.map, large]
  · simp [put_of_fits (Nat.not_lt.mp large), Except.map, large]

/-! ## Reading -/

/-- The length that four bytes stand for. -/
theorem header_eq {a b c d : UInt8} {size : Nat}
    (value : a.toNat * 16777216 + b.toNat * 65536 + c.toNat * 256 + d.toNat = size) :
    header size = [a, b, c, d] := by
  have ha := a.toNat_lt
  have hb := b.toNat_lt
  have hc := c.toNat_lt
  have hd := d.toNat_lt
  unfold header
  simp only [List.cons.injEq, and_true, ← UInt8.toNat_inj, UInt8.toNat_ofNat']
  omega

theorem header_word {size : Nat} (word : size < 4294967296) : ∃ a b c d : UInt8,
    header size = [a, b, c, d] ∧
    a.toNat * 16777216 + b.toNat * 65536 + c.toNat * 256 + d.toNat = size := by
  refine ⟨_, _, _, _, rfl, ?_⟩
  simp only [UInt8.toNat_ofNat']
  omega

theorem announced?_header {size : Nat} (word : size < 4294967296) (rest : List UInt8) :
    announced? (header size ++ rest) = some size := by
  obtain ⟨a, b, c, d, written, value⟩ := header_word word
  rw [written, ← value]
  rfl

theorem announced?_eq_some {stream : List UInt8} {size : Nat} :
    announced? stream = some size ↔
      size < 4294967296 ∧ stream = header size ++ stream.drop 4 := by
  constructor
  · intro announced
    unfold announced? at announced
    split at announced
    · rename_i a b c d rest
      have value := Option.some.inj announced
      have ha := a.toNat_lt
      have hb := b.toNat_lt
      have hc := c.toNat_lt
      have hd := d.toNat_lt
      refine ⟨by omega, ?_⟩
      rw [header_eq value]
      rfl
    · exact nomatch announced
  · rintro ⟨word, split⟩
    rw [split]
    exact announced?_header word _

theorem announced?_eq_none {stream : List UInt8} :
    announced? stream = none ↔ stream.length < 4 := by
  rcases stream with _ | ⟨a, _ | ⟨b, _ | ⟨c, _ | ⟨d, rest⟩⟩⟩⟩ <;> simp [announced?]

theorem word_of_fits {size : Nat} (fits : size ≤ limit) : size < 4294967296 :=
  Nat.lt_of_le_of_lt fits (by decide)

/-- What is too large is refused once its length is read: nothing of its payload is. -/
theorem pull_of_large {stream : List UInt8} {size : Nat} (announced : announced? stream = some size)
    (large : limit < size) :
    pull stream = (.error (.frameTooLarge size limit), stream.drop 4) := by
  simp only [pull, announced, if_pos large]

theorem pull_of_short {stream : List UInt8} {size : Nat} (announced : announced? stream = some size)
    (fits : size ≤ limit) (short : (stream.drop 4).length < size) :
    pull stream = (.error (.io .earlyEof), []) := by
  simp only [pull, announced, if_neg (Nat.not_lt.mpr fits), if_pos short]

theorem pull_frame {payload : List UInt8} (fits : payload.length ≤ limit) (rest : List UInt8) :
    pull (frame payload ++ rest) = (.ok (some payload), rest) := by
  have four : (header payload.length).length = 4 := rfl
  rw [frame, List.append_assoc]
  simp only [pull, announced?_header (word_of_fits fits), if_neg (Nat.not_lt.mpr fits)]
  rw [List.drop_left' four]
  simp [Nat.not_lt.mpr]

theorem read_frame {payload : List UInt8} (fits : payload.length ≤ limit) (rest : List UInt8) :
    read (frame payload ++ rest) = .ok (some (payload, rest)) := by
  rw [read, pull_frame fits]
  rfl

/-- A frame that is announced as too large is not read, whatever follows the length. -/
theorem read_oversized {size : Nat} (large : limit < size) (word : size < 4294967296)
    (rest : List UInt8) : read (header size ++ rest) = .error (.frameTooLarge size limit) := by
  rw [read, pull_of_large (announced?_header word rest) large]
  rfl

/-- A frame of which a part is missing is not read. -/
theorem read_incomplete {size : Nat} {rest : List UInt8} (fits : size ≤ limit)
    (short : rest.length < size) : read (header size ++ rest) = .error (.io .earlyEof) := by
  have four : (header size).length = 4 := rfl
  rw [read, pull_of_short (announced?_header (word_of_fits fits) rest) fits]
  · rfl
  · rwa [List.drop_left' four]

theorem read_of_short {bytes : List UInt8} (short : bytes.length < 4) : read bytes = .ok none := by
  rw [read, pull, announced?_eq_none.mpr short]
  rfl

theorem read_eq_some {bytes payload rest : List UInt8} :
    read bytes = .ok (some (payload, rest)) ↔
      payload.length ≤ limit ∧ bytes = frame payload ++ rest := by
  constructor
  · intro done
    cases announced : announced? bytes with
    | none =>
        rw [read_of_short (announced?_eq_none.mp announced)] at done
        cases done
    | some size =>
        obtain ⟨word, split⟩ := announced?_eq_some.mp announced
        by_cases large : limit < size
        · rw [split, read_oversized large word] at done
          cases done
        have fits := Nat.not_lt.mp large
        by_cases short : (bytes.drop 4).length < size
        · rw [split, read_incomplete fits short] at done
          cases done
        -- what is taken is a payload of the announced length, and the rest follows its frame
        have whole : ((bytes.drop 4).take size).length = size :=
          List.length_take_of_le (Nat.not_lt.mp short)
        simp only [read, pull, announced, if_neg large, if_neg short, Except.map, Option.map_some,
          Except.ok.injEq, Option.some.injEq, Prod.mk.injEq] at done
        obtain ⟨rfl, rfl⟩ := done
        refine ⟨whole.symm ▸ fits, ?_⟩
        rw [frame, whole, List.append_assoc, List.take_append_drop]
        exact split
  · rintro ⟨fits, rfl⟩
    exact read_frame fits rest

theorem readAll_of_some {bytes payload rest : List UInt8}
    (done : read bytes = .ok (some (payload, rest))) :
    readAll bytes = (payload :: (readAll rest).1, (readAll rest).2) := by
  rw [readAll]
  split
  · simp_all
  · simp_all
  · rename_i payload' rest' done'
    obtain ⟨rfl, rfl⟩ : payload' = payload ∧ rest' = rest := by simpa [done] using done'.symm
    rfl

theorem readAll_of_none {bytes : List UInt8} (ended : read bytes = .ok none) :
    readAll bytes = ([], none) := by
  rw [readAll]
  split
  · simp_all
  · rfl
  · simp_all

theorem readAll_of_error {bytes : List UInt8} {e : NetError} (failed : read bytes = .error e) :
    readAll bytes = ([], some e) := by
  rw [readAll]
  split
  · rename_i e' failed'
    obtain rfl : e' = e := by simpa [failed] using failed'.symm
    rfl
  · simp_all
  · simp_all

theorem readAll_nil : readAll [] = ([], none) :=
  readAll_of_none rfl

theorem readAll_stream {payloads : List (List UInt8)}
    (fit : ∀ payload ∈ payloads, payload.length ≤ limit) (rest : List UInt8) :
    readAll (stream payloads ++ rest) = (payloads ++ (readAll rest).1, (readAll rest).2) := by
  induction payloads with
  | nil => rfl
  | cons payload payloads ih =>
      rw [stream_cons, List.append_assoc,
        readAll_of_some (read_frame (fit payload List.mem_cons_self) _),
        ih fun p member => fit p (List.mem_cons_of_mem _ member)]
      rfl

/-- The payloads of all the frames at the front of a stream: no further one follows them. -/
def Front (bytes : List UInt8) (payloads : List (List UInt8)) : Prop :=
  ∃ tail, bytes = stream payloads ++ tail ∧ (∀ payload ∈ payloads, payload.length ≤ limit) ∧
    ∀ payload rest, read tail ≠ .ok (some (payload, rest))

theorem readAll_front (bytes : List UInt8) : Front bytes (readAll bytes).1 := by
  fun_induction readAll bytes with
  | case1 bytes e failed => exact ⟨bytes, rfl, by simp, by simp [failed]⟩
  | case2 bytes ended => exact ⟨bytes, rfl, by simp, by simp [ended]⟩
  | case3 bytes payload rest done payloads stop later ih =>
      obtain ⟨fits, whole⟩ := read_eq_some.mp done
      obtain ⟨tail, split, fit, last⟩ := ih
      rw [later] at split fit
      refine ⟨tail, ?_, ?_, last⟩
      · rw [whole, stream_cons, List.append_assoc, ← split]
      · simpa using ⟨fits, fit⟩

end StorageBroker.Frame
