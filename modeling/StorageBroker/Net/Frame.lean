import StorageBroker.Net.Error
import StorageBroker.Wire.Message

/-! # Frames

A frame is a payload after its length in four bytes, the most significant first. Payloads above
the limit are neither written nor read. -/

set_option autoImplicit false

namespace StorageBroker.Frame

/-- The largest payload: 16 MiB. -/
def limit : Nat := 16 * 1024 * 1024

/-- A length in four bytes, the most significant first. -/
def header (size : Nat) : List UInt8 :=
  [UInt8.ofNat (size / 16777216), UInt8.ofNat (size / 65536), UInt8.ofNat (size / 256),
   UInt8.ofNat size]

/-- Puts the frame of a payload after what was written already: whether this fails, and what is
written then. -/
def put (written payload : List UInt8) : Except NetError Unit × List UInt8 :=
  let size := payload.length
  if limit < size then (.error (.frameTooLarge size limit), written)
  else (.ok (), written ++ (header size ++ payload))

def send {α : Type} [Wire α] (written : List UInt8) (message : α) :
    Except NetError Unit × List UInt8 :=
  put written (Wire.encode message)

def write (payload : List UInt8) : Except NetError (List UInt8) :=
  let (result, written) := put [] payload
  result.map fun _ => written

def writeMessage {α : Type} [Wire α] (message : α) : Except NetError (List UInt8) :=
  let (result, written) := send [] message
  result.map fun _ => written

/-- The length that a stream announces with its first four bytes. -/
def announced? : List UInt8 → Option Nat
  | a :: b :: c :: d :: _ =>
    some (a.toNat * 16777216 + b.toNat * 65536 + c.toNat * 256 + d.toNat)
  | _ => none

/-- Takes one frame off the front of a stream: its payload, or nothing if the stream ends before a
whole length; and what is left unread of the stream, also where this fails. -/
def pull (stream : List UInt8) : Except NetError (Option (List UInt8)) × List UInt8 :=
  match announced? stream with
  | none => (.ok none, [])
  | some size =>
    let rest := stream.drop 4
    if limit < size then (.error (.frameTooLarge size limit), rest)
    else if rest.length < size then (.error (.io .earlyEof), [])
    else (.ok (some (rest.take size)), rest.drop size)

/-- Reads one frame from the front of a stream: its payload and the rest of the stream. -/
def read (stream : List UInt8) : Except NetError (Option (List UInt8 × List UInt8)) :=
  let (payload?, rest) := pull stream
  payload?.map fun payload? => payload?.map (·, rest)

theorem pull_of_read {stream payload rest : List UInt8}
    (found : read stream = .ok (some (payload, rest))) : pull stream = (.ok (some payload), rest) := by
  unfold read at found
  generalize pull stream = pulled at found ⊢
  rcases pulled with ⟨_ | _ | front, left⟩
  · cases found
  · cases found
  · simp only [Except.map, Option.map_some, Except.ok.injEq, Option.some.injEq,
      Prod.mk.injEq] at found
    rw [found.1, found.2]

theorem length_lt_of_announced {stream : List UInt8} {size : Nat}
    (announced : announced? stream = some size) : (stream.drop 4).length < stream.length := by
  unfold announced? at announced
  split at announced
  · simp only [List.drop_succ_cons, List.drop_zero, List.length_cons]
    omega
  · cases announced

theorem length_lt_of_read {stream payload rest : List UInt8}
    (found : read stream = .ok (some (payload, rest))) : rest.length < stream.length := by
  have pulled := pull_of_read found
  unfold pull at pulled
  split at pulled
  · cases pulled
  · rename_i size announced
    have shorter := length_lt_of_announced announced
    simp only at pulled
    split at pulled
    · cases pulled
    · split at pulled
      · cases pulled
      · rw [← (Prod.mk.inj pulled).2, List.length_drop]
        omega

/-- Reads frames to the end of a stream: the payloads, and the error that stopped the reading, if
one did. -/
def readAll (stream : List UInt8) : List (List UInt8) × Option NetError :=
  match _h : read stream with
  | .error e => ([], some e)
  | .ok none => ([], none)
  | .ok (some (payload, rest)) =>
    let (payloads, stop) := readAll rest
    (payload :: payloads, stop)
termination_by stream.length
decreasing_by exact length_lt_of_read _h

end StorageBroker.Frame
