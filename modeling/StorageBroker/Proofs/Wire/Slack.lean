import Mathlib.Algebra.Group.Int.Defs
import StorageBroker.Proofs.Wire.Reading

/-! # The slack of what is accepted

A reader accepts more than what is written: a number may be padded with groups that add nothing.
`Padded` compares the bytes that were read with the written form, and `TightWire` says of a type that
this is the only difference. `Announces` follows a reader to a length that it reads on its way; a
length that promises more than there is ends the reading. -/

set_option autoImplicit false

namespace StorageBroker

/-! ## Readers in steps -/

namespace Decoder

variable {α β : Type} {d : Decoder α} {f : α → Decoder β} {input rest : List UInt8}

theorem bind_of_error {e : WireError} (failed : d input = .error e) :
    (d >>= f) input = .error e := by
  change Except.bind (d input) (fun step => f step.1 step.2) = .error e
  rw [failed]
  rfl

theorem bind_eq_ok {b : β} (read : (d >>= f) input = .ok (b, rest)) :
    ∃ a left, d input = .ok (a, left) ∧ f a left = .ok (b, rest) := by
  cases first : d input with
  | error e => exact absurd (read.symm.trans (bind_of_error first)) (by simp)
  | ok step => exact ⟨step.1, step.2, rfl, (bind_of_ok first).symm.trans read⟩

theorem byte_eq_ok {b : UInt8} (read : byte input = .ok (b, rest)) : input = b :: rest := by
  cases input with
  | nil => exact absurd read (by simp [byte])
  | cons first tail =>
      obtain ⟨rfl, rfl⟩ := Prod.mk.inj (Except.ok.inj read)
      rfl

theorem bytes_eq_ok {count : Nat} {front : List UInt8}
    (read : bytes count input = .ok (front, rest)) :
    front.length = count ∧ input = front ++ rest := by
  unfold bytes at read
  simp only at read
  split at read
  · obtain ⟨rfl, rfl⟩ := Prod.mk.inj (Except.ok.inj read)
    exact ⟨by assumption, (List.take_append_drop count input).symm⟩
  · exact absurd read (by simp)

theorem bytes_of_short {count : Nat} (short : input.length < count) :
    bytes count input = .error .endOfInput := by
  have cut : (input.take count).length ≠ count := by
    rw [List.length_take]
    omega
  simp only [bytes, if_neg cut]

end Decoder

namespace Wire

/-! ## Padding -/

/-- The first bytes are the second ones, but for the numbers that are read from up to ten groups:
among the second ones each stands as it is written. -/
inductive Padded : List UInt8 → List UInt8 → Prop
  | nil : Padded [] []
  | byte (b : UInt8) {used form : List UInt8} (rest : Padded used form) :
      Padded (b :: used) (b :: form)
  | number {k n : Nat} {groups used form : List UInt8} (few : k ≤ 10)
      (read : decodeGroups k groups = .ok (n, [])) (rest : Padded used form) :
      Padded (groups ++ used) (encodeNat n ++ form)

namespace Padded

variable {used used' form form' : List UInt8}

theorem refl (form : List UInt8) : Padded form form := by
  induction form with
  | nil => exact .nil
  | cons b form ih => exact .byte b ih

theorem append (first : Padded used form) (last : Padded used' form') :
    Padded (used ++ used') (form ++ form') := by
  induction first with
  | nil => exact last
  | byte b _ ih => exact .byte b ih
  | number few read _ ih =>
      rw [List.append_assoc, List.append_assoc]
      exact .number few read ih

end Padded

/-- Groups that give a number are those that write it, or they are more. -/
theorem groups_of_decodeGroups {k j n : Nat} {groups : List UInt8} (few : k ≤ j)
    (read : decodeGroups k groups = .ok (n, [])) :
    groups = encodeGroups j n ∨ (encodeGroups j n).length < groups.length := by
  induction k generalizing j n groups with
  | zero => exact absurd read (by simp [decodeGroups, Decoder.fail])
  | succ k ih =>
      obtain ⟨j, rfl⟩ : ∃ before, j = before + 1 := ⟨j - 1, by omega⟩
      obtain ⟨b, tail, first, more⟩ := Decoder.bind_eq_ok read
      obtain rfl := Decoder.byte_eq_ok first
      have byte := b.toNat_lt
      by_cases last : b.toNat < 128
      · rw [if_pos last] at more
        obtain ⟨rfl, rfl⟩ := Prod.mk.inj (Except.ok.inj more)
        left
        rw [encodeGroups, if_pos last, UInt8.ofNat_toNat]
      · rw [if_neg last] at more
        obtain ⟨high, left, upper, value⟩ := Decoder.bind_eq_ok more
        obtain ⟨rfl, rfl⟩ := Prod.mk.inj (Except.ok.inj value)
        have nonempty : 0 < tail.length := by
          rcases k with _ | k
          · exact absurd upper (by simp [decodeGroups, Decoder.fail])
          · obtain ⟨b, rest, here, -⟩ := Decoder.bind_eq_ok upper
            rw [Decoder.byte_eq_ok here]
            exact Nat.succ_pos _
        by_cases small : b.toNat - 128 + 128 * high < 128
        -- all the groups above the lowest one are padding
        · right
          rw [encodeGroups, if_pos small, List.length_cons, List.length_cons, List.length_nil]
          omega
        · have low : (b.toNat - 128 + 128 * high) % 128 + 128 = b.toNat := by omega
          have quotient : (b.toNat - 128 + 128 * high) / 128 = high := by omega
          rw [encodeGroups, if_neg small, low, quotient, UInt8.ofNat_toNat]
          rcases ih (Nat.le_of_succ_le_succ few) upper with same | more
          · exact .inl (by rw [← same])
          · exact .inr (by simpa using more)

namespace Padded

variable {used form : List UInt8}

theorem eq_or_length_lt (padded : Padded used form) : used = form ∨ form.length < used.length := by
  induction padded with
  | nil => exact .inl rfl
  | byte b _ ih =>
      rcases ih with same | more
      · exact .inl (by rw [same])
      · exact .inr (by simpa using more)
  | number few read _ ih =>
      simp only [List.length_append, encodeNat]
      rcases groups_of_decodeGroups few read with same | longer
      · rcases ih with rest | more
        · exact .inl (by rw [same, rest])
        · exact .inr (by rw [same]; omega)
      · rcases ih with rfl | more
        · exact .inr (by omega)
        · exact .inr (by omega)

theorem length_le (padded : Padded used form) : form.length ≤ used.length := by
  rcases padded.eq_or_length_lt with rfl | longer
  · exact Nat.le_refl _
  · exact Nat.le_of_lt longer

end Padded

end Wire

/-! ## Readers that are tight -/

/-- Once the front of a form has been read, a reader takes nothing but the padded back of it. -/
structure Decoder.Tight {α : Type} [Wire α] (d : Decoder α) (front : List UInt8) : Prop where
  takes : ∀ {input rest : List UInt8} {a : α}, d input = .ok (a, rest) →
    ∃ used back, input = used ++ rest ∧ Wire.encode a = front ++ back ∧ Wire.Padded used back

/-- Types whose values are read from nothing but their written forms, padded. -/
class TightWire (α : Type) [Wire α] : Prop where
  tight : Decoder.Tight (Wire.decode : Decoder α) []

namespace Wire

variable {α : Type} [Wire α]

theorem decode_eq_ok [TightWire α] {input rest : List UInt8} {a : α}
    (read : decode input = .ok (a, rest)) :
    ∃ used, input = used ++ rest ∧ Padded used (encode a) := by
  obtain ⟨used, back, split, written, padded⟩ := TightWire.tight.takes read
  exact ⟨used, split, by rw [written]; exact padded⟩

end Wire

namespace Decoder.Tight

open Wire

variable {α β : Type} [Wire β] {front : List UInt8}

/-- A value that has been read to the end of its form. -/
theorem whole {b : β} (written : encode b = front := by rfl) : Tight (pure b : Decoder β) front := by
  refine ⟨fun read => ?_⟩
  obtain ⟨rfl, rfl⟩ := Prod.mk.inj (Except.ok.inj read)
  exact ⟨[], [], rfl, by rw [written, List.append_nil], .nil⟩

theorem refused (e : WireError) : Tight (.fail e : Decoder β) front := by
  exact ⟨fun read => absurd read (by simp [Decoder.fail])⟩

/-- A reader is tight if it is after a first part that takes a padded form. -/
theorem bind {d : Decoder α} {form : α → List UInt8} {f : α → Decoder β}
    (first : ∀ {input left a}, d input = .ok (a, left) →
      ∃ used, input = used ++ left ∧ Padded used (form a))
    (next : ∀ a, Tight (f a) (front ++ form a)) : Tight (d >>= f) front := by
  refine ⟨fun read => ?_⟩
  obtain ⟨a, left, here, there⟩ := Decoder.bind_eq_ok read
  obtain ⟨used, rfl, padded⟩ := first here
  obtain ⟨used', back, rfl, written, padded'⟩ := (next a).takes there
  exact ⟨used ++ used', form a ++ back, (List.append_assoc _ _ _).symm,
    by rw [written, List.append_assoc], padded.append padded'⟩

/-- A reader that goes on with the value of a field. -/
theorem field [Wire α] [TightWire α] {f : α → Decoder β}
    (next : ∀ a, Tight (f a) (front ++ encode a)) : Tight (decode >>= f) front :=
  bind decode_eq_ok next

end Decoder.Tight

namespace Wire

/-! ## Numbers -/

theorem decodeGroups_eq_ok {k n : Nat} {input rest : List UInt8}
    (read : decodeGroups k input = .ok (n, rest)) :
    ∃ groups, input = groups ++ rest ∧ decodeGroups k groups = .ok (n, []) := by
  induction k generalizing n input with
  | zero => exact absurd read (by simp [decodeGroups, Decoder.fail])
  | succ k ih =>
      obtain ⟨b, tail, first, more⟩ := Decoder.bind_eq_ok read
      obtain rfl := Decoder.byte_eq_ok first
      by_cases last : b.toNat < 128
      · rw [if_pos last] at more
        obtain ⟨rfl, rfl⟩ := Prod.mk.inj (Except.ok.inj more)
        refine ⟨[b], rfl, ?_⟩
        rw [decodeGroups, Decoder.bind_of_ok (Decoder.byte_cons b []), if_pos last]
        rfl
      · rw [if_neg last] at more
        obtain ⟨high, left, upper, value⟩ := Decoder.bind_eq_ok more
        obtain ⟨rfl, rfl⟩ := Prod.mk.inj (Except.ok.inj value)
        obtain ⟨groups, rfl, alone⟩ := ih upper
        refine ⟨b :: groups, rfl, ?_⟩
        rw [decodeGroups, Decoder.bind_of_ok (Decoder.byte_cons b groups), if_neg last,
          Decoder.bind_of_ok alone]
        rfl

theorem decodeBelow_eq_ok {k bound n : Nat} {input rest : List UInt8} (few : k ≤ 10)
    (read : decodeBelow k bound input = .ok (n, rest)) :
    n < bound ∧ ∃ used, input = used ++ rest ∧ Padded used (encodeNat n) := by
  obtain ⟨m, left, groups, checked⟩ := Decoder.bind_eq_ok read
  by_cases below : m < bound
  · rw [if_pos below] at checked
    obtain ⟨rfl, rfl⟩ := Prod.mk.inj (Except.ok.inj checked)
    obtain ⟨used, split, alone⟩ := decodeGroups_eq_ok groups
    refine ⟨below, used, split, ?_⟩
    have padded := Padded.number few alone .nil
    rwa [List.append_nil, List.append_nil] at padded
  · rw [if_neg below] at checked
    exact absurd checked (by simp [Decoder.fail])

theorem decodeNat64_eq_ok {n : Nat} {input rest : List UInt8}
    (read : decodeNat64 input = .ok (n, rest)) :
    n < UInt64.size ∧ ∃ used, input = used ++ rest ∧ Padded used (encodeNat n) :=
  decodeBelow_eq_ok (by decide) read

theorem decodeNat32_eq_ok {n : Nat} {input rest : List UInt8}
    (read : decodeNat32 input = .ok (n, rest)) :
    n < UInt32.size ∧ ∃ used, input = used ++ rest ∧ Padded used (encodeNat n) :=
  decodeBelow_eq_ok (by decide) read

end Wire

namespace Decoder.Tight

open Wire

variable {β : Type} [Wire β] {front : List UInt8} {f : Nat → Decoder β}

/-- A reader that goes on with the constructor of a place. -/
theorem place (next : ∀ n, Tight (f n) (front ++ encodeNat n)) : Tight (decodeNat32 >>= f) front :=
  bind (fun read => (decodeNat32_eq_ok read).2) next

/-- A reader that makes its value of a number of 64 bits. -/
theorem number {b : Nat → β}
    (written : ∀ n, n < UInt64.size → encode (b n) = front ++ encodeNat n) :
    Tight (decodeNat64 >>= fun n => pure (b n)) front := by
  refine ⟨fun read => ?_⟩
  obtain ⟨n, left, here, there⟩ := Decoder.bind_eq_ok read
  obtain ⟨below, used, split, padded⟩ := decodeNat64_eq_ok here
  obtain ⟨rfl, rfl⟩ := Prod.mk.inj (Except.ok.inj there)
  exact ⟨used, encodeNat n, split, written n below, padded⟩

end Decoder.Tight

namespace Wire

variable {α : Type}

instance : TightWire UInt64 where
  tight := Decoder.Tight.number fun n below => by
    change encodeNat (UInt64.ofNat n).toNat = encodeNat n
    rw [UInt64.toNat_ofNat_of_lt' below]

instance : TightWire UInt32 where
  tight := by
    refine ⟨fun read => ?_⟩
    obtain ⟨n, left, here, there⟩ := Decoder.bind_eq_ok read
    obtain ⟨below, used, split, padded⟩ := decodeNat32_eq_ok here
    obtain ⟨rfl, rfl⟩ := Prod.mk.inj (Except.ok.inj there)
    refine ⟨used, encodeNat n, split, ?_, padded⟩
    change encodeNat (UInt32.ofNat n).toNat = encodeNat n
    rw [UInt32.toNat_ofNat_of_lt' below]

theorem zigzag_unzigzag (n : Nat) : zigzag (unzigzag n) = n := by
  unfold unzigzag
  split
  · change 2 * (n / 2) = n
    omega
  · change 2 * (n / 2) + 1 = n
    omega

theorem unzigzag_bounds {n : Nat} (below : n < UInt64.size) :
    -2 ^ 63 ≤ unzigzag n ∧ unzigzag n < 2 ^ 63 := by
  unfold unzigzag
  simp only [UInt64.size] at below
  split
  · simp only [Int.ofNat_eq_natCast]
    omega
  · rw [Int.negSucc_eq]
    omega

instance : TightWire Int64 where
  tight := Decoder.Tight.number fun n below => by
    have bounds := unzigzag_bounds below
    change encodeNat (zigzag (Int64.ofInt (unzigzag n)).toInt) = encodeNat n
    rw [Int64.toInt_ofInt_of_le bounds.1 bounds.2, zigzag_unzigzag]

/-! ## Bytes and texts -/

end Wire

theorem Decoder.Tight.byte {β : Type} [Wire β] {front : List UInt8} {f : UInt8 → Decoder β}
    (next : ∀ b, Tight (f b) (front ++ [b])) : Tight (Decoder.byte >>= f) front := by
  refine bind ?_ next
  intro input left b read
  exact ⟨[b], Decoder.byte_eq_ok read, .refl _⟩

namespace Wire

open Decoder.Tight (byte field whole refused)

variable {α : Type}

instance : TightWire Bool where
  tight := byte fun b => by
    split
    · exact whole
    · exact whole
    · exact refused _

theorem lowBytes_littleEndian (bytes : List UInt8) :
    lowBytes bytes.length (littleEndian bytes) = bytes := by
  induction bytes with
  | nil => rfl
  | cons b bytes ih =>
      have small := b.toNat_lt
      have low : UInt8.ofNat (b.toNat + 256 * littleEndian bytes) = b := by
        rw [← UInt8.toNat_inj, UInt8.toNat_ofNat']
        omega
      have high : (b.toNat + 256 * littleEndian bytes) / 256 = littleEndian bytes := by omega
      rw [littleEndian, List.length_cons, lowBytes, low, high, ih]

theorem littleEndian_lt (bytes : List UInt8) : littleEndian bytes < 256 ^ bytes.length := by
  induction bytes with
  | nil => exact Nat.one_pos
  | cons b bytes ih =>
      have small := b.toNat_lt
      rw [littleEndian, List.length_cons, Nat.pow_succ]
      omega

instance : TightWire FloatBits where
  tight := by
    refine ⟨fun read => ?_⟩
    obtain ⟨bytes, left, here, there⟩ := Decoder.bind_eq_ok read
    obtain ⟨eight, split⟩ := Decoder.bytes_eq_ok here
    obtain ⟨rfl, rfl⟩ := Prod.mk.inj (Except.ok.inj there)
    have below := littleEndian_lt bytes
    rw [eight] at below
    refine ⟨bytes, bytes, split, ?_, .refl _⟩
    change lowBytes 8 (UInt64.ofNat (littleEndian bytes)).toNat = bytes
    rw [UInt64.toNat_ofNat_of_lt' below, ← eight, lowBytes_littleEndian]

theorem textBytes_of_fromUTF8? {content : List UInt8} {s : String}
    (valid : String.fromUTF8? ⟨content.toArray⟩ = some s) : textBytes s = content := by
  unfold String.fromUTF8? at valid
  split at valid
  · rw [← Option.some.inj valid]
    rfl
  · exact absurd valid (by simp)

instance : TightWire String where
  tight := by
    refine ⟨fun read => ?_⟩
    obtain ⟨size, left, sized, more⟩ := Decoder.bind_eq_ok read
    obtain ⟨content, left, taken, checked⟩ := Decoder.bind_eq_ok more
    obtain ⟨-, used, rfl, padded⟩ := decodeNat64_eq_ok sized
    obtain ⟨rfl, rfl⟩ := Decoder.bytes_eq_ok taken
    cases valid : String.fromUTF8? ⟨content.toArray⟩ with
    | none =>
        rw [valid] at checked
        exact absurd checked (by simp [Decoder.fail])
    | some s =>
        rw [valid] at checked
        obtain ⟨rfl, rfl⟩ := Prod.mk.inj (Except.ok.inj checked)
        have same := textBytes_of_fromUTF8? valid
        refine ⟨used ++ content, encodeNat content.length ++ content,
          (List.append_assoc _ _ _).symm, ?_, padded.append (.refl _)⟩
        change encodeNat (textBytes s).length ++ textBytes s = _
        rw [same]
        rfl

/-! ## Containers -/

instance [Wire α] [TightWire α] : TightWire (Option α) where
  tight := byte fun b => by
    split
    · exact whole
    · exact field fun a => whole
    · exact refused _

theorem times_eq_ok [Wire α] [TightWire α] {n : Nat} {input rest : List UInt8} {as : List α}
    (read : Decoder.times decode n input = .ok (as, rest)) :
    as.length = n ∧ ∃ used, input = used ++ rest ∧ Padded used (as.flatMap encode) := by
  induction n generalizing input as with
  | zero =>
      obtain ⟨rfl, rfl⟩ := Prod.mk.inj (Except.ok.inj read)
      exact ⟨rfl, [], rfl, .nil⟩
  | succ n ih =>
      obtain ⟨a, left, first, more⟩ := Decoder.bind_eq_ok read
      obtain ⟨tail, left, others, value⟩ := Decoder.bind_eq_ok more
      obtain ⟨rfl, rfl⟩ := Prod.mk.inj (Except.ok.inj value)
      obtain ⟨used, rfl, padded⟩ := decode_eq_ok first
      obtain ⟨rfl, used', rfl, padded'⟩ := ih others
      exact ⟨rfl, used ++ used', (List.append_assoc _ _ _).symm, padded.append padded'⟩

instance [Wire α] [TightWire α] : TightWire (List α) where
  tight := by
    refine ⟨fun read => ?_⟩
    obtain ⟨count, left, counted, more⟩ := Decoder.bind_eq_ok read
    obtain ⟨-, used, rfl, padded⟩ := decodeNat64_eq_ok counted
    obtain ⟨rfl, used', rfl, padded'⟩ := times_eq_ok more
    exact ⟨used ++ used', _, (List.append_assoc _ _ _).symm, rfl, padded.append padded'⟩

/-- An enumeration that lists no value twice writes each as it was read. -/
theorem tight_enumeration [DecidableEq α] {all : List α} (distinct : all.Nodup) :
    @TightWire α (enumeration all) := by
  let : Wire α := enumeration all
  refine ⟨Decoder.Tight.place fun n => ?_⟩
  cases listed : all[n]? with
  | none => exact refused _
  | some a =>
      obtain ⟨below, rfl⟩ := List.getElem?_eq_some_iff.mp listed
      refine whole ?_
      change encodeNat (all.idxOf all[n]) = encodeNat n
      rw [distinct.idxOf_getElem]

end Wire

/-! ## Announced lengths -/

namespace Decoder

open Wire

/-- On its way through some bytes, a reader comes to the length of a text or of a list. It says
`count`, and after it `left` bytes are left. -/
inductive Announces : {α : Type} → Decoder α → List UInt8 → (count left : Nat) → Prop
  | text {input rest : List UInt8} {count : Nat} (read : decodeNat64 input = .ok (count, rest)) :
      Announces (decode : Decoder String) input count rest.length
  | list {α : Type} [Wire α] [LawfulWire α] [TightWire α] {input rest : List UInt8} {count : Nat}
      (read : decodeNat64 input = .ok (count, rest)) :
      Announces (decode : Decoder (List α)) input count rest.length
  | first {α β : Type} {d : Decoder α} {f : α → Decoder β} {input : List UInt8} {count left : Nat}
      (here : Announces d input count left) : Announces (d >>= f) input count left
  | next {α β : Type} {d : Decoder α} {f : α → Decoder β} {input rest : List UInt8} {a : α}
      {count left : Nat} (read : d input = .ok (a, rest)) (there : Announces (f a) rest count left) :
      Announces (d >>= f) input count left

/-- As many values as are announced take as many bytes, at least. -/
theorem times_of_short {α : Type} [Wire α] [LawfulWire α] [TightWire α] {count : Nat}
    {input : List UInt8} (short : input.length < count) :
    ∃ e, times (decode : Decoder α) count input = .error e := by
  cases read : times (decode : Decoder α) count input with
  | error e => exact ⟨e, rfl⟩
  | ok step =>
      obtain ⟨rfl, used, rfl, padded⟩ := times_eq_ok read
      have occupied := Nat.le_trans (length_le_flatMap step.1) padded.length_le
      rw [List.length_append] at short
      omega

/-- A reader that comes to a length which is more than there is gives up. -/
theorem error_of_announces {α : Type} {d : Decoder α} {input : List UInt8} {count left : Nat}
    (announced : Announces d input count left) (short : left < count) :
    ∃ e, d input = .error e := by
  induction announced with
  | text read => exact ⟨_, (bind_of_ok read).trans (bind_of_error (bytes_of_short short))⟩
  | @list α _ _ _ _ _ _ read =>
      obtain ⟨e, failed⟩ := times_of_short (α := α) short
      exact ⟨e, (bind_of_ok read).trans failed⟩
  | first _ ih =>
      obtain ⟨e, failed⟩ := ih short
      exact ⟨e, bind_of_error failed⟩
  | next read _ ih =>
      obtain ⟨e, failed⟩ := ih short
      exact ⟨e, (bind_of_ok read).trans failed⟩

end Decoder

end StorageBroker
