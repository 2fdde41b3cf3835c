import Mathlib.Algebra.Group.Nat.Defs
import StorageBroker.Wire.Scalar

/-! # Reading back what was written

`Decoder.Reads` says that a decoder uses up a form and goes on as another decoder, whatever follows
the form. Forms are put together field after field, and so are their readings. `LawfulWire` says of
a type that each value is read back from its written form; scalars, texts and containers have it
here. -/

set_option autoImplicit false

namespace StorageBroker

namespace Decoder

variable {α β : Type}

theorem bind_of_ok {d : Decoder α} {f : α → Decoder β} {input rest : List UInt8} {a : α}
    (read : d input = .ok (a, rest)) : (d >>= f) input = f a rest := by
  change Except.bind (d input) (fun step => f step.1 step.2) = f a rest
  rw [read]
  rfl

theorem byte_cons (b : UInt8) (rest : List UInt8) : byte (b :: rest) = .ok (b, rest) := rfl

theorem bytes_append (front rest : List UInt8) :
    bytes front.length (front ++ rest) = .ok (front, rest) := by
  unfold bytes
  simp

/-- A decoder reads a form and goes on as the next one with what follows the form. A length is
written in 64 bits, so nothing is said of a form that is longer. -/
def Reads (d : Decoder α) (form : List UInt8) (next : Decoder α) : Prop :=
  form.length < UInt64.size → ∀ rest, d (form ++ rest) = next rest

end Decoder

/-- Types whose values are read back from their written forms, and are not read from nothing. -/
class LawfulWire (α : Type) [Wire α] : Prop where
  reads (a : α) : Decoder.Reads Wire.decode (Wire.encode a) (pure a)
  hungry : Wire.decode (α := α) [] = .error .endOfInput := by rfl

namespace Wire

variable {α : Type}

theorem decode_encode [Wire α] [LawfulWire α] (a : α) (rest : List UInt8)
    (short : (encode a).length < UInt64.size) : decode (encode a ++ rest) = .ok (a, rest) :=
  LawfulWire.reads a short rest

theorem encode_ne_nil [Wire α] [LawfulWire α] (a : α) : encode a ≠ [] := by
  intro empty
  have read := decode_encode a [] (by rw [empty]; decide)
  rw [empty, List.nil_append, LawfulWire.hungry] at read
  exact absurd read (by simp)

/-- A form is the beginning of another one only if it is the same. -/
theorem isPrefix_iff [Wire α] [LawfulWire α] (a : α) {b : α}
    (short : (encode b).length < UInt64.size) : encode a <+: encode b ↔ a = b := by
  constructor
  · rintro ⟨tail, joined⟩
    have shorter : (encode a).length < UInt64.size := by
      rw [← joined, List.length_append] at short
      omega
    -- the longer form is read as `a` with something left and as `b` with nothing left
    have left := decode_encode a tail shorter
    have right := decode_encode b [] short
    rw [List.append_nil, ← joined, left] at right
    exact congrArg Prod.fst (Except.ok.inj right)
  · rintro rfl
    exact List.prefix_rfl

/-! ## Numbers in groups of seven bits -/

theorem toNat_ofNat_of_lt {n : Nat} (small : n < 256) : (UInt8.ofNat n).toNat = n := by
  rw [UInt8.toNat_ofNat']
  omega

theorem decodeGroups_of_last {j n : Nat} (small : n < 128) (rest : List UInt8) :
    decodeGroups (j + 1) ([UInt8.ofNat n] ++ rest) = .ok (n, rest) := by
  have value : (UInt8.ofNat n).toNat = n := toNat_ofNat_of_lt (by omega)
  rw [decodeGroups, List.singleton_append, Decoder.bind_of_ok (Decoder.byte_cons _ _), value,
    if_pos small]
  rfl

/-- A number is read from its groups also by a reader that would take fewer or more of them, as long
as that many could write the number. -/
theorem decodeGroups_encodeGroups (k j n : Nat) (rest : List UInt8) (written : n < 128 ^ (k + 1))
    (readable : n < 128 ^ (j + 1)) :
    decodeGroups (j + 1) (encodeGroups (k + 1) n ++ rest) = .ok (n, rest) := by
  induction k generalizing j n with
  | zero =>
      have small : n < 128 := by simpa using written
      rw [encodeGroups, if_pos small]
      exact decodeGroups_of_last small rest
  | succ k ih =>
      rw [encodeGroups]
      by_cases small : n < 128
      · rw [if_pos small]
        exact decodeGroups_of_last small rest
      · rw [if_neg small]
        cases j with
        | zero => exact absurd (by simpa using readable) small
        | succ j =>
            have head : (UInt8.ofNat (n % 128 + 128)).toNat = n % 128 + 128 :=
              toNat_ofNat_of_lt (by omega)
            have more : ¬ n % 128 + 128 < 128 := by omega
            have writtenTail : n / 128 < 128 ^ (k + 1) := by
              rw [Nat.pow_succ] at written
              omega
            have readableTail : n / 128 < 128 ^ (j + 1) := by
              rw [Nat.pow_succ] at readable
              omega
            have tail := ih j (n / 128) writtenTail readableTail
            have sum : n % 128 + 128 - 128 + 128 * (n / 128) = n := by omega
            rw [decodeGroups, List.cons_append, Decoder.bind_of_ok (Decoder.byte_cons _ _), head,
              if_neg more, Decoder.bind_of_ok tail, sum]
            rfl

theorem decodeBelow_encodeNat {groups bound n : Nat} (rest : List UInt8)
    (room : bound ≤ 128 ^ (groups + 1)) (word : bound ≤ UInt64.size) (below : n < bound) :
    decodeBelow (groups + 1) bound (encodeNat n ++ rest) = .ok (n, rest) := by
  have written : n < 128 ^ (9 + 1) := by
    have size : UInt64.size ≤ 128 ^ (9 + 1) := by decide
    omega
  have read := decodeGroups_encodeGroups 9 groups n rest written (by omega)
  unfold decodeBelow encodeNat
  rw [Decoder.bind_of_ok read, if_pos below]
  rfl

theorem decodeNat64_encodeNat {n : Nat} (rest : List UInt8) (below : n < UInt64.size) :
    decodeNat64 (encodeNat n ++ rest) = .ok (n, rest) :=
  decodeBelow_encodeNat rest (by decide) (by decide) below

theorem decodeNat32_encodeNat {n : Nat} (rest : List UInt8) (below : n < UInt32.size) :
    decodeNat32 (encodeNat n ++ rest) = .ok (n, rest) :=
  decodeBelow_encodeNat rest (by decide) (by decide) below

end Wire

/-! ## Forms put together -/

namespace Decoder.Reads

open Wire

variable {α β : Type} {d : Decoder β} {form : List UInt8}

theorem start (α : Type) [Wire α] : Reads (decode : Decoder α) [] decode :=
  fun _ _ => rfl

/-- A reading that comes to a value goes on with what is done with that value. -/
theorem field [Wire α] [LawfulWire α] {f : α → Decoder β}
    (before : Reads d form (decode >>= f)) (a : α) : Reads d (form ++ encode a) (f a) := by
  intro short rest
  rw [List.length_append] at short
  have value := decode_encode a rest (by omega)
  rw [List.append_assoc, before (by omega)]
  exact bind_of_ok value

/-- A reading that comes to a choice goes on with the constructor of that place. -/
theorem place {f : Nat → Decoder β} (before : Reads d form (decodeNat32 >>= f)) (n : Nat)
    (below : n < UInt32.size := by decide) : Reads d (form ++ encodeNat n) (f n) := by
  intro short rest
  rw [List.length_append] at short
  have chosen := decodeNat32_encodeNat rest below
  rw [List.append_assoc, before (by omega)]
  exact bind_of_ok chosen

/-- A value is read back if its form, put together from its fields, is read to the end. -/
theorem whole [Wire α] {a : α} {form : List UInt8} {next : Decoder α}
    (reads : Reads decode form next) (written : encode a = form := by rfl)
    (done : next = pure a := by rfl) : Reads decode (encode a) (pure a) := by
  rw [written, ← done]
  exact reads

end Decoder.Reads

namespace Wire

variable {α : Type}

/-! ## Numbers -/

instance : LawfulWire UInt64 where
  reads n := by
    intro _ rest
    have read := decodeNat64_encodeNat rest n.toNat_lt
    refine (Decoder.bind_of_ok read).trans ?_
    rw [UInt64.ofNat_toNat]

instance : LawfulWire UInt32 where
  reads n := by
    intro _ rest
    have read := decodeNat32_encodeNat rest n.toNat_lt
    refine (Decoder.bind_of_ok read).trans ?_
    rw [UInt32.ofNat_toNat]

theorem unzigzag_zigzag (i : Int) : unzigzag (zigzag i) = i := by
  unfold unzigzag zigzag
  cases i with
  | ofNat n =>
      have even : 2 * n % 2 = 0 := by omega
      have half : 2 * n / 2 = n := by omega
      rw [if_pos even, half]
  | negSucc n =>
      have odd : ¬ (2 * n + 1) % 2 = 0 := by omega
      have half : (2 * n + 1) / 2 = n := by omega
      rw [if_neg odd, half]

theorem zigzag_lt (i : Int64) : zigzag i.toInt < UInt64.size := by
  have least := Int64.le_toInt i
  have most := Int64.toInt_lt i
  unfold zigzag
  cases sign : i.toInt with
  | ofNat n =>
      rw [sign, Int.ofNat_eq_natCast] at most
      simp only [UInt64.size]
      omega
  | negSucc n =>
      rw [sign] at least
      simp only [UInt64.size]
      omega

instance : LawfulWire Int64 where
  reads i := by
    intro _ rest
    have read := decodeNat64_encodeNat rest (zigzag_lt i)
    refine (Decoder.bind_of_ok read).trans ?_
    rw [unzigzag_zigzag, Int64.ofInt_toInt]

instance : LawfulWire Bool where
  reads b := by
    intro _ rest
    cases b <;> rfl

theorem littleEndian_lowBytes (count n : Nat) (below : n < 256 ^ count) :
    littleEndian (lowBytes count n) = n := by
  induction count generalizing n with
  | zero =>
      have zero : n = 0 := by simpa using below
      rw [zero]
      rfl
  | succ count ih =>
      have high : n / 256 < 256 ^ count := by
        rw [Nat.pow_succ] at below
        omega
      have low : (UInt8.ofNat n).toNat = n % 256 := UInt8.toNat_ofNat'
      rw [lowBytes, littleEndian, ih (n / 256) high, low]
      omega

theorem length_lowBytes (count n : Nat) : (lowBytes count n).length = count := by
  induction count generalizing n with
  | zero => rfl
  | succ count ih => rw [lowBytes, List.length_cons, ih]

instance : LawfulWire FloatBits where
  reads f := by
    intro _ rest
    have read := Decoder.bytes_append (lowBytes 8 f.bits.toNat) rest
    rw [length_lowBytes] at read
    refine (Decoder.bind_of_ok read).trans ?_
    rw [littleEndian_lowBytes 8 _ f.bits.toNat_lt, UInt64.ofNat_toNat]

/-! ## Texts and containers -/

theorem fromUTF8?_textBytes (s : String) :
    String.fromUTF8? ⟨(textBytes s).toArray⟩ = some s := by
  change String.fromUTF8? s.toByteArray = some s
  unfold String.fromUTF8?
  rw [dif_pos s.isValidUTF8]
  rfl

instance : LawfulWire String where
  reads s := by
    intro short rest
    have written : encode s = encodeNat (textBytes s).length ++ textBytes s := rfl
    rw [written, List.length_append] at short
    have size := decodeNat64_encodeNat (textBytes s ++ rest)
      (show (textBytes s).length < UInt64.size by omega)
    rw [written, List.append_assoc]
    refine (Decoder.bind_of_ok size).trans ?_
    refine (Decoder.bind_of_ok (Decoder.bytes_append _ rest)).trans ?_
    rw [fromUTF8?_textBytes]

instance [Wire α] [LawfulWire α] : LawfulWire (Option α) where
  reads
    | none => fun _ _ => rfl
    | some a => by
        intro short rest
        have written : encode (some a) = 1 :: encode a := rfl
        rw [written, List.length_cons] at short
        have value := decode_encode a rest (by omega)
        rw [written, List.cons_append]
        refine (Decoder.bind_of_ok (Decoder.byte_cons 1 _)).trans ?_
        exact Decoder.bind_of_ok value

/-- Every value of a list takes at least one byte. -/
theorem length_le_flatMap [Wire α] [LawfulWire α] (as : List α) :
    as.length ≤ (as.flatMap encode).length := by
  induction as with
  | nil => exact Nat.le_refl 0
  | cons a as ih =>
      have occupied := List.length_pos_iff.mpr (encode_ne_nil a)
      rw [List.flatMap_cons, List.length_append, List.length_cons]
      omega

theorem times_flatMap [Wire α] [LawfulWire α] (as : List α) (rest : List UInt8)
    (short : (as.flatMap encode).length < UInt64.size) :
    Decoder.times decode as.length (as.flatMap encode ++ rest) = .ok (as, rest) := by
  induction as with
  | nil => rfl
  | cons a as ih =>
      rw [List.flatMap_cons, List.length_append] at short
      have head := decode_encode a (as.flatMap encode ++ rest) (by omega)
      have tail := ih (by omega)
      rw [List.flatMap_cons, List.append_assoc, List.length_cons, Decoder.times,
        Decoder.bind_of_ok head, Decoder.bind_of_ok tail]
      rfl

instance [Wire α] [LawfulWire α] : LawfulWire (List α) where
  reads as := by
    intro short rest
    have written : encode as = encodeNat as.length ++ as.flatMap encode := rfl
    rw [written, List.length_append] at short
    -- the number of values fits because their forms do
    have many := length_le_flatMap as
    have count := decodeNat64_encodeNat (as.flatMap encode ++ rest)
      (show as.length < UInt64.size by omega)
    rw [written, List.append_assoc]
    refine (Decoder.bind_of_ok count).trans ?_
    exact times_flatMap as rest (by omega)

/-- An enumeration that lists every value reads each back by its place. -/
theorem lawful_enumeration [DecidableEq α] {all : List α} (complete : ∀ a, a ∈ all)
    (few : all.length ≤ UInt32.size) : @LawfulWire α (enumeration all) := by
  let : Wire α := enumeration all
  refine ⟨fun a _ rest => ?_, rfl⟩
  have listed : all.idxOf a < all.length := List.idxOf_lt_length_of_mem (complete a)
  have read := decodeNat32_encodeNat rest (Nat.lt_of_lt_of_le listed few)
  refine (Decoder.bind_of_ok read).trans ?_
  rw [List.getElem?_eq_getElem listed, List.getElem_idxOf]

end Wire

end StorageBroker
