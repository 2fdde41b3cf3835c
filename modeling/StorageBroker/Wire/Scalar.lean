import StorageBroker.DataOperation
import StorageBroker.Wire.Decoder

/-! # Written forms of scalars and containers

Numbers are written in groups of seven bits, the least significant group first, every byte but the
last with its high bit set. A signed number is folded onto the unsigned ones first. Texts and lists
start with their length, options with a presence byte. -/

set_option autoImplicit false

namespace StorageBroker.Wire

/-- Writes a number below `128 ^ groups` in groups of seven bits. -/
def encodeGroups : (groups : Nat) → Nat → List UInt8
  | 0, _ => []
  | k + 1, n =>
    if n < 128 then [UInt8.ofNat n] else UInt8.ofNat (n % 128 + 128) :: encodeGroups k (n / 128)

def decodeGroups : (groups : Nat) → Decoder Nat
  | 0 => .fail .overlongNumber
  | k + 1 => do
    let b ← Decoder.byte
    if b.toNat < 128 then pure b.toNat
    else do
      let rest ← decodeGroups k
      pure (b.toNat - 128 + 128 * rest)

def decodeBelow (groups bound : Nat) : Decoder Nat := do
  let n ← decodeGroups groups
  if n < bound then pure n else Decoder.fail .overlongNumber

/-- Writes a number below `2 ^ 64`. -/
def encodeNat (n : Nat) : List UInt8 := encodeGroups 10 n

/-- Reads a 64-bit number. -/
def decodeNat64 : Decoder Nat := decodeBelow 10 UInt64.size

/-- Reads a 32-bit number. -/
def decodeNat32 : Decoder Nat := decodeBelow 5 UInt32.size

instance : Wire UInt64 where
  encode n := encodeNat n.toNat
  decode := do return UInt64.ofNat (← decodeNat64)

instance : Wire UInt32 where
  encode n := encodeNat n.toNat
  decode := do return UInt32.ofNat (← decodeNat32)

/-- Folds the integers onto the naturals: 0, -1, 1, -2 and so on. -/
def zigzag (i : Int) : Nat :=
  match i with
  | .ofNat n => 2 * n
  | .negSucc n => 2 * n + 1

def unzigzag (n : Nat) : Int := if n % 2 = 0 then .ofNat (n / 2) else .negSucc (n / 2)

instance : Wire Int64 where
  encode i := encodeNat (zigzag i.toInt)
  decode := do return Int64.ofInt (unzigzag (← decodeNat64))

instance : Wire Bool where
  encode b := [if b then 1 else 0]
  decode := do
    match ← Decoder.byte with
    | 0 => pure false
    | 1 => pure true
    | _ => Decoder.fail .badFlag

/-- The lowest bytes of a number, the least significant first. -/
def lowBytes : (count : Nat) → Nat → List UInt8
  | 0, _ => []
  | count + 1, n => UInt8.ofNat n :: lowBytes count (n / 256)

/-- The number that bytes write, the least significant first. -/
def littleEndian : List UInt8 → Nat
  | [] => 0
  | b :: rest => b.toNat + 256 * littleEndian rest

instance : Wire FloatBits where
  encode f := lowBytes 8 f.bits.toNat
  decode := do return ⟨UInt64.ofNat (littleEndian (← Decoder.bytes 8))⟩

def textBytes (s : String) : List UInt8 := s.toUTF8.data.toList

instance : Wire String where
  encode s := encodeNat s.utf8ByteSize ++ textBytes s
  decode := do
    let size ← decodeNat64
    let content ← Decoder.bytes size
    match String.fromUTF8? ⟨content.toArray⟩ with
    | some s => pure s
    | none => Decoder.fail .invalidText

variable {α : Type}

instance [Wire α] : Wire (Option α) where
  encode
    | none => [0]
    | some a => 1 :: encode a
  decode := do
    match ← Decoder.byte with
    | 0 => pure none
    | 1 => return some (← decode)
    | _ => Decoder.fail .badPresence

instance [Wire α] : Wire (List α) where
  encode as := encodeNat as.length ++ as.flatMap encode
  decode := do
    let count ← decodeNat64
    Decoder.times decode count

/-- The written form of an enumeration: the place of the constructor. -/
abbrev enumeration [DecidableEq α] (all : List α) : Wire α where
  encode a := encodeNat (all.idxOf a)
  decode := do
    let place ← decodeNat32
    match all[place]? with
    | some a => pure a
    | none => Decoder.fail .unknownVariant

end StorageBroker.Wire
