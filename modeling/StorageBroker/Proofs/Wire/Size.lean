import StorageBroker.Wire.Message

/-! # Sizes of written forms

A number takes at most ten bytes and a text takes its own bytes and those of its length, so an
error is written in little more than its text. -/

set_option autoImplicit false

namespace StorageBroker.Wire

theorem length_encodeGroups_le (groups n : Nat) : (encodeGroups groups n).length ≤ groups := by
  induction groups generalizing n with
  | zero => exact Nat.le_refl 0
  | succ groups ih =>
      have rest := ih (n / 128)
      unfold encodeGroups
      split
      · simp
      · simpa using rest

theorem length_encodeNat_le (n : Nat) : (encodeNat n).length ≤ 10 :=
  length_encodeGroups_le 10 n

theorem length_encode_text (s : String) :
    (encode s).length = (encodeNat s.utf8ByteSize).length + s.utf8ByteSize := by
  change (encodeNat s.utf8ByteSize ++ textBytes s).length = _
  rw [List.length_append]
  rfl

theorem length_encode_error_le (code : StatusCode) (text : String) :
    (encode (Response.error code text)).length ≤ 22 + text.utf8ByteSize := by
  change (encode code ++ (1 :: encode text) ++ [0]).length ≤ _
  have number : (encode code).length ≤ 10 := length_encodeNat_le _
  have size := length_encodeNat_le text.utf8ByteSize
  simp only [List.length_append, List.length_cons, List.length_nil, length_encode_text]
  omega

end StorageBroker.Wire
