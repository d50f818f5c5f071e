import BatchTree.Path.Basic
import Mathlib.Data.List.Basic

/-!
# Byte order

Names are listed in the order of their characters, and so are paths.  The order of their bytes
is the same: UTF-8 gives the smaller character the smaller bytes, and no character's bytes begin
with those of another.
-/

namespace BatchTree.Text

/-- The bytes of a text in UTF-8. -/
def bytes (text : String) : List UInt8 :=
  text.toByteArray.data.toList

theorem bytes_eq_flatMap (text : String) :
    bytes text = text.toList.flatMap String.utf8EncodeChar := by
  rw [bytes, ← String.utf8Encode_toList, List.utf8Encode, List.data_toByteArray]

/-- Lists of bytes are compared at the first byte, and further on where that is the same. -/
theorem cons_lt_cons {low high : Nat} {left right : List UInt8} (bounded : high < 256)
    (less : low < high ∨ low = high ∧ left < right) :
    UInt8.ofNat low :: left < UInt8.ofNat high :: right := by
  rw [List.cons_lt_cons_iff, UInt8.lt_iff_toNat_lt, UInt8.toNat_ofNat', UInt8.toNat_ofNat']
  rcases less with smaller | ⟨rfl, rest⟩
  · exact .inl (by omega)
  · exact .inr ⟨rfl, rest⟩

section Continuation

variable {low high : Nat} (left right : List UInt8)

theorem lastByte_lt (less : low % 64 < high % 64) :
    UInt8.ofNat (low % 64 + 128) :: left < UInt8.ofNat (high % 64 + 128) :: right :=
  cons_lt_cons (by omega) (.inl (by omega))

theorem lastTwoBytes_lt (less : low % 4096 < high % 4096) :
    UInt8.ofNat (low / 64 % 64 + 128) :: UInt8.ofNat (low % 64 + 128) :: left <
      UInt8.ofNat (high / 64 % 64 + 128) :: UInt8.ofNat (high % 64 + 128) :: right := by
  have digits : low / 64 % 64 < high / 64 % 64 ∨
      low / 64 % 64 = high / 64 % 64 ∧ low % 64 < high % 64 := by omega
  refine cons_lt_cons (by omega) (digits.imp (by omega) fun same => ?_)
  exact ⟨by omega, lastByte_lt left right same.2⟩

theorem lastThreeBytes_lt (less : low % 262144 < high % 262144) :
    UInt8.ofNat (low / 4096 % 64 + 128) ::
        UInt8.ofNat (low / 64 % 64 + 128) :: UInt8.ofNat (low % 64 + 128) :: left <
      UInt8.ofNat (high / 4096 % 64 + 128) ::
        UInt8.ofNat (high / 64 % 64 + 128) :: UInt8.ofNat (high % 64 + 128) :: right := by
  have digits : low / 4096 % 64 < high / 4096 % 64 ∨
      low / 4096 % 64 = high / 4096 % 64 ∧ low % 4096 < high % 4096 := by omega
  refine cons_lt_cons (by omega) (digits.imp (by omega) fun same => ?_)
  exact ⟨by omega, lastTwoBytes_lt left right same.2⟩

end Continuation

/-- The bytes of the smaller of two characters are the smaller ones, and they are
no beginning of the others, so whatever follows does not matter. -/
theorem encode_append_lt {left right : Char} (less : left < right) (behind beyond : List UInt8) :
    String.utf8EncodeChar left ++ behind < String.utf8EncodeChar right ++ beyond := by
  rw [Char.lt_def, UInt32.lt_iff_toNat_lt] at less
  have bounded : right.val.toNat < 0x110000 := by
    rcases right.valid with low | high
    · exact Nat.lt_trans low (by decide)
    · exact high.2
  unfold String.utf8EncodeChar
  generalize left.val.toNat = low at *
  generalize right.val.toNat = high at *
  dsimp only
  split_ifs <;> simp only [List.cons_append, List.nil_append]
  -- The first byte grows with the length of an encoding, so it decides unless the lengths agree.
  all_goals try exact cons_lt_cons (by omega) (.inl (by omega))
  · have digits : low / 64 % 32 < high / 64 % 32 ∨
        low / 64 % 32 = high / 64 % 32 ∧ low % 64 < high % 64 := by omega
    refine cons_lt_cons (by omega) (digits.imp (by omega) fun same => ?_)
    exact ⟨by omega, lastByte_lt behind beyond same.2⟩
  · have digits : low / 4096 % 16 < high / 4096 % 16 ∨
        low / 4096 % 16 = high / 4096 % 16 ∧ low % 4096 < high % 4096 := by omega
    refine cons_lt_cons (by omega) (digits.imp (by omega) fun same => ?_)
    exact ⟨by omega, lastTwoBytes_lt behind beyond same.2⟩
  · have digits : low / 262144 % 8 < high / 262144 % 8 ∨
        low / 262144 % 8 = high / 262144 % 8 ∧ low % 262144 < high % 262144 := by omega
    refine cons_lt_cons (by omega) (digits.imp (by omega) fun same => ?_)
    exact ⟨by omega, lastThreeBytes_lt behind beyond same.2⟩

theorem flatMap_encode_lt {left right : List Char} (less : left < right) :
    left.flatMap String.utf8EncodeChar < right.flatMap String.utf8EncodeChar := by
  induction less with
  | nil =>
      rename_i head tail
      cases encoded : String.utf8EncodeChar head with
      | nil => exact absurd encoded String.utf8EncodeChar_ne_nil
      | cons first others => simp [encoded]
  | rel smaller => exact encode_append_lt smaller _ _
  | cons _ ih => exact List.append_left_lt ih

theorem bytes_lt_of_lt {left right : String} (less : left < right) : bytes left < bytes right := by
  rw [bytes_eq_flatMap, bytes_eq_flatMap]
  exact flatMap_encode_lt (String.lt_iff.1 less)

/-- Texts are ordered as their bytes are. -/
theorem bytes_lt_iff {left right : String} : bytes left < bytes right ↔ left < right := by
  constructor
  · intro less
    by_contra notLess
    by_cases larger : right < left
    · exact List.lt_asymm less (bytes_lt_of_lt larger)
    · rw [String.le_antisymm larger notLess] at less
      exact List.lt_irrefl _ less
  · exact bytes_lt_of_lt

end BatchTree.Text

namespace BatchTree.Path

/-- Paths are ordered as the bytes of their texts are. -/
theorem compare_eq_lt_iff {left right : Path} :
    compare left right = .lt ↔ Text.bytes left.text < Text.bytes right.text :=
  compareOfLessAndEq_eq_lt.trans Text.bytes_lt_iff.symm

end BatchTree.Path
