import BatchTree.Proofs.Grammar
import BatchTree.Proofs.Numerals

/-!
# Stems and counters

A sequential path is read from a stem and a counter.  Whether it can be read, and below which
parent it lies, is up to the stem alone; the digits that stand in for the counter before it is
known make no difference.  The counter can be read back from what comes of it, and without a
sign so can the stem.
-/

namespace BatchTree.Path

/-- The text in which a fault was found. -/
def Fault.text : Fault → String
  | .empty => ""
  | .notAbsolute text => text
  | .trailingSeparator text => text
  | .emptySegment text _ => text
  | .relativeSegment text _ => text
  | .invalidChar text _ _ => text

theorem FirstFault.text_eq {text : String} {fault : Fault} (isFault : FirstFault text fault) :
    fault.text = text := by
  cases isFault with
  | empty isEmpty => exact isEmpty.symm
  | _ => rfl

/-- A path and a fault both show the text that they were read from, so no two texts are read as
the same. -/
theorem parse_injective {left right : String} (same : parse left = parse right) :
    left = right := by
  cases read : parse right with
  | ok path => exact (text_of_parse (same.trans read)).symm.trans (text_of_parse read)
  | error fault =>
      have leftFault := parse_eq_error_iff.1 (same.trans read)
      exact leftFault.text_eq.symm.trans (parse_eq_error_iff.1 read).text_eq

/-! ## Numerals of counters -/

/-- The zeros in front do not change the number. -/
theorem ofDigitChars_padded (width value : Nat) :
    Nat.ofDigitChars 10 (padded width value) 0 = value := by
  rw [padded, List.leftpad, Nat.ofDigitChars_append, Nat.ofDigitChars_replicate_zero, Nat.mul_zero,
    Nat.ofDigitChars_ten_toDigits]

theorem padded_injective {width left right : Nat} (same : padded width left = padded width right) :
    left = right := by
  rw [← ofDigitChars_padded width left, same, ofDigitChars_padded]

/-- A numeral without a sign is all digits. -/
theorem padded_ne_cons_minus (width value : Nat) (others : List Char) :
    padded width value ≠ '-' :: others := by
  intro same
  have member : '-' ∈ padded width value := same ▸ List.mem_cons_self
  exact absurd (isDigit_of_mem_padded member) (by decide)

/-- Every counter has a text of its own, however many digits it takes. -/
theorem sequenceText_injective {left right : Int}
    (same : sequenceText left = sequenceText right) : left = right := by
  unfold sequenceText at same
  split at same
  · next leftNegative =>
      split at same
      · next rightNegative =>
          have digits := (List.cons.inj (String.ofList_injective same)).2
          have sameSize := padded_injective digits
          omega
      · exact absurd (String.ofList_injective same).symm (padded_ne_cons_minus _ _ _)
  · next leftNonneg =>
      split at same
      · exact absurd (String.ofList_injective same) (padded_ne_cons_minus _ _ _)
      · next rightNonneg =>
          have sameSize := padded_injective (String.ofList_injective same)
          omega

section Counters

variable {stem stemToo : String} {counter other : Int}

/-- A counter can be read back from what comes of its stem, be it a path or a fault. -/
theorem withSequence_injective (same : withSequence stem counter = withSequence stem other) :
    counter = other := by
  have sameText := String.toList_inj.2 (parse_injective same)
  rw [String.toList_append, String.toList_append, List.append_cancel_left_eq,
    String.toList_inj] at sameText
  exact sequenceText_injective sameText

/-- Texts of counters that fit the width can be told from the stems before them. -/
theorem eq_and_eq_of_withSequence (counts : Counts counter) (countsToo : Counts other)
    (same : withSequence stem counter = withSequence stemToo other) :
    stem = stemToo ∧ counter = other := by
  have sameText := String.toList_inj.2 (parse_injective same)
  have sameLength : (sequenceText counter).toList.length = (sequenceText other).toList.length := by
    rw [counts.toList_sequenceText, countsToo.toList_sequenceText, length_digits, length_digits]
  rw [String.toList_append, String.toList_append] at sameText
  obtain ⟨stems, counters⟩ := List.append_inj' sameText sameLength
  exact ⟨String.toList_inj.1 stems, sequenceText_injective (String.toList_inj.1 counters)⟩

/-- A counter of 32 bits is written in full, unless it has a sign. -/
theorem counts_of_int32 {counter : Int32} (nonneg : 0 ≤ counter) : Counts counter.toInt where
  nonneg := by
    rwa [Int32.le_iff_toInt_le, Int32.toInt_zero] at nonneg
  fits := by
    have bound := counter.toInt_lt
    simp only [sequenceWidth]
    omega

end Counters

/-! ## Stems -/

section Stems

variable {stem suffix : String}

theorem checkStem_eq_ok_iff :
    checkStem stem = .ok () ↔ ∃ path, parse (stem ++ "1") = .ok path := by
  rw [checkStem]
  cases parse (stem ++ "1") with
  | error fault => simp [Except.map]
  | ok path => simp [Except.map]

/-- Whatever completes a stem to a name, it is read as a path if and only if the stem passes. -/
theorem Completes.exists_parse_iff (completes : Completes suffix) :
    (∃ path, parse (stem ++ suffix) = .ok path) ↔ checkStem stem = .ok () := by
  rw [checkStem_eq_ok_iff]
  constructor
  · rintro ⟨path, read⟩
    obtain ⟨parent, segment, -, others⟩ := completes.parse_other read
    obtain ⟨named, readOne⟩ := others completes_one
    exact ⟨_, readOne⟩
  · rintro ⟨path, read⟩
    obtain ⟨parent, segment, -, others⟩ := completes_one.parse_other read
    obtain ⟨named, readToo⟩ := others completes
    exact ⟨_, readToo⟩

/-- The path comes of the stem, by a counter or by a digit that stands in for it. -/
inductive ComesOf (stem : String) (path : Path) : Prop where
  | checked (read : parse (stem ++ "1") = .ok path)
  | located (read : parse (stem ++ "0") = .ok path)
  | counted (counter : Int32) (read : withSequence stem counter.toInt = .ok path)

theorem ComesOf.exists_completes {path : Path} (comesOf : ComesOf stem path) :
    ∃ suffix, Completes suffix ∧ parse (stem ++ suffix) = .ok path := by
  cases comesOf with
  | checked read => exact ⟨_, completes_one, read⟩
  | located read => exact ⟨_, completes_zero, read⟩
  | counted counter read => exact ⟨_, completes_sequenceText counter.toInt, read⟩

/-- All that comes of a stem lies below one path. -/
theorem exists_parent_of_comesOf (stem : String) :
    ∃ parent, ∀ path, ComesOf stem path → path.parent? = some parent ∧ path ≠ root := by
  cases read : parse (stem ++ "1") with
  | error fault =>
      refine ⟨root, ?_⟩
      intro path comesOf
      obtain ⟨suffix, completes, readToo⟩ := comesOf.exists_completes
      have passes := completes.exists_parse_iff.1 ⟨path, readToo⟩
      obtain ⟨one, readOne⟩ := checkStem_eq_ok_iff.1 passes
      rw [read] at readOne
      cases readOne
  | ok one =>
      obtain ⟨parent, segment, -, others⟩ := completes_one.parse_other read
      refine ⟨parent, ?_⟩
      intro path comesOf
      obtain ⟨suffix, completes, readToo⟩ := comesOf.exists_completes
      obtain ⟨named, readNamed⟩ := others completes
      rw [readToo, Except.ok.injEq] at readNamed
      subst readNamed
      exact ⟨parent?_extend parent named, extend_ne_root parent named⟩

end Stems

/-- Whether a stem can be completed, and below which parent, does not depend on the counter.
Counters can be read back, their paths are ordered as they are, and where they have no sign no
two stems come to the same path. -/
theorem counters_complete_stems (stem : String) :
    (∀ counter : Int32,
        (∃ path, withSequence stem counter.toInt = .ok path) ↔ checkStem stem = .ok ()) ∧
      (checkStem stem = .ok () ↔ ∃ path, parse (stem ++ "0") = .ok path) ∧
      (∃ parent, ∀ path, ComesOf stem path → path.parent? = some parent ∧ path ≠ root) ∧
      (∀ counter other : Int32,
        withSequence stem counter.toInt = withSequence stem other.toInt → counter = other) ∧
      (∀ (counter other : Int32) (path later : Path), 0 ≤ counter → counter < other →
        withSequence stem counter.toInt = .ok path → withSequence stem other.toInt = .ok later →
          compare path later = .lt ∧ Text.bytes path.text < Text.bytes later.text) ∧
      ∀ (stemToo : String) (counter other : Int32), 0 ≤ counter → 0 ≤ other →
        withSequence stem counter.toInt = withSequence stemToo other.toInt →
          stem = stemToo ∧ counter = other := by
  refine ⟨?_, completes_zero.exists_parse_iff.symm, exists_parent_of_comesOf stem, ?_, ?_, ?_⟩
  · exact fun counter => (completes_sequenceText counter.toInt).exists_parse_iff
  · exact fun counter other same => Int32.toInt_inj.1 (withSequence_injective same)
  · intro counter other path later nonneg less read readToo
    have lessToo := Int32.lt_iff_toInt_lt.1 less
    have texts : path.text < later.text :=
      text_lt_of_withSequence (counts_of_int32 nonneg)
        (counts_of_int32 (Int32.le_of_lt (Int32.lt_of_le_of_lt nonneg less))) lessToo read readToo
    have ordered := Text.bytes_lt_iff.2 texts
    exact ⟨compare_eq_lt_iff.2 ordered, ordered⟩
  · intro stemToo counter other nonneg nonnegToo same
    obtain ⟨stems, counters⟩ :=
      eq_and_eq_of_withSequence (counts_of_int32 nonneg) (counts_of_int32 nonnegToo) same
    exact ⟨stems, Int32.toInt_inj.1 counters⟩

/-- In particular for a stem that is no path by itself and the counter that takes more than the
width. -/
example : (withSequence "/a/." (-2147483648)).map text = .ok "/a/.-2147483648" := by rfl

end BatchTree.Path
