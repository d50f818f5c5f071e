import BatchTree.Proofs.Completion
import Mathlib.Algebra.Group.Int.Defs
import Mathlib.Data.String.Basic

/-!
# Counters in decimal

A counter that fits the width of a numeral is written with exactly that many digits, and the
larger counter has the larger numeral.  So the texts of one stem are ordered as their
counters are, and no two counters complete any two stems to the same text.
-/

namespace BatchTree.Path

/-- The last decimal digits of a number. -/
def digits : (width value : Nat) → List Char
  | 0, _ => []
  | width + 1, value => digits width (value / 10) ++ [Nat.digitChar (value % 10)]

theorem length_digits (width value : Nat) : (digits width value).length = width := by
  induction width generalizing value with
  | zero => rfl
  | succ width ih => rw [digits, List.length_append, ih, List.length_singleton]

/-- A number that fits the width is filled up to it. -/
theorem padded_eq_digits {width value : Nat} (fits : value < 10 ^ (width + 1)) :
    padded (width + 1) value = digits (width + 1) value := by
  induction width generalizing value with
  | zero =>
      have small : value < 10 := fits
      rw [padded, Nat.toDigits_of_lt_base small, digits, Nat.mod_eq_of_lt small]
      rfl
  | succ width ih =>
      rw [digits, ← ih (by omega)]
      -- One digit is all padding before it; of more digits the last one is split off.
      by_cases small : value < 10
      · rw [padded, padded, Nat.toDigits_of_lt_base small, Nat.div_eq_of_lt small,
          Nat.mod_eq_of_lt small, Nat.toDigits_of_lt_base (Nat.zero_lt_succ 9)]
        change List.replicate (width + 1) '0' ++ [Nat.digitChar value] =
          List.replicate width '0' ++ ['0'] ++ [Nat.digitChar value]
        rw [List.replicate_succ']
      · have parts : Nat.toDigits 10 value =
            Nat.toDigits 10 (value / 10) ++ [Nat.digitChar (value % 10)] := by
          have last : value % 10 < 10 := Nat.mod_lt _ (by decide)
          rw [← Nat.toDigits_of_lt_base last,
            Nat.toDigits_append_toDigits (by decide) (by omega) last, Nat.div_add_mod]
        rw [padded, padded, parts, List.leftpad, List.leftpad, List.length_append,
          List.length_singleton, Nat.add_sub_add_right, List.append_assoc]

theorem append_lt_append {left right : List Char} (less : left < right)
    (sameLength : left.length = right.length) (behind beyond : List Char) :
    left ++ behind < right ++ beyond := by
  induction less with
  | nil => cases sameLength
  | rel smaller => exact .rel smaller
  | cons _ ih => exact .cons (ih (Nat.succ.inj sameLength))

theorem digitChar_lt {low high : Nat} (less : low < high) (digit : high < 10) :
    Nat.digitChar low < Nat.digitChar high := by
  rw [Char.lt_def, UInt32.lt_iff_toNat_lt]
  change (Nat.digitChar low).toNat < (Nat.digitChar high).toNat
  rw [Nat.toNat_digitChar_of_lt_ten digit,
    Nat.toNat_digitChar_of_lt_ten (Nat.lt_trans less digit)]
  exact Nat.add_lt_add_left less 48

/-- Of two numbers that fit the width, the larger one has the larger digits. -/
theorem digits_lt {width low high : Nat} (less : low < high) (fits : high < 10 ^ width) :
    digits width low < digits width high := by
  induction width generalizing low high with
  | zero => omega
  | succ width ih =>
      rw [digits, digits]
      -- The leading digits decide, unless they are the same.
      by_cases front : low / 10 < high / 10
      · apply append_lt_append (ih front (by omega))
        rw [length_digits, length_digits]
      · have same : low / 10 = high / 10 := by omega
        rw [same]
        exact List.append_left_lt (.rel (digitChar_lt (by omega) (Nat.mod_lt _ (by decide))))

/-- The counter is written in full, without a sign. -/
structure Counts (counter : Int) : Prop where
  nonneg : 0 ≤ counter
  fits : counter < 10 ^ sequenceWidth

section Counters

variable {counter other : Int} {stem stemToo : String} {path pathToo : Path}

theorem Counts.toList_sequenceText (counts : Counts counter) :
    (sequenceText counter).toList = digits sequenceWidth counter.toNat := by
  have fits : counter.natAbs < 10 ^ sequenceWidth := by
    have bound := counts.fits
    have nonneg := counts.nonneg
    simp only [sequenceWidth] at *
    omega
  have sameNumber : counter.natAbs = counter.toNat := by
    have nonneg := counts.nonneg
    omega
  rw [sequenceText, if_neg (Int.not_lt.2 counts.nonneg), String.toList_ofList, ← sameNumber]
  exact padded_eq_digits fits

theorem sequenceText_lt (counts : Counts counter) (countsToo : Counts other)
    (less : counter < other) : (sequenceText counter).toList < (sequenceText other).toList := by
  rw [counts.toList_sequenceText, countsToo.toList_sequenceText]
  apply digits_lt
  · have nonneg := counts.nonneg
    omega
  · have bound := countsToo.fits
    have nonneg := countsToo.nonneg
    simp only [sequenceWidth] at *
    omega

/-- Whatever the stems, the paths of two counters differ. -/
theorem withSequence_ne (counts : Counts counter) (countsToo : Counts other)
    (less : counter < other) (read : withSequence stem counter = .ok path)
    (readToo : withSequence stemToo other = .ok pathToo) : path ≠ pathToo := by
  rintro rfl
  have same := (text_of_parse read).symm.trans (text_of_parse readToo)
  rw [← String.toList_inj, String.toList_append, String.toList_append] at same
  have sameLength : (sequenceText counter).toList.length = (sequenceText other).toList.length := by
    rw [counts.toList_sequenceText, countsToo.toList_sequenceText, length_digits, length_digits]
  have sameText := (List.append_inj' same sameLength).2
  exact List.lt_irrefl _ (sameText ▸ sequenceText_lt counts countsToo less)

/-- The paths of one stem are ordered as the counters are. -/
theorem text_lt_of_withSequence (counts : Counts counter) (countsToo : Counts other)
    (less : counter < other) (read : withSequence stem counter = .ok path)
    (readToo : withSequence stem other = .ok pathToo) : path.text < pathToo.text := by
  rw [text_of_parse read, text_of_parse readToo, String.lt_iff, String.toList_append,
    String.toList_append]
  exact List.append_left_lt (sequenceText_lt counts countsToo less)

/-- Below one parent the names are ordered as the paths are. -/
theorem name_lt_of_text_lt {parent : Path} {first second : Segment}
    (less : (parent.extend first).text < (parent.extend second).text) :
    first.name < second.name := by
  rw [String.lt_iff, toList_text, toList_text, chars_extend, chars_extend] at less
  rcases lt_trichotomy first.name second.name with smaller | same | larger
  · exact smaller
  · rw [Segment.ext same] at less
    exact absurd less (List.lt_irrefl _)
  · have reversed : parent.lead ++ separator :: second.chars <
        parent.lead ++ separator :: first.chars :=
      List.append_left_lt (.cons (String.lt_iff.1 larger))
    exact absurd less (List.lt_asymm reversed)

end Counters

end BatchTree.Path
