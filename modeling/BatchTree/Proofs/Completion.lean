import BatchTree.Path.Sequence
import BatchTree.Proofs.Descent

/-!
# Completed stems

A stem is completed by a counter, and before the counter is known by a single
digit.  Which digits are used makes no difference: whether the text is a path, and
below which parent, is decided by the stem.
-/

namespace BatchTree.Path

/-- What a path below this one starts with, up to the next separator. -/
def lead (path : Path) : List Char :=
  join (path.segments.map Segment.chars)

theorem chars_extend (path : Path) (segment : Segment) :
    (path.extend segment).chars = path.lead ++ separator :: segment.chars := by
  simp [chars, charsOf, extend, lead, join]

/-- A text that completes any stem to a name: nothing in it is forbidden, and its last
character keeps the name from being relative. -/
structure Completes (suffix : String) : Prop where
  admitted : ∀ char ∈ suffix.toList, Segment.admits char = true
  ending : ∃ front last, suffix.toList = front ++ [last] ∧ last ≠ '.'

namespace Completes

variable {stem suffix : String}

theorem separator_notMem (completes : Completes suffix) : separator ∉ suffix.toList := by
  intro member
  have admitted := completes.admitted separator member
  simp [Segment.admits] at admitted

theorem legal_append (completes : Completes suffix) {head : List Char}
    (admitted : ∀ char ∈ head, Segment.admits char = true) :
    Segment.Legal (head ++ suffix.toList) := by
  obtain ⟨front, last, ending, notDot⟩ := completes.ending
  refine ⟨by simp [ending], ?_, ?_, ?_⟩
  · intro here
    have lasts := congrArg List.getLast? here
    simp [ending, notDot] at lasts
  · intro above
    have lasts := congrArg List.getLast? above
    simp [ending, notDot] at lasts
  · intro char member
    rcases List.mem_append.1 member with inHead | inSuffix
    · exact admitted char inHead
    · exact completes.admitted char inSuffix

/-- A completed stem is read as a path below the one that the stem's last separator ends. -/
theorem parse_eq_ok_iff (completes : Completes suffix) {path : Path} :
    parse (stem ++ suffix) = .ok path ↔
      ∃ (parent : Path) (segment : Segment) (head : List Char), path = parent.extend segment ∧
        stem.toList = parent.lead ++ separator :: head ∧ segment.chars = head ++ suffix.toList := by
  rw [Path.parse_eq_ok_iff, ← String.toList_inj, toList_text, String.toList_append]
  constructor
  · intro same
    rcases eq_root_or_extend path with rfl | ⟨parent, segment, rfl⟩
    · obtain ⟨front, last, ending, -⟩ := completes.ending
      have lasts : some separator = some last := by
        simpa [ending] using congrArg List.getLast? same
      have member : separator ∈ suffix.toList := by
        rw [ending, Option.some.inj lasts]
        simp
      exact absurd member completes.separator_notMem
    · rw [chars_extend, List.append_eq_append_iff] at same
      rcases same with ⟨rest, stemChars, segmentChars⟩ | ⟨rest, -, suffixChars⟩
      · cases rest with
        | nil =>
            rw [List.nil_append] at segmentChars
            exact absurd (segmentChars ▸ List.mem_cons_self) completes.separator_notMem
        | cons first head =>
            obtain ⟨rfl, named⟩ := List.cons.inj segmentChars
            exact ⟨parent, segment, head, rfl, stemChars, named⟩
      · exact absurd (suffixChars ▸ by simp) completes.separator_notMem
  · rintro ⟨parent, segment, head, rfl, stemChars, segmentChars⟩
    rw [chars_extend, segmentChars, stemChars]
    simp

/-- If one completion of a stem is a path, so is every other, below the same parent. -/
theorem parse_other (completes : Completes suffix) {path : Path}
    (read : parse (stem ++ suffix) = .ok path) :
    ∃ (parent : Path) (segment : Segment), path = parent.extend segment ∧
      ∀ {other}, Completes other → ∃ named, parse (stem ++ other) = .ok (parent.extend named) := by
  obtain ⟨parent, segment, head, rfl, stemChars, segmentChars⟩ := completes.parse_eq_ok_iff.1 read
  refine ⟨parent, segment, rfl, ?_⟩
  intro other completesToo
  have admitted : ∀ char ∈ head, Segment.admits char = true := by
    intro char member
    have inSegment : char ∈ segment.chars := by simp [segmentChars, member]
    exact segment.legal.admitted char inSegment
  let named : Segment := ⟨String.ofList (head ++ other.toList), by
    rw [String.toList_ofList]
    exact completesToo.legal_append admitted⟩
  refine ⟨named, completesToo.parse_eq_ok_iff.2 ?_⟩
  exact ⟨parent, named, head, rfl, stemChars, by simp [named, Segment.chars]⟩

end Completes

theorem admits_of_isDigit {char : Char} (digit : char.isDigit = true) :
    Segment.admits char = true := by
  have bounds : 48 ≤ char.val.toNat ∧ char.val.toNat ≤ 57 := by
    simpa [Char.isDigit, UInt32.le_iff_toNat_le] using digit
  have notSeparator : char ≠ separator := by
    rintro rfl
    exact absurd digit (by decide)
  simp only [Segment.admits, Segment.isReserved, Bool.and_eq_true, bne_iff_ne, ne_eq,
    Bool.not_eq_true', Bool.or_eq_false_iff, Bool.and_eq_false_iff, decide_eq_false_iff_not,
    UInt32.le_iff_toNat_le, UInt32.reduceToNat]
  exact ⟨notSeparator, by omega⟩

/-- Whatever admitted characters stand before them, digits complete a stem. -/
theorem completes_digits (sign : List Char) {digits : List Char}
    (admitted : ∀ char ∈ sign, Segment.admits char = true) (nonempty : digits ≠ [])
    (decimal : ∀ char ∈ digits, char.isDigit = true) :
    Completes (String.ofList (sign ++ digits)) := by
  rcases List.eq_nil_or_concat digits with none | ⟨front, last, rfl⟩
  · exact absurd none nonempty
  · constructor
    · intro char member
      rw [String.toList_ofList] at member
      rcases List.mem_append.1 member with inSign | inDigits
      · exact admitted char inSign
      · exact admits_of_isDigit (decimal char inDigits)
    · refine ⟨sign ++ front, last, by simp, ?_⟩
      rintro rfl
      exact absurd (decimal '.' (by simp)) (by decide)

theorem padded_ne_nil (width value : Nat) : padded width value ≠ [] := by
  simp [padded, List.leftpad]

theorem isDigit_of_mem_padded {width value : Nat} {char : Char}
    (member : char ∈ padded width value) : char.isDigit = true := by
  rcases List.mem_append.1 member with zero | digit
  · rw [List.eq_of_mem_replicate zero]
    rfl
  · exact Nat.isDigit_of_mem_toDigits (by decide) (by decide) digit

theorem completes_sequenceText (sequence : Int) : Completes (sequenceText sequence) := by
  unfold sequenceText
  split
  · exact completes_digits ['-'] (List.forall_mem_singleton.2 rfl) (padded_ne_nil _ _)
      fun _ => isDigit_of_mem_padded
  · exact completes_digits [] (List.forall_mem_nil _) (padded_ne_nil _ _)
      fun _ => isDigit_of_mem_padded

theorem completes_zero : Completes "0" :=
  completes_digits [] (List.forall_mem_nil _) (List.cons_ne_nil '0' [])
    (List.forall_mem_singleton.2 rfl)

theorem completes_one : Completes "1" :=
  completes_digits [] (List.forall_mem_nil _) (List.cons_ne_nil '1' [])
    (List.forall_mem_singleton.2 rfl)

end BatchTree.Path
