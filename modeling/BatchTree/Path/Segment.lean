/-!
# Segments of a path

A path is a list of segments, the names met on the way down from the root.  A
segment is checked character by character, and its first fault is reported with
the number of bytes that stand before it, so that a reader of a whole path can
point into the text.
-/

namespace BatchTree

/-- The character between two segments. -/
def separator : Char := '/'

/-- Bytes that a list of characters takes in UTF-8. -/
def byteLength : List Char → Nat
  | [] => 0
  | char :: rest => char.utf8Size + byteLength rest

@[simp] theorem byteLength_nil : byteLength [] = 0 := rfl

@[simp] theorem byteLength_cons (head : Char) (tail : List Char) :
    byteLength (head :: tail) = head.utf8Size + byteLength tail := rfl

@[simp] theorem byteLength_append (left right : List Char) :
    byteLength (left ++ right) = byteLength left + byteLength right := by
  induction left with
  | nil => simp
  | cons head tail ih => simp [ih, Nat.add_assoc]

namespace Segment

/-- Characters that no path holds: the controls, the private use area of the
basic plane, and the block of specials that ends the plane. -/
def isReserved (char : Char) : Bool :=
  char.val ≤ 0x1f ||
    (0x7f ≤ char.val && char.val ≤ 0x9f) ||
    (0xe000 ≤ char.val && char.val ≤ 0xf8ff) ||
    (0xfff0 ≤ char.val && char.val ≤ 0xffff)

/-- Characters that a segment may hold. -/
def admits (char : Char) : Bool :=
  char != separator && !isReserved char

/-- Why a list of characters is no segment. -/
inductive Fault where
  | empty
  | relative
  /-- The first character that is not admitted, `skipped` bytes from the start. -/
  | invalid (char : Char) (skipped : Nat)
  deriving DecidableEq, Repr

/-- The first character that is not admitted, with the bytes before it. -/
def firstInvalid? : (chars : List Char) → (skipped : Nat) → Option (Char × Nat)
  | [], _ => none
  | char :: rest, skipped =>
      if admits char then
        firstInvalid? rest (skipped + char.utf8Size)
      else
        some (char, skipped)

/-- The first fault of a would-be segment.  Emptiness and the two relative names
are faults of the whole segment and win over those of a character. -/
def fault? (chars : List Char) : Option Fault :=
  if chars = [] then
    some .empty
  else if chars = ['.'] ∨ chars = ['.', '.'] then
    some .relative
  else
    (firstInvalid? chars 0).map fun found => .invalid found.1 found.2

/-- What a list of characters has to satisfy to name a node. -/
structure Legal (chars : List Char) : Prop where
  nonempty : chars ≠ []
  notHere : chars ≠ ['.']
  notAbove : chars ≠ ['.', '.']
  admitted : ∀ char ∈ chars, admits char = true

theorem firstInvalid?_eq_none_iff (chars : List Char) (skipped : Nat) :
    firstInvalid? chars skipped = none ↔ ∀ char ∈ chars, admits char = true := by
  induction chars generalizing skipped with
  | nil => simp [firstInvalid?]
  | cons head tail ih =>
      by_cases admitted : admits head = true
      · simp [firstInvalid?, admitted, ih]
      · simp [firstInvalid?, admitted]

theorem fault?_eq_none_iff (chars : List Char) : fault? chars = none ↔ Legal chars := by
  constructor
  · intro clean
    unfold fault? at clean
    split at clean
    · cases clean
    · rename_i nonempty
      split at clean
      · cases clean
      · rename_i absolute
        rw [Option.map_eq_none_iff, firstInvalid?_eq_none_iff] at clean
        exact
          ⟨nonempty, fun here => absolute (.inl here), fun above => absolute (.inr above), clean⟩
  · intro legal
    have absolute : ¬(chars = ['.'] ∨ chars = ['.', '.']) := by
      rintro (here | above)
      · exact legal.notHere here
      · exact legal.notAbove above
    simp only [fault?, if_neg legal.nonempty, if_neg absolute, Option.map_eq_none_iff]
    exact (firstInvalid?_eq_none_iff chars 0).2 legal.admitted

theorem Legal.separator_notMem {chars : List Char} (legal : Legal chars) :
    separator ∉ chars := by
  intro member
  have admitted := legal.admitted separator member
  simp [admits] at admitted

end Segment

/-- A legal name of a node. -/
structure Segment where
  name : String
  legal : Segment.Legal name.toList

namespace Segment

@[ext] theorem ext {left right : Segment} (same : left.name = right.name) : left = right := by
  cases left
  cases right
  cases same
  rfl

instance : DecidableEq Segment := fun left right =>
  decidable_of_iff (left.name = right.name) ⟨Segment.ext, fun same => same ▸ rfl⟩

/-- The characters of the name. -/
def chars (segment : Segment) : List Char :=
  segment.name.toList

theorem chars_ne_nil (segment : Segment) : segment.chars ≠ [] :=
  segment.legal.nonempty

theorem separator_notMem_chars (segment : Segment) : separator ∉ segment.chars :=
  segment.legal.separator_notMem

theorem chars_injective {left right : Segment} (same : left.chars = right.chars) :
    left = right :=
  Segment.ext (String.toList_inj.1 same)

/-- Read a segment from its characters, or report its first fault. -/
def ofChars (chars : List Char) : Except Fault Segment :=
  match found : fault? chars with
  | some fault => .error fault
  | none => .ok ⟨String.ofList chars, by
      rw [String.toList_ofList]
      exact (fault?_eq_none_iff chars).1 found⟩

theorem ofChars_eq_ok_iff (chars : List Char) (segment : Segment) :
    ofChars chars = .ok segment ↔ segment.chars = chars := by
  unfold ofChars
  split
  · rename_i fault found
    constructor
    · intro impossible
      cases impossible
    · intro same
      have legal : Legal segment.chars := segment.legal
      rw [same] at legal
      rw [(fault?_eq_none_iff chars).2 legal] at found
      cases found
  · constructor
    · intro same
      cases same
      simp [Segment.chars]
    · intro same
      congr 1
      apply chars_injective
      rw [same]
      simp [Segment.chars]

theorem ofChars_eq_error_iff (chars : List Char) (fault : Fault) :
    ofChars chars = .error fault ↔ fault? chars = some fault := by
  unfold ofChars
  split
  · rename_i other found
    simp [found]
  · rename_i found
    simp [found]

@[simp] theorem ofChars_chars (segment : Segment) : ofChars segment.chars = .ok segment :=
  (ofChars_eq_ok_iff _ _).2 rfl

end Segment

end BatchTree
