import BatchTree.Path.Basic
import BatchTree.Text.Literal

/-!
# Reading paths

`parse` accepts exactly the texts of paths, as `parse_eq_ok_iff` says, and names
the first fault of any other text.  Faults that can be seen at the ends of the
text come first, then those of the segments from left to right.
-/

namespace BatchTree.Path

/-- Why a text is no path.  Indexes count bytes from the start of the text. -/
inductive Fault where
  | empty
  | notAbsolute (text : String)
  | trailingSeparator (text : String)
  | emptySegment (text : String) (index : Nat)
  | relativeSegment (text : String) (index : Nat)
  | invalidChar (text : String) (char : Char) (index : Nat)
  deriving DecidableEq, Repr

/-- The wording of a fault. -/
def Fault.message : Fault → String
  | .empty => "path length must be > 0"
  | .notAbsolute text => "path must start with / character: " ++ text
  | .trailingSeparator text => "path must not end with / character: " ++ text
  | .emptySegment text index => s!"empty node name specified @{index} in {text}"
  | .relativeSegment text index => s!"relative paths not allowed @{index} in {text}"
  | .invalidChar text char index =>
      s!"invalid character {Text.quotedChar char} @{index} in {text}"

/-- A fault of the segment that starts at byte `index` of the text. -/
def Fault.ofSegment (text : String) (index : Nat) : Segment.Fault → Fault
  | .empty => .emptySegment text index
  | .relative => .relativeSegment text index
  | .invalid char skipped => .invalidChar text char (index + skipped)

/-- Read the pieces of a text as segments, the first of which starts at byte
`index`.  A fault comes with the index of its segment. -/
def readSegments (index : Nat) :
    (pieces : List (List Char)) → Except (Nat × Segment.Fault) (List Segment)
  | [] => .ok []
  | piece :: rest =>
      match Segment.ofChars piece with
      | .error fault => .error (index, fault)
      | .ok segment =>
          match readSegments (index + byteLength piece + separator.utf8Size) rest with
          | .error found => .error found
          | .ok segments => .ok (segment :: segments)

/-- Read a path from its text. -/
def parse (text : String) : Except Fault Path :=
  match text.toList with
  | [] => .error .empty
  | first :: rest =>
      if first ≠ separator then
        .error (.notAbsolute text)
      else if rest = [] then
        .ok root
      else if rest.getLast? = some separator then
        .error (.trailingSeparator text)
      else
        match readSegments separator.utf8Size (split rest) with
        | .error (index, fault) => .error (.ofSegment text index fault)
        | .ok segments => .ok (ofSegments segments)

theorem readSegments_eq_ok_iff (index : Nat) (pieces : List (List Char))
    (segments : List Segment) :
    readSegments index pieces = .ok segments ↔ segments.map Segment.chars = pieces := by
  induction pieces generalizing index segments with
  | nil => cases segments <;> simp [readSegments]
  | cons piece rest ih =>
      unfold readSegments
      cases segments with
      | nil => split <;> (try split) <;> simp
      | cons first others =>
          rw [List.map_cons, List.cons.injEq, ← ih (index + byteLength piece + separator.utf8Size),
            ← Segment.ofChars_eq_ok_iff]
          split
          · rename_i found
            simp [found]
          · rename_i found
            rw [found]
            split <;> rename_i tail <;> simp [tail]

theorem chars_eq_cons_tail (path : Path) : path.chars = separator :: path.chars.tail := by
  unfold chars charsOf
  split
  · rfl
  · rename_i nonempty
    cases segments : path.segments with
    | nil => exact absurd segments nonempty
    | cons first others => rfl

/-- The text of a path below the root does not end after the first separator, nor in another. -/
theorem tail_chars_of_ne_root {path : Path} (below : path ≠ root) :
    path.chars.tail ≠ [] ∧ path.chars.tail.getLast? ≠ some separator := by
  rcases eq_root_or_extend path with isRoot | ⟨parent, segment, rfl⟩
  · exact absurd isRoot below
  · have isEnd : ∃ lead, (parent.extend segment).chars.tail = lead ++ segment.chars := by
      by_cases atRoot : parent = root
      · subst atRoot
        exact ⟨[], by rw [chars_extend_root, List.tail_cons, List.nil_append]⟩
      · refine ⟨parent.chars.tail ++ [separator], ?_⟩
        rw [chars_extend_of_ne_root atRoot, chars_eq_cons_tail parent, List.cons_append,
          List.tail_cons, List.tail_cons, List.append_assoc, List.singleton_append]
    obtain ⟨lead, isTail⟩ := isEnd
    rw [isTail]
    constructor
    · exact List.append_ne_nil_of_right_ne_nil lead segment.chars_ne_nil
    · have ending : (lead ++ segment.chars).getLast? = segment.chars.getLast? := by
        rw [List.getLast?_append, List.getLast?_eq_some_getLast segment.chars_ne_nil,
          Option.some_or]
      rw [ending]
      exact fun trailing => segment.separator_notMem_chars (List.mem_of_getLast? trailing)

/-- The text of a path is read as that path. -/
@[simp] theorem parse_text (path : Path) : parse path.text = .ok path := by
  unfold parse
  rw [toList_text, chars_eq_cons_tail path]
  by_cases isRoot : path = root
  · subst isRoot
    rfl
  · obtain ⟨nonempty, untrailed⟩ := tail_chars_of_ne_root isRoot
    have read : readSegments separator.utf8Size (split path.chars.tail) = .ok path.segments :=
      (readSegments_eq_ok_iff _ _ _).2 (split_tail_chars isRoot).symm
    dsimp only
    rw [if_neg (not_not_intro rfl), if_neg nonempty, if_neg untrailed, read]
    exact congrArg Except.ok (Path.ext rfl)

theorem text_of_parse {text : String} {path : Path} (read : parse text = .ok path) :
    path.text = text := by
  rw [← String.toList_inj, toList_text]
  unfold parse at read
  split at read
  · cases read
  · rename_i first rest characters
    rw [characters]
    split at read
    · cases read
    · rename_i absolute
      obtain rfl := Decidable.not_not.1 absolute
      split at read
      · rename_i single
        cases read
        rw [single, chars_root]
      · split at read
        · cases read
        · split at read
          · cases read
          · rename_i segments success
            cases read
            rw [readSegments_eq_ok_iff] at success
            have nonempty : segments ≠ [] := by
              rintro rfl
              exact split_ne_nil rest success.symm
            rw [chars, charsOf, segments_ofSegments, if_neg nonempty, success, join_split]

/-- Reading accepts exactly the texts of paths. -/
theorem parse_eq_ok_iff (text : String) (path : Path) :
    parse text = .ok path ↔ path.text = text := by
  constructor
  · exact text_of_parse
  · rintro rfl
    exact parse_text path

/-! ## Taking over a text

A text can also be checked first, segment by segment, and then be taken over as it stands.
`takeText_eq_parse` says that it makes no difference. -/

/-- The first fault of the pieces of a text, the first of which starts at byte `index`. -/
def piecesFault? (index : Nat) : (pieces : List (List Char)) → Option (Nat × Segment.Fault)
  | [] => none
  | piece :: rest =>
      match Segment.fault? piece with
      | some fault => some (index, fault)
      | none => piecesFault? (index + byteLength piece + separator.utf8Size) rest

/-- The first fault of a text. -/
def fault? (text : String) : Option Fault :=
  match text.toList with
  | [] => some .empty
  | first :: rest =>
      if first ≠ separator then
        some (.notAbsolute text)
      else if rest = [] then
        none
      else if rest.getLast? = some separator then
        some (.trailingSeparator text)
      else
        (piecesFault? separator.utf8Size (split rest)).map fun found =>
          .ofSegment text found.1 found.2

/-- The segments of a text, leaving out what is none. -/
def segmentsOf (text : String) : List Segment :=
  if text.toList = [separator] then
    []
  else
    (split text.toList.tail).filterMap fun piece => (Segment.ofChars piece).toOption

theorem piecesFault?_eq (index : Nat) (pieces : List (List Char)) :
    piecesFault? index pieces =
      match readSegments index pieces with
      | .error found => some found
      | .ok _ => none := by
  induction pieces generalizing index with
  | nil => rfl
  | cons piece rest ih =>
      rw [piecesFault?, readSegments, ih]
      cases clean : Segment.fault? piece with
      | some fault => rw [(Segment.ofChars_eq_error_iff _ _).2 clean]
      | none =>
          cases read : Segment.ofChars piece with
          | error fault =>
              rw [(Segment.ofChars_eq_error_iff _ _).1 read] at clean
              cases clean
          | ok segment =>
              dsimp only
              cases readSegments (index + byteLength piece + separator.utf8Size) rest <;> rfl

/-- A text has a fault if it cannot be read, and the fault is the one that reading reports. -/
theorem fault?_eq (text : String) :
    fault? text =
      match parse text with
      | .error fault => some fault
      | .ok _ => none := by
  rw [fault?, parse]
  cases text.toList with
  | nil => rfl
  | cons first rest =>
      dsimp only
      by_cases foreign : first ≠ separator
      · rw [if_pos foreign, if_pos foreign]
      · rw [if_neg foreign, if_neg foreign]
        by_cases atRoot : rest = []
        · rw [if_pos atRoot, if_pos atRoot]
        · rw [if_neg atRoot, if_neg atRoot]
          by_cases trailing : rest.getLast? = some separator
          · rw [if_pos trailing, if_pos trailing]
          · rw [if_neg trailing, if_neg trailing, piecesFault?_eq]
            cases readSegments separator.utf8Size (split rest) <;> rfl

theorem segmentsOf_text (path : Path) : segmentsOf path.text = path.segments := by
  rw [segmentsOf, toList_text]
  by_cases atRoot : path = root
  · subst atRoot
    rfl
  · have below : path.chars ≠ [separator] := fun same =>
      atRoot (chars_injective (same.trans chars_root.symm))
    rw [if_neg below, split_tail_chars atRoot, List.filterMap_map]
    simp [Function.comp_def, Except.toOption]

theorem text_eq_of_faultless {text : String} (faultless : fault? text = none) :
    text = String.ofList (charsOf (segmentsOf text)) := by
  rw [fault?_eq] at faultless
  cases read : parse text with
  | error fault =>
      rw [read] at faultless
      cases faultless
  | ok path =>
      rw [← text_of_parse read, segmentsOf_text]
      exact path.text_eq

/-- Take over a text as that of a path, if it has no fault. -/
def takeText (text : String) : Except Fault Path :=
  match found : fault? text with
  | some fault => .error fault
  | none => .ok ⟨segmentsOf text, text, text_eq_of_faultless found⟩

/-- Taking over a text and reading it come to the same. -/
theorem takeText_eq_parse (text : String) : takeText text = parse text := by
  have checked := fault?_eq text
  unfold takeText
  split
  · next fault found =>
      rw [found] at checked
      cases read : parse text with
      | error other =>
          rw [read] at checked
          cases checked
          rfl
      | ok path =>
          rw [read] at checked
          cases checked
  · next found =>
      rw [found] at checked
      cases read : parse text with
      | error other =>
          rw [read] at checked
          cases checked
      | ok path => exact congrArg Except.ok (text_injective (text_of_parse read).symm)

/-- Read a path as any value that has a text is read. -/
def ofText (text : String) : Except Fault Path :=
  parse text

/-! ## Children -/

/-- The text of a path followed by a separator and a name. -/
def childText (path : Path) (name : String) : String :=
  if path.isRoot then "/" ++ name else path.text ++ "/" ++ name

/-- The path that `name` leads to from `path`.  The name is appended as text and
the whole is read, so a name that holds separators leads further down. -/
def child (path : Path) (name : String) : Except Fault Path :=
  parse (path.childText name)

theorem text_extend (path : Path) (segment : Segment) :
    (path.extend segment).text = path.childText segment.name := by
  rw [← String.toList_inj, toList_text, childText]
  by_cases atRoot : path = root
  · subst atRoot
    rw [chars_extend_root]
    simp [separator, Segment.chars]
  · rw [if_neg (mt isRoot_iff.1 atRoot), chars_extend_of_ne_root atRoot]
    simp [separator, Segment.chars]

/-- A legal name leads one step down. -/
@[simp] theorem child_name (path : Path) (segment : Segment) :
    path.child segment.name = .ok (path.extend segment) := by
  rw [child, parse_eq_ok_iff, text_extend]

end BatchTree.Path
