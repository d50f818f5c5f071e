import BatchTree.Proofs.Completion
import BatchTree.Proofs.Grammar
import Mathlib.Data.List.Induction

/-!
# Paths cut at a separator

Parent, name and depth of a path can be read off its text: the last separator stands between
the parent and the name, and each separator is one step down.  Nothing is checked again as a
text is cut, and yet what is cut off is a path and a name, from which the path can be put
together (`decomposes`).

To put a path and any other text together is more than one step down, if the text holds
separators (`child_leads_down`).
-/

namespace BatchTree.Path

/-! ## Cutting texts -/

/-- What stands before the last separator, and what stands behind it. -/
def cutLast? : List Char → Option (List Char × List Char)
  | [] => none
  | char :: rest =>
      match cutLast? rest with
      | some (before, after) => some (char :: before, after)
      | none => if char = separator then some ([], rest) else none

/-- The text of the parent, cut out of the text of a path.  That of the root is a single byte. -/
def parentText? (text : String) : Option String :=
  if text.utf8ByteSize = 1 then
    none
  else
    (cutLast? text.toList).map fun (before, _) =>
      if before = [] then "/" else String.ofList before

/-- The name at the end of the text of a path. -/
def nameText (text : String) : String :=
  match cutLast? text.toList with
  | some (_, after) => String.ofList after
  | none => text

/-- The number of separators, of which that of the root is none. -/
def depthText (text : String) : Nat :=
  if text.utf8ByteSize = 1 then 0 else text.toList.count separator

theorem cutLast?_of_notMem {chars : List Char} (plain : separator ∉ chars) :
    cutLast? chars = none := by
  induction chars with
  | nil => rfl
  | cons head tail ih =>
      rw [List.mem_cons, not_or] at plain
      rw [cutLast?, ih plain.2]
      exact if_neg (Ne.symm plain.1)

theorem cutLast?_append (before : List Char) {after : List Char} (plain : separator ∉ after) :
    cutLast? (before ++ separator :: after) = some (before, after) := by
  induction before with
  | nil =>
      rw [List.nil_append, cutLast?, cutLast?_of_notMem plain]
      exact if_pos rfl
  | cons head tail ih => rw [List.cons_append, cutLast?, ih]

/-- A text is cut at its last separator in one way only. -/
theorem append_separator_inj {before beforeToo after afterToo : List Char}
    (plain : separator ∉ after) (plainToo : separator ∉ afterToo)
    (same : before ++ separator :: after = beforeToo ++ separator :: afterToo) :
    before = beforeToo ∧ after = afterToo := by
  have cut := cutLast?_append before plain
  rw [same, cutLast?_append beforeToo plainToo, Option.some.injEq, Prod.mk.injEq] at cut
  exact ⟨cut.1.symm, cut.2.symm⟩

theorem count_join {pieces : List (List Char)} (plain : ∀ piece ∈ pieces, separator ∉ piece) :
    (join pieces).count separator = pieces.length := by
  induction pieces with
  | nil => rfl
  | cons piece pieces ih =>
      rw [List.forall_mem_cons] at plain
      rw [join_cons, List.count_cons_self, List.count_append, List.count_eq_zero.2 plain.1,
        ih plain.2, Nat.zero_add, List.length_cons]

/-- There is one more piece than separators. -/
theorem length_split (chars : List Char) : (split chars).length = chars.count separator + 1 := by
  rw [← count_join fun _ => separator_notMem_of_mem_split, join_split, List.count_cons_self]

/-! ## What stands before a name -/

section Lead

variable {path parent : Path}

@[simp] theorem lead_root : root.lead = [] := rfl

theorem lead_extend (path : Path) (segment : Segment) :
    (path.extend segment).lead = path.lead ++ separator :: segment.chars := by
  simp [lead, extend, join]

theorem lead_eq_nil_iff : path.lead = [] ↔ path = root := by
  rcases eq_root_or_extend path with rfl | ⟨parent, segment, rfl⟩
  · simp
  · rw [lead_extend, List.append_eq_nil_iff]
    simp [extend_ne_root]

theorem chars_eq_lead (below : path ≠ root) : path.chars = path.lead := by
  obtain ⟨parent, segment, rfl⟩ := (eq_root_or_extend path).resolve_left below
  rw [chars_extend, lead_extend]

theorem lead_injective {left right : Path} (same : left.lead = right.lead) : left = right := by
  by_cases leftRoot : left = root
  · rw [leftRoot, lead_root] at same
    rw [leftRoot, lead_eq_nil_iff.1 same.symm]
  · have rightBelow : right ≠ root := fun rightRoot =>
      leftRoot (lead_eq_nil_iff.1 (same.trans (lead_eq_nil_iff.2 rightRoot)))
    apply chars_injective
    rw [chars_eq_lead leftRoot, chars_eq_lead rightBelow, same]

/-- Each step down has its separator. -/
theorem count_lead (path : Path) : path.lead.count separator = path.depth := by
  rw [lead, count_join, List.length_map, depth]
  intro piece member
  obtain ⟨segment, -, rfl⟩ := List.mem_map.1 member
  exact segment.separator_notMem_chars

end Lead

/-! ## Texts of paths -/

section Texts

variable (path : Path)

theorem utf8ByteSize_text : path.text.utf8ByteSize = byteLength path.chars := by
  rw [path.text_eq, Text.utf8ByteSize_ofList, chars]

/-- The root has the only text of a single byte. -/
theorem utf8ByteSize_text_eq_one_iff : path.text.utf8ByteSize = 1 ↔ path = root := by
  rcases eq_root_or_extend path with rfl | ⟨parent, segment, rfl⟩
  · simp only [iff_true]
    rfl
  · have longer : 1 < byteLength (parent.extend segment).chars := by
      cases named : segment.chars with
      | nil => exact absurd named segment.chars_ne_nil
      | cons first others =>
          have mark : separator.utf8Size = 1 := rfl
          have positive := first.utf8Size_pos
          rw [chars_extend, named, byteLength_append, byteLength_cons, byteLength_cons]
          omega
    rw [utf8ByteSize_text]
    simp [extend_ne_root, Nat.ne_of_gt longer]

theorem cutLast?_text_extend (segment : Segment) :
    cutLast? (path.extend segment).text.toList = some (path.lead, segment.chars) := by
  rw [toList_text, chars_extend, cutLast?_append _ segment.separator_notMem_chars]

/-- What is cut out of the text is the text of the parent. -/
theorem parentText?_text : parentText? path.text = path.parent?.map text := by
  rcases eq_root_or_extend path with rfl | ⟨parent, segment, rfl⟩
  · rfl
  · have below := extend_ne_root parent segment
    rw [parentText?, if_neg (mt (utf8ByteSize_text_eq_one_iff _).1 below), cutLast?_text_extend,
      parent?_extend, Option.map_some, Option.map_some]
    by_cases atRoot : parent = root
    · subst atRoot
      rfl
    · dsimp only
      rw [if_neg (mt lead_eq_nil_iff.1 atRoot), ← chars_eq_lead atRoot, parent.text_eq, chars]

theorem nameText_text : nameText path.text = path.name := by
  rcases eq_root_or_extend path with rfl | ⟨parent, segment, rfl⟩
  · rfl
  · rw [nameText, cutLast?_text_extend, name_extend]
    exact String.ofList_toList

theorem depthText_text : depthText path.text = path.depth := by
  by_cases atRoot : path = root
  · subst atRoot
    rfl
  · rw [depthText, if_neg (mt path.utf8ByteSize_text_eq_one_iff.1 atRoot), toList_text,
      chars_eq_lead atRoot, count_lead]

end Texts

/-! ## Going up -/

/-- The path so many steps up, as far as there are any. -/
def ascend : (steps : Nat) → (path : Path) → Option Path
  | 0, path => some path
  | steps + 1, path => path.parent?.bind (ascend steps)

theorem ascend_succ_extend (steps : Nat) (path : Path) (segment : Segment) :
    ascend (steps + 1) (path.extend segment) = ascend steps path := by
  rw [ascend, parent?_extend, Option.bind_some]

theorem ascend_eq_root_iff {steps : Nat} {path : Path} :
    ascend steps path = some root ↔ steps = path.depth := by
  induction steps generalizing path with
  | zero =>
      rcases eq_root_or_extend path with rfl | ⟨parent, segment, rfl⟩
      · exact iff_of_true rfl rfl
      · simp [ascend, extend_ne_root]
  | succ steps ih =>
      rcases eq_root_or_extend path with rfl | ⟨parent, segment, rfl⟩
      · exact iff_of_false nofun (Nat.succ_ne_zero steps)
      · rw [ascend_succ_extend, ih, depth_extend, Nat.succ_inj]

/-- A text goes as many steps further down as it has pieces. -/
theorem ascend_of_lead {path below : Path} {pieces : List (List Char)}
    (plain : ∀ piece ∈ pieces, separator ∉ piece)
    (further : below.lead = path.lead ++ join pieces) :
    ascend pieces.length below = some path := by
  induction pieces using List.reverseRecOn generalizing below with
  | nil =>
      rw [join_nil, List.append_nil] at further
      rw [lead_injective further]
      rfl
  | append_singleton pieces last ih =>
      rw [List.forall_mem_append, List.forall_mem_singleton] at plain
      rcases eq_root_or_extend below with rfl | ⟨parent, segment, rfl⟩
      · simp [join] at further
      · have parts : parent.lead ++ separator :: segment.chars =
            (path.lead ++ join pieces) ++ separator :: last := by
          rw [← lead_extend, further]
          simp [join]
        have same := append_separator_inj segment.separator_notMem_chars plain.2 parts
        rw [List.length_append, List.length_singleton, ascend_succ_extend]
        exact ih plain.1 same.1

/-! ## Decomposition -/

section Decomposition

variable {path parent : Path}

theorem lt_append_cons (front : List Char) (char : Char) (others : List Char) :
    front < front ++ char :: others := by
  have less : front ++ [] < front ++ char :: others := List.append_left_lt .nil
  rwa [List.append_nil] at less

/-- The text of a path continues that of its parent. -/
theorem bytes_lt_bytes_extend (path : Path) (segment : Segment) :
    Text.bytes path.text < Text.bytes (path.extend segment).text := by
  rw [Text.bytes_lt_iff, String.lt_iff, toList_text, toList_text, chars_extend]
  by_cases atRoot : path = root
  · subst atRoot
    cases named : segment.chars with
    | nil => exact absurd named segment.chars_ne_nil
    | cons first others => exact lt_append_cons [separator] first others
  · rw [chars_eq_lead atRoot]
    exact lt_append_cons path.lead separator segment.chars

/-- The path is one step down from `parent`, and is put together from it and its own name. -/
structure ComposedOf (path parent : Path) : Prop where
  parent_eq : path.parent? = some parent
  valid : parse parent.text = .ok parent
  smaller : compare parent path = .lt
  bytes_lt : Text.bytes parent.text < Text.bytes path.text
  isName : IsName path.name.toList
  child_eq : parent.child path.name = .ok path
  depth_eq : path.depth = parent.depth + 1

theorem composedOf_extend (parent : Path) (segment : Segment) :
    ComposedOf (parent.extend segment) parent where
  parent_eq := parent?_extend parent segment
  valid := parse_text parent
  smaller := compare_eq_lt_iff.2 (bytes_lt_bytes_extend parent segment)
  bytes_lt := bytes_lt_bytes_extend parent segment
  isName := by
    rw [name_extend]
    exact isName_iff.2 segment.legal
  child_eq := by rw [name_extend, child_name]
  depth_eq := depth_extend parent segment

/-- A path but the root is put together from its parent and its name, which determine it, and
as many steps up as it is deep lies the root.  All of this can be read off its text. -/
theorem decomposes (path : Path) :
    (path ≠ root → ∃ parent, ComposedOf path parent) ∧
      (∀ steps, ascend steps path = some root ↔ steps = path.depth) ∧
      (∀ other, path ≠ root → other ≠ root → path.parent? = other.parent? →
        path.name = other.name → path = other) ∧
      (root.parent? = none ∧ root.name = "" ∧ root.depth = 0) ∧
      parentText? path.text = path.parent?.map text ∧ nameText path.text = path.name ∧
        depthText path.text = path.depth := by
  refine ⟨?_, fun _ => ascend_eq_root_iff, ?_, ⟨rfl, rfl, rfl⟩, parentText?_text path,
    nameText_text path, depthText_text path⟩
  · intro below
    obtain ⟨parent, segment, rfl⟩ := (eq_root_or_extend path).resolve_left below
    exact ⟨parent, composedOf_extend parent segment⟩
  · intro other below belowToo sameParent sameName
    obtain ⟨parent, segment, rfl⟩ := (eq_root_or_extend path).resolve_left below
    obtain ⟨parentToo, segmentToo, rfl⟩ := (eq_root_or_extend other).resolve_left belowToo
    rw [parent?_extend, parent?_extend, Option.some.injEq] at sameParent
    rw [name_extend, name_extend] at sameName
    exact extend_inj.2 ⟨sameParent, Segment.ext sameName⟩

end Decomposition

/-! ## Names that are none -/

section Child

variable {path below : Path} {name : String}

theorem toList_childText (path : Path) (name : String) :
    (path.childText name).toList = path.lead ++ separator :: name.toList := by
  rw [childText]
  by_cases atRoot : path = root
  · subst atRoot
    rw [if_pos isRoot_root, String.toList_append]
    rfl
  · rw [if_neg (mt isRoot_iff.1 atRoot), ← chars_eq_lead atRoot, ← toList_text]
    simp [separator]

theorem child_eq_ok_iff :
    path.child name = .ok below ↔ below.chars = path.lead ++ separator :: name.toList := by
  rw [child, parse_eq_ok_iff, ← String.toList_inj, toList_text, toList_childText]

/-- The path is one step down from the other, by this name. -/
structure IsStepDown (path : Path) (name : String) (below : Path) : Prop where
  parent_eq : below.parent? = some path
  name_eq : below.name = name
  depth_eq : below.depth = path.depth + 1

theorem isStepDown_iff (led : path.child name = .ok below) :
    IsStepDown path name below ↔ IsName name.toList := by
  constructor
  · intro step
    obtain ⟨segment, rfl⟩ := parent?_eq_some_iff.1 step.parent_eq
    rw [← step.name_eq, name_extend]
    exact isName_iff.2 segment.legal
  · intro isName
    let segment : Segment := ⟨name, isName_iff.1 isName⟩
    have named : path.child name = .ok (path.extend segment) := child_name path segment
    rw [led, Except.ok.injEq] at named
    subst named
    exact ⟨parent?_extend path segment, name_extend path segment, depth_extend path segment⟩

/-- A text without separators that leads down is a name. -/
theorem isName_of_child (led : path.child name = .ok below) (isBelow : below ≠ root)
    (plain : separator ∉ name.toList) : IsName name.toList := by
  obtain ⟨parent, segment, rfl⟩ := (eq_root_or_extend below).resolve_left isBelow
  rw [child_eq_ok_iff, chars_extend] at led
  rw [← (append_separator_inj segment.separator_notMem_chars plain led).2]
  exact isName_iff.2 segment.legal

/-- A name leads one step down and nothing else does.  What is no name and yet leads somewhere
is the empty text, which leads from the root to itself, or holds separators, and then each of
them is a further step down. -/
theorem child_leads_down (path : Path) (name : String) :
    (IsName name.toList → ∃ below, path.child name = .ok below) ∧
      ∀ below, path.child name = .ok below →
        (IsStepDown path name below ↔ IsName name.toList) ∧
        (¬IsName name.toList →
          name = "" ∧ path = root ∧ below = root ∨
          '/' ∈ name.toList ∧ ascend (name.toList.count '/' + 1) below = some path ∧
            below.depth = path.depth + (name.toList.count '/' + 1)) := by
  refine ⟨?_, fun below led => ⟨isStepDown_iff led, ?_⟩⟩
  · intro isName
    exact ⟨_, child_name path ⟨name, isName_iff.1 isName⟩⟩
  · intro noName
    have chars := child_eq_ok_iff.1 led
    by_cases atRoot : below = root
    · left
      subst atRoot
      rw [chars_root] at chars
      cases lead : path.lead with
      | nil =>
          rw [lead, List.nil_append, List.cons.injEq] at chars
          exact ⟨String.toList_eq_nil_iff.1 chars.2.symm, lead_eq_nil_iff.1 lead, rfl⟩
      | cons first others =>
          rw [lead] at chars
          simp at chars
    · right
      have marked : separator ∈ name.toList := by
        by_contra plain
        exact noName (isName_of_child led atRoot plain)
      rw [chars_eq_lead atRoot] at chars
      refine ⟨marked, ?_, ?_⟩
      · rw [← join_split] at chars
        have ascent := ascend_of_lead (fun _ => separator_notMem_of_mem_split) chars
        rwa [length_split] at ascent
      · rw [← count_lead, chars, List.count_append, List.count_cons_self, count_lead]
        rfl

/-- In particular a text with one separator leads two steps down, and the empty text leads from
the root to itself. -/
theorem child_misses_one_step :
    let path := root.extend ⟨"a", (Segment.fault?_eq_none_iff _).1 rfl⟩
    (∃ below, path.child "b/c" = .ok below ∧ below.text = "/a/b/c" ∧
        ¬IsStepDown path "b/c" below ∧ below.parent? ≠ some path ∧ below.name = "c" ∧
        below.depth = path.depth + 2) ∧
      root.child "" = .ok root ∧ ¬IsStepDown root "" root := by
  intro path
  let upper : Segment := ⟨"b", (Segment.fault?_eq_none_iff _).1 rfl⟩
  let lower : Segment := ⟨"c", (Segment.fault?_eq_none_iff _).1 rfl⟩
  have skipped : ((path.extend upper).extend lower).parent? ≠ some path := by
    rw [parent?_extend, Ne, Option.some.injEq]
    exact extend_ne_self path upper
  have text : ((path.extend upper).extend lower).text = "/a/b/c" := by decide +kernel
  refine ⟨⟨(path.extend upper).extend lower, (parse_eq_ok_iff _ _).2 text, text,
    fun step => skipped step.parent_eq, skipped, name_extend _ lower, rfl⟩, ?_⟩
  exact ⟨child_eq_ok_iff.2 rfl, fun step => absurd step.parent_eq nofun⟩

end Child

end BatchTree.Path
