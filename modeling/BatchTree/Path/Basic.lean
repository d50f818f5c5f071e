import BatchTree.Path.Segment
import Std.Data.ExtTreeMap

/-!
# Paths

A path is the list of segments that lead from the root to a node, so the parent,
the name and the depth of a path are read off the list.  The text of a path is a
second view of it: `text_injective` says that it determines the path, and paths
are ordered by it.
-/

namespace BatchTree

namespace Path

/-- Each name with the separator before it. -/
def join (names : List (List Char)) : List Char :=
  names.flatMap (separator :: ·)

@[simp] theorem join_nil : join [] = [] := rfl

@[simp] theorem join_cons (name : List Char) (names : List (List Char)) :
    join (name :: names) = separator :: (name ++ join names) := by
  simp [join]

/-- The characters of a path with these segments: each after a separator, and one
separator for the root. -/
def charsOf (segments : List Segment) : List Char :=
  if segments = [] then [separator] else join (segments.map Segment.chars)

end Path

/-- An absolute, canonical path into the tree.  The root has no segments.  The
text, which the segments determine, is kept beside them for the sake of
comparisons. -/
structure Path where
  segments : List Segment
  text : String
  text_eq : text = String.ofList (Path.charsOf segments)

namespace Path

/-- The path with these segments. -/
def ofSegments (segments : List Segment) : Path :=
  ⟨segments, String.ofList (charsOf segments), rfl⟩

@[ext] theorem ext {left right : Path} (same : left.segments = right.segments) :
    left = right := by
  rcases left with ⟨segments, leftText, leftEq⟩
  rcases right with ⟨_, rightText, rightEq⟩
  cases same
  cases leftEq
  cases rightEq
  rfl

instance : DecidableEq Path := fun left right =>
  decidable_of_iff (left.segments = right.segments) ⟨Path.ext, fun same => same ▸ rfl⟩

@[simp] theorem segments_ofSegments (segments : List Segment) :
    (ofSegments segments).segments = segments := rfl

/-- The path that every tree holds. -/
def root : Path := ofSegments []

instance : Inhabited Path := ⟨root⟩

def isRoot (path : Path) : Bool :=
  path.segments.isEmpty

@[simp] theorem isRoot_root : root.isRoot = true := rfl

theorem isRoot_iff {path : Path} : path.isRoot = true ↔ path = root := by
  rw [isRoot, List.isEmpty_iff, Path.ext_iff]
  rfl

/-- Number of segments below the root. -/
def depth (path : Path) : Nat :=
  path.segments.length

/-- The path one step up, which the root lacks. -/
def parent? (path : Path) : Option Path :=
  if path.segments = [] then none else some (ofSegments path.segments.dropLast)

/-- The last segment, or the empty text for the root. -/
def name (path : Path) : String :=
  match path.segments.getLast? with
  | some segment => segment.name
  | none => ""

/-- The path one step down. -/
def extend (path : Path) (segment : Segment) : Path :=
  ofSegments (path.segments ++ [segment])

@[simp] theorem parent?_root : root.parent? = none := rfl

@[simp] theorem name_root : root.name = "" := rfl

@[simp] theorem parent?_extend (path : Path) (segment : Segment) :
    (path.extend segment).parent? = some path := by
  simp only [parent?, extend, segments_ofSegments, List.append_eq_nil_iff, reduceCtorEq,
    and_false, if_false, List.dropLast_concat, Option.some.injEq]
  exact Path.ext rfl

@[simp] theorem name_extend (path : Path) (segment : Segment) :
    (path.extend segment).name = segment.name := by
  simp [name, extend]

@[simp] theorem depth_extend (path : Path) (segment : Segment) :
    (path.extend segment).depth = path.depth + 1 := by
  simp [depth, extend]

theorem eq_root_or_extend (path : Path) :
    path = root ∨ ∃ parent segment, path = extend parent segment := by
  rcases List.eq_nil_or_concat path.segments with none | ⟨above, last, found⟩
  · exact .inl (Path.ext none)
  · exact .inr ⟨ofSegments above, last, Path.ext (by simpa [extend] using found)⟩

/-! ## Text -/

/-- The pieces between separators, of which there is one more than separators. -/
def split : List Char → List (List Char)
  | [] => [[]]
  | char :: rest =>
      if char = separator then
        [] :: split rest
      else
        match split rest with
        | [] => [[char]]
        | piece :: pieces => (char :: piece) :: pieces

theorem split_of_notMem {name : List Char} (plain : separator ∉ name) : split name = [name] := by
  induction name with
  | nil => rfl
  | cons head tail ih =>
      simp only [List.mem_cons, not_or] at plain
      rw [split, if_neg (Ne.symm plain.1), ih plain.2]

theorem split_append {name : List Char} (plain : separator ∉ name) (rest : List Char) :
    split (name ++ separator :: rest) = name :: split rest := by
  induction name with
  | nil => simp [split]
  | cons head tail ih =>
      simp only [List.mem_cons, not_or] at plain
      rw [List.cons_append, split, if_neg (Ne.symm plain.1), ih plain.2]

/-- Splitting takes joined names apart again. -/
theorem split_join {name : List Char} {names : List (List Char)}
    (plain : ∀ piece ∈ name :: names, separator ∉ piece) :
    split (name ++ join names) = name :: names := by
  induction names generalizing name with
  | nil => simpa using split_of_notMem (plain name (by simp))
  | cons next others ih =>
      rw [join_cons, split_append (plain name (by simp))]
      rw [ih fun piece member => plain piece (List.mem_cons_of_mem name member)]

/-- Splitting leaves no separator inside a piece. -/
theorem separator_notMem_of_mem_split {chars piece : List Char} (member : piece ∈ split chars) :
    separator ∉ piece := by
  induction chars generalizing piece with
  | nil => simp_all [split]
  | cons head tail ih =>
      unfold split at member
      split at member
      · rcases List.mem_cons.1 member with rfl | member
        · simp
        · exact ih member
      · rename_i notSeparator
        cases pieces : split tail with
        | nil =>
            simp only [pieces, List.mem_singleton] at member
            subst member
            simpa using Ne.symm notSeparator
        | cons first others =>
            simp only [pieces] at member
            rcases List.mem_cons.1 member with rfl | member
            · simp only [List.mem_cons, not_or]
              exact ⟨Ne.symm notSeparator, ih (by simp [pieces])⟩
            · exact ih (by simp [pieces, member])

theorem split_ne_nil (chars : List Char) : split chars ≠ [] := by
  cases chars with
  | nil => simp [split]
  | cons head tail =>
      unfold split
      split
      · simp
      · split <;> simp

/-- Nothing is lost by splitting. -/
theorem join_split (chars : List Char) : join (split chars) = separator :: chars := by
  induction chars with
  | nil => simp [split]
  | cons head tail ih =>
      unfold split
      split
      · rename_i found
        rw [join_cons, ih, found, List.nil_append]
      · cases pieces : split tail with
        | nil => exact absurd pieces (split_ne_nil tail)
        | cons first others =>
            rw [pieces, join_cons, List.cons.injEq] at ih
            simp [ih.2]

/-- The characters of a path. -/
def chars (path : Path) : List Char :=
  charsOf path.segments

instance : ToString Path := ⟨text⟩

@[simp] theorem toList_text (path : Path) : path.text.toList = path.chars := by
  rw [path.text_eq, String.toList_ofList, chars]

@[simp] theorem chars_root : root.chars = [separator] := rfl

theorem chars_extend_root (segment : Segment) :
    (root.extend segment).chars = separator :: segment.chars := by
  simp [chars, charsOf, root, extend]

theorem chars_extend_of_ne_root {path : Path} (below : path ≠ root) (segment : Segment) :
    (path.extend segment).chars = path.chars ++ separator :: segment.chars := by
  have nonempty : path.segments ≠ [] := fun empty => below (Path.ext empty)
  simp [chars, charsOf, extend, nonempty, join]

/-- The pieces of a path's text are the segments of the path. -/
theorem split_tail_chars {path : Path} (below : path ≠ root) :
    split path.chars.tail = path.segments.map Segment.chars := by
  cases segments : path.segments with
  | nil => exact absurd (Path.ext segments) below
  | cons first others =>
    simp only [chars, charsOf, segments, List.map_cons, join_cons, reduceCtorEq, if_false,
      List.tail_cons]
    apply split_join
    intro piece member
    obtain ⟨segment, -, rfl⟩ : ∃ segment ∈ first :: others, Segment.chars segment = piece :=
      List.mem_map.1 member
    exact segment.separator_notMem_chars

theorem chars_injective {left right : Path} (same : left.chars = right.chars) : left = right := by
  have textOfRoot : ∀ path : Path, path.chars = [separator] → path = root := by
    intro path single
    by_cases isRoot : path = root
    · exact isRoot
    · have pieces := split_tail_chars isRoot
      rw [single, List.tail_cons, split] at pieces
      cases segments : path.segments with
      | nil => exact Path.ext segments
      | cons first others =>
        simp only [segments, List.map_cons, List.cons.injEq] at pieces
        exact absurd pieces.1.symm first.chars_ne_nil
  by_cases leftRoot : left = root
  · subst leftRoot
    exact (textOfRoot right same.symm).symm
  · by_cases rightRoot : right = root
    · subst rightRoot
      exact absurd (textOfRoot left same) leftRoot
    · have pieces := split_tail_chars leftRoot
      rw [same, split_tail_chars rightRoot] at pieces
      apply Path.ext
      exact (List.map_inj_right fun _ _ => Segment.chars_injective).1 pieces.symm

theorem text_injective {left right : Path} (same : left.text = right.text) : left = right :=
  chars_injective (by rw [← toList_text, ← toList_text, same])

/-! ## Order

Paths are ordered by their text, character by character, which is also the order
of the bytes of the text. -/

instance : Ord Path := ⟨compareOn text⟩

instance : Std.TransOrd Path :=
  inferInstanceAs (Std.TransCmp (compareOn text))

instance : Std.LawfulEqOrd Path where
  eq_of_compare {left right} same :=
    have sameText : compare left.text right.text = .eq := same
    text_injective (Std.LawfulEqCmp.eq_of_compare sameText)
  compare_self := Std.ReflCmp.compare_self

end Path

end BatchTree
