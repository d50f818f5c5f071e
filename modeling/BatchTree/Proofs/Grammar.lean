import BatchTree.Path.Parse
import BatchTree.Proofs.ByteOrder

/-!
# The grammar of paths

Which texts are paths, and what is the first fault of those that are not, said of the texts
alone.  Reading accepts and refuses accordingly (`Path.parse_follows_grammar`).
-/

namespace BatchTree

theorem Text.length_bytes (text : String) : (Text.bytes text).length = text.utf8ByteSize := rfl

theorem Text.utf8ByteSize_ofList (chars : List Char) :
    (String.ofList chars).utf8ByteSize = byteLength chars := by
  rw [← Text.length_bytes, Text.bytes_eq_flatMap, String.toList_ofList]
  induction chars with
  | nil => rfl
  | cons head tail ih => simp [ih]

namespace Segment

/-- The faults of a would-be segment, one for each reason. -/
inductive Faulty : List Char → Fault → Prop where
  | empty : Faulty [] .empty
  | relative {chars : List Char} (same : chars = ['.'] ∨ chars = ['.', '.']) :
      Faulty chars .relative
  | invalid {clean others : List Char} {char : Char}
      (admitted : ∀ other ∈ clean, admits other = true) (refused : ¬admits char = true) :
      Faulty (clean ++ char :: others) (.invalid char (byteLength clean))

theorem firstInvalid?_append {clean others : List Char} {char : Char} {skipped : Nat}
    (admitted : ∀ other ∈ clean, admits other = true) (refused : ¬admits char = true) :
    firstInvalid? (clean ++ char :: others) skipped =
      some (char, skipped + byteLength clean) := by
  induction clean generalizing skipped with
  | nil => exact if_neg refused
  | cons head tail ih =>
      rw [List.forall_mem_cons] at admitted
      rw [List.cons_append, firstInvalid?, if_pos admitted.1, ih admitted.2, byteLength_cons,
        Nat.add_assoc]

theorem exists_of_firstInvalid? {chars : List Char} {skipped index : Nat} {char : Char}
    (found : firstInvalid? chars skipped = some (char, index)) :
    ∃ clean others, chars = clean ++ char :: others ∧
      (∀ other ∈ clean, admits other = true) ∧ ¬admits char = true ∧
      index = skipped + byteLength clean := by
  induction chars generalizing skipped with
  | nil => cases found
  | cons head tail ih =>
      rw [firstInvalid?] at found
      split at found
      · next admitted =>
          obtain ⟨clean, others, rfl, all, refused, rfl⟩ := ih found
          refine ⟨head :: clean, others, rfl, ?_, refused, ?_⟩
          · exact List.forall_mem_cons.2 ⟨admitted, all⟩
          · rw [byteLength_cons, Nat.add_assoc]
      · next refused =>
          cases found
          exact ⟨[], tail, rfl, List.forall_mem_nil _, refused, rfl⟩

theorem fault?_eq_some_iff {chars : List Char} {fault : Fault} :
    fault? chars = some fault ↔ Faulty chars fault := by
  constructor
  · intro found
    unfold fault? at found
    split at found
    · next empty =>
        cases found
        rw [empty]
        exact .empty
    · split at found
      · next same =>
          cases found
          exact .relative same
      · obtain ⟨⟨char, skipped⟩, first, rfl⟩ := Option.map_eq_some_iff.1 found
        obtain ⟨clean, others, rfl, admitted, refused, rfl⟩ := exists_of_firstInvalid? first
        rw [Nat.zero_add]
        exact .invalid admitted refused
  · intro faulty
    cases faulty with
    | empty => rfl
    | relative same => rcases same with rfl | rfl <;> rfl
    | @invalid clean others char admitted refused =>
        -- The two relative names hold nothing but dots, which are admitted.
        have absolute : ¬(clean ++ char :: others = ['.'] ∨
            clean ++ char :: others = ['.', '.']) := by
          intro same
          have member : char ∈ clean ++ char :: others := by simp
          have dot : char = '.' := by
            rcases same with same | same <;> simpa [same] using member
          rw [dot] at refused
          exact refused (by decide)
        rw [fault?, if_neg (by simp), if_neg absolute, firstInvalid?_append admitted refused,
          Option.map_some, Nat.zero_add]

end Segment

namespace Path

/-- The characters that stand in no path. -/
def IsForbidden (char : Char) : Prop :=
  char.toNat ≤ 0x1f ∨ (0x7f ≤ char.toNat ∧ char.toNat ≤ 0x9f) ∨
    (0xe000 ≤ char.toNat ∧ char.toNat ≤ 0xf8ff) ∨
    (0xfff0 ≤ char.toNat ∧ char.toNat ≤ 0xffff)

/-- The names that stand between the separators of a path. -/
structure IsName (name : List Char) : Prop where
  nonempty : name ≠ []
  plain : '/' ∉ name
  notHere : name ≠ ['.']
  notAbove : name ≠ ['.', '.']
  permitted : ∀ char ∈ name, ¬IsForbidden char

/-- The texts of paths: a separator alone, or one or more names with a separator before each. -/
inductive IsPathText : List Char → Prop where
  | root : IsPathText ['/']
  | below {names : List (List Char)} (nonempty : names ≠ [])
      (all : ∀ name ∈ names, IsName name) : IsPathText (join names)

/-- A piece of a text that does not end with a separator.  It comes after the names `before`. -/
structure FollowsNames (text : String) (before : List (List Char)) (piece : List Char)
    (after : List (List Char)) : Prop where
  text_eq : text.toList = join (before ++ piece :: after)
  plain : ∀ other ∈ before ++ piece :: after, '/' ∉ other
  untrailed : text.toList.getLast? ≠ some '/'
  names : ∀ name ∈ before, IsName name

/-- What stands in a text before the piece that comes after the names `before`. -/
def opening (before : List (List Char)) : String :=
  String.ofList (join before ++ ['/'])

/-- The first fault of a text.  Those at its ends come first, then those of its pieces from left
to right. -/
inductive FirstFault (text : String) : Fault → Prop where
  | empty (empty : text = "") : FirstFault text .empty
  | notAbsolute (nonempty : text ≠ "") (foreign : text.toList.head? ≠ some '/') :
      FirstFault text (.notAbsolute text)
  | trailingSeparator (absolute : text.toList.head? = some '/') (notRoot : text ≠ "/")
      (trailing : text.toList.getLast? = some '/') : FirstFault text (.trailingSeparator text)
  | emptySegment {before after : List (List Char)} (follows : FollowsNames text before [] after) :
      FirstFault text (.emptySegment text (opening before).utf8ByteSize)
  | relativeSegment {before after : List (List Char)} {piece : List Char}
      (follows : FollowsNames text before piece after)
      (relative : piece = ['.'] ∨ piece = ['.', '.']) :
      FirstFault text (.relativeSegment text (opening before).utf8ByteSize)
  | invalidChar {before after : List (List Char)} {clean others : List Char} {char : Char}
      (follows : FollowsNames text before (clean ++ char :: others) after)
      (permitted : ∀ other ∈ clean, ¬IsForbidden other) (forbidden : IsForbidden char) :
      FirstFault text
        (.invalidChar text char (opening before ++ String.ofList clean).utf8ByteSize)

theorem isReserved_iff {char : Char} : Segment.isReserved char = true ↔ IsForbidden char := by
  simp only [Segment.isReserved, IsForbidden, Bool.or_eq_true, Bool.and_eq_true,
    decide_eq_true_eq, UInt32.le_iff_toNat_le, or_assoc]
  exact Iff.rfl

theorem admits_iff {char : Char} :
    Segment.admits char = true ↔ char ≠ '/' ∧ ¬IsForbidden char := by
  rw [Segment.admits, Bool.and_eq_true, bne_iff_ne, Bool.not_eq_true', ← Bool.not_eq_true,
    isReserved_iff]
  exact Iff.rfl

theorem isName_iff {name : List Char} : IsName name ↔ Segment.Legal name := by
  constructor
  · intro isName
    refine ⟨isName.nonempty, isName.notHere, isName.notAbove, ?_⟩
    intro char member
    refine admits_iff.2 ⟨?_, isName.permitted char member⟩
    rintro rfl
    exact isName.plain member
  · intro legal
    refine ⟨legal.nonempty, legal.separator_notMem, legal.notHere, legal.notAbove, ?_⟩
    exact fun char member => (admits_iff.1 (legal.admitted char member)).2

/-! ## Texts of paths -/

/-- Legal names are those of segments. -/
theorem exists_segments {names : List (List Char)} (all : ∀ name ∈ names, IsName name) :
    ∃ segments : List Segment, segments.map Segment.chars = names := by
  induction names with
  | nil => exact ⟨[], rfl⟩
  | cons name names ih =>
      rw [List.forall_mem_cons] at all
      obtain ⟨segments, same⟩ := ih all.2
      have legal : Segment.Legal (String.ofList name).toList := by
        rw [String.toList_ofList]
        exact isName_iff.1 all.1
      refine ⟨⟨String.ofList name, legal⟩ :: segments, ?_⟩
      rw [List.map_cons, same, Segment.chars, String.toList_ofList]

theorem isPathText_iff {chars : List Char} :
    IsPathText chars ↔ ∃ path : Path, path.chars = chars := by
  constructor
  · intro isText
    cases isText with
    | root => exact ⟨root, rfl⟩
    | below nonempty all =>
        obtain ⟨segments, rfl⟩ := exists_segments all
        refine ⟨ofSegments segments, ?_⟩
        rw [Path.chars, segments_ofSegments, charsOf, if_neg]
        rintro rfl
        exact nonempty rfl
  · rintro ⟨path, rfl⟩
    rw [Path.chars, charsOf]
    split
    · exact .root
    · next nonempty =>
        refine .below (mt List.map_eq_nil_iff.1 nonempty) ?_
        intro name member
        obtain ⟨segment, -, rfl⟩ := List.mem_map.1 member
        exact isName_iff.2 segment.legal

/-! ## Faults -/

section Pieces

variable {index position : Nat} {piece : List Char} {before rest : List (List Char)}
  {fault : Segment.Fault}

theorem readSegments_of_faulty (faulty : Segment.Faulty piece fault) :
    readSegments index (piece :: rest) = .error (index, fault) := by
  rw [readSegments, (Segment.ofChars_eq_error_iff _ _).2 (Segment.fault?_eq_some_iff.2 faulty)]

theorem readSegments_eq_error_iff_of_legal (legal : Segment.Legal piece) :
    readSegments index (piece :: rest) = .error (position, fault) ↔
      readSegments (index + byteLength piece + separator.utf8Size) rest =
        .error (position, fault) := by
  rw [readSegments]
  cases read : Segment.ofChars piece with
  | error found =>
      rw [Segment.ofChars_eq_error_iff, (Segment.fault?_eq_none_iff piece).2 legal] at read
      cases read
  | ok segment =>
      cases readSegments (index + byteLength piece + separator.utf8Size) rest <;> simp

theorem add_byteLength_join_cons :
    index + byteLength (join (piece :: before)) =
      index + byteLength piece + separator.utf8Size + byteLength (join before) := by
  rw [join_cons, byteLength_cons, byteLength_append]
  omega

/-- The index grows by the bytes of all names that come before the fault. -/
theorem readSegments_append (names : ∀ name ∈ before, IsName name)
    (faulty : Segment.Faulty piece fault) :
    readSegments index (before ++ piece :: rest) =
      .error (index + byteLength (join before), fault) := by
  induction before generalizing index with
  | nil => exact readSegments_of_faulty faulty
  | cons name before ih =>
      rw [List.forall_mem_cons] at names
      rw [List.cons_append, readSegments_eq_error_iff_of_legal (isName_iff.1 names.1),
        add_byteLength_join_cons]
      exact ih names.2

/-- A fault that is reported comes after names. -/
theorem exists_of_readSegments_error {pieces : List (List Char)}
    (failed : readSegments index pieces = .error (position, fault)) :
    ∃ before piece after, pieces = before ++ piece :: after ∧
      (∀ name ∈ before, IsName name) ∧ Segment.Faulty piece fault ∧
      position = index + byteLength (join before) := by
  induction pieces generalizing index with
  | nil => cases failed
  | cons head tail ih =>
      cases clean : Segment.fault? head with
      | some found =>
          have faulty := Segment.fault?_eq_some_iff.1 clean
          rw [readSegments_of_faulty faulty] at failed
          cases failed
          exact ⟨[], head, tail, rfl, List.forall_mem_nil _, faulty, rfl⟩
      | none =>
          have legal := (Segment.fault?_eq_none_iff head).1 clean
          rw [readSegments_eq_error_iff_of_legal legal] at failed
          obtain ⟨before, piece, after, rfl, names, faulty, rfl⟩ := ih failed
          refine ⟨head :: before, piece, after, rfl, ?_, faulty, add_byteLength_join_cons.symm⟩
          exact List.forall_mem_cons.2 ⟨isName_iff.2 legal, names⟩

end Pieces

/-- What a text looks like before its pieces are read. -/
inductive Shape (text : String) : Prop where
  | empty (empty : text = "")
  | foreign (nonempty : text ≠ "") (foreign : text.toList.head? ≠ some separator)
  | root (isRoot : text = "/")
  | trailed (absolute : text.toList.head? = some separator) (notRoot : text ≠ "/")
      (trailing : text.toList.getLast? = some separator)
  | pieces {pieces : List (List Char)} (text_eq : text.toList = join pieces)
      (plain : ∀ piece ∈ pieces, separator ∉ piece)
      (untrailed : text.toList.getLast? ≠ some separator) (nonempty : pieces ≠ [])

theorem shape (text : String) : Shape text := by
  cases characters : text.toList with
  | nil => exact .empty (String.toList_eq_nil_iff.1 characters)
  | cons first rest =>
      have nonempty : text ≠ "" := by
        rintro rfl
        cases characters
      by_cases absolute : first = separator
      · subst absolute
        have joined : text.toList = join (split rest) := by rw [characters, join_split]
        by_cases atRoot : text = "/"
        · exact .root atRoot
        · by_cases trailing : text.toList.getLast? = some separator
          · exact .trailed (by rw [characters]; rfl) atRoot trailing
          · exact .pieces joined (fun _ => separator_notMem_of_mem_split) trailing
              (split_ne_nil rest)
      · refine .foreign nonempty ?_
        rw [characters]
        exact fun same => absolute (Option.some.inj same)

section Shapes

variable {text : String} {pieces : List (List Char)}

theorem parse_of_foreign (nonempty : text ≠ "") (foreign : text.toList.head? ≠ some separator) :
    parse text = .error (.notAbsolute text) := by
  cases characters : text.toList with
  | nil => exact absurd (String.toList_eq_nil_iff.1 characters) nonempty
  | cons first rest =>
      rw [characters] at foreign
      rw [parse, characters]
      exact if_pos fun same => foreign (congrArg some same)

theorem parse_of_trailed (absolute : text.toList.head? = some separator) (notRoot : text ≠ "/")
    (trailing : text.toList.getLast? = some separator) :
    parse text = .error (.trailingSeparator text) := by
  cases characters : text.toList with
  | nil =>
      rw [characters] at absolute
      cases absolute
  | cons first rest =>
      rw [characters] at absolute trailing
      cases absolute
      have below : rest ≠ [] := by
        rintro rfl
        exact notRoot (String.toList_inj.1 characters)
      rw [List.getLast?_cons_of_ne_nil below] at trailing
      rw [parse, characters]
      dsimp only
      rw [if_neg (not_not_intro rfl), if_neg below]
      exact if_pos trailing

/-- A text that begins with a separator and does not end with one is read piece by piece. -/
theorem parse_of_pieces (text_eq : text.toList = join pieces)
    (plain : ∀ piece ∈ pieces, separator ∉ piece)
    (untrailed : text.toList.getLast? ≠ some separator) (nonempty : pieces ≠ []) :
    parse text =
      match readSegments separator.utf8Size pieces with
      | .error (index, fault) => .error (.ofSegment text index fault)
      | .ok segments => .ok (ofSegments segments) := by
  cases pieces with
  | nil => exact absurd rfl nonempty
  | cons first others =>
      have pieces_eq : split (first ++ join others) = first :: others := split_join plain
      rw [text_eq, join_cons] at untrailed
      have below : first ++ join others ≠ [] := by
        intro atRoot
        rw [atRoot] at untrailed
        exact untrailed rfl
      rw [List.getLast?_cons_of_ne_nil below] at untrailed
      rw [parse, text_eq, join_cons, ← pieces_eq]
      exact (if_neg (not_not_intro rfl)).trans ((if_neg below).trans (if_neg untrailed))

end Shapes

theorem utf8ByteSize_opening (before : List (List Char)) :
    (opening before).utf8ByteSize = separator.utf8Size + byteLength (join before) := by
  rw [opening, Text.utf8ByteSize_ofList, byteLength_append, Nat.add_comm]
  rfl

theorem utf8ByteSize_opening_append (before : List (List Char)) (clean : List Char) :
    (opening before ++ String.ofList clean).utf8ByteSize =
      (opening before).utf8ByteSize + byteLength clean := by
  rw [String.utf8ByteSize_append, Text.utf8ByteSize_ofList]

theorem FollowsNames.parse_eq {text : String} {before after : List (List Char)}
    {piece : List Char} {fault : Segment.Fault} (follows : FollowsNames text before piece after)
    (faulty : Segment.Faulty piece fault) :
    parse text = .error (.ofSegment text (opening before).utf8ByteSize fault) := by
  rw [parse_of_pieces follows.text_eq follows.plain follows.untrailed (by simp),
    readSegments_append follows.names faulty, utf8ByteSize_opening]

theorem FollowsNames.firstFault {text : String} {before after : List (List Char)}
    {piece : List Char} {fault : Segment.Fault} (follows : FollowsNames text before piece after)
    (faulty : Segment.Faulty piece fault) :
    FirstFault text (.ofSegment text (opening before).utf8ByteSize fault) := by
  cases faulty with
  | empty => exact .emptySegment follows
  | relative same => exact .relativeSegment follows same
  | @invalid clean others char admitted refused =>
      have plain : char ≠ '/' := by
        rintro rfl
        exact follows.plain (clean ++ '/' :: others) (by simp) (by simp)
      rw [Fault.ofSegment, ← utf8ByteSize_opening_append]
      refine .invalidChar follows (fun other member => (admits_iff.1 (admitted other member)).2) ?_
      rw [admits_iff, not_and, not_not] at refused
      exact refused plain

/-- Reading reports the first fault, and what has one is not read. -/
theorem parse_eq_error_iff {text : String} {fault : Fault} :
    parse text = .error fault ↔ FirstFault text fault := by
  constructor
  · intro failed
    cases shape text with
    | empty empty =>
        subst empty
        cases failed
        exact .empty rfl
    | foreign nonempty foreign =>
        rw [parse_of_foreign nonempty foreign] at failed
        cases failed
        exact .notAbsolute nonempty foreign
    | root isRoot =>
        subst isRoot
        cases failed
    | trailed absolute notRoot trailing =>
        rw [parse_of_trailed absolute notRoot trailing] at failed
        cases failed
        exact .trailingSeparator absolute notRoot trailing
    | pieces text_eq plain untrailed nonempty =>
        rw [parse_of_pieces text_eq plain untrailed nonempty] at failed
        split at failed
        · next index reason found =>
            cases failed
            obtain ⟨before, piece, after, rfl, names, faulty, rfl⟩ :=
              exists_of_readSegments_error found
            rw [← utf8ByteSize_opening]
            exact FollowsNames.firstFault ⟨text_eq, plain, untrailed, names⟩ faulty
        · cases failed
  · intro fault
    cases fault with
    | empty empty =>
        subst empty
        rfl
    | notAbsolute nonempty foreign => exact parse_of_foreign nonempty foreign
    | trailingSeparator absolute notRoot trailing =>
        exact parse_of_trailed absolute notRoot trailing
    | emptySegment follows => exact follows.parse_eq .empty
    | relativeSegment follows same => exact follows.parse_eq (.relative same)
    | @invalidChar before after clean others char follows permitted forbidden =>
        have admitted : ∀ other ∈ clean, Segment.admits other = true := by
          intro other member
          refine admits_iff.2 ⟨?_, permitted other member⟩
          rintro rfl
          exact follows.plain (clean ++ char :: others) (by simp) (List.mem_append_left _ member)
        have refused : ¬Segment.admits char = true := fun admitted =>
          (admits_iff.1 admitted).2 forbidden
        rw [utf8ByteSize_opening_append]
        exact follows.parse_eq (.invalid admitted refused)

/-- The character that a fault shows is the one that the text holds at the index. -/
theorem FirstFault.startsWith {text : String} {char : Char} {index : Nat}
    (fault : FirstFault text (.invalidChar text char index)) :
    String.utf8EncodeChar char <+: (Text.bytes text).drop index := by
  cases fault with
  | @invalidChar before after clean others _ follows permitted forbidden =>
      have cut : text.toList =
          (opening before ++ String.ofList clean).toList ++ char :: (others ++ join after) := by
        rw [follows.text_eq]
        simp [opening, join, separator]
      rw [Text.bytes_eq_flatMap, cut, List.flatMap_append, ← Text.bytes_eq_flatMap,
        List.drop_left' (Text.length_bytes _), List.flatMap_cons]
      exact List.prefix_append _ _

/-- Reading accepts exactly the texts that the grammar allows, and then keeps the text; of any
other text it reports the first fault, where that is.  It makes no difference in which way a text
is read. -/
theorem parse_follows_grammar (text : String) :
    ((∃ path, parse text = .ok path) ↔ IsPathText text.toList) ∧
      (∀ path, parse text = .ok path → path.text = text) ∧
      (∀ fault, parse text = .error fault ↔ FirstFault text fault) ∧
      (∀ char index, parse text = .error (.invalidChar text char index) →
        String.utf8EncodeChar char <+: (Text.bytes text).drop index) ∧
      ofText text = parse text ∧ takeText text = parse text := by
  refine ⟨?_, fun _ => text_of_parse, fun _ => parse_eq_error_iff, ?_, rfl,
    takeText_eq_parse text⟩
  · rw [isPathText_iff]
    apply exists_congr
    intro path
    rw [parse_eq_ok_iff, ← String.toList_inj, toList_text]
  · exact fun char index failed => (parse_eq_error_iff.1 failed).startsWith

/-- In particular behind a name of more bytes than characters. -/
example : parse "/é/a\x01" = .error (.invalidChar "/é/a\x01" '\x01' 5) := by rfl

end Path

end BatchTree
