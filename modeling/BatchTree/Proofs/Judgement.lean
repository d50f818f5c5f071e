import BatchTree.Scenario.Expectation

/-!
# Judging by an expectation

An observation meets an expectation if every part that is set holds of it.  No mismatch is found
exactly if this is so (`Expectation.mismatch?_eq_none_iff`), and what a found mismatch says is so:
the part that it names asks for one thing, and the observation shows another
(`Expectation.tells_of_mismatch?`).
-/

namespace BatchTree

/-- The text is that of a path, and this is what is there after the batch. -/
def Observation.Finds (observation : Observation) (text : String) (node? : Option Node) : Prop :=
  ∃ path : Path, path.text = text ∧ observation.after.get? path = node?

theorem Observation.Finds.unique {observation : Observation} {text : String}
    {node? other? : Option Node} (finds : observation.Finds text node?)
    (findsToo : observation.Finds text other?) : node? = other? := by
  obtain ⟨path, isText, rfl⟩ := finds
  obtain ⟨other, rfl, rfl⟩ := findsToo
  rw [Path.text_injective isText]

namespace Expectation

/-- All parts of the expectation that are set hold of the observation. -/
structure Met (expectation : Expectation) (observation : Observation) : Prop where
  committed : ∀ flag ∈ expectation.committed, observation.response.isCommitted = flag
  outcome : ∀ status ∈ expectation.outcome, observation.response.outcome = status
  failedIndex : ∀ index ∈ expectation.failedIndex, observation.response.failedIndex = index
  codes : ∀ codes ∈ expectation.codes, observation.response.replies.map Reply.status = codes
  created : ∀ entry ∈ expectation.created,
    observation.response.replies[entry.1]? = some (.created entry.2)
  existing : ∀ text ∈ expectation.existing, ∃ node, observation.Finds text (some node)
  absent : ∀ text ∈ expectation.absent, observation.Finds text none
  data : ∀ entry ∈ expectation.data,
    ∃ node, observation.Finds entry.1 (some node) ∧ node.data = entry.2
  versions : ∀ entry ∈ expectation.versions,
    ∃ node, observation.Finds entry.1 (some node) ∧ node.version = entry.2
  children : ∀ entry ∈ expectation.children,
    ∃ node, observation.Finds entry.1 (some node) ∧ node.childNames = entry.2
  /-- The tree has the same number and the same nodes as before. -/
  unchanged : expectation.unchanged = true →
    observation.after.zxid = observation.before.zxid ∧
      ∀ path, observation.after.get? path = observation.before.get? path
  events : ∀ events ∈ expectation.events,
    observation.events.map (fun event => (event.path.text, event.kind)) = events
  condition : ∀ condition ∈ expectation.condition, condition observation = true

/-- The texts that are read as paths to look up a node. -/
def nodePaths (expectation : Expectation) : List String :=
  expectation.existing ++ expectation.absent ++ expectation.data.map Prod.fst ++
    expectation.versions.map Prod.fst ++ expectation.children.map Prod.fst

/-- All texts that stand for a path. -/
def paths (expectation : Expectation) : List String :=
  expectation.nodePaths ++ expectation.created.map Prod.snd ++
    (expectation.events.getD []).map Prod.fst

end Expectation

/-- What the mismatch says is so: a part of the expectation asks for one thing, and the
observation shows another. -/
inductive Mismatch.Tells (expectation : Expectation) (observation : Observation) :
    Mismatch → Prop where
  | committed {flag : Bool} (asked : expectation.committed = some flag)
      (other : observation.response.isCommitted ≠ flag) :
      Tells expectation observation
        (.committed flag observation.response.outcome observation.response.failedIndex)
  | outcome {status : Status} (asked : expectation.outcome = some status)
      (other : observation.response.outcome ≠ status) :
      Tells expectation observation (.outcome status observation.response.outcome)
  | failedIndex {index : Option Nat} (asked : expectation.failedIndex = some index)
      (other : observation.response.failedIndex ≠ index) :
      Tells expectation observation (.failedIndex index observation.response.failedIndex)
  | codes {codes : List Status} (asked : expectation.codes = some codes)
      (other : observation.response.replies.map Reply.status ≠ codes) :
      Tells expectation observation (.codes codes (observation.response.replies.map Reply.status))
  | created {index : Nat} {text : String} (asked : (index, text) ∈ expectation.created)
      (other : observation.response.replies[index]? ≠ some (.created text)) :
      Tells expectation observation
        (.created index text (observation.response.replies[index]?.bind Reply.createdPath?))
  | missing {text : String} (asked : text ∈ expectation.existing)
      (finds : observation.Finds text none) : Tells expectation observation (.missing text)
  | present {text : String} {node : Node} (asked : text ∈ expectation.absent)
      (finds : observation.Finds text (some node)) : Tells expectation observation (.present text)
  | data {text : String} {data : Payload} {node : Node} (asked : (text, data) ∈ expectation.data)
      (finds : observation.Finds text (some node)) (other : node.data ≠ data) :
      Tells expectation observation (.data text data node.data)
  | missingData {text : String} {data : Payload} (asked : (text, data) ∈ expectation.data)
      (finds : observation.Finds text none) : Tells expectation observation (.missingData text)
  | version {text : String} {version : Version} {node? : Option Node}
      (asked : (text, version) ∈ expectation.versions) (finds : observation.Finds text node?)
      (other : node?.map Node.version ≠ some version) :
      Tells expectation observation (.version text version (node?.map Node.version))
  | children {text : String} {names : List String} {node? : Option Node}
      (asked : (text, names) ∈ expectation.children) (finds : observation.Finds text node?)
      (other : node?.map Node.childNames ≠ some names) :
      Tells expectation observation (.children text names (node?.map Node.childNames))
  | changed (asked : expectation.unchanged = true)
      (other : observation.before ≠ observation.after) : Tells expectation observation .changed
  | events {events : List (String × EventKind)} (asked : expectation.events = some events)
      (other : observation.eventPairs ≠ events) :
      Tells expectation observation (.events events observation.eventPairs)
  | condition {condition : Observation → Bool} (asked : expectation.condition = some condition)
      (other : condition observation = false) : Tells expectation observation .condition
  | malformedPath {text : String} {fault : Path.Fault} (asked : text ∈ expectation.nodePaths)
      (malformed : Path.parse text = .error fault) :
      Tells expectation observation (.malformedPath fault)

namespace Expectation

/-- What is found when something is judged says whether it holds: nothing is found if it does, and
otherwise a mismatch that tells why it does not. -/
def Judges (tells : Mismatch → Prop) (holds : Prop) : (found : Option Mismatch) → Prop
  | none => holds
  | some mismatch => tells mismatch

section Judges

variable {tells : Mismatch → Prop} {holds : Prop}

theorem judges_require {condition : Bool} {mismatch : Mismatch} (isMet : condition = true → holds)
    (told : condition = false → tells mismatch) :
    Judges tells holds (require condition mismatch) := by
  cases condition with
  | true => exact isMet rfl
  | false => exact told rfl

theorem judges_part {α : Type} {holds : α → Prop} {expected : Option α}
    {judge : α → Option Mismatch}
    (each : ∀ value, expected = some value → Judges tells (holds value) (judge value)) :
    Judges tells (∀ value ∈ expected, holds value) (part expected judge) := by
  cases expected with
  | none =>
      intro value impossible
      cases impossible
  | some value =>
      have judged := each value rfl
      rw [part, Option.bind_some]
      generalize judge value = found at judged ⊢
      cases found with
      | none =>
          rintro value ⟨⟩
          exact judged
      | some mismatch => exact judged

/-- A part that asks for a value, and is met by this value alone. -/
theorem judges_part_eq {α : Type} [DecidableEq α] {expected : Option α} {actual : α}
    {mismatch : α → Mismatch}
    (told : ∀ {value}, expected = some value → actual ≠ value → tells (mismatch value)) :
    Judges tells (∀ value ∈ expected, actual = value)
      (part expected fun value => require (actual = value) (mismatch value)) := by
  apply judges_part
  intro value asked
  apply judges_require
  · exact of_decide_eq_true
  · intro other
    exact told asked (of_decide_eq_false other)

theorem Judges.imp {other : Prop} {found : Option Mismatch} (judges : Judges tells holds found)
    (implies : holds → other) : Judges tells other found := by
  cases found with
  | none => exact implies judges
  | some mismatch => exact judges

/-- What comes first is judged first. -/
theorem judges_cons {α : Type} {others : Prop} {entry : α} {rest : List α}
    {judge : α → Option Mismatch} (first : Judges tells holds (judge entry))
    (later : Judges tells others (rest.findSome? judge)) :
    Judges tells (holds ∧ others) ((entry :: rest).findSome? judge) := by
  rw [List.findSome?_cons]
  generalize judge entry = found at first ⊢
  cases found with
  | none => exact later.imp fun areMet => ⟨first, areMet⟩
  | some mismatch => exact first

theorem judges_findSome? {α : Type} {holds : α → Prop} {entries : List α}
    {judge : α → Option Mismatch}
    (each : ∀ entry ∈ entries, Judges tells (holds entry) (judge entry)) :
    Judges tells (∀ entry ∈ entries, holds entry) (entries.findSome? judge) := by
  induction entries with
  | nil => exact List.forall_mem_nil _
  | cons entry rest ih =>
      rw [List.forall_mem_cons] at each
      exact (judges_cons each.1 (ih each.2)).imp List.forall_mem_cons.2

end Judges

section Parts

variable {expectation : Expectation} {observation : Observation}

/-- A malformed path is a mismatch by itself, whatever is to be there. -/
theorem judges_judge {holds : Prop} {text : String} {verdict : Option Node → Option Mismatch}
    (asked : text ∈ expectation.nodePaths)
    (judges : ∀ node?, observation.Finds text node? →
      Judges (Mismatch.Tells expectation observation) holds (verdict node?)) :
    Judges (Mismatch.Tells expectation observation) holds (observation.judge text verdict) := by
  rw [Observation.judge]
  split
  · rename_i malformed
    exact .malformedPath asked malformed
  · rename_i path read
    exact judges _ ⟨path, Path.text_of_parse read, rfl⟩

theorem judges_createdMismatch? :
    Judges (Mismatch.Tells expectation observation)
      (∀ entry ∈ expectation.created,
        observation.response.replies[entry.1]? = some (.created entry.2))
      (expectation.createdMismatch? observation) := by
  apply judges_findSome?
  rintro ⟨index, text⟩ asked
  have creates : observation.response.replies[index]?.bind Reply.createdPath? = some text ↔
      observation.response.replies[index]? = some (.created text) := by
    rw [Option.bind_eq_some_iff]
    constructor
    · rintro ⟨reply, isReply, created⟩
      cases reply with
      | created => cases created; exact isReply
      | _ => cases created
    · intro isReply
      exact ⟨_, isReply, rfl⟩
  apply judges_require
  · intro same
    exact creates.1 (of_decide_eq_true same)
  · intro other
    exact .created asked (mt creates.2 (of_decide_eq_false other))

theorem judges_existingMismatch? :
    Judges (Mismatch.Tells expectation observation)
      (∀ text ∈ expectation.existing, ∃ node, observation.Finds text (some node))
      (expectation.existingMismatch? observation) := by
  apply judges_findSome?
  intro text asked
  apply judges_judge (by simp [nodePaths, asked])
  intro node? finds
  cases node? with
  | none => exact .missing asked finds
  | some node => exact ⟨node, finds⟩

theorem judges_absentMismatch? :
    Judges (Mismatch.Tells expectation observation)
      (∀ text ∈ expectation.absent, observation.Finds text none)
      (expectation.absentMismatch? observation) := by
  apply judges_findSome?
  intro text asked
  apply judges_judge (by simp [nodePaths, asked])
  intro node? finds
  cases node? with
  | none => exact finds
  | some node => exact .present asked finds

theorem judges_dataMismatch? :
    Judges (Mismatch.Tells expectation observation)
      (∀ entry ∈ expectation.data,
        ∃ node, observation.Finds entry.1 (some node) ∧ node.data = entry.2)
      (expectation.dataMismatch? observation) := by
  apply judges_findSome?
  rintro ⟨text, data⟩ asked
  apply judges_judge
  · simp only [nodePaths, List.mem_append, List.mem_map]
    exact .inl (.inl (.inr ⟨_, asked, rfl⟩))
  intro node? finds
  cases node? with
  | none => exact .missingData asked finds
  | some node =>
      apply judges_require
      · intro same
        exact ⟨node, finds, of_decide_eq_true same⟩
      · intro other
        exact .data asked finds (of_decide_eq_false other)

/-- A part that asks for what is to be read off a node. -/
theorem judges_reading {α : Type} [DecidableEq α] {reading : Node → α} {expected : α}
    {text : String} {mismatch : Option α → Mismatch} (asked : text ∈ expectation.nodePaths)
    (told : ∀ {node?}, observation.Finds text node? → node?.map reading ≠ some expected →
      Mismatch.Tells expectation observation (mismatch (node?.map reading))) :
    Judges (Mismatch.Tells expectation observation)
      (∃ node, observation.Finds text (some node) ∧ reading node = expected)
      (observation.judge text fun node? =>
        require (node?.map reading = some expected) (mismatch (node?.map reading))) := by
  apply judges_judge asked
  intro node? finds
  apply judges_require
  · intro same
    obtain ⟨node, rfl, isExpected⟩ := Option.map_eq_some_iff.1 (of_decide_eq_true same)
    exact ⟨node, finds, isExpected⟩
  · intro other
    exact told finds (of_decide_eq_false other)

theorem judges_versionMismatch? :
    Judges (Mismatch.Tells expectation observation)
      (∀ entry ∈ expectation.versions,
        ∃ node, observation.Finds entry.1 (some node) ∧ node.version = entry.2)
      (expectation.versionMismatch? observation) := by
  apply judges_findSome?
  rintro ⟨text, version⟩ asked
  have isLookedUp : text ∈ expectation.nodePaths := by
    simp only [nodePaths, List.mem_append, List.mem_map]
    exact .inl (.inr ⟨_, asked, rfl⟩)
  exact judges_reading isLookedUp (.version asked)

theorem judges_childrenMismatch? :
    Judges (Mismatch.Tells expectation observation)
      (∀ entry ∈ expectation.children,
        ∃ node, observation.Finds entry.1 (some node) ∧ node.childNames = entry.2)
      (expectation.childrenMismatch? observation) := by
  apply judges_findSome?
  rintro ⟨text, names⟩ asked
  have isLookedUp : text ∈ expectation.nodePaths := by
    simp only [nodePaths, List.mem_append, List.mem_map]
    exact .inr ⟨_, asked, rfl⟩
  exact judges_reading isLookedUp (.children asked)

theorem judges_unchangedMismatch? :
    Judges (Mismatch.Tells expectation observation)
      (expectation.unchanged = true → observation.before = observation.after)
      (expectation.unchangedMismatch? observation) := by
  rw [unchangedMismatch?]
  split
  · rename_i asked
    apply judges_require
    · intro same _
      exact of_decide_eq_true same
    · intro other
      exact .changed asked (of_decide_eq_false other)
  · rename_i notAsked
    exact fun asked => absurd asked notAsked

theorem judges_conditionMismatch? :
    Judges (Mismatch.Tells expectation observation)
      (∀ condition ∈ expectation.condition, condition observation = true)
      (expectation.conditionMismatch? observation) := by
  apply judges_part
  intro condition asked
  apply judges_require
  · exact id
  · exact .condition asked

/-- A mismatch is found only if some part does not hold, and then what it says is so. -/
theorem judges_mismatch? (expectation : Expectation) (observation : Observation) :
    Judges (Mismatch.Tells expectation observation) (expectation.Met observation)
      (expectation.mismatch? observation) := by
  rw [mismatch?, parts]
  refine Judges.imp
    (judges_cons (judges_part_eq .committed) <| judges_cons (judges_part_eq .outcome) <|
      judges_cons (judges_part_eq .failedIndex) <| judges_cons (judges_part_eq .codes) <|
      judges_cons judges_createdMismatch? <| judges_cons judges_existingMismatch? <|
      judges_cons judges_absentMismatch? <| judges_cons judges_dataMismatch? <|
      judges_cons judges_versionMismatch? <| judges_cons judges_childrenMismatch? <|
      judges_cons judges_unchangedMismatch? <| judges_cons (judges_part_eq .events) <|
      judges_cons judges_conditionMismatch? trivial) ?_
  rintro ⟨committed, outcome, failedIndex, codes, created, existing, absent, data, versions,
    children, unchanged, events, condition, -⟩
  refine ⟨committed, outcome, failedIndex, codes, created, existing, absent, data, versions,
    children, ?_, events, condition⟩
  intro asked
  rw [unchanged asked]
  exact ⟨rfl, fun path => rfl⟩

/-- What is looked up in an expectation that is met is named by its path. -/
theorem Met.exists_path (met : expectation.Met observation) {text : String}
    (asked : text ∈ expectation.nodePaths) : ∃ path : Path, path.text = text := by
  simp only [nodePaths, List.mem_append, List.mem_map] at asked
  rcases asked with (((existing | absent) | ⟨entry, isData, rfl⟩) | ⟨entry, isVersion, rfl⟩) |
    ⟨entry, areNames, rfl⟩
  · obtain ⟨node, path, isText, -⟩ := met.existing text existing
    exact ⟨path, isText⟩
  · obtain ⟨path, isText, -⟩ := met.absent text absent
    exact ⟨path, isText⟩
  · obtain ⟨node, ⟨path, isText, -⟩, -⟩ := met.data entry isData
    exact ⟨path, isText⟩
  · obtain ⟨node, ⟨path, isText, -⟩, -⟩ := met.versions entry isVersion
    exact ⟨path, isText⟩
  · obtain ⟨node, ⟨path, isText, -⟩, -⟩ := met.children entry areNames
    exact ⟨path, isText⟩

/-- Where a mismatch is right, the expectation is not met. -/
theorem Met.not_tells (met : expectation.Met observation) (mismatch : Mismatch) :
    ¬mismatch.Tells expectation observation := by
  intro told
  cases told with
  | committed asked other => exact other (met.committed _ asked)
  | outcome asked other => exact other (met.outcome _ asked)
  | failedIndex asked other => exact other (met.failedIndex _ asked)
  | codes asked other => exact other (met.codes _ asked)
  | created asked other => exact other (met.created _ asked)
  | missing asked finds =>
      obtain ⟨node, findsNode⟩ := met.existing _ asked
      cases finds.unique findsNode
  | present asked finds => cases finds.unique (met.absent _ asked)
  | data asked finds other =>
      obtain ⟨node, findsNode, isData⟩ := met.data _ asked
      cases finds.unique findsNode
      exact other isData
  | missingData asked finds =>
      obtain ⟨node, findsNode, -⟩ := met.data _ asked
      cases finds.unique findsNode
  | version asked finds other =>
      obtain ⟨node, findsNode, rfl⟩ := met.versions _ asked
      rw [finds.unique findsNode] at other
      exact other rfl
  | children asked finds other =>
      obtain ⟨node, findsNode, rfl⟩ := met.children _ asked
      rw [finds.unique findsNode] at other
      exact other rfl
  | changed asked other =>
      obtain ⟨sameNumber, sameNodes⟩ := met.unchanged asked
      exact other (Tree.ext (Std.ExtTreeMap.ext_getElem? fun path => (sameNodes path).symm)
        sameNumber.symm)
  | events asked other => exact other (met.events _ asked)
  | condition asked other =>
      rw [met.condition _ asked] at other
      cases other
  | malformedPath asked malformed =>
      obtain ⟨path, rfl⟩ := met.exists_path asked
      rw [Path.parse_text] at malformed
      cases malformed

theorem mismatch?_eq_none_iff : expectation.mismatch? observation = none ↔
    expectation.Met observation := by
  have judged := expectation.judges_mismatch? observation
  constructor
  · intro nothing
    rwa [nothing] at judged
  · intro met
    cases found : expectation.mismatch? observation with
    | none => rfl
    | some mismatch =>
        rw [found] at judged
        exact absurd judged (met.not_tells mismatch)

theorem tells_of_mismatch? {mismatch : Mismatch}
    (found : expectation.mismatch? observation = some mismatch) :
    mismatch.Tells expectation observation := by
  have judged := expectation.judges_mismatch? observation
  rwa [found] at judged

end Parts

end Expectation

end BatchTree
