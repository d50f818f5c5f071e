import BatchTree.Batch.Response
import BatchTree.Path.Parse
import BatchTree.Tree.Basic
import BatchTree.Watch.Event

/-!
# Expectations

What a test expects of one batch: of its response, of the tree afterwards, and of
the events.  An expectation is a record of parts, most of which can be left unset;
it is met if all parts that are set hold, and otherwise the first that does not
says what is wrong.
-/

namespace BatchTree

/-- What was seen of one batch. -/
structure Observation where
  response : Response
  before : Tree
  after : Tree
  /-- The events of this batch alone. -/
  events : List Event

/-- What is expected of one batch. -/
structure Expectation where
  committed : Option Bool := none
  outcome : Option Status := none
  /-- The index of the failed operation, which may be expected to be missing. -/
  failedIndex : Option (Option Nat) := none
  codes : Option (List Status) := none
  created : List (Nat × String) := []
  existing : List String := []
  absent : List String := []
  data : List (String × Payload) := []
  versions : List (String × Version) := []
  children : List (String × List String) := []
  /-- The tree is the same before and after. -/
  unchanged : Bool := false
  events : Option (List (String × EventKind)) := none
  /-- A condition of the test's own. -/
  condition : Option (Observation → Bool) := none

/-- How an observation falls short of an expectation. -/
inductive Mismatch where
  | committed (expected : Bool) (outcome : Status) (failedIndex : Option Nat)
  | outcome (expected actual : Status)
  | failedIndex (expected actual : Option Nat)
  | codes (expected actual : List Status)
  | created (index : Nat) (expected : String) (actual : Option String)
  | missing (path : String)
  | present (path : String)
  | data (path : String) (expected actual : Payload)
  | missingData (path : String)
  | version (path : String) (expected : Version) (actual : Option Version)
  | children (path : String) (expected : List String) (actual : Option (List String))
  | changed
  | events (expected actual : List (String × EventKind))
  | condition
  /-- The expectation itself names a malformed path. -/
  | malformedPath (fault : Path.Fault)
  deriving DecidableEq

namespace Mismatch

def indexText (index : Option Nat) : String :=
  Text.optional (index.map toString)

def codesText (codes : List Status) : String :=
  Text.bracketed (codes.map Status.name)

def payloadText (data : Payload) : String :=
  Text.bracketed (data.toList.map fun byte => toString byte.toNat)

def namesText (names : List String) : String :=
  Text.bracketed (names.map Text.quoted)

def eventsText (events : List (String × EventKind)) : String :=
  Text.bracketed (events.map fun event => Text.paired (Text.quoted event.1) event.2.tag)

/-- The wording of a mismatch. -/
def message : Mismatch → String
  | committed expected status index =>
      s!"expected committed={expected}, got outcome {status.message} " ++
        s!"(failed at {indexText index})"
  | outcome expected actual => s!"expected outcome {expected.message}, got {actual.message}"
  | failedIndex expected actual =>
      s!"expected failing index {indexText expected}, got {indexText actual}"
  | codes expected actual => s!"expected codes {codesText expected}, got {codesText actual}"
  | created index expected actual =>
      let found := Text.optional (actual.map Text.quoted)
      s!"expected result {index} to create {expected}, got {found}"
  | missing path => s!"expected {path} to exist"
  | present path => s!"expected {path} to be absent"
  | data path expected actual =>
      s!"expected {path} to hold {payloadText expected}, got {payloadText actual}"
  | missingData path => s!"expected {path} to exist with data"
  | version path expected actual =>
      let found := Text.optional (actual.map toString)
      s!"expected {path} at version {expected}, got {found}"
  | children path expected actual =>
      let found := Text.optional (actual.map namesText)
      s!"expected children {namesText expected} under {path}, got {found}"
  | changed => "expected the committed tree to be unchanged"
  | events expected actual => s!"expected events {eventsText expected}, got {eventsText actual}"
  | condition => "custom assertion returned false"
  | malformedPath fault => s!"invalid path in expectation: {fault.message}"

end Mismatch

namespace Observation

/-- Judge the node at a path after the batch. -/
def judge (observation : Observation) (path : String) (verdict : Option Node → Option Mismatch) :
    Option Mismatch :=
  match Path.parse path with
  | .error fault => some (.malformedPath fault)
  | .ok path => verdict (observation.after.get? path)

/-- The events as pairs of a path and a kind. -/
def eventPairs (observation : Observation) : List (String × EventKind) :=
  observation.events.map fun event => (event.path.text, event.kind)

/-- The codes of all operations. -/
def codes (observation : Observation) : List Status :=
  observation.response.replies.map Reply.status

end Observation

namespace Expectation

/-- A mismatch where a condition fails. -/
def require (condition : Bool) (mismatch : Mismatch) : Option Mismatch :=
  if condition then none else some mismatch

/-- The mismatch of a part that may be unset. -/
def part {α : Type} (expected : Option α) (judge : α → Option Mismatch) : Option Mismatch :=
  expected.bind judge

variable (expectation : Expectation) (observation : Observation)

def committedMismatch? : Option Mismatch :=
  part expectation.committed fun expected =>
    require (observation.response.isCommitted = expected)
      (.committed expected observation.response.outcome observation.response.failedIndex)

def outcomeMismatch? : Option Mismatch :=
  part expectation.outcome fun expected =>
    require (observation.response.outcome = expected)
      (.outcome expected observation.response.outcome)

def failedIndexMismatch? : Option Mismatch :=
  part expectation.failedIndex fun expected =>
    require (observation.response.failedIndex = expected)
      (.failedIndex expected observation.response.failedIndex)

def codesMismatch? : Option Mismatch :=
  part expectation.codes fun expected =>
    require (observation.codes = expected) (.codes expected observation.codes)

def createdMismatch? : Option Mismatch :=
  expectation.created.findSome? fun (index, path) =>
    let actual := observation.response.replies[index]?.bind Reply.createdPath?
    require (actual = some path) (.created index path actual)

def existingMismatch? : Option Mismatch :=
  expectation.existing.findSome? fun path =>
    observation.judge path fun node => require node.isSome (.missing path)

def absentMismatch? : Option Mismatch :=
  expectation.absent.findSome? fun path =>
    observation.judge path fun node => require node.isNone (.present path)

def dataMismatch? : Option Mismatch :=
  expectation.data.findSome? fun (path, expected) =>
    observation.judge path fun node =>
      match node with
      | some node => require (node.data = expected) (.data path expected node.data)
      | none => some (.missingData path)

def versionMismatch? : Option Mismatch :=
  expectation.versions.findSome? fun (path, expected) =>
    observation.judge path fun node =>
      let actual := node.map Node.version
      require (actual = some expected) (.version path expected actual)

def childrenMismatch? : Option Mismatch :=
  expectation.children.findSome? fun (path, expected) =>
    observation.judge path fun node =>
      let actual := node.map Node.childNames
      require (actual = some expected) (.children path expected actual)

def unchangedMismatch? : Option Mismatch :=
  if expectation.unchanged then
    require (observation.before = observation.after) .changed
  else
    none

def eventsMismatch? : Option Mismatch :=
  part expectation.events fun expected =>
    require (observation.eventPairs = expected) (.events expected observation.eventPairs)

def conditionMismatch? : Option Mismatch :=
  part expectation.condition fun condition => require (condition observation) .condition

/-- The parts in the order in which they are looked at. -/
def parts : List (Expectation → Observation → Option Mismatch) :=
  [committedMismatch?, outcomeMismatch?, failedIndexMismatch?, codesMismatch?, createdMismatch?,
    existingMismatch?, absentMismatch?, dataMismatch?, versionMismatch?, childrenMismatch?,
    unchangedMismatch?, eventsMismatch?, conditionMismatch?]

/-- The first part that does not hold. -/
def mismatch? : Option Mismatch :=
  parts.findSome? fun part => part expectation observation

/-! ## Stating expectations -/

/-- The batch committed. -/
def toCommit : Expectation :=
  { expectation with committed := some true, outcome := some .ok }

/-- The batch was aborted because operation `index` failed with a code. -/
def toAbort (status : Status) (index : Nat) : Expectation :=
  { expectation with
    committed := some false
    outcome := some status
    failedIndex := some (some index) }

/-- The batch was refused before any operation was tried. -/
def toBeRejected (status : Status) : Expectation :=
  { expectation with
    committed := some false
    outcome := some status
    failedIndex := some none }

def withCodes (codes : List Status) : Expectation :=
  { expectation with codes := some codes }

/-- Operation `index` created a path. -/
def creating (index : Nat) (path : String) : Expectation :=
  { expectation with created := expectation.created ++ [(index, path)] }

def withExisting (path : String) : Expectation :=
  { expectation with existing := expectation.existing ++ [path] }

def withAbsent (path : String) : Expectation :=
  { expectation with absent := expectation.absent ++ [path] }

def withData (path : String) (data : Payload) : Expectation :=
  { expectation with data := expectation.data ++ [(path, data)] }

def withVersion (path : String) (version : Version) : Expectation :=
  { expectation with versions := expectation.versions ++ [(path, version)] }

def withChildren (path : String) (names : List String) : Expectation :=
  { expectation with children := expectation.children ++ [(path, names)] }

def toChangeNothing : Expectation :=
  { expectation with unchanged := true }

/-- Exactly these events were fired, in this order. -/
def withEvents (events : List (String × EventKind)) : Expectation :=
  { expectation with events := some events }

def withoutEvents : Expectation :=
  expectation.withEvents []

/-- A condition of the test's own holds. -/
def satisfying (condition : Observation → Bool) : Expectation :=
  { expectation with condition := some condition }

/-- A summary for logs.  It leaves out the parts about single nodes. -/
def description : String :=
  Text.record "Expectation"
    [("committed", Text.optional (expectation.committed.map toString)),
      ("outcome", Text.optional (expectation.outcome.map Status.name)),
      ("failed_index", Text.optional (expectation.failedIndex.map Mismatch.indexText)),
      ("codes", Text.optional (expectation.codes.map Mismatch.codesText)),
      ("exists", Mismatch.namesText expectation.existing),
      ("absent", Mismatch.namesText expectation.absent),
      ("unchanged", toString expectation.unchanged),
      ("events", Text.optional (expectation.events.map Mismatch.eventsText)),
      ("custom", Text.optional (expectation.condition.map fun _ => Text.quoted "<fn>"))]

end Expectation

end BatchTree
