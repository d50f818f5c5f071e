/-!
# Status codes

The closed set of codes that an operation, or a whole batch, can end with.  Each
code has a stable number, under which it is stored and sent.
-/

namespace BatchTree

/-- How an operation or a batch ended. -/
inductive Status where
  | ok
  /-- Another operation of the batch failed, so this one was rolled back or never
  tried. -/
  | transactionAborted
  /-- The store could not be asked, or refused; nothing was applied. -/
  | unavailable
  /-- A malformed path, an oversized payload, an oversized batch, or a delete of
  the root. -/
  | badArguments
  | noNode
  | badVersion
  | nodeExists
  | notEmpty
  | noParent
  deriving DecidableEq, Repr

namespace Status

/-- All codes, in the order in which they are listed. -/
def all : List Status :=
  [.ok, .transactionAborted, .unavailable, .badArguments, .noNode, .badVersion, .nodeExists,
    .notEmpty, .noParent]

/-- The stable number of a code. -/
def id : Status → Int
  | .ok => 0
  | .transactionAborted => -2
  | .unavailable => -4
  | .badArguments => -8
  | .noNode => -101
  | .badVersion => -103
  | .nodeExists => -110
  | .notEmpty => -111
  | .noParent => -120

/-- The code with a given number. -/
def ofId? (id : Int) : Option Status :=
  all.find? fun status => status.id == id

theorem ofId?_eq_some_iff (id : Int) (status : Status) :
    ofId? id = some status ↔ status.id = id := by
  constructor
  · intro found
    simpa using List.find?_some found
  · rintro rfl
    cases status <;> rfl

@[simp] theorem ofId?_id (status : Status) : ofId? status.id = some status :=
  (ofId?_eq_some_iff _ _).2 rfl

/-- What is said of a number that no code has. -/
def unknownMessage (id : Int) : String :=
  s!"unknown status code: {id}"

def name : Status → String
  | .ok => "Ok"
  | .transactionAborted => "TransactionAborted"
  | .unavailable => "Unavailable"
  | .badArguments => "BadArguments"
  | .noNode => "NoNode"
  | .badVersion => "BadVersion"
  | .nodeExists => "NodeExists"
  | .notEmpty => "NotEmpty"
  | .noParent => "NoParent"

/-- The name with the number. -/
def message (status : Status) : String :=
  s!"{status.name} ({status.id})"

def isOk (status : Status) : Bool :=
  status == .ok

/-- May the caller try again?  Only where nothing can have been applied. -/
def isRetryable (status : Status) : Bool :=
  status == .unavailable

@[simp] theorem isOk_iff {status : Status} : status.isOk = true ↔ status = .ok := by
  simp [isOk]

@[simp] theorem isRetryable_iff {status : Status} :
    status.isRetryable = true ↔ status = .unavailable := by
  simp [isRetryable]

end Status

end BatchTree
