import BatchTree.Tree.ChangeSet

/-!
# Events

What those who watch the tree are told: which path changed, how, and in which
batch.  Only committed batches are told of.
-/

namespace BatchTree

/-- How a path changed. -/
inductive EventKind where
  | created
  | deleted
  | dataChanged
  deriving DecidableEq, Repr

namespace EventKind

/-- The short name, as it stands in an event's text. -/
def name : EventKind → String
  | created => "created"
  | deleted => "deleted"
  | dataChanged => "data-changed"

def all : List EventKind :=
  [created, deleted, dataChanged]

def ofName? (name : String) : Option EventKind :=
  all.find? fun kind => kind.name == name

/-- The full name, as it stands in encoded events and in messages. -/
def tag : EventKind → String
  | created => "NodeCreated"
  | deleted => "NodeDeleted"
  | dataChanged => "NodeDataChanged"

def ofTag? (tag : String) : Option EventKind :=
  all.find? fun kind => kind.tag == tag

end EventKind

/-- A change of one path, made by batch `zxid`. -/
@[ext] structure Event where
  path : Path
  kind : EventKind
  zxid : Zxid
  deriving DecidableEq

/-- The text of an event. -/
def Event.message (event : Event) : String :=
  s!"{event.path.text} {event.kind.name} @{event.zxid}"

/-- The event that tells of a change. -/
def Change.event (change : Change) (zxid : Zxid) : Event :=
  match change with
  | .create path => ⟨path, .created, zxid⟩
  | .delete path => ⟨path, .deleted, zxid⟩
  | .setData path _ => ⟨path, .dataChanged, zxid⟩

end BatchTree
