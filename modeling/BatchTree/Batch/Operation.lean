import BatchTree.CreateMode
import BatchTree.Node

/-!
# Operations

The requests that a batch is made of.  A path is kept as it was submitted: it is
read when the operation is tried, so that a malformed path is the fault of its
own operation.
-/

namespace BatchTree

/-- One request of a batch. -/
inductive Operation where
  /-- Create a node; a sequential mode completes the path with a counter. -/
  | create (path : String) (data : Payload) (mode : CreateMode)
  /-- Delete a node without children. -/
  | delete (path : String) (version : Version)
  | setData (path : String) (data : Payload) (version : Version)
  /-- Require a version; change nothing. -/
  | check (path : String) (version : Version)
  deriving DecidableEq

/-- A list of requests that take effect together or not at all. -/
abbrev Batch := List Operation

namespace Operation

/-- What an operation does, apart from its arguments. -/
inductive Kind where
  | create
  | delete
  | setData
  | check
  deriving DecidableEq, Repr

def Kind.name : Kind → String
  | .create => "create"
  | .delete => "delete"
  | .setData => "setData"
  | .check => "check"

def kind : Operation → Kind
  | create .. => .create
  | delete .. => .delete
  | setData .. => .setData
  | check .. => .check

/-- The path as submitted. -/
def path : Operation → String
  | create path _ _ => path
  | delete path _ => path
  | setData path _ _ => path
  | check path _ => path

/-- The version that the operation insists on, if it does. -/
def expectedVersion? : Operation → Option Version
  | create .. => none
  | delete _ version => some version |>.filter (· ≠ anyVersion)
  | setData _ _ version => some version |>.filter (· ≠ anyVersion)
  | check _ version => some version |>.filter (· ≠ anyVersion)

end Operation

end BatchTree
