import BatchTree.Stat
import Std.Data.ExtTreeSet

/-!
# Nodes

A node holds a payload, its record, and the names of its children.  The names
form an ordered set, so they are listed in byte order, each of them once.
-/

namespace BatchTree

/-- What a node holds for its users. -/
abbrev Payload := ByteArray

/-- Payloads are compared byte by byte. -/
instance : DecidableEq Payload := fun left right =>
  decidable_of_iff (left.data = right.data) ByteArray.ext_iff.symm

/-- An ordered set of names. -/
abbrev Names := Std.ExtTreeSet String

/-- One entry of the tree. -/
@[ext] structure Node where
  data : Payload
  stat : Stat
  children : Names
  deriving DecidableEq

namespace Node

/-- A node as batch `zxid` creates it. -/
def new (data : Payload) (zxid : Zxid) : Node where
  data := data
  stat := .created zxid data.size
  children := ∅

/-- The root as it is before any batch. -/
def root : Node :=
  new ByteArray.empty 0

instance : Inhabited Node := ⟨root⟩

def version (node : Node) : Version :=
  node.stat.version

def hasChild (node : Node) (name : String) : Bool :=
  node.children.contains name

def hasChildren (node : Node) : Bool :=
  !node.children.isEmpty

/-- The names of the children in byte order. -/
def childNames (node : Node) : List String :=
  node.children.toList

/-- Replace the data. -/
def setData (node : Node) (data : Payload) (zxid : Zxid) : Node :=
  { node with
    data := data
    stat := node.stat.touchData zxid data.size }

/-- Record a child. -/
def addChild (node : Node) (name : String) (zxid : Zxid) : Node :=
  let children := node.children.insert name
  { node with
    children := children
    stat := node.stat.touchChildren zxid children.size }

/-- Forget a child.  Nothing is forgotten of a name that was not recorded. -/
def removeChild? (node : Node) (name : String) (zxid : Zxid) : Option Node :=
  if node.hasChild name then
    let children := node.children.erase name
    some { node with
      children := children
      stat := node.stat.touchChildren zxid children.size }
  else
    none

/-- The node without a child, whether or not it had it. -/
def withoutChild (node : Node) (name : String) (zxid : Zxid) : Node :=
  (node.removeChild? name zxid).getD node

end Node

end BatchTree
