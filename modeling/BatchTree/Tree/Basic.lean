import BatchTree.Path.Basic
import BatchTree.Node

/-!
# The committed tree

Every existing node under its path, and the number of the last batch that was
installed.  Two trees are equal when they hold equal nodes at the same paths
under the same number.
-/

namespace BatchTree

/-- Nodes by path. -/
abbrev NodeMap := Std.ExtTreeMap Path Node

/-- A committed state. -/
@[ext] structure Tree where
  nodes : NodeMap
  /-- The last installed batch. -/
  zxid : Zxid
  deriving DecidableEq

namespace Tree

/-- The tree before any batch: the root alone. -/
def fresh : Tree where
  nodes := (∅ : NodeMap).insert Path.root Node.root
  zxid := 0

instance : Inhabited Tree := ⟨fresh⟩

def get? (tree : Tree) (path : Path) : Option Node :=
  tree.nodes[path]?

def contains (tree : Tree) (path : Path) : Bool :=
  (tree.get? path).isSome

def stat? (tree : Tree) (path : Path) : Option Stat :=
  (tree.get? path).map Node.stat

/-- Number of nodes, the root included. -/
def size (tree : Tree) : Nat :=
  tree.nodes.size

def isEmpty (tree : Tree) : Bool :=
  tree.nodes.isEmpty

/-- The paths of all nodes in byte order. -/
def paths (tree : Tree) : List Path :=
  tree.nodes.keys

/-- All nodes with their paths, in byte order of the paths. -/
def toList (tree : Tree) : List (Path × Node) :=
  tree.nodes.toList

theorem get?_fresh (path : Path) :
    fresh.get? path = if path = Path.root then some Node.root else none := by
  by_cases atRoot : path = Path.root
  · simp [get?, fresh, atRoot]
  · simp [get?, fresh, atRoot, Ne.symm atRoot]

end Tree

end BatchTree
