import BatchTree.Path.Parse
import BatchTree.Tree.ChangeSet

/-!
# Installing a change set

A set is installed whole or not at all.  Before it is, each of its images is
examined against the tree as it would be afterwards: a node that stays needs its
parent and all the children it names, and a node that goes must not be the root
or leave children of its own behind.
-/

namespace BatchTree

namespace Tree

/-- Why the store refuses to read or to install. -/
inductive Fault where
  | noNode (path : Path)
  /-- The set was made for the tree of batch `expected`; the tree is at `actual`. -/
  | stale (expected actual : Zxid)
  /-- The node would have no parent. -/
  | orphan (path : Path)
  /-- The node would name a missing child, or would go while the child stays. -/
  | danglingChild (path : Path) (child : String)
  | rootImmutable
  deriving DecidableEq

/-- The wording of a fault. -/
def Fault.message : Fault → String
  | .noNode path => s!"no node at {path.text}"
  | .stale expected actual =>
      s!"mutation set built on zxid {expected}, store is at zxid {actual}"
  | .orphan path => s!"installing {path.text} would leave it without a parent"
  | .danglingChild path child =>
      s!"child {child} of {path.text} is inconsistent after install"
  | .rootImmutable => "the root node can not be deleted"

/-- The wording of a fault that keeps a batch from being installed. -/
def Fault.installMessage (fault : Fault) : String :=
  "install failed: " ++ fault.message

/-- Read a node. -/
def read (tree : Tree) (path : Path) : Except Fault Node :=
  match tree.get? path with
  | some node => .ok node
  | none => .error (.noNode path)

/-- Does a path exist once the set is installed? -/
def containsAfter (tree : Tree) (set : ChangeSet) (path : Path) : Bool :=
  match set.image? path with
  | some image => image.isSome
  | none => tree.contains path

/-- The first name of a staying node that leads nowhere after the install.  A
name that is no name leads nowhere. -/
def missingChild? (tree : Tree) (set : ChangeSet) (path : Path) (node : Node) : Option String :=
  node.childNames.find? fun name =>
    match path.child name with
    | .ok child => !tree.containsAfter set child
    | .error _ => true

/-- The first name of a leaving node that leads to a node after the install. -/
def survivingChild? (tree : Tree) (set : ChangeSet) (path : Path) (node : Node) :
    Option String :=
  node.childNames.find? fun name =>
    match path.child name with
    | .ok child => tree.containsAfter set child
    | .error _ => false

/-- Has the path no parent, or one that exists once the set is installed? -/
def hasParentAfter (tree : Tree) (set : ChangeSet) (path : Path) : Bool :=
  match path.parent? with
  | some parent => tree.containsAfter set parent
  | none => true

/-- What speaks against one image of a set. -/
def imageFault? (tree : Tree) (set : ChangeSet) (path : Path) : Image → Option Fault
  | some node =>
      if tree.hasParentAfter set path then
        (tree.missingChild? set path node).map (.danglingChild path)
      else
        some (.orphan path)
  | none =>
      if path.isRoot then
        some .rootImmutable
      else
        match tree.get? path with
        | some node => (tree.survivingChild? set path node).map (.danglingChild path)
        | none => none

/-- What speaks against a set: a stale base, or else the first faulty image in
byte order of the paths. -/
def fault? (tree : Tree) (set : ChangeSet) : Option Fault :=
  if set.base = tree.zxid then
    set.images.toList.findSome? fun entry => tree.imageFault? set entry.1 entry.2
  else
    some (.stale set.base tree.zxid)

/-- The nodes with one image put in place. -/
def putImage (nodes : NodeMap) (path : Path) : Image → NodeMap
  | some node => nodes.insert path node
  | none => nodes.erase path

/-- The tree with all images of a set put in place. -/
def apply (tree : Tree) (set : ChangeSet) : Tree where
  nodes := set.images.foldl putImage tree.nodes
  zxid := set.zxid

/-- Install a set, or refuse it and leave the tree as it is. -/
def install (tree : Tree) (set : ChangeSet) : Except Fault Tree :=
  match tree.fault? set with
  | some fault => .error fault
  | none => .ok (tree.apply set)

end Tree

end BatchTree
