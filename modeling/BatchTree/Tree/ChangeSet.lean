import BatchTree.Tree.Basic

/-!
# Change sets

What one batch does to the tree, twice over: as the final image of every path it
touched, for the store, and as a log of changes in order, for those who watch.
-/

namespace BatchTree

/-- One change of a batch. -/
inductive Change where
  | create (path : Path)
  | delete (path : Path)
  /-- The data was set and the node is now at `version`. -/
  | setData (path : Path) (version : Version)
  deriving DecidableEq

namespace Change

def path : Change → Path
  | create path => path
  | delete path => path
  | setData path _ => path

end Change

/-- The final state of a path after a batch; `none` says that it is gone. -/
abbrev Image := Option Node

/-- Images by path. -/
abbrev ImageMap := Std.ExtTreeMap Path Image

/-- Everything one batch changes, ready to be installed. -/
structure ChangeSet where
  /-- The batch number of the tree that the set was made for. -/
  base : Zxid
  images : ImageMap := ∅
  log : List Change := []
  deriving DecidableEq

namespace ChangeSet

/-- The number under which the set is installed. -/
def zxid (set : ChangeSet) : Zxid :=
  set.base + 1

/-- The final image of a path, if the set has one. -/
def image? (set : ChangeSet) (path : Path) : Option Image :=
  set.images[path]?

/-- Give a path its final image, in place of any earlier one. -/
def withImage (set : ChangeSet) (path : Path) (image : Image) : ChangeSet :=
  { set with images := set.images.insert path image }

/-- Add a change to the end of the log. -/
def record (set : ChangeSet) (change : Change) : ChangeSet :=
  { set with log := set.log ++ [change] }

def isEmpty (set : ChangeSet) : Bool :=
  set.log.isEmpty && set.images.isEmpty

end ChangeSet

end BatchTree
