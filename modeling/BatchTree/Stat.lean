/-!
# Stat

The record kept beside each node: the zxids of the batches that made it, last
changed its data and last changed its children, and a counter for each kind of
change.
-/

namespace BatchTree

/-- The number of a committed batch. -/
abbrev Zxid := Int

/-- A count of changes to a node. -/
abbrev Version := Int

/-- The expected version that asks for no particular version. -/
def anyVersion : Version := -1

/-- Does an expectation hold of a node at version `actual`? -/
def Version.admits (expected actual : Version) : Bool :=
  expected == anyVersion || expected == actual

theorem Version.admits_iff {expected actual : Version} :
    Version.admits expected actual = true ↔ expected = anyVersion ∨ expected = actual := by
  simp [Version.admits]

/-- The largest size that a record holds. -/
def sizeLimit : Nat := 2147483647

/-- A size as a record holds it. -/
def clampSize (size : Nat) : Int :=
  Nat.min size sizeLimit

/-- What is known of a node beside its data and its children. -/
@[ext] structure Stat where
  /-- The batch that created the node. -/
  czxid : Zxid := 0
  /-- The batch that last set the data. -/
  mzxid : Zxid := 0
  /-- The batch that last added or removed a child. -/
  pzxid : Zxid := 0
  /-- How often the data was set. -/
  version : Version := 0
  /-- How often a child was added or removed.  Sequential children take their
  counter from here. -/
  cversion : Version := 0
  numChildren : Int := 0
  dataLength : Int := 0
  deriving DecidableEq, Repr

namespace Stat

instance : Inhabited Stat := ⟨{}⟩

/-- The record of a node that batch `zxid` creates. -/
def created (zxid : Zxid) (dataSize : Nat) : Stat where
  czxid := zxid
  mzxid := zxid
  pzxid := zxid
  dataLength := clampSize dataSize

/-- The record after batch `zxid` has set the data. -/
def touchData (stat : Stat) (zxid : Zxid) (dataSize : Nat) : Stat :=
  { stat with
    version := stat.version + 1
    mzxid := zxid
    dataLength := clampSize dataSize }

/-- The record after batch `zxid` has added or removed a child. -/
def touchChildren (stat : Stat) (zxid : Zxid) (childCount : Nat) : Stat :=
  { stat with
    cversion := stat.cversion + 1
    pzxid := zxid
    numChildren := clampSize childCount }

end Stat

end BatchTree
