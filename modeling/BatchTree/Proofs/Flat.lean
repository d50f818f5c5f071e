import BatchTree.Batch.Execute
import BatchTree.Proofs.Descent

/-!
# The flat specification

A state that is as small as it can be: a payload and two counters for each path, and the
root among them.  Children are not stored, so whether a path has any is read off the other
paths.  A batch is a fold that stops at the first operation that fails.
-/

namespace BatchTree

/-- What the flat state holds at a path. -/
structure Flat.Entry where
  data : Payload
  version : Version
  /-- How often a child was added or removed. -/
  childCounter : Version
  deriving DecidableEq

/-- Entries by path.  The root is never missing. -/
@[ext] structure Flat where
  entries : Std.ExtTreeMap Path Flat.Entry
  root_mem : Path.root ∈ entries
  deriving DecidableEq

namespace Flat

/-- The outcome of an operation, as far as it can be told without records. -/
inductive Outcome where
  | created (path : String)
  | deleted
  | dataSet (version : Version)
  | checked
  deriving DecidableEq, Repr

/-- What a reply tells of the outcome. -/
def Outcome.ofReply? : Reply → Option Outcome
  | .created path => some (created path)
  | .deleted => some deleted
  | .dataSet stat => some (dataSet stat.version)
  | .checked => some checked
  | .failed _ => none

def get? (flat : Flat) (path : Path) : Option Entry :=
  flat.entries[path]?

def contains (flat : Flat) (path : Path) : Bool :=
  (flat.get? path).isSome

/-- Is the path the parent of any other? -/
def hasChild (flat : Flat) (path : Path) : Bool :=
  flat.entries.keys.any fun other => other.parent? == some path

/-- Give a path an entry, in place of any earlier one. -/
def put (flat : Flat) (path : Path) (entry : Entry) : Flat where
  entries := flat.entries.insert path entry
  root_mem := Std.ExtTreeMap.mem_insert.2 (.inr flat.root_mem)

/-- Count one more change to the children of a path. -/
def tally (flat : Flat) (path : Path) : Flat where
  entries := flat.entries.modify path fun entry =>
    { entry with childCounter := entry.childCounter + 1 }
  root_mem := Std.ExtTreeMap.mem_modify.2 flat.root_mem

/-- Take away the entry of a path that has a parent. -/
def remove (flat : Flat) {path parent : Path} (isParent : path.parent? = some parent) : Flat where
  entries := flat.entries.erase path
  root_mem := by
    refine Std.ExtTreeMap.mem_erase.2 ⟨?_, flat.root_mem⟩
    rw [ne_eq, Std.LawfulEqCmp.compare_eq_iff_eq]
    rintro rfl
    cases isParent

section Lookup

variable (flat : Flat) {path parent : Path} (other : Path)

@[ext] theorem ext_get? {left right : Flat} (same : ∀ path, left.get? path = right.get? path) :
    left = right :=
  Flat.ext (Std.ExtTreeMap.ext_getElem? same)

theorem get?_put (entry : Entry) :
    (flat.put path entry).get? other = if path = other then some entry else flat.get? other := by
  simp only [get?, put, Std.ExtTreeMap.getElem?_insert, Std.LawfulEqCmp.compare_eq_iff_eq]

theorem get?_tally :
    (flat.tally path).get? other =
      if path = other then
        (flat.get? path).map fun entry => { entry with childCounter := entry.childCounter + 1 }
      else flat.get? other := by
  simp only [get?, tally, Std.ExtTreeMap.getElem?_modify, Std.LawfulEqCmp.compare_eq_iff_eq]

theorem get?_remove (isParent : path.parent? = some parent) :
    (flat.remove isParent).get? other = if path = other then none else flat.get? other := by
  simp only [get?, remove, Std.ExtTreeMap.getElem?_erase, Std.LawfulEqCmp.compare_eq_iff_eq]

theorem hasChild_iff :
    flat.hasChild path = true ↔ ∃ segment, (flat.get? (path.extend segment)).isSome := by
  simp only [hasChild, List.any_eq_true, beq_iff_eq, Path.parent?_eq_some_iff,
    Std.ExtTreeMap.mem_keys, Std.ExtTreeMap.mem_iff_isSome_getElem?, get?]
  constructor
  · rintro ⟨other, present, segment, rfl⟩
    exact ⟨segment, present⟩
  · rintro ⟨segment, present⟩
    exact ⟨path.extend segment, present, segment, rfl⟩

end Lookup

/-- The path that a create asks for when the counter of the parent has some value. -/
def named (text : String) (mode : CreateMode) (counter : Version) : Except Path.Fault Path :=
  match mode with
  | .persistent => Path.parse text
  | .sequential => Path.withSequence text counter

/-- The entry of a path, provided that it is at the expected version. -/
def expect (flat : Flat) (path : Path) (expected : Version) : Except Status Entry :=
  match flat.get? path with
  | none => .error .noNode
  | some entry => if expected.admits entry.version then .ok entry else .error .badVersion

/-- The size of the payload, the path, the root, the parent and the target, in this order.
Which digits complete a stem has no bearing on whether it is a path, nor on its parent, so
the first counter serves to find both. -/
def create (limits : Limits) (flat : Flat) (text : String) (data : Payload) (mode : CreateMode) :
    Except Status (Flat × Outcome) :=
  if limits.maxDataLength < data.size then
    .error .badArguments
  else
    match named text mode 0 with
    | .error _ => .error .badArguments
    | .ok requested =>
        match requested.parent? with
        | none => .error .nodeExists
        | some parent =>
            match flat.get? parent with
            | none => .error .noParent
            | some above =>
                match named text mode above.childCounter with
                | .error _ => .error .badArguments
                | .ok target =>
                    if flat.contains target then
                      .error .nodeExists
                    else
                      .ok ((flat.tally parent).put target ⟨data, 0, 0⟩, .created target.text)

/-- The path, the root, the entry, its version and the paths below, in this order. -/
def delete (flat : Flat) (text : String) (version : Version) : Except Status (Flat × Outcome) :=
  match Path.parse text with
  | .error _ => .error .badArguments
  | .ok target =>
      match isParent : target.parent? with
      | none => .error .badArguments
      | some parent =>
          match flat.expect target version with
          | .error status => .error status
          | .ok _ =>
              if flat.hasChild target then
                .error .notEmpty
              else
                .ok ((flat.tally parent).remove isParent, .deleted)

/-- The size of the payload, the path, the entry and its version, in this order. -/
def setData (limits : Limits) (flat : Flat) (text : String) (data : Payload) (version : Version) :
    Except Status (Flat × Outcome) :=
  if limits.maxDataLength < data.size then
    .error .badArguments
  else
    match Path.parse text with
    | .error _ => .error .badArguments
    | .ok target =>
        match flat.expect target version with
        | .error status => .error status
        | .ok entry =>
            .ok (flat.put target { entry with data := data, version := entry.version + 1 },
              .dataSet (entry.version + 1))

/-- A check changes nothing. -/
def check (flat : Flat) (text : String) (version : Version) : Except Status (Flat × Outcome) :=
  match Path.parse text with
  | .error _ => .error .badArguments
  | .ok target =>
      match flat.expect target version with
      | .error status => .error status
      | .ok _ => .ok (flat, .checked)

/-- One operation: the code it fails with, or the state after it and its outcome. -/
def apply (limits : Limits) (flat : Flat) : Operation → Except Status (Flat × Outcome)
  | .create text data mode => flat.create limits text data mode
  | .delete text version => flat.delete text version
  | .setData text data version => flat.setData limits text data version
  | .check text version => flat.check text version

/-- A batch, the first operation of which has the given index: the first failure, or the
state after all operations and their outcomes. -/
def run (limits : Limits) (index : Nat) (flat : Flat) :
    Batch → Except (Nat × Status) (Flat × List Outcome)
  | [] => .ok (flat, [])
  | operation :: rest =>
      match flat.apply limits operation with
      | .error status => .error (index, status)
      | .ok (after, outcome) =>
          match after.run limits (index + 1) rest with
          | .error failure => .error failure
          | .ok (final, outcomes) => .ok (final, outcome :: outcomes)

end Flat

end BatchTree
