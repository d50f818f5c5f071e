import BatchTree.Batch.Operation
import BatchTree.Batch.Aggregator
import BatchTree.Path.Sequence
import BatchTree.Tree.Overlay

/-!
# Validating operations

Each operation is judged against the overlay of its batch, so it sees what the
operations before it have staged.  An operation that passes stages its change and
yields a provisional reply; one that fails yields a code.
-/

namespace BatchTree

/-- The largest payload unless another bound is set: a byte less than a mebibyte. -/
def defaultMaxDataLength : Nat := 0xfffff

/-- Bounds that hold for every operation. -/
structure Limits where
  /-- The largest payload in bytes. -/
  maxDataLength : Nat := defaultMaxDataLength
  deriving DecidableEq, Repr

namespace Overlay

/-- The judgement on one operation: a code, or the overlay with the change staged
and a reply. -/
abbrev Verdict := Except Status (Overlay × Reply)

/-- Read a submitted path. -/
def readPath (text : String) : Except Status Path :=
  (Path.parse text).mapError fun _ => .badArguments

/-- The node that an operation names, provided that it is at the expected version. -/
def expectNode (overlay : Overlay) (path : Path) (expected : Version) : Except Status Node :=
  match overlay.get? path with
  | none => .error .noNode
  | some node => if expected.admits node.version then .ok node else .error .badVersion

/-- The path that stands for a create until its counter is known.  A stem is
completed with a digit, which serves to find its parent. -/
def requestedPath (text : String) (mode : CreateMode) : Except Status Path :=
  match mode with
  | .persistent => readPath text
  | .sequential =>
      match Path.checkStem text with
      | .error _ => .error .badArguments
      | .ok () => readPath (text ++ "0")

/-- The path that a create ends up with, the counter being the parent's child
version. -/
def targetPath (text : String) (mode : CreateMode) (requested : Path) (parent : Node) :
    Except Status Path :=
  match mode with
  | .persistent => .ok requested
  | .sequential =>
      (Path.withSequence text parent.stat.cversion).mapError fun _ => .badArguments

/-- Judge a create: the size of the payload, the path, the root, the parent, and
the target, in this order. -/
def create (limits : Limits) (overlay : Overlay) (text : String) (data : Payload)
    (mode : CreateMode) : Verdict :=
  if limits.maxDataLength < data.size then
    .error .badArguments
  else
    match requestedPath text mode with
    | .error status => .error status
    | .ok requested =>
        match requested.parent? with
        | none => .error .nodeExists
        | some parent =>
            match overlay.get? parent with
            | none => .error .noParent
            | some node =>
                match targetPath text mode requested node with
                | .error status => .error status
                | .ok target =>
                    if overlay.contains target then
                      .error .nodeExists
                    else
                      match overlay.stageCreate? target data with
                      | none => .error .noParent
                      | some staged => .ok (staged, .created target.text)

/-- Judge a delete: the path, the root, the node, its version, and its children,
in this order. -/
def delete (overlay : Overlay) (text : String) (version : Version) : Verdict :=
  match readPath text with
  | .error status => .error status
  | .ok target =>
      if target.isRoot then
        .error .badArguments
      else
        match overlay.expectNode target version with
        | .error status => .error status
        | .ok node =>
            if node.hasChildren then
              .error .notEmpty
            else
              match overlay.stageDelete? target with
              | none => .error .noNode
              | some staged => .ok (staged, .deleted)

/-- Judge a change of data: the size of the payload, the path, the node, and its
version, in this order. -/
def setData (limits : Limits) (overlay : Overlay) (text : String) (data : Payload)
    (version : Version) : Verdict :=
  if limits.maxDataLength < data.size then
    .error .badArguments
  else
    match readPath text with
    | .error status => .error status
    | .ok target =>
        match overlay.expectNode target version with
        | .error status => .error status
        | .ok _ =>
            match overlay.stageSetData? target data with
            | none => .error .noNode
            | some (staged, stat) => .ok (staged, .dataSet stat)

/-- Judge a check, which stages nothing. -/
def check (overlay : Overlay) (text : String) (version : Version) : Verdict :=
  match readPath text with
  | .error status => .error status
  | .ok target =>
      match overlay.expectNode target version with
      | .error status => .error status
      | .ok _ => .ok (overlay, .checked)

/-- Judge one operation. -/
def validate (limits : Limits) (overlay : Overlay) : Operation → Verdict
  | .create path data mode => overlay.create limits path data mode
  | .delete path version => overlay.delete path version
  | .setData path data version => overlay.setData limits path data version
  | .check path version => overlay.check path version

end Overlay

end BatchTree
