import BatchTree.Proofs.Validation

/-!
# Writes

An edit takes several writes: the parent of a node is copied out of the base and changed, then the
node is put down, and the log comes last.  No write is taken back when a later step fails.  Here
the validators work write by write, and come to what they judge at once all the same
(`Overlay.run_validate`).  Whatever fails does so before its first write, on any overlay and on
any tree (`Overlay.failures_write_nothing`).
-/

namespace BatchTree

namespace Overlay

/-- Work on an overlay, write by write.  What was written before a failure stays written. -/
abbrev Work (ε α : Type) := EStateM ε Overlay α

namespace Work

/-- Go on with a value, if there is one. -/
def given {ε α : Type} (value : Option α) (failure : ε) : Work ε α :=
  value.elim (throw failure) pure

/-- Go on, unless something stands against it. -/
def unlessRefused {ε : Type} (refused : Bool) (failure : ε) : Work ε Unit :=
  bif refused then throw failure else pure ()

/-- Go on with what was read. -/
def ofExcept {ε α : Type} : Except ε α → Work ε α
  | .ok value => pure value
  | .error failure => throw failure

/-- A node that is about to be changed.  It is copied out of the base if it is not staged yet. -/
def checkOut (path : Path) : Work Unit Node := do
  unless (← get).isStaged path do
    let node ← given ((← get).base.get? path) ()
    modify (·.stage path (some node))
  given (← get).staged[path]?.join ()

/-- Change a node in its place, and yield what it has become. -/
def change (path : Path) (update : Node → Node) : Work Unit Node := do
  let node ← checkOut path
  modify (·.stage path (some (update node)))
  return update node

/-- Stage a new node: first the parent, then the node, then the log. -/
def stageCreate (path : Path) (data : Payload) : Work Unit Unit := do
  let parent ← given path.parent? ()
  let overlay ← get
  unlessRefused (overlay.contains path || !overlay.contains parent) ()
  let _ ← change parent (·.addChild path.name overlay.zxid)
  modify (·.stage path (some (.new data overlay.zxid)))
  modify (·.record (.create path))

/-- Stage the removal of a node: first the parent, then the node, then the log. -/
def stageDelete (path : Path) : Work Unit Unit := do
  let parent ← given path.parent? ()
  let overlay ← get
  let node ← given (overlay.get? path) ()
  unlessRefused node.hasChildren ()
  let _ ← change parent (·.withoutChild path.name overlay.zxid)
  modify (·.stage path none)
  modify (·.record (.delete path))

/-- Stage new data for a node: first the node, then the log. -/
def stageSetData (path : Path) (data : Payload) : Work Unit Stat := do
  let zxid := (← get).zxid
  let node ← change path (·.setData data zxid)
  modify (·.record (.setData path node.version))
  return node.stat

/-- Judge a create, and stage it. -/
def create (limits : Limits) (text : String) (data : Payload) (mode : CreateMode) :
    Work Status Reply := do
  unlessRefused (limits.maxDataLength < data.size) .badArguments
  let requested ← ofExcept (requestedPath text mode)
  let parent ← given requested.parent? .nodeExists
  let above ← given ((← get).get? parent) .noParent
  let target ← ofExcept (targetPath text mode requested above)
  unlessRefused ((← get).contains target) .nodeExists
  (stageCreate target data).adaptExcept fun () => .noParent
  return .created target.text

/-- Judge a delete, and stage it. -/
def delete (text : String) (version : Version) : Work Status Reply := do
  let target ← ofExcept (readPath text)
  unlessRefused target.isRoot .badArguments
  let node ← ofExcept ((← get).expectNode target version)
  unlessRefused node.hasChildren .notEmpty
  (stageDelete target).adaptExcept fun () => .noNode
  return .deleted

/-- Judge a change of data, and stage it. -/
def setData (limits : Limits) (text : String) (data : Payload) (version : Version) :
    Work Status Reply := do
  unlessRefused (limits.maxDataLength < data.size) .badArguments
  let target ← ofExcept (readPath text)
  let _ ← ofExcept ((← get).expectNode target version)
  let stat ← (stageSetData target data).adaptExcept fun () => .noNode
  return .dataSet stat

/-- Judge a check. -/
def check (text : String) (version : Version) : Work Status Reply := do
  let target ← ofExcept (readPath text)
  let _ ← ofExcept ((← get).expectNode target version)
  return .checked

/-- Judge an operation, and stage it write by write. -/
def validate (limits : Limits) : Operation → Work Status Reply
  | .create path data mode => create limits path data mode
  | .delete path version => delete path version
  | .setData path data version => setData limits path data version
  | .check path version => check path version

end Work

/-- What becomes of an overlay when all is staged at once, or nothing is. -/
def atOnce {ε α : Type} (overlay : Overlay) :
    Except ε (Overlay × α) → EStateM.Result ε Overlay α
  | .ok (staged, value) => .ok value staged
  | .error failure => .error failure overlay

/-- The verdict on an edit: it is staged, or it is not. -/
def asVerdict {α : Type} : Option (Overlay × α) → Except Unit (Overlay × α)
  | some done => .ok done
  | none => .error ()

section Runs

variable {ε α : Type} {overlay : Overlay} {path : Path} {value : α} {failure : ε}

@[simp] theorem run_given_some :
    (Work.given (some value) failure).run overlay = .ok value overlay := rfl

@[simp] theorem run_given_none :
    (Work.given (none : Option α) failure).run overlay = .error failure overlay := rfl

@[simp] theorem run_unlessRefused_false :
    (Work.unlessRefused false failure).run overlay = .ok () overlay := rfl

@[simp] theorem run_unlessRefused_true :
    (Work.unlessRefused true failure).run overlay = .error failure overlay := rfl

@[simp] theorem run_ofExcept_ok :
    (Work.ofExcept (.ok value : Except ε α)).run overlay = .ok value overlay := rfl

@[simp] theorem run_ofExcept_error :
    (Work.ofExcept (.error failure : Except ε α)).run overlay = .error failure overlay := rfl

/-- What follows on work that is done goes on with what it has yielded and written. -/
theorem run_bind_of_ok {β : Type} {work : Work ε α} {after : Overlay} {next : α → Work ε β}
    (done : work.run overlay = .ok value after) :
    (work >>= next).run overlay = (next value).run after := by
  rw [EStateM.run_bind, done]

theorem stage_stage (first second : Image) :
    (overlay.stage path first).stage path second = overlay.stage path second := by
  have same : (overlay.staged.insert path first).insert path second =
      overlay.staged.insert path second := by
    apply Std.ExtTreeMap.ext_getElem?
    intro other
    rw [Std.ExtTreeMap.getElem?_insert, Std.ExtTreeMap.getElem?_insert,
      Std.ExtTreeMap.getElem?_insert]
    split <;> rfl
  rw [stage, stage, stage, same]

/-- A node is changed in its place if the batch sees it.  If it does not, nothing is written, not
even a copy. -/
theorem run_change (update : Node → Node) :
    (Work.change path update).run overlay =
      match overlay.get? path with
      | some node => .ok (update node) (overlay.stage path (some (update node)))
      | none => .error () overlay := by
  cases standing : overlay.staged[path]? with
  | some image =>
      have staged : overlay.isStaged path = true := by
        simp [isStaged, Std.ExtTreeMap.contains_eq_isSome_getElem?, standing]
      cases image with
      | none => simp [Work.change, Work.checkOut, get?, staged, standing]
      | some node =>
          simp [Work.change, Work.checkOut, get?, staged, standing, -bind_pure_comp]
  | none =>
      have unstaged : overlay.isStaged path = false := by
        simp [isStaged, Std.ExtTreeMap.contains_eq_isSome_getElem?, standing]
      cases found : overlay.base.get? path with
      | none => simp [Work.change, Work.checkOut, get?, unstaged, standing, found]
      | some node =>
          have copied : (overlay.stage path (some node)).staged[path]? = some (some node) :=
            Std.ExtTreeMap.getElem?_insert_self
          simp [Work.change, Work.checkOut, get?, unstaged, standing, found, copied, stage_stage,
            -bind_pure_comp]

theorem run_stageCreate (data : Payload) :
    (Work.stageCreate path data).run overlay =
      overlay.atOnce (asVerdict ((overlay.stageCreate? path data).map (·, ()))) := by
  rw [Work.stageCreate, stageCreate?]
  cases isParent : path.parent? with
  | none => simp [asVerdict, atOnce]
  | some parent =>
      rw [run_bind_of_ok run_given_some, run_bind_of_ok (EStateM.run_get overlay)]
      cases taken : overlay.get? path with
      | some node => simp [contains, taken, asVerdict, atOnce]
      | none =>
          cases found : overlay.get? parent <;>
            simp [contains, taken, update?, found, run_change, asVerdict, atOnce]

/-- The parent is missed before the first write, even if it is missed only by the last test. -/
theorem run_stageDelete :
    (Work.stageDelete path).run overlay =
      overlay.atOnce (asVerdict ((overlay.stageDelete? path).map (·, ()))) := by
  rw [Work.stageDelete, stageDelete?]
  cases isParent : path.parent? with
  | none => simp [asVerdict, atOnce]
  | some parent =>
      rw [run_bind_of_ok run_given_some, run_bind_of_ok (EStateM.run_get overlay)]
      cases overlay.get? path with
      | none => simp [asVerdict, atOnce]
      | some node =>
          cases bare : node.hasChildren with
          | true => simp [bare, asVerdict, atOnce]
          | false =>
              cases found : overlay.get? parent <;>
                simp [bare, update?, found, run_change, asVerdict, atOnce]

theorem run_stageSetData (data : Payload) :
    (Work.stageSetData path data).run overlay =
      overlay.atOnce (asVerdict (overlay.stageSetData? path data)) := by
  rw [Work.stageSetData, stageSetData?]
  cases taken : overlay.get? path <;>
    simp [taken, run_change, asVerdict, atOnce, -bind_pure_comp]

theorem run_create (limits : Limits) (text : String) (data : Payload) (mode : CreateMode) :
    (Work.create limits text data mode).run overlay =
      overlay.atOnce (overlay.create limits text data mode) := by
  rw [Work.create, create]
  by_cases tooLong : limits.maxDataLength < data.size
  · simp [tooLong, atOnce]
  · cases isRequested : requestedPath text mode with
    | error status => simp [tooLong, atOnce]
    | ok requested =>
        cases isParent : requested.parent? with
        | none => simp [tooLong, isParent, atOnce]
        | some parent =>
            cases found : overlay.get? parent with
            | none => simp [tooLong, isParent, found, atOnce]
            | some above =>
                cases isTarget : targetPath text mode requested above with
                | error status => simp [tooLong, isParent, found, isTarget, atOnce]
                | ok target =>
                    cases taken : overlay.contains target with
                    | true => simp [tooLong, isParent, found, isTarget, taken, atOnce]
                    | false =>
                        cases created : overlay.stageCreate? target data <;>
                          simp [tooLong, isParent, found, isTarget, taken, run_stageCreate,
                            created, atOnce, asVerdict, -bind_pure_comp]

theorem run_delete (text : String) (version : Version) :
    (Work.delete text version).run overlay = overlay.atOnce (overlay.delete text version) := by
  rw [Work.delete, delete]
  cases isTarget : readPath text with
  | error status => simp [atOnce]
  | ok target =>
      cases atRoot : target.isRoot with
      | true => simp [atRoot, atOnce]
      | false =>
          cases expected : overlay.expectNode target version with
          | error status => simp [atRoot, expected, atOnce]
          | ok node =>
              cases bare : node.hasChildren with
              | true => simp [atRoot, expected, bare, atOnce]
              | false =>
                  cases deleted : overlay.stageDelete? target <;>
                    simp [atRoot, expected, bare, run_stageDelete, deleted, atOnce, asVerdict,
                      -bind_pure_comp]

theorem run_setData (limits : Limits) (text : String) (data : Payload) (version : Version) :
    (Work.setData limits text data version).run overlay =
      overlay.atOnce (overlay.setData limits text data version) := by
  rw [Work.setData, setData]
  by_cases tooLong : limits.maxDataLength < data.size
  · simp [tooLong, atOnce]
  · cases isTarget : readPath text with
    | error status => simp [tooLong, atOnce]
    | ok target =>
        cases expected : overlay.expectNode target version with
        | error status => simp [tooLong, expected, atOnce]
        | ok node =>
            cases changed : overlay.stageSetData? target data <;>
              simp [tooLong, expected, run_stageSetData, changed, atOnce, asVerdict, -bind_pure_comp]

theorem run_check (text : String) (version : Version) :
    (Work.check text version).run overlay = overlay.atOnce (overlay.check text version) := by
  rw [Work.check, check]
  cases isTarget : readPath text with
  | error status => simp [atOnce]
  | ok target =>
      cases expected : overlay.expectNode target version <;>
        simp [expected, atOnce, -bind_pure_comp]

/-- Judged write by write, an operation comes to what it is judged at once. -/
theorem run_validate (limits : Limits) (operation : Operation) :
    (Work.validate limits operation).run overlay =
      overlay.atOnce (overlay.validate limits operation) := by
  cases operation with
  | create text data mode => exact run_create limits text data mode
  | delete text version => exact run_delete text version
  | setData text data version => exact run_setData limits text data version
  | check text version => exact run_check text version

end Runs

/-- Work that has written nothing when it fails, whatever it works on. -/
def Work.FailsBlank {ε α : Type} (work : Work ε α) : Prop :=
  ∀ {overlay : Overlay} {failure : ε} {after : Overlay},
    work.run overlay = .error failure after → after = overlay

theorem Work.failsBlank_of_run {ε α : Type} {work : Work ε α}
    {judge : Overlay → Except ε (Overlay × α)}
    (agrees : ∀ overlay, work.run overlay = overlay.atOnce (judge overlay)) :
    work.FailsBlank := by
  intro overlay failure after failed
  rw [agrees] at failed
  cases verdict : judge overlay with
  | ok passed =>
      rw [verdict] at failed
      cases failed
  | error status =>
      rw [verdict] at failed
      cases failed
      rfl

/-- What an operation that succeeds has written: a check nothing, any other operation one
change, at the path that was created or named. -/
inductive Writes (overlay : Overlay) : Operation → Reply → Overlay → Prop where
  | create {text : String} {data : Payload} {mode : CreateMode} {target : Path} {after : Overlay}
      (names : overlay.Names text mode target)
      (log_eq : after.log = overlay.log ++ [.create target]) :
      Writes overlay (.create text data mode) (.created target.text) after
  | delete {text : String} {version : Version} {target : Path} {after : Overlay}
      (read : Path.parse text = .ok target)
      (log_eq : after.log = overlay.log ++ [.delete target]) :
      Writes overlay (.delete text version) .deleted after
  | setData {text : String} {data : Payload} {version : Version} {target : Path} {stat : Stat}
      {after : Overlay} (read : Path.parse text = .ok target)
      (log_eq : after.log = overlay.log ++ [.setData target stat.version]) :
      Writes overlay (.setData text data version) (.dataSet stat) after
  | check {text : String} {version : Version} :
      Writes overlay (.check text version) .checked overlay

theorem Accepts.writes {limits : Limits} {overlay staged : Overlay} {operation : Operation}
    {reply : Reply} (accepts : overlay.Accepts limits operation staged reply) :
    overlay.Writes operation reply staged := by
  cases accepts with
  | create _ names stages => exact .create names stages.log_eq
  | delete read _ _ stages => exact .delete read stages.log_eq
  | check => exact .check
  | @setData _ data _ target node _ _ read found _ stages =>
      have shown : staged.get? target = some (node.setData data overlay.zxid) := by
        have step := stages.step
        generalize staged.get? = after at step
        cases step with
        | setData taken =>
            rw [found, Option.some.injEq] at taken
            rw [View.withData_self, taken]
      have log_eq := stages.log_eq
      rw [Edit.change, shown] at log_eq
      exact .setData read log_eq

/-- Whatever fails has written nothing, even if the tree underneath is not consistent; what
succeeds has written one change, or nothing if it is a check. -/
theorem failures_write_nothing :
    (∀ limits operation, (Work.validate limits operation).FailsBlank) ∧
      (∀ path data, (Work.stageCreate path data).FailsBlank) ∧
      (∀ path, (Work.stageDelete path).FailsBlank) ∧
      (∀ path data, (Work.stageSetData path data).FailsBlank) ∧
      ∀ (limits : Limits) (operation : Operation) (overlay : Overlay),
        (Work.validate limits operation).run overlay =
          overlay.atOnce (overlay.validate limits operation) ∧
        ∀ reply after, (Work.validate limits operation).run overlay = .ok reply after →
          overlay.Writes operation reply after := by
  refine ⟨?_, ?_, ?_, ?_, ?_⟩
  · exact fun limits operation => Work.failsBlank_of_run fun _ => run_validate limits operation
  · exact fun path data => Work.failsBlank_of_run fun _ => run_stageCreate data
  · exact fun path => Work.failsBlank_of_run fun _ => run_stageDelete
  · exact fun path data => Work.failsBlank_of_run fun _ => run_stageSetData data
  · intro limits operation overlay
    refine ⟨run_validate limits operation, ?_⟩
    intro reply after succeeded
    rw [run_validate] at succeeded
    cases verdict : overlay.validate limits operation with
    | error status =>
        rw [verdict] at succeeded
        cases succeeded
    | ok passed =>
        rw [verdict] at succeeded
        cases succeeded
        exact (accepts_of_validate verdict).writes

/-- In particular on a tree that holds a node without its parent: the node is found, and yet it
cannot be deleted. -/
theorem failures_write_nothing_on_orphan :
    let name : Segment := ⟨"a", (Segment.fault?_eq_none_iff _).1 rfl⟩
    let path := (Path.root.extend name).extend name
    let node : Node := .new ByteArray.empty 1
    let overlay := Overlay.ofTree ⟨(∅ : NodeMap).insert path node, 1⟩
    overlay.get? path = some node ∧
      ∃ after, (Work.validate {} (.delete path.text 0)).run overlay = .error .noNode after ∧
        after = overlay := by
  intro name path node overlay
  have taken : overlay.get? path = some node := by
    rw [get?_ofTree]
    exact Std.ExtTreeMap.getElem?_insert_self
  have orphan : overlay.get? (Path.root.extend name) = none := by
    have apart : compare path (Path.root.extend name) ≠ .eq := fun same =>
      Path.extend_ne_self _ name (Std.LawfulEqCmp.eq_of_compare same)
    rw [get?_ofTree, Tree.get?, Std.ExtTreeMap.getElem?_insert, if_neg apart]
    rfl
  have undone : overlay.stageDelete? path = none := by
    rw [stageDelete?, taken, Path.parent?_extend]
    simp [node, update?, orphan]
  have expected : overlay.expectNode path 0 = .ok node := expectNode_eq_ok_iff.2 ⟨taken, rfl⟩
  have judged : overlay.validate {} (.delete path.text 0) = .error .noNode := by
    rw [validate, delete, readPath_of_ok (Path.parse_text path)]
    dsimp only
    rw [expected, undone]
    rfl
  have failed : (Work.validate {} (.delete path.text 0)).run overlay = .error .noNode overlay := by
    rw [(failures_write_nothing.2.2.2.2 _ _ _).1, judged]
    rfl
  exact ⟨taken, overlay, failed, failures_write_nothing.1 _ _ failed⟩

end Overlay

end BatchTree
