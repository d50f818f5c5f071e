import BatchTree.Proofs.Execution
import BatchTree.Proofs.Touch

/-!
# Changing a copy in place

The plain way to try a batch is to copy the whole tree and to change the copy as the calls
come in (`Draft`).  An overlay does without the copy, and nobody can tell: it answers every
call as the draft does and reads the same after it, whatever the tree underneath, and
installing it leads to the tree that the draft has become.
-/

namespace BatchTree

namespace Edit

/-- What a call answers. -/
inductive Answer where
  /-- Nothing was changed. -/
  | refused
  | done
  /-- The data was set; `stat` is the record of the node afterwards. -/
  | dataSet (stat : Stat)
  deriving DecidableEq

/-- The answer to an edit that leads to the view `after`. -/
def answer (after : View) : Edit → Answer
  | create .. => .done
  | delete _ => .done
  | setData path _ => .dataSet ((after path).elim {} Node.stat)

/-- The change that a call is logged as, unless it is refused. -/
def logged? : Edit → Answer → Option Change
  | create path _, .done => some (.create path)
  | delete path, .done => some (.delete path)
  | setData path _, .dataSet stat => some (.setData path stat.version)
  | _, _ => none

variable {after : View}

theorem answer_ne_refused (edit : Edit) : edit.answer after ≠ .refused := by
  cases edit <;> exact Answer.noConfusion

theorem logged?_answer (edit : Edit) :
    edit.logged? (edit.answer after) = some (edit.change after) := by
  cases edit with
  | create path data => rfl
  | delete path => rfl
  | setData path data =>
      rw [answer, change, logged?]
      cases after path <;> rfl

@[simp] theorem logged?_refused (edit : Edit) : edit.logged? .refused = none := by
  cases edit <;> rfl

end Edit

/-- A private copy of a tree, which batch `zxid` changes in place. -/
structure Draft where
  nodes : NodeMap
  zxid : Zxid

namespace Draft

/-- A full copy of the tree, for the next batch. -/
def ofTree (tree : Tree) : Draft where
  nodes := tree.nodes
  zxid := tree.zxid + 1

/-- The draft as the tree that it has become. -/
def toTree (draft : Draft) : Tree where
  nodes := draft.nodes
  zxid := draft.zxid

def get? (draft : Draft) (path : Path) : Option Node :=
  draft.nodes[path]?

def contains (draft : Draft) (path : Path) : Bool :=
  (draft.get? path).isSome

/-- Put a node at a path, in place of any other. -/
def insert (draft : Draft) (path : Path) (node : Node) : Draft :=
  { draft with nodes := draft.nodes.insert path node }

/-- Take away the node at a path. -/
def erase (draft : Draft) (path : Path) : Draft :=
  { draft with nodes := draft.nodes.erase path }

/-- Change the node at a path, if there is one. -/
def modify (draft : Draft) (path : Path) (change : Node → Node) : Draft :=
  { draft with nodes := draft.nodes.modify path change }

/-- The draft with a new node, which its parent names. -/
def withCreated (draft : Draft) (parent path : Path) (data : Payload) : Draft :=
  (draft.modify parent fun above => above.addChild path.name draft.zxid).insert path
    (.new data draft.zxid)

/-- The draft without a node, which its parent names no more. -/
def withDeleted (draft : Draft) (parent path : Path) : Draft :=
  (draft.modify parent fun above => above.withoutChild path.name draft.zxid).erase path

/-- Make a node below one that exists, at a path that is free. -/
def create? (draft : Draft) (path : Path) (data : Payload) : Option Draft :=
  match path.parent? with
  | none => none
  | some parent =>
      if draft.contains path || !draft.contains parent then
        none
      else
        some (draft.withCreated parent path data)

/-- Take away a node without children from below one that exists. -/
def delete? (draft : Draft) (path : Path) : Option Draft :=
  match path.parent?, draft.get? path with
  | some parent, some node =>
      if node.hasChildren || !draft.contains parent then
        none
      else
        some (draft.withDeleted parent path)
  | _, _ => none

/-- Replace the data of a node, and say what its record is then. -/
def setData? (draft : Draft) (path : Path) (data : Payload) : Option (Draft × Stat) :=
  (draft.get? path).map fun node =>
    let changed := node.setData data draft.zxid
    (draft.insert path changed, changed.stat)

/-- A call and its answer.  One that is refused changes nothing. -/
def call (draft : Draft) : Edit → Draft × Edit.Answer
  | .create path data =>
      match draft.create? path data with
      | some changed => (changed, .done)
      | none => (draft, .refused)
  | .delete path =>
      match draft.delete? path with
      | some changed => (changed, .done)
      | none => (draft, .refused)
  | .setData path data =>
      match draft.setData? path data with
      | some (changed, stat) => (changed, .dataSet stat)
      | none => (draft, .refused)

/-- Calls one after the other, with their answers. -/
def callAll (draft : Draft) : List Edit → Draft × List Edit.Answer
  | [] => (draft, [])
  | edit :: rest =>
      let called := draft.call edit
      let others := called.1.callAll rest
      (others.1, called.2 :: others.2)

section Lookup

variable (draft : Draft) (path : Path)

theorem get?_ofTree (tree : Tree) : (ofTree tree).get? = tree.get? := rfl

theorem get?_insert (node : Node) :
    (draft.insert path node).get? = Function.update draft.get? path (some node) := by
  funext other
  simp [get?, insert, Std.ExtTreeMap.getElem?_insert, Function.update_apply, @eq_comm _ other]

theorem get?_erase : (draft.erase path).get? = Function.update draft.get? path none := by
  funext other
  simp [get?, erase, Std.ExtTreeMap.getElem?_erase, Function.update_apply, @eq_comm _ other]

theorem get?_modify {path : Path} {node : Node} (found : draft.get? path = some node)
    (change : Node → Node) :
    (draft.modify path change).get? = Function.update draft.get? path (some (change node)) := by
  funext other
  rw [get?] at found
  simp [get?, modify, Std.ExtTreeMap.getElem?_modify, Function.update_apply, @eq_comm _ other,
    found]

end Lookup

section Calls

variable {draft : Draft} {parent path : Path} {segment : Segment} {above node : Node}
  {data : Payload} {edit : Edit} {after : View}

theorem get?_withCreated (found : draft.get? parent = some above) :
    (draft.withCreated parent (parent.extend segment) data).get? =
      View.withCreated draft.get? draft.zxid parent segment above data := by
  rw [withCreated, get?_insert, get?_modify draft found, Path.name_extend, View.withCreated]

theorem get?_withDeleted (found : draft.get? parent = some above) :
    (draft.withDeleted parent (parent.extend segment)).get? =
      View.withDeleted draft.get? draft.zxid parent segment above := by
  rw [withDeleted, get?_erase, get?_modify draft found, Path.name_extend, View.withDeleted]

/-- An edit that the view allows is made in place. -/
theorem call_of_step (step : View.Step draft.zxid draft.get? edit after) :
    ∃ changed : Draft, draft.call edit = (changed, edit.answer after) ∧
      changed.zxid = draft.zxid ∧ changed.get? = after := by
  cases step with
  | @create parent segment above data found free =>
      have made : draft.create? (parent.extend segment) data =
          some (draft.withCreated parent (parent.extend segment) data) := by
        simp [create?, contains, found, free]
      refine ⟨draft.withCreated parent (parent.extend segment) data, ?_, rfl,
        get?_withCreated found⟩
      rw [call, made, Edit.answer]
  | @delete parent segment above node found taken bare =>
      have made : draft.delete? (parent.extend segment) =
          some (draft.withDeleted parent (parent.extend segment)) := by
        simp [delete?, contains, found, taken, bare]
      refine ⟨draft.withDeleted parent (parent.extend segment), ?_, rfl, get?_withDeleted found⟩
      rw [call, made, Edit.answer]
  | @setData path node data taken =>
      have made : draft.setData? path data =
          some (draft.insert path (node.setData data draft.zxid),
            (node.setData data draft.zxid).stat) := by
        rw [setData?, taken, Option.map_some]
      refine ⟨draft.insert path (node.setData data draft.zxid), ?_, rfl,
        get?_insert draft path _⟩
      rw [call, made, Edit.answer, View.withData_self, Option.elim_some]

/-- An edit that the view does not allow is refused. -/
theorem call_of_no_step (stuck : ∀ after, ¬View.Step draft.zxid draft.get? edit after) :
    draft.call edit = (draft, .refused) := by
  cases edit with
  | create path data =>
      have refused : draft.create? path data = none := by
        cases isParent : path.parent? with
        | none => rw [create?, isParent]
        | some parent =>
            obtain ⟨segment, rfl⟩ := Path.parent?_eq_some_iff.1 isParent
            cases found : draft.get? parent with
            | none => simp [create?, isParent, contains, found]
            | some above =>
                cases free : draft.get? (parent.extend segment) with
                | none => exact absurd (.create found free) (stuck _)
                | some node => simp [create?, isParent, contains, free]
      rw [call, refused]
  | delete path =>
      have refused : draft.delete? path = none := by
        cases isParent : path.parent? with
        | none => rw [delete?, isParent]
        | some parent =>
            obtain ⟨segment, rfl⟩ := Path.parent?_eq_some_iff.1 isParent
            cases taken : draft.get? (parent.extend segment) with
            | none => simp [delete?, taken]
            | some node =>
                cases bare : node.hasChildren with
                | true => simp [delete?, taken, bare]
                | false =>
                    cases found : draft.get? parent with
                    | none => simp [delete?, isParent, taken, contains, found]
                    | some above => exact absurd (.delete found taken bare) (stuck _)
      rw [call, refused]
  | setData path data =>
      cases taken : draft.get? path with
      | none => rw [call, setData?, taken, Option.map_none]
      | some node => exact absurd (.setData taken) (stuck _)

end Calls

end Draft

namespace Overlay

/-- A call and its answer.  One that is refused stages nothing. -/
def call (overlay : Overlay) : Edit → Overlay × Edit.Answer
  | .create path data =>
      match overlay.stageCreate? path data with
      | some staged => (staged, .done)
      | none => (overlay, .refused)
  | .delete path =>
      match overlay.stageDelete? path with
      | some staged => (staged, .done)
      | none => (overlay, .refused)
  | .setData path data =>
      match overlay.stageSetData? path data with
      | some (staged, stat) => (staged, .dataSet stat)
      | none => (overlay, .refused)

/-- Calls one after the other, with their answers. -/
def callAll (overlay : Overlay) : List Edit → Overlay × List Edit.Answer
  | [] => (overlay, [])
  | edit :: rest =>
      let called := overlay.call edit
      let others := called.1.callAll rest
      (others.1, called.2 :: others.2)

variable {overlay staged : Overlay} {edit : Edit} {after : View} {path : Path}

theorem isStaged_stage (overlay : Overlay) (path other : Path) (image : Image) :
    (overlay.stage path image).isStaged other = true ↔
      other = path ∨ overlay.isStaged other = true := by
  simp [isStaged, stage, Std.ExtTreeMap.contains_insert, @eq_comm _ path]

@[simp] theorem isStaged_record (overlay : Overlay) (change : Change) (path : Path) :
    (overlay.record change).isStaged path = overlay.isStaged path := rfl

/-- What is not staged is read from the tree. -/
theorem get?_of_not_isStaged (untouched : overlay.isStaged path = false) :
    overlay.get? path = overlay.base.get? path := by
  rw [get?, Std.ExtTreeMap.getElem?_eq_none_of_contains_eq_false untouched]

/-- A call that is answered by more than a refusal. -/
structure Answers (overlay : Overlay) (edit : Edit) (staged : Overlay) : Prop where
  call_eq : overlay.call edit = (staged, edit.answer staged.get?)
  stages : overlay.Stages edit staged
  isStaged_iff : ∀ path, staged.isStaged path = true ↔
    edit.Touches path ∨ overlay.isStaged path = true

/-- An edit that the view allows is staged. -/
theorem answers_of_step (step : View.Step overlay.zxid overlay.get? edit after) :
    ∃ staged, overlay.Answers edit staged ∧ staged.get? = after := by
  cases step with
  | @create parent segment above data found free =>
      refine ⟨_, ⟨?_, stages_withCreated found free, ?_⟩, get?_withCreated⟩
      · rw [call, stageCreate?_extend found free, Edit.answer]
      · intro path
        simp [withCreated, isStaged_stage, Edit.Touches, @eq_comm _ parent, or_assoc]
  | @delete parent segment above node found taken bare =>
      refine ⟨_, ⟨?_, stages_withDeleted found taken bare, ?_⟩, get?_withDeleted⟩
      · rw [call, stageDelete?_extend found taken bare, Edit.answer]
      · intro path
        simp [withDeleted, isStaged_stage, Edit.Touches, @eq_comm _ parent, or_assoc]
  | @setData path node data taken =>
      refine ⟨_, ⟨?_, stages_withData taken, ?_⟩, get?_withData⟩
      · rw [call, stageSetData?_of_taken taken, Edit.answer, get?_withData, View.withData_self,
          Option.elim_some]
      · intro other
        simp [withData, isStaged_stage, Edit.Touches]

/-- An edit that the view does not allow is refused. -/
theorem call_of_no_step (stuck : ∀ after, ¬View.Step overlay.zxid overlay.get? edit after) :
    overlay.call edit = (overlay, .refused) := by
  cases edit with
  | create path data =>
      cases success : overlay.stageCreate? path data with
      | none => rw [call, success]
      | some staged => exact absurd (stages_of_stageCreate? success).step (stuck _)
  | delete path =>
      cases success : overlay.stageDelete? path with
      | none => rw [call, success]
      | some staged => exact absurd (stages_of_stageDelete? success).step (stuck _)
  | setData path data =>
      cases success : overlay.stageSetData? path data with
      | none => rw [call, success]
      | some answered => exact absurd (stages_of_stageSetData? success).step (stuck _)

/-- A call is answered and staged, or refused. -/
theorem answers_or_refused (overlay : Overlay) (edit : Edit) :
    (∃ staged, overlay.Answers edit staged) ∨ overlay.call edit = (overlay, .refused) := by
  by_cases allowed : ∃ after, View.Step overlay.zxid overlay.get? edit after
  · obtain ⟨after, step⟩ := allowed
    obtain ⟨staged, answers, -⟩ := answers_of_step step
    exact .inl ⟨staged, answers⟩
  · exact .inr (call_of_no_step (not_exists.1 allowed))

/-- What is staged and logged on top of `overlay` is the work of those calls that were not
refused. -/
structure StagedBy (overlay : Overlay) (edits : List Edit) (answers : List Edit.Answer)
    (staged : Overlay) : Prop where
  base_eq : staged.base = overlay.base
  log_eq : staged.log = overlay.log ++
    (edits.zip answers).filterMap fun called => called.1.logged? called.2
  isStaged_iff : ∀ path, staged.isStaged path = true ↔
    (∃ called ∈ edits.zip answers, called.2 ≠ .refused ∧ called.1.Touches path) ∨
      overlay.isStaged path = true

theorem stagedBy_callAll (overlay : Overlay) (edits : List Edit) :
    overlay.StagedBy edits (overlay.callAll edits).2 (overlay.callAll edits).1 := by
  induction edits generalizing overlay with
  | nil => exact ⟨rfl, (List.append_nil _).symm, by simp [callAll]⟩
  | cons edit rest ih =>
      rw [callAll]
      rcases overlay.answers_or_refused edit with ⟨staged, called, stages, touched⟩ | refused
      · have others := ih staged
        rw [called]
        constructor
        · exact others.base_eq.trans stages.base_eq
        · simp [others.log_eq, stages.log_eq, Edit.logged?_answer]
        · intro path
          simp [others.isStaged_iff, touched, edit.answer_ne_refused, or_assoc, or_left_comm]
      · have others := ih overlay
        rw [refused]
        constructor
        · exact others.base_eq
        · simp [others.log_eq]
        · intro path
          simp [others.isStaged_iff]

/-- The overlay reads as the draft, and both write the same number. -/
structure Mirrors (overlay : Overlay) (draft : Draft) : Prop where
  zxid_eq : overlay.zxid = draft.zxid
  get?_eq : overlay.get? = draft.get?

theorem mirrors_ofTree (base : Tree) : (ofTree base).Mirrors (.ofTree base) where
  zxid_eq := rfl
  get?_eq := Tree.get?_ofTree_eq

/-- A call is answered alike, and afterwards both read alike again. -/
theorem Mirrors.call {draft : Draft} (mirrors : overlay.Mirrors draft) (edit : Edit) :
    (overlay.call edit).2 = (draft.call edit).2 ∧
      (overlay.call edit).1.Mirrors (draft.call edit).1 := by
  obtain ⟨sameNumber, sameReading⟩ := mirrors
  by_cases allowed : ∃ after, View.Step overlay.zxid overlay.get? edit after
  · obtain ⟨after, step⟩ := allowed
    have stepToo : View.Step draft.zxid draft.get? edit after := by
      rwa [← sameNumber, ← sameReading]
    obtain ⟨staged, answers, shows⟩ := answers_of_step step
    obtain ⟨changed, called, number, showsToo⟩ := Draft.call_of_step stepToo
    rw [answers.call_eq, called, shows]
    refine ⟨rfl, ?_, shows.trans showsToo.symm⟩
    rw [answers.stages.zxid_eq, sameNumber, number]
  · have stuck := not_exists.1 allowed
    have stuckToo : ∀ after, ¬View.Step draft.zxid draft.get? edit after := by
      rwa [← sameNumber, ← sameReading]
    rw [call_of_no_step stuck, Draft.call_of_no_step stuckToo]
    exact ⟨rfl, sameNumber, sameReading⟩

theorem Mirrors.callAll {draft : Draft} (mirrors : overlay.Mirrors draft) (edits : List Edit) :
    (overlay.callAll edits).2 = (draft.callAll edits).2 ∧
      (overlay.callAll edits).1.Mirrors (draft.callAll edits).1 := by
  induction edits generalizing overlay draft with
  | nil => exact ⟨rfl, mirrors⟩
  | cons edit rest ih =>
      obtain ⟨sameAnswer, mirrored⟩ := mirrors.call edit
      obtain ⟨sameAnswers, others⟩ := ih mirrored
      exact ⟨congrArg₂ List.cons sameAnswer sameAnswers, others⟩

end Overlay

namespace Tree

/-- What calls come to on top of the tree. -/
def staged (tree : Tree) (edits : List Edit) : Overlay × List Edit.Answer :=
  (Overlay.ofTree tree).callAll edits

/-- What calls come to in place, on a copy of the tree. -/
def drafted (tree : Tree) (edits : List Edit) : Draft × List Edit.Answer :=
  (Draft.ofTree tree).callAll edits

/-- Nobody can tell whether calls are staged on top of the tree or made on a copy of it. -/
structure AgreesInPlace (tree : Tree) (edits : List Edit) : Prop where
  answers_eq : (tree.staged edits).2 = (tree.drafted edits).2
  get?_eq : ∀ path, (tree.staged edits).1.get? path = (tree.drafted edits).1.get? path
  contains_eq : ∀ path, (tree.staged edits).1.contains path = (tree.drafted edits).1.contains path
  /-- Only what a call touches is staged, and not if the call is refused. -/
  isStaged_iff : ∀ path, (tree.staged edits).1.isStaged path = true ↔
    ∃ called ∈ edits.zip (tree.staged edits).2, called.2 ≠ .refused ∧ called.1.Touches path
  get?_of_not_isStaged : ∀ path, (tree.staged edits).1.isStaged path = false →
    (tree.staged edits).1.get? path = tree.get? path
  /-- The log lists the calls that are not refused, in order. -/
  log_eq : (tree.staged edits).1.log =
    (edits.zip (tree.staged edits).2).filterMap fun called => called.1.logged? called.2
  /-- If the store takes the set, the tree is what the overlay has shown. -/
  installed : ∀ after, tree.install (tree.staged edits).1.toChangeSet = .ok after →
    (∀ path, after.get? path = (tree.staged edits).1.get? path) ∧ after.zxid = tree.zxid + 1 ∧
      (tree.staged edits).1.toChangeSet.log = (tree.staged edits).1.log ∧
      after = (tree.drafted edits).1.toTree

/-- On every tree, consistent or not, all calls agree with what they are in place.  Since the
list of calls is any, so does each of them on the way. -/
theorem agrees_in_place (tree : Tree) (edits : List Edit) : tree.AgreesInPlace edits := by
  obtain ⟨sameAnswers, number, reading⟩ := (Overlay.mirrors_ofTree tree).callAll edits
  have staged := (Overlay.ofTree tree).stagedBy_callAll edits
  have same : ∀ path, (tree.staged edits).1.get? path = (tree.drafted edits).1.get? path :=
    congrFun reading
  have base : (tree.staged edits).1.base = tree := staged.base_eq
  constructor
  case answers_eq => exact sameAnswers
  case get?_eq => exact same
  case contains_eq =>
    intro path
    rw [Overlay.contains, Draft.contains, same]
  case isStaged_iff =>
    intro path
    refine (staged.isStaged_iff path).trans (or_iff_left ?_)
    simp [Overlay.isStaged, Overlay.ofTree]
  case get?_of_not_isStaged =>
    intro path untouched
    rw [Overlay.get?_of_not_isStaged untouched, base]
  case log_eq => exact staged.log_eq
  case installed =>
    intro after success
    have isAfter := install_eq_ok success
    have shows : after.get? = (tree.staged edits).1.get? := by
      rw [isAfter, ← Overlay.get?_apply_toChangeSet, base]
    have next : (tree.staged edits).1.zxid = tree.zxid + 1 :=
      congrArg (fun tree => tree.zxid + 1) base
    have numbered : after.zxid = (tree.staged edits).1.zxid := by
      rw [isAfter]
      rfl
    refine ⟨congrFun shows, numbered.trans next, rfl, Tree.ext ?_ (numbered.trans number)⟩
    exact Std.ExtTreeMap.ext_getElem? (congrFun (shows.trans reading))

end Tree

end BatchTree
