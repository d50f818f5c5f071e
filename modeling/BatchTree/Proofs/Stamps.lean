import BatchTree.Proofs.Refinement
import BatchTree.Proofs.Touch

/-!
# Apart from the numbers of batches

The records of nodes bear the numbers of the batches that wrote them.  Nothing that is
decided depends on these stamps, nor on more than the few nodes that an operation reads
(`Overlay.Reads`).  Two overlays that show the same there but for the stamps judge the
operation alike, and they still show the same there afterwards (`Overlay.validate_alikeOn`);
so it is with whole batches (`Overlay.validateAll_alikeOn`).
-/

namespace BatchTree

/-- A record without the numbers of batches. -/
def Stat.unstamped (stat : Stat) : Stat :=
  { stat with czxid := 0, mzxid := 0, pzxid := 0 }

/-- A node without the numbers of batches. -/
def Node.unstamped (node : Node) : Node :=
  { node with stat := node.stat.unstamped }

/-- A reply without the numbers of batches. -/
def Reply.unstamped : Reply → Reply
  | .dataSet stat => .dataSet stat.unstamped
  | reply => reply

/-- A view without the numbers of batches. -/
def View.unstamped (view : View) : View :=
  fun path => (view path).map Node.unstamped

/-- The two views show the same nodes at the same paths, apart from the numbers of batches. -/
def View.Alike (left right : View) : Prop :=
  left.unstamped = right.unstamped

/-- The two views show the same nodes at the given paths, apart from the numbers of batches. -/
def View.AlikeOn (paths : Set Path) (left right : View) : Prop :=
  Set.EqOn left.unstamped right.unstamped paths

namespace Node

variable {node : Node} {name : String} {now : Zxid} {data : Payload}

/-! Without stamps a node goes through a change as if batch zero made it. -/

theorem unstamped_new : (new data now).unstamped = new data 0 := rfl

theorem unstamped_setData : (node.setData data now).unstamped = node.unstamped.setData data 0 := rfl

theorem unstamped_addChild :
    (node.addChild name now).unstamped = node.unstamped.addChild name 0 := rfl

theorem unstamped_withoutChild :
    (node.withoutChild name now).unstamped = node.unstamped.withoutChild name 0 := by
  by_cases present : name ∈ node.children
  · have presentToo : name ∈ node.unstamped.children := present
    rw [withoutChild_of_mem present, withoutChild_of_mem presentToo]
    rfl
  · have missingToo : name ∉ node.unstamped.children := present
    rw [withoutChild_of_notMem present, withoutChild_of_notMem missingToo]

end Node

namespace View

variable {view left right after other : View} {now later : Zxid} {path : Path} {node : Node}
  {edit : Edit} {paths : Set Path}

theorem unstamped_of_some (found : view path = some node) :
    view.unstamped path = some node.unstamped := by
  rw [unstamped, found, Option.map_some]

theorem unstamped_of_none (missing : view path = none) : view.unstamped path = none := by
  rw [unstamped, missing, Option.map_none]

theorem unstamped_update (value : Option Node) :
    View.unstamped (Function.update view path value) =
      Function.update view.unstamped path (value.map Node.unstamped) := by
  funext other
  by_cases same : other = path
  · subst same
    rw [unstamped, Function.update_self, Function.update_self]
  · rw [unstamped, Function.update_of_ne same, Function.update_of_ne same, unstamped]

/-- Without stamps an edit does what batch zero would do by it. -/
theorem Step.unstamped (step : Step now view edit after) :
    Step 0 view.unstamped edit after.unstamped := by
  cases step with
  | @create parent segment above data found free =>
      have same : (view.withCreated now parent segment above data).unstamped =
          view.unstamped.withCreated 0 parent segment above.unstamped data := by
        rw [withCreated, unstamped_update, unstamped_update, Option.map_some, Option.map_some,
          Node.unstamped_addChild, Node.unstamped_new, withCreated]
      rw [same]
      exact .create (unstamped_of_some found) (unstamped_of_none free)
  | @delete parent segment above node found taken bare =>
      have same : (view.withDeleted now parent segment above).unstamped =
          view.unstamped.withDeleted 0 parent segment above.unstamped := by
        rw [withDeleted, unstamped_update, unstamped_update, Option.map_some,
          Node.unstamped_withoutChild, Option.map_none, withDeleted]
      rw [same]
      exact .delete (unstamped_of_some found) (unstamped_of_some taken) bare
  | @setData path node data taken =>
      have same : (view.withData now path node data).unstamped =
          view.unstamped.withData 0 path node.unstamped data := by
        rw [withData, unstamped_update, Option.map_some, Node.unstamped_setData, withData]
      rw [same]
      exact .setData (unstamped_of_some taken)

/-- The same edit makes the same of what it touches. -/
theorem Step.eqOn (step : Step now left edit after) (stepToo : Step now right edit other)
    (within : ∀ path, edit.Touches path → path ∈ paths) (same : Set.EqOn left right paths) :
    Set.EqOn after other paths := by
  generalize again : edit = edited at stepToo
  cases step with
  | @create parent segment above data found free =>
      cases stepToo with
      | create foundToo freeToo =>
          rw [Edit.create.injEq, Path.extend_inj] at again
          obtain ⟨⟨rfl, rfl⟩, rfl⟩ := again
          have parentMem := within parent (.inr (Path.parent?_extend parent segment))
          rw [← same parentMem, found, Option.some.injEq] at foundToo
          subst foundToo
          intro path mem
          simp only [withCreated, Function.update_apply, same mem]
      | delete => cases again
      | setData => cases again
  | @delete parent segment above node found taken bare =>
      cases stepToo with
      | create => cases again
      | delete foundToo takenToo bareToo =>
          rw [Edit.delete.injEq, Path.extend_inj] at again
          obtain ⟨rfl, rfl⟩ := again
          have parentMem := within parent (.inr (Path.parent?_extend parent segment))
          rw [← same parentMem, found, Option.some.injEq] at foundToo
          subst foundToo
          intro path mem
          simp only [withDeleted, Function.update_apply, same mem]
      | setData => cases again
  | @setData target node data taken =>
      cases stepToo with
      | create => cases again
      | delete => cases again
      | setData takenToo =>
          rw [Edit.setData.injEq] at again
          obtain ⟨rfl, rfl⟩ := again
          rw [← same (within target rfl), taken, Option.some.injEq] at takenToo
          subst takenToo
          intro path mem
          simp only [withData, Function.update_apply, same mem]

namespace Alike

theorem refl (view : View) : view.Alike view := rfl

theorem trans {third : View} (first : left.Alike right) (second : right.Alike third) :
    left.Alike third :=
  Eq.trans first second

end Alike

theorem alikeOn_univ_iff : AlikeOn Set.univ left right ↔ left.Alike right :=
  ⟨fun same => funext fun path => same (Set.mem_univ path), fun same path _ => congrFun same path⟩

namespace AlikeOn

theorem step (alike : AlikeOn paths left right) (step : Step now left edit after)
    (stepToo : Step later right edit other)
    (within : ∀ path, edit.Touches path → path ∈ paths) : AlikeOn paths after other :=
  step.unstamped.eqOn stepToo.unstamped within alike

/-- At one of the paths both views show nothing, or both show a node. -/
theorem lookup (alike : AlikeOn paths left right) (mem : path ∈ paths) :
    (left path = none ∧ right path = none) ∨
      ∃ node twin, left path = some node ∧ right path = some twin ∧
        node.unstamped = twin.unstamped := by
  have same := alike mem
  rw [unstamped, unstamped] at same
  cases found : left path with
  | none =>
      rw [found, Option.map_none, eq_comm, Option.map_eq_none_iff] at same
      exact .inl ⟨rfl, same⟩
  | some node =>
      rw [found, Option.map_some, eq_comm, Option.map_eq_some_iff] at same
      obtain ⟨twin, foundToo, isTwin⟩ := same
      exact .inr ⟨node, twin, rfl, foundToo, isTwin.symm⟩

end AlikeOn

end View

namespace Overlay

/-- Two overlays with changes staged at the given paths only, where they end alike. -/
structure MoveAlike (paths : Set Path) (left right one two : Overlay) : Prop where
  alike : View.AlikeOn paths one.get? two.get?
  left_spared : ∀ path ∉ paths, one.get? path = left.get? path
  right_spared : ∀ path ∉ paths, two.get? path = right.get? path

/-- The path is one of those that decide what becomes of the operation. -/
def Reads (overlay : Overlay) : Operation → Path → Prop
  | .create text _ mode, path =>
      ∃ requested parent, requestedPath text mode = .ok requested ∧
        requested.parent? = some parent ∧
          (path = parent ∨ ∃ above, overlay.get? parent = some above ∧
            targetPath text mode requested above = .ok path)
  | .delete text _, path =>
      ∃ target, Path.parse text = .ok target ∧ (path = target ∨ target.parent? = some path)
  | .setData text _ _, path => Path.parse text = .ok path
  | .check text _, path => Path.parse text = .ok path

/-- While the batch is judged, its operations read nothing but the given paths. -/
def ReadsWithin (limits : Limits) (paths : Set Path) (overlay : Overlay) : Batch → Prop
  | [] => True
  | operation :: rest =>
      (∀ path, overlay.Reads operation path → path ∈ paths) ∧
        ∀ staged reply, overlay.validate limits operation = .ok (staged, reply) →
          staged.ReadsWithin limits paths rest

theorem readsWithin_univ (limits : Limits) (overlay : Overlay) (batch : Batch) :
    overlay.ReadsWithin limits Set.univ batch := by
  induction batch generalizing overlay with
  | nil => trivial
  | cons operation rest ih => exact ⟨fun path _ => Set.mem_univ path, fun staged _ _ => ih staged⟩

section Judged

variable {paths : Set Path} {left right one two : Overlay} {limits : Limits} {text : String}
  {data : Payload} {version : Version}

theorem MoveAlike.refl (alike : View.AlikeOn paths left.get? right.get?) :
    MoveAlike paths left right left right :=
  ⟨alike, fun _ _ => rfl, fun _ _ => rfl⟩

theorem MoveAlike.trans {three four : Overlay} (first : MoveAlike paths left right one two)
    (second : MoveAlike paths one two three four) : MoveAlike paths left right three four where
  alike := second.alike
  left_spared path outside := (second.left_spared path outside).trans
    (first.left_spared path outside)
  right_spared path outside := (second.right_spared path outside).trans
    (first.right_spared path outside)

/-- Both stage an edit that touches nothing else. -/
theorem MoveAlike.of_stages {edit : Edit} (alike : View.AlikeOn paths left.get? right.get?)
    (stages : left.Stages edit one) (stagesToo : right.Stages edit two)
    (within : ∀ path, edit.Touches path → path ∈ paths) : MoveAlike paths left right one two where
  alike := alike.step stages.step stagesToo.step within
  left_spared path outside := stages.step.eq_of_not_touches (mt (within path) outside)
  right_spared path outside := stagesToo.step.eq_of_not_touches (mt (within path) outside)

/-- Alike parents complete a stem alike. -/
theorem targetPath_of_unstamped {mode : CreateMode} {requested : Path} {above twin : Node}
    (same : above.unstamped = twin.unstamped) :
    targetPath text mode requested above = targetPath text mode requested twin := by
  cases mode with
  | persistent => rfl
  | sequential =>
      have counters : above.stat.cversion = twin.stat.cversion :=
        congrArg (fun node => node.stat.cversion) same
      rw [targetPath, targetPath, counters]

/-- The judgements on an operation: the same code, or the same reply and the same change. -/
abbrev JudgeAlike (paths : Set Path) (left right : Overlay) : Verdict → Verdict → Prop :=
  Flat.EndsAlike fun one two =>
    MoveAlike paths left right one.1 two.1 ∧ one.2.unstamped = two.2.unstamped

theorem expectNode_alikeOn (alike : View.AlikeOn paths left.get? right.get?) {path : Path}
    (mem : path ∈ paths) (version : Version) :
    Flat.EndsAlike
      (fun node twin => left.get? path = some node ∧ right.get? path = some twin ∧
        node.unstamped = twin.unstamped)
      (left.expectNode path version) (right.expectNode path version) := by
  rw [expectNode, expectNode]
  rcases alike.lookup mem with ⟨missing, missingToo⟩ | ⟨node, twin, found, foundToo, same⟩
  · rw [missing, missingToo]
    exact .error _
  · have versions : node.version = twin.version := congrArg (fun node => node.stat.version) same
    rw [found, foundToo]
    dsimp only
    rw [versions]
    split
    · exact .ok ⟨rfl, rfl, same⟩
    · exact .error _

theorem create_alikeOn (alike : View.AlikeOn paths left.get? right.get?) {mode : CreateMode}
    (reads : ∀ path, left.Reads (.create text data mode) path → path ∈ paths) :
    JudgeAlike paths left right (left.create limits text data mode)
      (right.create limits text data mode) := by
  rw [create, create]
  by_cases large : limits.maxDataLength < data.size
  · rw [if_pos large, if_pos large]
    exact .error _
  · rw [if_neg large, if_neg large]
    cases isRequested : requestedPath text mode with
    | error status => exact .error _
    | ok requested =>
        dsimp only
        cases isParent : requested.parent? with
        | none => exact .error _
        | some parent =>
            dsimp only
            have parentMem : parent ∈ paths :=
              reads parent ⟨requested, parent, isRequested, isParent, .inl rfl⟩
            rcases alike.lookup parentMem with
              ⟨missing, missingToo⟩ | ⟨above, twin, found, foundToo, same⟩
            · rw [missing, missingToo]
              exact .error _
            · obtain ⟨segment, isTarget⟩ := exists_targetPath isRequested isParent above
              have isTargetToo : targetPath text mode requested twin =
                  .ok (parent.extend segment) := (targetPath_of_unstamped same).symm.trans isTarget
              have targetMem : parent.extend segment ∈ paths :=
                reads _ ⟨requested, parent, isRequested, isParent, .inr ⟨above, found, isTarget⟩⟩
              rw [found, foundToo]
              dsimp only
              rw [isTarget, isTargetToo]
              dsimp only
              rcases alike.lookup targetMem with
                ⟨free, freeToo⟩ | ⟨taken, takenToo, found, foundToo, -⟩
              · rw [contains_eq_false_iff.2 free, contains_eq_false_iff.2 freeToo,
                  stageCreate?_extend found free, stageCreate?_extend foundToo freeToo]
                refine .ok ⟨.of_stages alike (stages_withCreated found free)
                  (stages_withCreated foundToo freeToo) ?_, rfl⟩
                exact Edit.forall_touches_create.2 ⟨targetMem, parentMem⟩
              · simp only [contains, found, foundToo, Option.isSome_some, if_true]
                exact .error _

theorem delete_alikeOn (alike : View.AlikeOn paths left.get? right.get?)
    (reads : ∀ path, left.Reads (.delete text version) path → path ∈ paths) :
    JudgeAlike paths left right (left.delete text version) (right.delete text version) := by
  rw [delete, delete]
  cases isTarget : readPath text with
  | error status => exact .error _
  | ok target =>
      have read := readPath_eq_ok_iff.1 isTarget
      have targetMem : target ∈ paths := reads target ⟨target, read, .inl rfl⟩
      dsimp only
      rcases Path.eq_root_or_extend target with rfl | ⟨parent, segment, rfl⟩
      · exact .error _
      · have parentMem : parent ∈ paths :=
          reads parent ⟨_, read, .inr (Path.parent?_extend parent segment)⟩
        rw [Path.isRoot_extend]
        have expected := expectNode_alikeOn alike targetMem version
        generalize left.expectNode (parent.extend segment) version = first at expected
        generalize right.expectNode (parent.extend segment) version = second at expected
        cases expected with
        | error status => exact .error _
        | @ok node twin holds =>
            obtain ⟨taken, takenToo, same⟩ := holds
            have childless : node.hasChildren = twin.hasChildren :=
              congrArg (fun node => node.hasChildren) same
            dsimp only
            cases bare : node.hasChildren with
            | true =>
                rw [← childless, bare]
                exact .error _
            | false =>
                have bareToo : twin.hasChildren = false := childless ▸ bare
                rw [bareToo]
                rcases alike.lookup parentMem with
                  ⟨missing, missingToo⟩ | ⟨above, aboveToo, found, foundToo, -⟩
                · simp only [stageDelete?, Path.parent?_extend, taken, takenToo, bare, bareToo,
                    update?, missing, missingToo, Option.map_none]
                  exact .error _
                · rw [stageDelete?_extend found taken bare,
                    stageDelete?_extend foundToo takenToo bareToo]
                  refine .ok ⟨.of_stages alike (stages_withDeleted found taken bare)
                    (stages_withDeleted foundToo takenToo bareToo) ?_, rfl⟩
                  exact Edit.forall_touches_delete.2 ⟨targetMem, parentMem⟩

theorem setData_alikeOn (alike : View.AlikeOn paths left.get? right.get?)
    (reads : ∀ path, left.Reads (.setData text data version) path → path ∈ paths) :
    JudgeAlike paths left right (left.setData limits text data version)
      (right.setData limits text data version) := by
  rw [setData, setData]
  by_cases large : limits.maxDataLength < data.size
  · rw [if_pos large, if_pos large]
    exact .error _
  · rw [if_neg large, if_neg large]
    cases isTarget : readPath text with
    | error status => exact .error _
    | ok target =>
        have targetMem : target ∈ paths := reads target (readPath_eq_ok_iff.1 isTarget)
        have expected := expectNode_alikeOn alike targetMem version
        dsimp only
        generalize left.expectNode target version = first at expected
        generalize right.expectNode target version = second at expected
        cases expected with
        | error status => exact .error _
        | @ok node twin holds =>
            obtain ⟨taken, takenToo, same⟩ := holds
            dsimp only
            rw [stageSetData?_of_taken taken, stageSetData?_of_taken takenToo]
            refine .ok ⟨.of_stages alike (stages_withData taken) (stages_withData takenToo) ?_, ?_⟩
            · rintro path rfl
              exact targetMem
            · exact congrArg (fun node => Reply.dataSet (node.setData data 0).stat) same

theorem check_alikeOn (alike : View.AlikeOn paths left.get? right.get?)
    (reads : ∀ path, left.Reads (.check text version) path → path ∈ paths) :
    JudgeAlike paths left right (left.check text version) (right.check text version) := by
  rw [check, check]
  cases isTarget : readPath text with
  | error status => exact .error _
  | ok target =>
      have targetMem : target ∈ paths := reads target (readPath_eq_ok_iff.1 isTarget)
      have expected := expectNode_alikeOn alike targetMem version
      dsimp only
      generalize left.expectNode target version = first at expected
      generalize right.expectNode target version = second at expected
      cases expected with
      | error status => exact .error _
      | ok holds => exact .ok ⟨.refl alike, rfl⟩

/-- Two overlays that are alike where an operation reads judge it alike. -/
theorem validate_alikeOn (limits : Limits) (alike : View.AlikeOn paths left.get? right.get?)
    {operation : Operation} (reads : ∀ path, left.Reads operation path → path ∈ paths) :
    JudgeAlike paths left right (left.validate limits operation)
      (right.validate limits operation) := by
  cases operation with
  | create text data mode => exact create_alikeOn alike reads
  | delete text version => exact delete_alikeOn alike reads
  | setData text data version => exact setData_alikeOn alike reads
  | check text version => exact check_alikeOn alike reads

/-- Two overlays that are alike where the operations of a batch read judge it alike. -/
theorem validateAll_alikeOn {batch : Batch} (alike : View.AlikeOn paths left.get? right.get?)
    (reads : left.ReadsWithin limits paths batch) (index : Nat) :
    Flat.EndsAlike
      (fun (one two : Overlay × List Reply) => MoveAlike paths left right one.1 two.1 ∧
        one.2.map Reply.unstamped = two.2.map Reply.unstamped)
      (left.validateAll limits index batch) (right.validateAll limits index batch) := by
  induction batch generalizing left right index with
  | nil => exact .ok ⟨.refl alike, rfl⟩
  | cons operation rest ih =>
      rw [validateAll, validateAll]
      have first := validate_alikeOn limits alike reads.1
      generalize passed : left.validate limits operation = one at first
      generalize right.validate limits operation = two at first
      cases first with
      | error => exact .error _
      | @ok one two holds =>
          have others := ih holds.1.alike (reads.2 one.1 one.2 passed) (index + 1)
          dsimp only
          generalize one.1.validateAll limits (index + 1) rest = oneAll at others
          generalize two.1.validateAll limits (index + 1) rest = twoAll at others
          cases others with
          | error => exact .error _
          | ok holdsAll =>
              refine .ok ⟨holds.1.trans holdsAll.1, ?_⟩
              rw [List.map_cons, List.map_cons, holds.2, holdsAll.2]

/-- Two overlays that are alike everywhere judge every batch alike. -/
theorem validateAll_alike (alike : View.Alike left.get? right.get?) (index : Nat) (batch : Batch) :
    Flat.EndsAlike
      (fun (one two : Overlay × List Reply) =>
        View.Alike one.1.get? two.1.get? ∧
          one.2.map Reply.unstamped = two.2.map Reply.unstamped)
      (left.validateAll limits index batch) (right.validateAll limits index batch) := by
  have judged := validateAll_alikeOn (View.alikeOn_univ_iff.2 alike)
    (readsWithin_univ limits left batch) index
  generalize left.validateAll limits index batch = one at judged
  generalize right.validateAll limits index batch = two at judged
  cases judged with
  | error failure => exact .error failure
  | ok holds => exact .ok ⟨View.alikeOn_univ_iff.1 holds.1.alike, holds.2⟩

end Judged

end Overlay

end BatchTree
