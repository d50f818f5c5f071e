import BatchTree.Batch.Execute
import BatchTree.Proofs.View

/-!
# Staging

An edit that is staged changes the view of an overlay as `View.Step` says, adds one
change to the log and leaves the tree underneath alone; an edit that is not staged
leaves the overlay as it is.  Everything proved of overlays goes through `Stages`.
-/

namespace BatchTree

namespace Overlay

/-- Stage an edit. -/
def edit? (overlay : Overlay) : Edit → Option Overlay
  | .create path data => overlay.stageCreate? path data
  | .delete path => overlay.stageDelete? path
  | .setData path data => (overlay.stageSetData? path data).map Prod.fst

/-- How an overlay with one more edit staged differs from the one before. -/
structure Stages (overlay : Overlay) (edit : Edit) (staged : Overlay) : Prop where
  base_eq : staged.base = overlay.base
  step : View.Step overlay.zxid overlay.get? edit staged.get?
  log_eq : staged.log = overlay.log ++ [edit.change staged.get?]

theorem Stages.zxid_eq {overlay staged : Overlay} {edit : Edit}
    (stages : overlay.Stages edit staged) : staged.zxid = overlay.zxid := by
  rw [zxid, stages.base_eq, zxid]

theorem get?_stage_eq_update (overlay : Overlay) (path : Path) (image : Image) :
    (overlay.stage path image).get? = Function.update overlay.get? path image := by
  funext other
  rw [get?_stage, Function.update_apply]
  simp only [eq_comm]

theorem get?_record_eq (overlay : Overlay) (change : Change) :
    (overlay.record change).get? = overlay.get? := rfl

theorem contains_eq_false_iff {overlay : Overlay} {path : Path} :
    overlay.contains path = false ↔ overlay.get? path = none := by
  rw [contains, ← Bool.not_eq_true, Option.not_isSome_iff_eq_none]

/-- The overlay with a new node staged below `parent`, where `above` stands. -/
def withCreated (overlay : Overlay) (parent : Path) (segment : Segment) (above : Node)
    (data : Payload) : Overlay :=
  ((overlay.stage parent (some (above.addChild segment.name overlay.zxid))).stage
    (parent.extend segment) (some (.new data overlay.zxid))).record
      (.create (parent.extend segment))

/-- The overlay with the removal of a node below `parent` staged. -/
def withDeleted (overlay : Overlay) (parent : Path) (segment : Segment) (above : Node) : Overlay :=
  ((overlay.stage parent (some (above.withoutChild segment.name overlay.zxid))).stage
    (parent.extend segment) none).record (.delete (parent.extend segment))

/-- The overlay with new data staged for the node that stands at `path`. -/
def withData (overlay : Overlay) (path : Path) (node : Node) (data : Payload) : Overlay :=
  (overlay.stage path (some (node.setData data overlay.zxid))).record
    (.setData path (node.setData data overlay.zxid).version)

section Edits

variable {overlay staged : Overlay} {parent path : Path} {segment : Segment} {above node : Node}
  {data : Payload}

theorem get?_withCreated :
    (overlay.withCreated parent segment above data).get? =
      View.withCreated overlay.get? overlay.zxid parent segment above data := by
  rw [withCreated, get?_record_eq, get?_stage_eq_update, get?_stage_eq_update, View.withCreated]

theorem get?_withDeleted :
    (overlay.withDeleted parent segment above).get? =
      View.withDeleted overlay.get? overlay.zxid parent segment above := by
  rw [withDeleted, get?_record_eq, get?_stage_eq_update, get?_stage_eq_update, View.withDeleted]

theorem get?_withData :
    (overlay.withData path node data).get? =
      View.withData overlay.get? overlay.zxid path node data := by
  rw [withData, get?_record_eq, get?_stage_eq_update, View.withData]

/-- A create is staged if the parent exists and the path is free. -/
theorem stageCreate?_extend (found : overlay.get? parent = some above)
    (free : overlay.get? (parent.extend segment) = none) :
    overlay.stageCreate? (parent.extend segment) data =
      some (overlay.withCreated parent segment above data) := by
  simp [stageCreate?, contains_eq_false_iff.2 free, update?, found, withCreated, zxid]

theorem stages_withCreated (found : overlay.get? parent = some above)
    (free : overlay.get? (parent.extend segment) = none) :
    overlay.Stages (.create (parent.extend segment) data)
      (overlay.withCreated parent segment above data) where
  base_eq := rfl
  step := get?_withCreated ▸ .create found free
  log_eq := rfl

theorem stages_of_stageCreate? (success : overlay.stageCreate? path data = some staged) :
    overlay.Stages (.create path data) staged := by
  cases isParent : path.parent? with
  | none => simp [stageCreate?, isParent] at success
  | some parent =>
      obtain ⟨segment, rfl⟩ := Path.parent?_eq_some_iff.1 isParent
      cases free : overlay.get? (parent.extend segment) with
      | some node => simp [stageCreate?, contains, free] at success
      | none =>
          cases found : overlay.get? parent with
          | none => simp [stageCreate?, contains, free, update?, found] at success
          | some above =>
              rw [stageCreate?_extend found free, Option.some.injEq] at success
              rw [← success]
              exact stages_withCreated found free

/-- A delete is staged if the node and its parent exist and the node is bare. -/
theorem stageDelete?_extend (found : overlay.get? parent = some above)
    (taken : overlay.get? (parent.extend segment) = some node)
    (bare : node.hasChildren = false) :
    overlay.stageDelete? (parent.extend segment) =
      some (overlay.withDeleted parent segment above) := by
  simp [stageDelete?, taken, bare, update?, found, withDeleted, zxid]

theorem stages_withDeleted (found : overlay.get? parent = some above)
    (taken : overlay.get? (parent.extend segment) = some node)
    (bare : node.hasChildren = false) :
    overlay.Stages (.delete (parent.extend segment))
      (overlay.withDeleted parent segment above) where
  base_eq := rfl
  step := get?_withDeleted ▸ .delete found taken bare
  log_eq := rfl

theorem stages_of_stageDelete? (success : overlay.stageDelete? path = some staged) :
    overlay.Stages (.delete path) staged := by
  cases isParent : path.parent? with
  | none => simp [stageDelete?, isParent] at success
  | some parent =>
      obtain ⟨segment, rfl⟩ := Path.parent?_eq_some_iff.1 isParent
      cases taken : overlay.get? (parent.extend segment) with
      | none => simp [stageDelete?, taken] at success
      | some node =>
          cases bare : node.hasChildren with
          | true => simp [stageDelete?, taken, bare] at success
          | false =>
              cases found : overlay.get? parent with
              | none => simp [stageDelete?, taken, bare, update?, found] at success
              | some above =>
                  rw [stageDelete?_extend found taken bare, Option.some.injEq] at success
                  rw [← success]
                  exact stages_withDeleted found taken bare

/-- New data is staged if the node exists. -/
theorem stageSetData?_of_taken (taken : overlay.get? path = some node) :
    overlay.stageSetData? path data =
      some (overlay.withData path node data, (node.setData data overlay.zxid).stat) := by
  rw [stageSetData?, taken]
  rfl

theorem stages_withData (taken : overlay.get? path = some node) :
    overlay.Stages (.setData path data) (overlay.withData path node data) where
  base_eq := rfl
  step := get?_withData ▸ .setData taken
  log_eq := by
    rw [Edit.change, get?_withData, View.withData_self]
    rfl

theorem stages_of_stageSetData? {stat : Stat}
    (success : overlay.stageSetData? path data = some (staged, stat)) :
    overlay.Stages (.setData path data) staged := by
  cases taken : overlay.get? path with
  | none => simp [stageSetData?, taken] at success
  | some node =>
      rw [stageSetData?_of_taken taken, Option.some.injEq, Prod.mk.injEq] at success
      rw [← success.1]
      exact stages_withData taken

end Edits

/-- What staging an edit does, whatever the edit. -/
theorem stages_of_edit? {overlay staged : Overlay} {edit : Edit}
    (success : overlay.edit? edit = some staged) : overlay.Stages edit staged := by
  cases edit with
  | create path data => exact stages_of_stageCreate? success
  | delete path => exact stages_of_stageDelete? success
  | setData path data =>
      obtain ⟨⟨other, stat⟩, found, rfl⟩ := Option.map_eq_some_iff.1 success
      exact stages_of_stageSetData? found

end Overlay

end BatchTree
