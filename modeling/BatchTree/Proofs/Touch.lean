import BatchTree.Proofs.View

/-!
# What an edit does to one node

An edit makes one node, takes one away, or touches a few of those that stand.  Seen from
a single path there is little that can happen, and this module says all of it: a node
found after an edit is new, or it stood there before and was touched at most once.
-/

namespace BatchTree

/-- What an edit of batch `now` does to a node that outlasts it. -/
inductive Node.Touched (now : Zxid) (edit : Edit) : Node → Node → Prop where
  | untouched (node : Node) : Touched now edit node node
  | withData {node : Node} {data : Payload} (stored : edit.data? = some data) :
      Touched now edit node (node.setData data now)
  | withChild {node : Node} {name : String} (absent : name ∉ node.children) :
      Touched now edit node (node.addChild name now)
  | withoutChild {node : Node} {name : String} (present : name ∈ node.children) :
      Touched now edit node (node.withoutChild name now)

/-- The edit writes the node at a path: the one it is made for or, if that one comes or goes,
the parent that names it. -/
def Edit.Touches : Edit → Path → Prop
  | .create target _, path => path = target ∨ target.parent? = some path
  | .delete target, path => path = target ∨ target.parent? = some path
  | .setData target _, path => path = target

section Touches

variable {holds : Path → Prop} {parent : Path} {segment : Segment} {data : Payload}

theorem Edit.forall_touches_create :
    (∀ path, Edit.Touches (.create (parent.extend segment) data) path → holds path) ↔
      holds (parent.extend segment) ∧ holds parent := by
  simp [Edit.Touches, or_imp, forall_and]

theorem Edit.forall_touches_delete :
    (∀ path, Edit.Touches (.delete (parent.extend segment)) path → holds path) ↔
      holds (parent.extend segment) ∧ holds parent := by
  simp [Edit.Touches, or_imp, forall_and]

end Touches

namespace Node

variable {now : Zxid} {edit : Edit} {node after : Node} {name : String}

@[simp] theorem czxid_withoutChild : (node.withoutChild name now).stat.czxid = node.stat.czxid := by
  by_cases present : name ∈ node.children
  · rw [withoutChild_of_mem present]
    rfl
  · rw [withoutChild_of_notMem present]

theorem Touched.czxid_eq (touched : node.Touched now edit after) :
    after.stat.czxid = node.stat.czxid := by
  cases touched with
  | untouched => rfl
  | withData => rfl
  | withChild => rfl
  | withoutChild => exact czxid_withoutChild

/-- The stamp of the children is the old one or that of the batch. -/
theorem Touched.pzxid_eq (touched : node.Touched now edit after) :
    after.stat.pzxid = node.stat.pzxid ∨ after.stat.pzxid = now := by
  cases touched with
  | untouched => exact .inl rfl
  | withData => exact .inl rfl
  | withChild => exact .inr rfl
  | withoutChild present =>
      rw [withoutChild_of_mem present]
      exact .inr rfl

/-- The versions of a node never go back while it stands. -/
theorem Touched.version_le (touched : node.Touched now edit after) :
    node.version ≤ after.version := by
  cases touched with
  | untouched => exact Int.le_refl _
  | withData => exact Int.le_add_one (Int.le_refl _)
  | withChild => exact Int.le_refl _
  | withoutChild present =>
      rw [withoutChild_of_mem present]
      exact Int.le_refl _

/-- Nor does the count of changes to its children. -/
theorem Touched.cversion_le (touched : node.Touched now edit after) :
    node.stat.cversion ≤ after.stat.cversion := by
  cases touched with
  | untouched => exact Int.le_refl _
  | withData => exact Int.le_refl _
  | withChild => exact Int.le_add_one (Int.le_refl _)
  | withoutChild present =>
      rw [withoutChild_of_mem present]
      exact Int.le_add_one (Int.le_refl _)

/-- One edit counts as one change of the children at most. -/
theorem Touched.cversion_le_succ (touched : node.Touched now edit after) :
    after.stat.cversion ≤ node.stat.cversion + 1 := by
  cases touched with
  | untouched => exact Int.le_add_one (Int.le_refl _)
  | withData => exact Int.le_add_one (Int.le_refl _)
  | withChild => exact Int.le_refl _
  | withoutChild present =>
      rw [withoutChild_of_mem present]
      exact Int.le_refl _

end Node

namespace View

variable {now : Zxid} {view after : View} {edit : Edit} {path parent : Path} {segment : Segment}
  {node : Node} {data : Payload}

theorem Step.new_or_touched (step : Step now view edit after) (consistent : view.Consistent)
    (found : after path = some node) :
    (view path = none ∧ ∃ data, edit = .create path data ∧ node = .new data now) ∨
      ∃ before, view path = some before ∧ before.Touched now edit node := by
  cases step with
  | @create parent segment above data standing free =>
      by_cases created : path = parent.extend segment
      · subst created
        rw [withCreated_self, Option.some.injEq] at found
        exact .inl ⟨free, data, rfl, found.symm⟩
      · by_cases touched : path = parent
        · subst touched
          rw [withCreated_parent, Option.some.injEq] at found
          subst found
          refine .inr ⟨above, standing, .withChild ?_⟩
          rw [consistent.name_mem_children_iff standing, free]
          exact Bool.false_ne_true
        · rw [withCreated_of_ne view touched created] at found
          exact .inr ⟨node, found, .untouched node⟩
  | @delete parent segment above gone standing taken _ =>
      by_cases deleted : path = parent.extend segment
      · subst deleted
        rw [withDeleted_self] at found
        cases found
      · by_cases touched : path = parent
        · subst touched
          rw [withDeleted_parent, Option.some.injEq] at found
          subst found
          refine .inr ⟨above, standing, .withoutChild ?_⟩
          rw [consistent.name_mem_children_iff standing, taken]
          rfl
        · rw [withDeleted_of_ne view touched deleted] at found
          exact .inr ⟨node, found, .untouched node⟩
  | @setData other before data taken =>
      by_cases touched : path = other
      · subst touched
        rw [withData_self, Option.some.injEq] at found
        subst found
        exact .inr ⟨before, taken, .withData rfl⟩
      · rw [withData_of_ne view touched] at found
        exact .inr ⟨node, found, .untouched node⟩

/-- An edit writes nothing but what it touches. -/
theorem Step.eq_of_not_touches (step : Step now view edit after) (spared : ¬edit.Touches path) :
    after path = view path := by
  cases step with
  | create =>
      rw [Edit.Touches, Path.parent?_extend, Option.some.injEq, not_or] at spared
      exact withCreated_of_ne view (Ne.symm spared.2) spared.1
  | delete =>
      rw [Edit.Touches, Path.parent?_extend, Option.some.injEq, not_or] at spared
      exact withDeleted_of_ne view (Ne.symm spared.2) spared.1
  | setData => exact withData_of_ne view spared

/-- An edit takes a node away only if it deletes that very node. -/
theorem Step.deleted_or_touched (step : Step now view edit after) (consistent : view.Consistent)
    (found : view path = some node) :
    edit = .delete path ∨ ∃ later, after path = some later ∧ node.Touched now edit later := by
  by_cases deleted : edit = .delete path
  · exact .inl deleted
  · have present : (view path).isSome := by rw [found, Option.isSome_some]
    have stays : (after path).isSome := by
      cases step with
      | create above _ => exact (isSome_withCreated above path).2 (.inr present)
      | delete above _ _ =>
          refine (isSome_withDeleted above path).2 ⟨?_, present⟩
          rintro rfl
          exact deleted rfl
      | setData taken => exact (isSome_withData taken path).2 present
    obtain ⟨later, isLater⟩ := Option.isSome_iff_exists.1 stays
    rcases step.new_or_touched consistent isLater with ⟨missing, -⟩ | ⟨before, standing, touched⟩
    · rw [missing] at found
      cases found
    · rw [found, Option.some.injEq] at standing
      exact .inr ⟨later, isLater, standing ▸ touched⟩

/-- A create stamps the parent. -/
theorem Step.parent_of_create
    (step : Step now view (.create (parent.extend segment) data) after) :
    ∃ above, view parent = some above ∧ after parent = some (above.addChild segment.name now) := by
  generalize same : Edit.create (parent.extend segment) data = edit at step
  cases step with
  | create standing free =>
      rw [Edit.create.injEq, Path.extend_inj] at same
      obtain ⟨⟨rfl, rfl⟩, rfl⟩ := same
      exact ⟨_, standing, withCreated_parent view⟩
  | delete => cases same
  | setData => cases same

theorem Step.missing_of_delete (step : Step now view (.delete path) after) : after path = none := by
  generalize same : Edit.delete path = edit at step
  cases step with
  | create => cases same
  | setData => cases same
  | delete =>
      rw [Edit.delete.injEq] at same
      rw [same, withDeleted_self]

/-- A change of data stamps the node itself. -/
theorem Step.node_of_setData (step : Step now view (.setData path data) after) :
    ∃ before, view path = some before ∧ after path = some (before.setData data now) := by
  generalize same : Edit.setData path data = edit at step
  cases step with
  | create => cases same
  | delete => cases same
  | setData taken =>
      rw [Edit.setData.injEq] at same
      obtain ⟨rfl, rfl⟩ := same
      exact ⟨_, taken, withData_self view⟩

end View

end BatchTree
