import BatchTree.Proofs.Reachability

/-!
# What an install leaves behind

A set of changes need not come from an overlay, so nothing is known of its images.  The store
looks at these images alone, and what it asks of them is said in `Tree.Admits`.  That is enough
to leave no node without its parent, whatever the set.  It is not enough for the names that
nodes hold: a node that the set does not mention keeps the name of a child that the set removes
(`Tree.dangles_iff_of_install`).
-/

namespace BatchTree

namespace View

/-- The root exists, and so does the parent of every other node. -/
structure Rooted (view : View) : Prop where
  root_exists : (view Path.root).isSome
  parent_exists : ∀ {path parent : Path}, path.parent? = some parent →
    (view path).isSome → (view parent).isSome

/-- The root exists, and the parent of every other node exists and names it.  Other names that
a node holds may lead nowhere. -/
structure Listed (view : View) : Prop where
  root_exists : (view Path.root).isSome
  named : ∀ {path parent : Path}, path.parent? = some parent → (view path).isSome →
    ∃ above, view parent = some above ∧ path.name ∈ above.children

/-- The node at a path holds a name that leads to no node. -/
def Dangles (view : View) (path : Path) (name : String) : Prop :=
  ∃ node, view path = some node ∧ name ∈ node.children ∧
    ∀ child, path.child name = .ok child → view child = none

theorem Consistent.listed {view : View} (consistent : view.Consistent) : view.Listed where
  root_exists := consistent.root_exists
  named := by
    intro path parent isParent present
    obtain ⟨segment, rfl⟩ := Path.parent?_eq_some_iff.1 isParent
    obtain ⟨above, found⟩ :=
      Option.isSome_iff_exists.1 (consistent.parent_exists parent segment present)
    refine ⟨above, found, ?_⟩
    rw [Path.name_extend, consistent.name_mem_children_iff found]
    exact present

end View

namespace Tree

variable {tree installed : Tree} {set : ChangeSet} {path : Path} {node : Node}

/-- What the store asks of a set of changes.  It looks at the tree as it would be with the set
installed, but only from where the set has an image. -/
structure Admits (tree : Tree) (set : ChangeSet) : Prop where
  current : set.base = tree.zxid
  /-- A node that is put in place has a parent there. -/
  parent : ∀ {path parent : Path} {node : Node}, set.image? path = some (some node) →
    path.parent? = some parent → ((tree.apply set).get? parent).isSome
  /-- All that it names is there. -/
  names : ∀ {path : Path} {node : Node} {name : String}, set.image? path = some (some node) →
    name ∈ node.children →
      ∃ child, path.child name = .ok child ∧ ((tree.apply set).get? child).isSome
  root_stays : set.image? Path.root ≠ some none
  /-- A node that goes takes along whatever it names. -/
  gone : ∀ {path child : Path} {node : Node} {name : String}, set.image? path = some none →
    tree.get? path = some node → name ∈ node.children → path.child name = .ok child →
      (tree.apply set).get? child = none

/-- The store foresees what will be there. -/
theorem containsAfter_eq (tree : Tree) (set : ChangeSet) (path : Path) :
    tree.containsAfter set path = (tree.apply set).contains path := by
  rw [containsAfter, contains.eq_def (tree.apply set), get?_apply]
  cases set.image? path <;> rfl

theorem hasParentAfter_iff :
    tree.hasParentAfter set path = true ↔
      ∀ parent, path.parent? = some parent → ((tree.apply set).get? parent).isSome := by
  unfold hasParentAfter
  cases path.parent? with
  | none => simp
  | some parent => simp [containsAfter_eq, contains]

theorem missingChild?_eq_none_iff :
    tree.missingChild? set path node = none ↔
      ∀ name ∈ node.children,
        ∃ child, path.child name = .ok child ∧ ((tree.apply set).get? child).isSome := by
  simp only [missingChild?, List.find?_eq_none, Node.childNames, Std.ExtTreeSet.mem_toList]
  refine forall₂_congr fun name member => ?_
  cases path.child name with
  | error fault => simp
  | ok child => simp [containsAfter_eq, contains, Option.isSome_iff_ne_none]

theorem survivingChild?_eq_none_iff :
    tree.survivingChild? set path node = none ↔
      ∀ name ∈ node.children, ∀ child, path.child name = .ok child →
        (tree.apply set).get? child = none := by
  simp only [survivingChild?, List.find?_eq_none, Node.childNames, Std.ExtTreeSet.mem_toList]
  refine forall₂_congr fun name member => ?_
  cases path.child name with
  | error fault => simp
  | ok child => simp [containsAfter_eq, contains]

theorem imageFault?_some_eq_none_iff :
    tree.imageFault? set path (some node) = none ↔
      tree.hasParentAfter set path = true ∧ tree.missingChild? set path node = none := by
  rw [imageFault?]
  split
  · rename_i hasParent
    simp [hasParent]
  · rename_i orphan
    simp [orphan]

theorem imageFault?_none_eq_none_iff :
    tree.imageFault? set path none = none ↔
      path ≠ Path.root ∧
        ∀ node, tree.get? path = some node → tree.survivingChild? set path node = none := by
  rw [imageFault?]
  split
  · rename_i isRoot
    simp [Path.isRoot_iff.1 isRoot]
  · rename_i notRoot
    have below : path ≠ Path.root := mt Path.isRoot_iff.2 notRoot
    cases tree.get? path with
    | none => simp [below]
    | some node => simp [below]

theorem fault?_eq_none_iff :
    tree.fault? set = none ↔ set.base = tree.zxid ∧
      ∀ path image, set.image? path = some image → tree.imageFault? set path image = none := by
  rw [fault?]
  split
  · rename_i current
    simp [current, List.findSome?_eq_none_iff, Std.ExtTreeMap.mem_toList_iff_getElem?_eq_some,
      ChangeSet.image?]
  · rename_i stale
    simp [stale]

/-- The store installs what it admits, and nothing else. -/
theorem install_eq_ok_iff :
    tree.install set = .ok installed ↔ tree.Admits set ∧ installed = tree.apply set := by
  have admits : tree.fault? set = none ↔ tree.Admits set := by
    rw [fault?_eq_none_iff]
    constructor
    · rintro ⟨current, faultless⟩
      have kept {path : Path} {node : Node} (image : set.image? path = some (some node)) :=
        imageFault?_some_eq_none_iff.1 (faultless path (some node) image)
      have removed {path : Path} (image : set.image? path = some none) :=
        imageFault?_none_eq_none_iff.1 (faultless path none image)
      constructor
      case current => exact current
      case parent => exact fun image isParent => hasParentAfter_iff.1 (kept image).1 _ isParent
      case names => exact fun image => missingChild?_eq_none_iff.1 (kept image).2 _
      case root_stays => exact fun image => (removed image).1 rfl
      case gone =>
        intro path child node name image found member leads
        exact survivingChild?_eq_none_iff.1 ((removed image).2 node found) name member child leads
    · intro admits
      refine ⟨admits.current, ?_⟩
      intro path image isImage
      cases image with
      | some node =>
          rw [imageFault?_some_eq_none_iff, hasParentAfter_iff, missingChild?_eq_none_iff]
          exact ⟨fun _ => admits.parent isImage, fun _ => admits.names isImage⟩
      | none =>
          rw [imageFault?_none_eq_none_iff]
          constructor
          · rintro rfl
            exact admits.root_stays isImage
          · intro node found
            rw [survivingChild?_eq_none_iff]
            exact fun name member child => admits.gone isImage found member
  rw [← admits, install]
  cases tree.fault? set with
  | some fault => simp
  | none => simp [eq_comm]

/-! ## Parents -/

/-- The root outlasts every install. -/
theorem Admits.root_exists (admits : tree.Admits set) (before : (tree.get? Path.root).isSome) :
    ((tree.apply set).get? Path.root).isSome := by
  rw [get?_apply]
  cases isImage : set.image? Path.root with
  | none => exact before
  | some image =>
      cases image with
      | none => exact absurd isImage admits.root_stays
      | some node => rfl

/-- A node that the set leaves alone does not lose its parent: the parent named it, and could
not have gone without it. -/
theorem Admits.parent_exists_of_untouched (admits : tree.Admits set)
    (listed : View.Listed tree.get?) {parent : Path} (isParent : path.parent? = some parent)
    (untouched : set.image? path = none) (present : (tree.get? path).isSome) :
    ((tree.apply set).get? parent).isSome := by
  obtain ⟨above, found, named⟩ := listed.named isParent present
  cases isImage : set.image? parent with
  | none => simp [get?_apply, isImage, found]
  | some image =>
      cases image with
      | some node => simp [get?_apply, isImage]
      | none =>
          obtain ⟨segment, rfl⟩ := Path.parent?_eq_some_iff.1 isParent
          rw [Path.name_extend] at named
          have lost := admits.gone isImage found named (Path.child_name parent segment)
          rw [get?_apply, untouched, Option.getD_none] at lost
          rw [lost] at present
          cases present

/-- Whatever set the store accepts, the tree reads as the images of the set and elsewhere as
before, and no node is left without its parent. -/
theorem rooted_of_install (listed : View.Listed tree.get?)
    (accepted : tree.install set = .ok installed) :
    (∀ path, installed.get? path = (set.image? path).getD (tree.get? path)) ∧
      View.Rooted installed.get? := by
  obtain ⟨admits, rfl⟩ := install_eq_ok_iff.1 accepted
  refine ⟨get?_apply tree set, admits.root_exists listed.root_exists, ?_⟩
  intro path parent isParent present
  cases isImage : set.image? path with
  | some image =>
      rw [get?_apply, isImage, Option.getD_some] at present
      obtain ⟨node, rfl⟩ := Option.isSome_iff_exists.1 present
      exact admits.parent isImage isParent
  | none =>
      rw [get?_apply, isImage, Option.getD_none] at present
      exact admits.parent_exists_of_untouched listed isParent isImage present

/-- In particular where a branch goes and a new node joins the root, whose own image is not in
the set. -/
theorem rooted_of_pruning :
    let tree := (fresh.execute {}
      [.create "/a" ByteArray.empty .persistent,
        .create "/a/b" ByteArray.empty .persistent]).tree
    let segment (name : String) (clean : Segment.fault? name.toList = none) : Segment :=
      ⟨name, (Segment.fault?_eq_none_iff _).1 clean⟩
    let branch := Path.root.extend (segment "a" rfl)
    let images : ImageMap := (((∅ : ImageMap).insert branch none).insert
      (branch.extend (segment "b" rfl)) none).insert
      (Path.root.extend (segment "c" rfl)) (some (.new ByteArray.empty 2))
    let set : ChangeSet := { base := 1, images }
    View.Listed tree.get? ∧ tree.install set = .ok (tree.apply set) ∧
      (∀ path, (tree.apply set).get? path = (set.image? path).getD (tree.get? path)) ∧
      View.Rooted (tree.apply set).get? := by
  intro tree segment branch images set
  have reachable : tree.Reachable := Reachable.after .fresh {} _
  have listed := reachable.consistent.listed
  have faultless : tree.fault? set = none := by decide +kernel
  have accepted : tree.install set = .ok (tree.apply set) := by rw [install, faultless]
  exact ⟨listed, accepted, rooted_of_install listed accepted⟩

/-! ## Names -/

/-- After an install on a consistent tree exactly those names lead nowhere whose node the set
removes while it leaves the parent alone. -/
theorem dangles_iff_of_install (consistent : View.Consistent tree.get?)
    (accepted : tree.install set = .ok installed) (path : Path) (name : String) :
    View.Dangles installed.get? path name ↔
      set.image? path = none ∧ ∃ segment, Segment.name segment = name ∧
        (tree.get? (path.extend segment)).isSome ∧
        set.image? (path.extend segment) = some none := by
  obtain ⟨admits, rfl⟩ := install_eq_ok_iff.1 accepted
  constructor
  · rintro ⟨node, found, named, nowhere⟩
    rw [get?_apply] at found
    cases isImage : set.image? path with
    | some image =>
        rw [isImage, Option.getD_some] at found
        subst found
        obtain ⟨child, leads, present⟩ := admits.names isImage named
        rw [nowhere child leads] at present
        cases present
    | none =>
        rw [isImage, Option.getD_none] at found
        obtain ⟨segment, rfl, present⟩ := (consistent.mem_children_iff found name).1 named
        refine ⟨rfl, segment, rfl, present, ?_⟩
        have lost := nowhere _ (Path.child_name path segment)
        rw [get?_apply] at lost
        cases childImage : set.image? (path.extend segment) with
        | none =>
            rw [childImage, Option.getD_none] at lost
            rw [lost] at present
            cases present
        | some image =>
            rw [childImage, Option.getD_some] at lost
            rw [lost]
  · rintro ⟨untouched, segment, rfl, present, removed⟩
    obtain ⟨node, found⟩ :=
      Option.isSome_iff_exists.1 (consistent.parent_exists path segment present)
    refine ⟨node, ?_, (consistent.name_mem_children_iff found segment).2 present, ?_⟩
    · rw [get?_apply, untouched, Option.getD_none, found]
    · intro child leads
      rw [Path.child_name, Except.ok.injEq] at leads
      rw [← leads, get?_apply, removed, Option.getD_some]

/-- In particular where two nodes go, one together with its name and one without. -/
theorem dangles_iff_of_removals :
    let tree := (fresh.execute {}
      [.create "/a" ByteArray.empty .persistent, .create "/a/b" ByteArray.empty .persistent,
        .create "/c" ByteArray.empty .persistent]).tree
    let segment (name : String) (clean : Segment.fault? name.toList = none) : Segment :=
      ⟨name, (Segment.fault?_eq_none_iff _).1 clean⟩
    let parent := Path.root.extend (segment "a" rfl)
    let images : ImageMap := (((∅ : ImageMap).insert parent (some (.new ByteArray.empty 2))).insert
      (parent.extend (segment "b" rfl)) none).insert (Path.root.extend (segment "c" rfl)) none
    let set : ChangeSet := { base := 1, images }
    View.Consistent tree.get? ∧ tree.install set = .ok (tree.apply set) ∧
      ∀ (path : Path) (name : String),
        View.Dangles (tree.apply set).get? path name ↔
          set.image? path = none ∧ ∃ segment, Segment.name segment = name ∧
            (tree.get? (path.extend segment)).isSome ∧
            set.image? (path.extend segment) = some none := by
  intro tree segment parent images set
  have reachable : tree.Reachable := Reachable.after .fresh {} _
  have faultless : tree.fault? set = none := by decide +kernel
  have accepted : tree.install set = .ok (tree.apply set) := by rw [install, faultless]
  exact ⟨reachable.consistent, accepted, dangles_iff_of_install reachable.consistent accepted⟩

/-- The smallest case: the only node below the root goes, and the root goes on naming it. -/
theorem dangling_after_install :
    let tree := (fresh.execute {} [.create "/a" ByteArray.empty .persistent]).tree
    let segment : Segment := ⟨"a", (Segment.fault?_eq_none_iff _).1 rfl⟩
    let set : ChangeSet :=
      { base := 1, images := (∅ : ImageMap).insert (Path.root.extend segment) none }
    View.Consistent tree.get? ∧ ∃ installed, tree.install set = .ok installed ∧
      View.Dangles installed.get? Path.root "a" := by
  intro tree segment set
  have reachable : tree.Reachable := Reachable.after .fresh {} _
  have faultless : tree.fault? set = none := by decide +kernel
  have named : ((tree.apply set).get? Path.root).any (·.hasChild "a") = true := by decide +kernel
  have missing : (tree.apply set).get? (Path.root.extend segment) = none := by decide +kernel
  refine ⟨reachable.consistent, tree.apply set, by rw [install, faultless], ?_⟩
  obtain ⟨node, found, isNamed⟩ := (Option.any_eq_true _ _).1 named
  refine ⟨node, found, Node.hasChild_iff.1 isNamed, ?_⟩
  intro child leads
  have same : Path.root.child segment.name = .ok child := leads
  rw [Path.child_name, Except.ok.injEq] at same
  rw [← same, missing]

end Tree

end BatchTree
