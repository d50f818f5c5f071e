import BatchTree.Proofs.Staging

/-!
# Installing what was staged

An installed set reads as the overlay it was made from, whatever the tree.  If tree
and overlay are both consistent, the store finds no fault with the set: it asks for
nothing but the parents and the children that consistency provides.
-/

namespace BatchTree

namespace Tree

/-- An overlay that stages nothing reads as its tree. -/
theorem get?_ofTree_eq {tree : Tree} : (Overlay.ofTree tree).get? = tree.get? :=
  funext (Overlay.get?_ofTree tree)

theorem getElem?_putImage (nodes : NodeMap) (path other : Path) (image : Image) :
    (putImage nodes path image)[other]? = if path = other then image else nodes[other]? := by
  cases image with
  | none =>
      rw [putImage, Std.ExtTreeMap.getElem?_erase]
      simp only [Std.LawfulEqCmp.compare_eq_iff_eq]
  | some node =>
      rw [putImage, Std.ExtTreeMap.getElem?_insert]
      simp only [Std.LawfulEqCmp.compare_eq_iff_eq]

/-- The nodes with a list of images put in place one after the other. -/
def putImages (nodes : NodeMap) (entries : List (Path × Image)) : NodeMap :=
  entries.foldl (fun nodes entry => putImage nodes entry.1 entry.2) nodes

theorem getElem?_putImages_of_absent {nodes : NodeMap} {entries : List (Path × Image)}
    {path : Path} (absent : ∀ entry ∈ entries, entry.1 ≠ path) :
    (putImages nodes entries)[path]? = nodes[path]? := by
  induction entries generalizing nodes with
  | nil => rfl
  | cons entry rest ih =>
      have here : entry.1 ≠ path := absent entry List.mem_cons_self
      change (putImages (putImage nodes entry.1 entry.2) rest)[path]? = nodes[path]?
      rw [ih fun other member => absent other (List.mem_cons_of_mem entry member),
        getElem?_putImage, if_neg here]

theorem getElem?_putImages_of_mem {nodes : NodeMap} {entries : List (Path × Image)}
    {path : Path} {image : Image} (distinct : entries.Pairwise fun left right => left.1 ≠ right.1)
    (member : (path, image) ∈ entries) :
    (putImages nodes entries)[path]? = image := by
  induction entries generalizing nodes with
  | nil => cases member
  | cons entry rest ih =>
      rw [List.pairwise_cons] at distinct
      change (putImages (putImage nodes entry.1 entry.2) rest)[path]? = image
      rcases List.mem_cons.1 member with rfl | inRest
      · have absent : ∀ other ∈ rest, other.1 ≠ path := fun other inRest =>
          (distinct.1 other inRest).symm
        rw [getElem?_putImages_of_absent absent, getElem?_putImage, if_pos rfl]
      · exact ih distinct.2 inRest

/-- After an install a path reads as its image, or as before if it has none. -/
theorem get?_apply (tree : Tree) (set : ChangeSet) (path : Path) :
    (tree.apply set).get? path = (set.image? path).getD (tree.get? path) := by
  have folded : (tree.apply set).get? path = (putImages tree.nodes set.images.toList)[path]? := by
    rw [apply, get?, putImages, Std.ExtTreeMap.foldl_eq_foldl_toList]
  rw [folded]
  cases lookup : set.image? path with
  | none =>
      apply getElem?_putImages_of_absent
      rintro ⟨other, image⟩ member rfl
      rw [Std.ExtTreeMap.mem_toList_iff_getElem?_eq_some] at member
      rw [ChangeSet.image?, member] at lookup
      cases lookup
  | some image =>
      apply getElem?_putImages_of_mem
      · refine Std.ExtTreeMap.distinct_keys_toList.imp ?_
        intro left right different
        rwa [Std.LawfulEqCmp.compare_eq_iff_eq] at different
      · rw [Std.ExtTreeMap.mem_toList_iff_getElem?_eq_some]
        exact lookup

end Tree

namespace Overlay

/-- The installed set reads as the overlay did. -/
theorem get?_apply_toChangeSet (overlay : Overlay) :
    (overlay.base.apply overlay.toChangeSet).get? = overlay.get? := by
  funext path
  rw [Tree.get?_apply, get?]
  change (overlay.staged[path]?).getD _ = _
  cases overlay.staged[path]? <;> rfl

theorem containsAfter_toChangeSet (overlay : Overlay) (path : Path) :
    overlay.base.containsAfter overlay.toChangeSet path = overlay.contains path := by
  have lookup : overlay.toChangeSet.image? path = overlay.staged[path]? := rfl
  rw [Tree.containsAfter, lookup, contains, get?]
  cases overlay.staged[path]? <;> rfl

section Faultless

variable {overlay : Overlay} {path : Path} {node : Node}

theorem hasParentAfter_toChangeSet (consistent : View.Consistent overlay.get?)
    (staged : overlay.get? path = some node) :
    overlay.base.hasParentAfter overlay.toChangeSet path = true := by
  rcases Path.eq_root_or_extend path with rfl | ⟨parent, segment, rfl⟩
  · rfl
  · rw [Tree.hasParentAfter, Path.parent?_extend]
    change overlay.base.containsAfter overlay.toChangeSet parent = true
    rw [containsAfter_toChangeSet]
    exact consistent.parent_exists parent segment (by rw [staged]; rfl)

theorem missingChild?_toChangeSet (consistent : View.Consistent overlay.get?)
    (staged : overlay.get? path = some node) :
    overlay.base.missingChild? overlay.toChangeSet path node = none := by
  rw [Tree.missingChild?, List.find?_eq_none]
  intro name member
  rw [Node.childNames, Std.ExtTreeSet.mem_toList] at member
  obtain ⟨segment, rfl, present⟩ := (consistent.mem_children_iff staged name).1 member
  simpa [containsAfter_toChangeSet, contains, Option.isSome_iff_ne_none] using present

theorem survivingChild?_toChangeSet (base : View.Consistent overlay.base.get?)
    (consistent : View.Consistent overlay.get?) (deleted : overlay.get? path = none)
    (found : overlay.base.get? path = some node) :
    overlay.base.survivingChild? overlay.toChangeSet path node = none := by
  rw [Tree.survivingChild?, List.find?_eq_none]
  intro name member
  rw [Node.childNames, Std.ExtTreeSet.mem_toList] at member
  obtain ⟨segment, rfl, -⟩ := (base.mem_children_iff found name).1 member
  simp [containsAfter_toChangeSet, contains, consistent.extend_eq_none deleted segment]

/-- The store has nothing to say against a consistent overlay on a consistent tree. -/
theorem fault?_toChangeSet (base : View.Consistent overlay.base.get?)
    (consistent : View.Consistent overlay.get?) :
    overlay.base.fault? overlay.toChangeSet = none := by
  have current : overlay.toChangeSet.base = overlay.base.zxid := rfl
  rw [Tree.fault?, if_pos current, List.findSome?_eq_none_iff]
  rintro ⟨path, image⟩ member
  have lookup : overlay.staged[path]? = some image :=
    Std.ExtTreeMap.mem_toList_iff_getElem?_eq_some.1 member
  have seen : overlay.get? path = image := by rw [get?, lookup]
  cases image with
  | some node =>
      rw [Tree.imageFault?, if_pos (hasParentAfter_toChangeSet consistent seen),
        missingChild?_toChangeSet consistent seen, Option.map_none]
  | none =>
      have notRoot : path.isRoot = false := by
        rw [← Bool.not_eq_true, Path.isRoot_iff]
        rintro rfl
        have present := consistent.root_exists
        rw [seen] at present
        cases present
      rw [Tree.imageFault?, if_neg (by simp [notRoot])]
      split
      · rename_i node found
        rw [survivingChild?_toChangeSet base consistent seen found, Option.map_none]
      · rfl

/-- A consistent overlay on a consistent tree is installed. -/
theorem install_toChangeSet (base : View.Consistent overlay.base.get?)
    (consistent : View.Consistent overlay.get?) :
    overlay.base.install overlay.toChangeSet =
      .ok (overlay.base.apply overlay.toChangeSet) := by
  rw [Tree.install, fault?_toChangeSet base consistent]

end Faultless

end Overlay

end BatchTree
