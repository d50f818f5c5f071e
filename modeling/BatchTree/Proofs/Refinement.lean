import BatchTree.Proofs.Flat
import BatchTree.Proofs.Sufficiency

/-!
# The tree refines the flat state

A consistent view shows no more than the flat state does: the children that its nodes
name are those that can be read off the paths.  Each operation therefore ends in the same
way on both, batches do so by induction, and installing keeps what the last operation saw.
-/

namespace BatchTree

namespace Flat

/-- What the flat state keeps of a node. -/
def Entry.ofNode (node : Node) : Entry where
  data := node.data
  version := node.version
  childCounter := node.stat.cversion

/-- The flat state of a tree with a root. -/
def ofTree (tree : Tree) (rooted : tree.contains Path.root) : Flat where
  entries := tree.nodes.map fun _ node => .ofNode node
  root_mem := Std.ExtTreeMap.mem_map.2 (Std.ExtTreeMap.mem_iff_isSome_getElem?.2 rooted)

/-- The flat state holds at each path what it keeps of the node that the view shows there. -/
def Abstracts (flat : Flat) (view : View) : Prop :=
  ∀ path, flat.get? path = (view path).map Entry.ofNode

theorem abstracts_ofTree {tree : Tree} (rooted : tree.contains Path.root) :
    (ofTree tree rooted).Abstracts tree.get? := by
  intro path
  rw [get?, ofTree, Std.ExtTreeMap.getElem?_map]
  rfl

namespace Abstracts

variable {flat : Flat} {view : View} {now : Zxid} {parent path : Path} {segment : Segment}
  {above node : Node} {data : Payload}

/-- A view determines the flat state. -/
theorem unique {other : Flat} (abstracts : flat.Abstracts view) (abstractsToo : other.Abstracts view) :
    flat = other :=
  ext_get? fun path => (abstracts path).trans (abstractsToo path).symm

theorem get?_of_some (abstracts : flat.Abstracts view) (found : view path = some node) :
    flat.get? path = some (.ofNode node) := by
  rw [abstracts path, found, Option.map_some]

/-- The children that a node names are those that can be read off the paths. -/
theorem hasChild_eq (abstracts : flat.Abstracts view) (consistent : view.Consistent)
    (found : view path = some node) : flat.hasChild path = node.hasChildren := by
  rw [Bool.eq_iff_iff, hasChild_iff, ← not_iff_not, Bool.not_eq_true,
    Node.hasChildren_eq_false_iff]
  simp only [abstracts (path.extend _), Option.isSome_map]
  constructor
  · intro bare name member
    obtain ⟨segment, -, present⟩ := (consistent.mem_children_iff found name).1 member
    exact bare ⟨segment, present⟩
  · rintro bare ⟨segment, present⟩
    exact bare segment.name ((consistent.name_mem_children_iff found segment).2 present)

theorem withCreated (abstracts : flat.Abstracts view) (found : view parent = some above) :
    ((flat.tally parent).put (parent.extend segment) ⟨data, 0, 0⟩).Abstracts
      (view.withCreated now parent segment above data) := by
  intro path
  rw [get?_put, get?_tally]
  by_cases created : parent.extend segment = path
  · subst created
    rw [if_pos rfl, View.withCreated_self]
    rfl
  · rw [if_neg created]
    by_cases touched : parent = path
    · subst touched
      rw [if_pos rfl, abstracts.get?_of_some found, View.withCreated_parent]
      rfl
    · rw [if_neg touched, View.withCreated_of_ne view (Ne.symm touched) (Ne.symm created),
        abstracts path]

theorem withDeleted (abstracts : flat.Abstracts view) (found : view parent = some above)
    (named : segment.name ∈ above.children)
    (isParent : (parent.extend segment).parent? = some parent) :
    ((flat.tally parent).remove isParent).Abstracts
      (view.withDeleted now parent segment above) := by
  intro path
  rw [get?_remove, get?_tally]
  by_cases deleted : parent.extend segment = path
  · subst deleted
    rw [if_pos rfl, View.withDeleted_self]
    rfl
  · rw [if_neg deleted]
    by_cases touched : parent = path
    · subst touched
      rw [if_pos rfl, abstracts.get?_of_some found, View.withDeleted_parent,
        Node.withoutChild_of_mem named]
      rfl
    · rw [if_neg touched, View.withDeleted_of_ne view (Ne.symm touched) (Ne.symm deleted),
        abstracts path]

theorem withData (abstracts : flat.Abstracts view) :
    (flat.put path { Entry.ofNode node with data := data, version := node.version + 1 }).Abstracts
      (view.withData now path node data) := by
  intro other
  rw [get?_put]
  by_cases touched : path = other
  · subst touched
    rw [if_pos rfl, View.withData_self]
    rfl
  · rw [if_neg touched, View.withData_of_ne view (Ne.symm touched), abstracts other]

end Abstracts

/-- Two executions end alike: with the same failure, or with related results. -/
inductive EndsAlike {failure result other : Type} (related : result → other → Prop) :
    Except failure result → Except failure other → Prop where
  | error (failure : failure) : EndsAlike related (.error failure) (.error failure)
  | ok {left : result} {right : other} (holds : related left right) :
      EndsAlike related (.ok left) (.ok right)

/-- A state and an outcome stand for an overlay and a reply. -/
def StandsFor (left : Flat × Outcome) (right : Overlay × Reply) : Prop :=
  left.1.Abstracts right.1.get? ∧ Outcome.ofReply? right.2 = some left.2

/-- The stand-in of a create has the parent that every completion has. -/
theorem requestedPath_cases (text : String) (mode : CreateMode) (counter : Version) :
    (Overlay.requestedPath text mode = .error .badArguments ∧
      ∃ fault, named text mode counter = .error fault) ∨
    ∃ requested path, Overlay.requestedPath text mode = .ok requested ∧
      named text mode counter = .ok path ∧ requested.parent? = path.parent? := by
  cases isRequested : Overlay.requestedPath text mode with
  | error status =>
      obtain rfl := Overlay.status_of_requestedPath isRequested
      refine .inl ⟨rfl, ?_⟩
      cases isNamed : named text mode counter with
      | error fault => exact ⟨fault, rfl⟩
      | ok path =>
          cases mode with
          | persistent =>
              rw [Overlay.requestedPath, Overlay.readPath_eq_ok_iff.2 isNamed] at isRequested
              cases isRequested
          | sequential =>
              obtain ⟨requested, impossible⟩ := Overlay.exists_requestedPath_sequential isNamed
              rw [isRequested] at impossible
              cases impossible
  | ok requested =>
      cases mode with
      | persistent =>
          exact .inr ⟨requested, requested, rfl, Overlay.readPath_eq_ok_iff.1 isRequested, rfl⟩
      | sequential =>
          obtain ⟨parent, segment, rfl, every⟩ := Overlay.requestedPath_sequential_ok isRequested
          obtain ⟨completed, isNamed⟩ := every counter
          refine .inr ⟨_, _, rfl, isNamed, ?_⟩
          rw [Path.parent?_extend, Path.parent?_extend]

theorem named_of_targetPath {text : String} {mode : CreateMode} {requested target : Path}
    {above : Node} (isRequested : Overlay.requestedPath text mode = .ok requested)
    (isTarget : Overlay.targetPath text mode requested above = .ok target) :
    named text mode above.stat.cversion = .ok target := by
  cases mode with
  | persistent =>
      cases isTarget
      exact Overlay.readPath_eq_ok_iff.1 isRequested
  | sequential =>
      exact Overlay.targetPath_sequential_eq_ok_iff.1 isTarget

section Operations

variable (limits : Limits) {flat : Flat} {overlay : Overlay}

theorem expect_cases (abstracts : flat.Abstracts overlay.get?) (path : Path) (version : Version) :
    (∃ status, flat.expect path version = .error status ∧
      overlay.expectNode path version = .error status) ∨
    ∃ node, overlay.get? path = some node ∧
      flat.expect path version = .ok (.ofNode node) ∧ overlay.expectNode path version = .ok node := by
  rw [expect, Overlay.expectNode, abstracts path]
  cases found : overlay.get? path with
  | none => exact .inl ⟨_, rfl, rfl⟩
  | some node =>
      dsimp only [Option.map_some, Entry.ofNode]
      by_cases admitted : version.admits node.version = true
      · rw [if_pos admitted, if_pos admitted]
        exact .inr ⟨node, rfl, rfl, rfl⟩
      · rw [if_neg admitted, if_neg admitted]
        exact .inl ⟨_, rfl, rfl⟩

theorem create_endsAlike (abstracts : flat.Abstracts overlay.get?) (text : String)
    (data : Payload) (mode : CreateMode) :
    EndsAlike StandsFor (flat.create limits text data mode)
      (overlay.create limits text data mode) := by
  rw [create, Overlay.create]
  by_cases oversized : limits.maxDataLength < data.size
  · rw [if_pos oversized, if_pos oversized]
    exact .error _
  · rw [if_neg oversized, if_neg oversized]
    rcases requestedPath_cases text mode 0 with
      ⟨isRefused, fault, malformed⟩ | ⟨requested, path, isRequested, isNamed, sameParent⟩
    · rw [isRefused, malformed]
      exact .error _
    · rw [isRequested, isNamed]
      dsimp only
      rw [← sameParent]
      cases isParent : requested.parent? with
      | none => exact .error _
      | some parent =>
          dsimp only
          rw [abstracts parent]
          cases found : overlay.get? parent with
          | none => exact .error _
          | some above =>
              obtain ⟨segment, isTarget⟩ := Overlay.exists_targetPath isRequested isParent above
              have isNamedToo := named_of_targetPath isRequested isTarget
              dsimp only [Option.map_some, Entry.ofNode]
              rw [isTarget, isNamedToo]
              dsimp only
              rw [contains, abstracts (parent.extend segment), Option.isSome_map,
                Overlay.contains]
              cases free : overlay.get? (parent.extend segment) with
              | some taken => exact .error _
              | none =>
                  rw [Overlay.stageCreate?_extend found free]
                  refine .ok ⟨?_, rfl⟩
                  rw [Overlay.get?_withCreated]
                  exact abstracts.withCreated found

theorem delete_endsAlike (abstracts : flat.Abstracts overlay.get?)
    (consistent : View.Consistent overlay.get?) (text : String) (version : Version) :
    EndsAlike StandsFor (flat.delete text version) (overlay.delete text version) := by
  rw [delete, Overlay.delete]
  cases read : Path.parse text with
  | error fault =>
      rw [Overlay.readPath_of_error read]
      exact .error _
  | ok target =>
      rw [Overlay.readPath_of_ok read]
      dsimp only
      rcases Path.eq_root_or_extend target with rfl | ⟨parent, segment, rfl⟩
      · exact .error _
      · rw [Path.isRoot_extend, if_neg Bool.false_ne_true]
        split
        · rename_i isParent
          rw [Path.parent?_extend] at isParent
          cases isParent
        · rename_i other isParent
          have sameParent := isParent
          rw [Path.parent?_extend, Option.some.injEq] at sameParent
          subst sameParent
          rcases expect_cases abstracts (parent.extend segment) version with
            ⟨status, isUnexpected, isUnexpectedToo⟩ | ⟨node, taken, isExpected, isExpectedToo⟩
          · rw [isUnexpected, isUnexpectedToo]
            exact .error _
          · rw [isExpected, isExpectedToo]
            dsimp only
            rw [abstracts.hasChild_eq consistent taken]
            cases bare : node.hasChildren with
            | true => exact .error _
            | false =>
                have present : (overlay.get? (parent.extend segment)).isSome := by
                  rw [taken]
                  rfl
                have standing := consistent.parent_exists parent segment present
                obtain ⟨above, found⟩ := Option.isSome_iff_exists.1 standing
                have named := (consistent.name_mem_children_iff found segment).2 present
                rw [Overlay.stageDelete?_extend found taken bare]
                refine .ok ⟨?_, rfl⟩
                rw [Overlay.get?_withDeleted]
                exact abstracts.withDeleted found named isParent

theorem setData_endsAlike (abstracts : flat.Abstracts overlay.get?) (text : String)
    (data : Payload) (version : Version) :
    EndsAlike StandsFor (flat.setData limits text data version)
      (overlay.setData limits text data version) := by
  rw [setData, Overlay.setData]
  by_cases oversized : limits.maxDataLength < data.size
  · rw [if_pos oversized, if_pos oversized]
    exact .error _
  · rw [if_neg oversized, if_neg oversized]
    cases read : Path.parse text with
    | error fault =>
        rw [Overlay.readPath_of_error read]
        exact .error _
    | ok target =>
        rw [Overlay.readPath_of_ok read]
        dsimp only
        rcases expect_cases abstracts target version with
          ⟨status, isUnexpected, isUnexpectedToo⟩ | ⟨node, taken, isExpected, isExpectedToo⟩
        · rw [isUnexpected, isUnexpectedToo]
          exact .error _
        · rw [isExpected, isExpectedToo]
          dsimp only
          rw [Overlay.stageSetData?_of_taken taken]
          refine .ok ⟨?_, rfl⟩
          rw [Overlay.get?_withData]
          exact abstracts.withData

theorem check_endsAlike (abstracts : flat.Abstracts overlay.get?) (text : String)
    (version : Version) :
    EndsAlike StandsFor (flat.check text version) (overlay.check text version) := by
  rw [check, Overlay.check]
  cases read : Path.parse text with
  | error fault =>
      rw [Overlay.readPath_of_error read]
      exact .error _
  | ok target =>
      rw [Overlay.readPath_of_ok read]
      dsimp only
      rcases expect_cases abstracts target version with
        ⟨status, isUnexpected, isUnexpectedToo⟩ | ⟨node, -, isExpected, isExpectedToo⟩
      · rw [isUnexpected, isUnexpectedToo]
        exact .error _
      · rw [isExpected, isExpectedToo]
        exact .ok ⟨abstracts, rfl⟩

/-- Every operation ends alike on the flat state and on the overlay. -/
theorem apply_endsAlike (abstracts : flat.Abstracts overlay.get?)
    (consistent : View.Consistent overlay.get?) (operation : Operation) :
    EndsAlike StandsFor (flat.apply limits operation) (overlay.validate limits operation) := by
  cases operation with
  | create text data mode => exact create_endsAlike limits abstracts text data mode
  | delete text version => exact delete_endsAlike abstracts consistent text version
  | setData text data version => exact setData_endsAlike limits abstracts text data version
  | check text version => exact check_endsAlike abstracts text version

/-- Every batch ends alike on the flat state and on the overlay. -/
theorem run_endsAlike (abstracts : flat.Abstracts overlay.get?)
    (consistent : View.Consistent overlay.get?) (index : Nat) (batch : Batch) :
    EndsAlike
      (fun (left : Flat × List Outcome) (right : Overlay × List Reply) =>
        left.1.Abstracts right.1.get? ∧ right.2.map Outcome.ofReply? = left.2.map some)
      (flat.run limits index batch) (overlay.validateAll limits index batch) := by
  induction batch generalizing flat overlay index with
  | nil => exact .ok ⟨abstracts, rfl⟩
  | cons operation rest ih =>
      rw [run, Overlay.validateAll]
      have first := apply_endsAlike limits abstracts consistent operation
      generalize flat.apply limits operation = left at first
      generalize passed : overlay.validate limits operation = right at first
      cases first with
      | error => exact .error _
      | @ok left right holds =>
          obtain ⟨staged, reply⟩ := right
          have consistentStaged := (Overlay.accepts_of_validate passed).consistent consistent
          have others := ih holds.1 consistentStaged (index + 1)
          dsimp only
          generalize left.1.run limits (index + 1) rest = leftAll at others
          generalize staged.validateAll limits (index + 1) rest = rightAll at others
          cases others with
          | error => exact .error _
          | ok holdsAll =>
              refine .ok ⟨holdsAll.1, ?_⟩
              rw [List.map_cons, List.map_cons, holds.2, holdsAll.2]

end Operations

end Flat

namespace Tree

variable {tree : Tree}

theorem ReachableUnder.contains_root {permitted : Set Limits}
    (reachable : tree.ReachableUnder permitted) : tree.contains Path.root :=
  reachable.consistent.root_exists

/-- The flat state of a reachable tree. -/
def Reachable.flat (reachable : tree.Reachable) : Flat :=
  .ofTree tree reachable.contains_root

theorem Reachable.abstracts_flat (reachable : tree.Reachable) : reachable.flat.Abstracts tree.get? :=
  Flat.abstracts_ofTree reachable.contains_root

/-- A batch executed on a reachable tree is committed exactly when the flat specification
runs to its end, and then with the same outcomes and with a tree whose flat state is the
specified one; otherwise it is aborted where the specification fails, with the same code. -/
theorem Reachable.execute_refines_run (reachable : tree.Reachable) (limits : Limits)
    {batch : Batch} (nonempty : batch ≠ []) :
    match reachable.flat.run limits 0 batch with
    | .ok (after, outcomes) =>
        ∃ replies, (tree.execute limits batch).response =
            .committed replies (some (tree.zxid + 1)) ∧
          replies.map Flat.Outcome.ofReply? = outcomes.map some ∧
          (reachable.after limits batch).flat = after
    | .error (index, status) =>
        (tree.execute limits batch).response.isCommitted = false ∧
          tree.execute limits batch = tree.unaffected (.aborted batch.length index status) := by
  have abstracts : reachable.flat.Abstracts (Overlay.ofTree tree).get? := reachable.abstracts_flat
  have alike := Flat.run_endsAlike limits abstracts reachable.consistent 0 batch
  generalize reachable.flat.run limits 0 batch = left at alike
  generalize judged : (Overlay.ofTree tree).validateAll limits 0 batch = right at alike
  cases alike with
  | error failure =>
      have effect := execute_of_error nonempty judged
      refine ⟨?_, effect⟩
      rw [effect]
      exact Response.isCommitted_aborted _ _ (Overlay.validateAll_refusal judged)
  | @ok left right holds =>
      obtain ⟨overlay, replies⟩ := right
      obtain ⟨abstractsFinal, same⟩ := holds
      have effect := execute_of_ok nonempty judged (reachable.install_of_ok judged)
      have base : overlay.base = tree := (Overlay.acceptsAll_of_validateAll judged).base_eq
      refine ⟨replies, ?_, same, ?_⟩
      · rw [effect, ← base]
        rfl
      · have installed : (tree.execute limits batch).tree.get? = overlay.get? := by
          rw [effect, ← base]
          exact overlay.get?_apply_toChangeSet
        rw [← installed] at abstractsFinal
        exact (reachable.after limits batch).abstracts_flat.unique abstractsFinal

/-- In particular for a sequential create, a delete of what it has made and a check, which
are committed. -/
theorem execute_refines_run_of_queue :
    let tree := (Tree.fresh.execute {} [.create "/q" ByteArray.empty .persistent]).tree
    let batch : Batch := [.create "/q/" ByteArray.empty .sequential,
      .delete "/q/0000000000" 0, .check "/q" 0]
    batch ≠ [] ∧ (tree.execute {} batch).response.isCommitted = true ∧
      ∃ reachable : tree.Reachable,
        match reachable.flat.run {} 0 batch with
        | .ok (after, outcomes) =>
            ∃ replies, (tree.execute {} batch).response =
                .committed replies (some (tree.zxid + 1)) ∧
              replies.map Flat.Outcome.ofReply? = outcomes.map some ∧
              (reachable.after {} batch).flat = after
        | .error (index, status) =>
            (tree.execute {} batch).response.isCommitted = false ∧
              tree.execute {} batch = tree.unaffected (.aborted batch.length index status) := by
  intro tree batch
  have nonempty : batch ≠ [] := List.cons_ne_nil _ _
  have reachable : tree.Reachable :=
    Reachable.after .fresh {} [.create "/q" ByteArray.empty .persistent]
  exact ⟨nonempty, by decide +kernel, reachable, reachable.execute_refines_run {} nonempty⟩

end Tree

end BatchTree
