import BatchTree.Proofs.Deeds

/-!
# No update is lost

The version of a node counts the changes of its data.  An operation that insists on a
version therefore passes only if the data was not changed since that version was read: of
several changes that insist on the same version one takes effect at most, until the node is
deleted and its successor starts anew at version zero.
-/

namespace BatchTree

namespace Deed

variable {deed : Deed} {path : Path} {version expected : Version}

/-- The deed sets the data of the node at `path`. -/
def Sets (deed : Deed) (path : Path) : Prop :=
  deed.operation.kind = .setData ∧ Path.parse deed.operation.path = .ok path

/-- The deed sets the data of the node at `path` and so moves it on from a version. -/
structure Moves (deed : Deed) (path : Path) (version : Version) : Prop where
  sets : deed.Sets path
  version_before : (deed.before.get? path).map Node.version = some version
  version_after : (deed.after.get? path).map Node.version = some (version + 1)

/-- The deed insists on a version of the node at `path`. -/
structure Insists (deed : Deed) (path : Path) (expected : Version) : Prop where
  names : Path.parse deed.operation.path = .ok path
  expects : deed.operation.expectedVersion? = some expected

theorem Sets.moves (sets : deed.Sets path) : ∃ version, deed.Moves path version := by
  obtain ⟨limits, before, operation, after, reply, accepts⟩ := deed
  obtain ⟨isKind, names⟩ := sets
  cases accepts with
  | create => cases isKind
  | delete => cases isKind
  | check => cases isKind
  | setData _ read found _ stages =>
      obtain rfl := Except.ok.inj (read.symm.trans names)
      obtain ⟨node, isNode, isAfter⟩ := stages.step.node_of_setData
      refine ⟨node.version, ⟨isKind, names⟩, ?_, ?_⟩
      · rw [isNode]
        rfl
      · rw [isAfter]
        rfl

theorem eq_of_admitted {actual : Version} (admitted : version.admits actual = true)
    (expects : (some version |>.filter (· ≠ anyVersion)) = some expected) :
    actual = expected := by
  obtain ⟨same, notAny⟩ := Option.filter_eq_some_iff.1 expects
  rw [Option.some.injEq] at same
  subst same
  rcases Version.admits_iff.1 admitted with any | same
  · exact absurd any (by simpa using notAny)
  · exact same.symm

/-- The node is at the version that a deed insists on. -/
theorem Insists.version_eq (insists : deed.Insists path expected) :
    (deed.before.get? path).map Node.version = some expected := by
  obtain ⟨limits, before, operation, after, reply, accepts⟩ := deed
  obtain ⟨names, expects⟩ := insists
  have sameNode {target : Path} {node : Node} {version : Version}
      (read : Path.parse operation.path = .ok target) (found : before.get? target = some node)
      (admitted : version.admits node.version = true)
      (isVersion : operation.expectedVersion? = (some version |>.filter (· ≠ anyVersion))) :
      (before.get? path).map Node.version = some expected := by
    obtain rfl := Except.ok.inj (read.symm.trans names)
    rw [found, Option.map_some, eq_of_admitted admitted (isVersion.symm.trans expects)]
  cases accepts with
  | create => cases expects
  | delete read found admitted => exact sameNode read found admitted rfl
  | setData _ read found admitted => exact sameNode read found admitted rfl
  | check read found admitted => exact sameNode read found admitted rfl

end Deed

/-- Among the deeds one follows another, with those of `between` in between. -/
def Follows (deeds : List Deed) (first : Deed) (between : List Deed)
    (second : Deed) : Prop :=
  ∃ earlier later, deeds = earlier ++ first :: (between ++ second :: later)

/-- No change of the data at `path` is lost on those who insist on a version. -/
structure KeepsUpdates (deeds : List Deed) (path : Path) : Prop where
  /-- Setting the data moves the node on by one version. -/
  moves : ∀ deed ∈ deeds, deed.Sets path → ∃ version, deed.Moves path version
  /-- Who insists on the version that an update has met, or on an older one, does not pass
  unless the node is deleted in between. -/
  outdated : ∀ {update other : Deed} {between : List Deed}
    {version expected : Version}, Follows deeds update between other →
      update.Moves path version → other.Insists path expected → expected ≤ version →
      ∃ deed ∈ between, deed.Deletes path
  /-- Of those who insist on the same version, one sets the data in the life of a node. -/
  one_winner : ∀ {first second : Deed} {between : List Deed} {expected : Version},
    Follows deeds first between second → first.Sets path → second.Sets path →
      first.Insists path expected → second.Insists path expected →
      ∃ deed ∈ between, deed.Deletes path

namespace Leads

variable {view final : View} {deeds between : List Deed} {update other : Deed}
  {path : Path} {version expected : Version}

/-- As long as the node is not deleted, it stays beyond the version of an update. -/
theorem lt_expected (leads : Leads view deeds final) (consistent : view.Consistent)
    (follows : Follows deeds update between other) (moves : update.Moves path version)
    (insists : other.Insists path expected) (spared : ∀ deed ∈ between, ¬deed.Deletes path) :
    version < expected := by
  obtain ⟨earlier, later, rfl⟩ := follows
  have consistentAfter : View.Consistent update.after.get? :=
    update.consistent (leads.upTo.consistent consistent)
  -- The update has left the node one version further on, and no touch takes it back.
  obtain ⟨node, found, isNext⟩ := Option.map_eq_some_iff.1 moves.version_after
  obtain ⟨met, isMet, stillNext⟩ := leads.onFrom.upTo.persists consistentAfter
    (fun node => version + 1 ≤ node.version)
    (fun touched beyond => Int.le_trans beyond touched.version_le) spared found
    (Int.le_of_eq isNext.symm)
  have isExpected : met.version = expected := by
    have same := insists.version_eq
    rwa [isMet, Option.map_some, Option.some.injEq] at same
  exact Int.lt_of_add_one_le (isExpected ▸ stillNext)

theorem deletes_of_outdated (leads : Leads view deeds final) (consistent : view.Consistent)
    (follows : Follows deeds update between other) (moves : update.Moves path version)
    (insists : other.Insists path expected) (outdated : expected ≤ version) :
    ∃ deed ∈ between, deed.Deletes path := by
  by_contra spared
  push Not at spared
  exact absurd outdated
    (Int.not_le.2 (leads.lt_expected consistent follows moves insists spared))

/-- Deeds on a consistent view keep every update. -/
theorem keepsUpdates (leads : Leads view deeds final) (consistent : view.Consistent)
    (path : Path) : KeepsUpdates deeds path where
  moves := fun _ _ => Deed.Sets.moves
  outdated := leads.deletes_of_outdated consistent
  one_winner := by
    intro first second between expected follows sets _ insists insistsToo
    -- The first of the two is itself an update that outdates the version they insist on.
    obtain ⟨version, moves⟩ := sets.moves
    have isExpected : version = expected := by
      have same := insists.version_eq
      rwa [moves.version_before, Option.some.injEq] at same
    exact leads.deletes_of_outdated consistent follows moves insistsToo
      (Int.le_of_eq isExpected.symm)

end Leads

namespace Tree

/-- No update is lost in a series of batches from a reachable tree. -/
theorem Reachable.keeps_updates {tree : Tree} (reachable : tree.Reachable)
    (series : List (Limits × Batch)) :
    tree.Recounts series (tree.deeds series) ∧ ∀ path, KeepsUpdates (tree.deeds series) path := by
  have recounts := tree.recounts_deeds series
  exact ⟨recounts, recounts.leads.keepsUpdates reachable.consistent⟩

/-- In particular where two insist on version zero: the second is turned away, until the node
is deleted and created anew. -/
theorem keeps_updates_of_rivals :
    let tree := (Tree.fresh.execute {} [.create "/a" ByteArray.empty .persistent]).tree
    let rival : Operation := .setData "/a" "data".toUTF8 0
    let anew : Batch := [.check "/a" 1, .delete "/a" 1, .create "/a" ByteArray.empty .persistent]
    let series : List (Limits × Batch) := [({}, [rival]), (⟨4⟩, [rival]), (⟨8⟩, anew ++ [rival])]
    tree.Reachable ∧ tree.Recounts series (tree.deeds series) ∧
      (∀ path, KeepsUpdates (tree.deeds series) path) ∧
      (tree.executeSeries series).2.map Response.isCommitted = [true, false, true] ∧
      (tree.deeds series).map Deed.operation = rival :: anew ++ [rival] := by
  intro tree rival anew series
  have reachable : tree.Reachable :=
    Reachable.after .fresh {} [.create "/a" ByteArray.empty .persistent]
  obtain ⟨recounts, keeps⟩ := reachable.keeps_updates series
  exact ⟨reachable, recounts, keeps, by decide +kernel, by decide +kernel⟩

end Tree

end BatchTree
