import BatchTree.Proofs.Stamps

/-!
# The footprint of a batch

All that an operation can read or write are the path that it is about and the parent of that
path, as long as no counter outgrows its record (`Overlay.readsWithin_footprint`).  This can
be told from the operation alone, before it is judged.
-/

namespace BatchTree

namespace Path

/-- The counters that fit into a record. -/
def counters : Set Int :=
  {counter | -2147483648 ≤ counter ∧ counter ≤ 2147483647}

/-- The counter still fits into a record when it has been raised `count` times. -/
structure LeavesRoom (count : Nat) (counter : Int) : Prop where
  nonneg : 0 ≤ counter
  fits : counter + count ≤ 2147483647

instance (count : Nat) (counter : Int) : Decidable (LeavesRoom count counter) :=
  decidable_of_iff (0 ≤ counter ∧ counter + count ≤ 2147483647)
    ⟨fun room => ⟨room.1, room.2⟩, fun room => ⟨room.nonneg, room.fits⟩⟩

namespace LeavesRoom

variable {count : Nat} {counter later : Int}

theorem mem_counters (room : LeavesRoom count counter) : counter ∈ counters := by
  have nonneg := room.nonneg
  have fits := room.fits
  exact ⟨by omega, by omega⟩

theorem zero (room : LeavesRoom count counter) : LeavesRoom count 0 := by
  have nonneg := room.nonneg
  have fits := room.fits
  exact ⟨Int.le_refl 0, by omega⟩

theorem raised (room : LeavesRoom (count + 1) counter) (grown : counter ≤ later)
    (byOne : later ≤ counter + 1) : LeavesRoom count later := by
  have nonneg := room.nonneg
  have fits := room.fits
  exact ⟨by omega, by omega⟩

theorem less (room : LeavesRoom (count + 1) counter) : LeavesRoom count counter :=
  room.raised (Int.le_refl counter) (Int.le_add_one (Int.le_refl counter))

end LeavesRoom

end Path

namespace Operation

/-- The operation can be about the path.  A sequential create can be about every path that
a counter makes of its stem; an operation whose path is malformed is about none. -/
def Targets : Operation → Path → Prop
  | create text _ .persistent, path => Path.parse text = .ok path
  | create text _ .sequential, path =>
      ∃ counter ∈ Path.counters, Path.withSequence text counter = .ok path
  | delete text _, path => Path.parse text = .ok path
  | setData text _ _, path => Path.parse text = .ok path
  | check text _, path => Path.parse text = .ok path

/-- The paths that the operation can be about, with their parents. -/
def footprint (operation : Operation) : Set Path :=
  {path | ∃ target, operation.Targets target ∧ (path = target ∨ target.parent? = some path)}

variable {operation : Operation} {target parent : Path} {text : String} {data : Payload}
  {mode : CreateMode}

theorem Targets.mem_footprint (targets : operation.Targets target) :
    target ∈ operation.footprint :=
  ⟨target, targets, .inl rfl⟩

theorem Targets.parent_mem_footprint (targets : operation.Targets target)
    (isParent : target.parent? = some parent) : parent ∈ operation.footprint :=
  ⟨target, targets, .inr isParent⟩

/-- The parent under which a create looks is in the footprint, whatever its counter. -/
theorem parent_mem_footprint_create {requested : Path}
    (isRequested : Overlay.requestedPath text mode = .ok requested)
    (isParent : requested.parent? = some parent) :
    parent ∈ (create text data mode).footprint := by
  cases mode with
  | persistent =>
      have targets : (create text data .persistent).Targets requested :=
        Overlay.readPath_eq_ok_iff.1 isRequested
      exact targets.parent_mem_footprint isParent
  | sequential =>
      obtain ⟨other, segment, rfl, every⟩ := Overlay.requestedPath_sequential_ok isRequested
      rw [Path.parent?_extend, Option.some.injEq] at isParent
      subst isParent
      obtain ⟨named, read⟩ := every 0
      have targets : (create text data .sequential).Targets (other.extend named) :=
        ⟨0, ⟨by decide, by decide⟩, read⟩
      exact targets.parent_mem_footprint (Path.parent?_extend other named)

/-- What a create names is in its footprint if the counter of the parent fits. -/
theorem targets_of_targetPath {requested : Path} {above : Node}
    (isRequested : Overlay.requestedPath text mode = .ok requested)
    (isTarget : Overlay.targetPath text mode requested above = .ok target)
    (fits : above.stat.cversion ∈ Path.counters) : (create text data mode).Targets target := by
  cases mode with
  | persistent =>
      cases isTarget
      exact Overlay.readPath_eq_ok_iff.1 isRequested
  | sequential =>
      exact ⟨above.stat.cversion, fits, Overlay.targetPath_sequential_eq_ok_iff.1 isTarget⟩

/-- The parent of every path that the operation can be about. -/
def parent? : Operation → Option Path
  | create text _ mode => (Overlay.requestedPath text mode).toOption.bind Path.parent?
  | delete text _ => (Path.parse text).toOption.bind Path.parent?
  | setData text _ _ => (Path.parse text).toOption.bind Path.parent?
  | check text _ => (Path.parse text).toOption.bind Path.parent?

theorem Targets.parent?_eq (targets : operation.Targets target) :
    operation.parent? = target.parent? := by
  have ofParse {text : String} (read : Path.parse text = .ok target) :
      (Path.parse text).toOption.bind Path.parent? = target.parent? := by
    rw [read]
    rfl
  cases operation with
  | create text data mode =>
      cases mode with
      | persistent =>
          rw [parent?, Overlay.requestedPath, Overlay.readPath_of_ok targets]
          rfl
      | sequential =>
          obtain ⟨counter, -, read⟩ := targets
          obtain ⟨requested, isRequested⟩ := Overlay.exists_requestedPath_sequential read
          obtain ⟨parent, segment, rfl, every⟩ := Overlay.requestedPath_sequential_ok isRequested
          obtain ⟨named, same⟩ := every counter
          rw [read, Except.ok.injEq] at same
          subst same
          rw [parent?, isRequested, Path.parent?_extend]
          exact Path.parent?_extend parent segment
  | delete text version => exact ofParse targets
  | setData text data version => exact ofParse targets
  | check text version => exact ofParse targets

end Operation

namespace Batch

/-- The footprints of all operations. -/
def footprint (batch : Batch) : Set Path :=
  {path | ∃ operation ∈ batch, path ∈ operation.footprint}

/-- The footprints have no path in common. -/
def IndependentOf (batch other : Batch) : Prop :=
  ∀ path ∈ batch.footprint, path ∉ other.footprint

theorem IndependentOf.symm {batch other : Batch} (independent : batch.IndependentOf other) :
    other.IndependentOf batch :=
  fun path mem memToo => independent path memToo mem

/-- Every operation can only be about paths one step below the parent. -/
def WorksBelow (batch : Batch) (parent : Path) : Prop :=
  ∀ operation ∈ batch, operation.parent? = some parent

instance (batch : Batch) (parent : Path) : Decidable (batch.WorksBelow parent) :=
  inferInstanceAs (Decidable (∀ operation ∈ batch, operation.parent? = some parent))

variable {batch other : Batch} {parent parentToo path : Path}

theorem WorksBelow.mem_footprint (below : batch.WorksBelow parent)
    (mem : path ∈ batch.footprint) : path = parent ∨ path.parent? = some parent := by
  obtain ⟨operation, member, target, targets, reached⟩ := mem
  have above : target.parent? = some parent :=
    targets.parent?_eq.symm.trans (below operation member)
  rcases reached with rfl | isParent
  · exact .inr above
  · rw [above, Option.some.injEq] at isParent
    exact .inl isParent.symm

/-- Batches that work below two parents are independent, unless the parents are the same or
one is right below the other. -/
theorem WorksBelow.independent (below : batch.WorksBelow parent)
    (belowToo : other.WorksBelow parentToo) (different : parent ≠ parentToo)
    (apart : parent.parent? ≠ some parentToo) (apartToo : parentToo.parent? ≠ some parent) :
    batch.IndependentOf other := by
  intro path mem memToo
  rcases below.mem_footprint mem with rfl | isParent
  · rcases belowToo.mem_footprint memToo with same | isParent
    · exact different same
    · exact apart isParent
  · rcases belowToo.mem_footprint memToo with rfl | isParentToo
    · exact apartToo isParent
    · rw [isParent, Option.some.injEq] at isParentToo
      exact different isParentToo

end Batch

namespace View

/-- No counter of children has outgrown its record. -/
def InRange (view : View) : Prop :=
  ∀ path, ∀ node ∈ view path, node.stat.cversion ∈ Path.counters

variable {view after : View} {now : Zxid} {edit : Edit}

/-- No counter can outgrow its record within `count` edits. -/
structure HasRoom (count : Nat) (view : View) : Prop where
  consistent : view.Consistent
  leavesRoom : ∀ path, ∀ node ∈ view path, Path.LeavesRoom count node.stat.cversion

namespace HasRoom

variable {count : Nat}

theorem inRange (room : HasRoom count view) : view.InRange :=
  fun path node found => (room.leavesRoom path node found).mem_counters

theorem less (room : HasRoom (count + 1) view) : HasRoom count view where
  consistent := room.consistent
  leavesRoom path node found := (room.leavesRoom path node found).less

theorem step (room : HasRoom (count + 1) view) (step : Step now view edit after) :
    HasRoom count after where
  consistent := room.consistent.step step
  leavesRoom := by
    intro path node found
    rcases step.new_or_touched room.consistent found with
      ⟨-, data, -, rfl⟩ | ⟨before, standing, touched⟩
    · -- A new counter has as much room as that of the root, at least.
      obtain ⟨root, isRoot⟩ := Option.isSome_iff_exists.1 room.consistent.root_exists
      exact (room.leavesRoom Path.root root isRoot).less.zero
    · exact (room.leavesRoom path before standing).raised touched.cversion_le
        touched.cversion_le_succ

end HasRoom

end View

namespace Overlay

/-- No counter outgrows its record while the batch is judged. -/
def StaysInRange (limits : Limits) (overlay : Overlay) : Batch → Prop
  | [] => View.InRange overlay.get?
  | operation :: rest =>
      View.InRange overlay.get? ∧
        ∀ staged reply, overlay.validate limits operation = .ok (staged, reply) →
          staged.StaysInRange limits rest

/-- A batch stays in range if no counter is nearly used up. -/
theorem staysInRange_of_hasRoom {limits : Limits} {overlay : Overlay} {batch : Batch}
    (room : View.HasRoom batch.length overlay.get?) : overlay.StaysInRange limits batch := by
  induction batch generalizing overlay with
  | nil => exact room.inRange
  | cons operation rest ih =>
      refine ⟨room.inRange, ?_⟩
      intro staged reply passed
      apply ih
      rcases (accepts_of_validate passed).stages_or_eq with ⟨edit, -, stages⟩ | same
      · exact room.step stages.step
      · rw [same]
        exact room.less

variable {limits : Limits} {overlay : Overlay} {operation : Operation} {path : Path}

/-- What an operation reads is in its footprint. -/
theorem mem_footprint_of_reads (inRange : View.InRange overlay.get?)
    (reads : overlay.Reads operation path) : path ∈ operation.footprint := by
  cases operation with
  | create text data mode =>
      obtain ⟨requested, parent, isRequested, isParent, rfl | ⟨above, found, isTarget⟩⟩ := reads
      · exact Operation.parent_mem_footprint_create isRequested isParent
      · have targets : (Operation.create text data mode).Targets path :=
          Operation.targets_of_targetPath isRequested isTarget (inRange parent above found)
        exact targets.mem_footprint
  | delete text version => exact reads
  | setData text data version => exact ⟨path, reads, .inl rfl⟩
  | check text version => exact ⟨path, reads, .inl rfl⟩

/-- What a batch reads is in its footprint. -/
theorem readsWithin_footprint {paths : Set Path} {batch : Batch}
    (bounded : overlay.StaysInRange limits batch) (within : batch.footprint ⊆ paths) :
    overlay.ReadsWithin limits paths batch := by
  induction batch generalizing overlay with
  | nil => trivial
  | cons operation rest ih =>
      have restWithin : Batch.footprint rest ⊆ paths := by
        rintro path ⟨other, member, mem⟩
        exact within ⟨other, List.mem_cons_of_mem _ member, mem⟩
      refine ⟨fun path reads => ?_, fun staged reply passed => ?_⟩
      · exact within ⟨operation, List.mem_cons_self, mem_footprint_of_reads bounded.1 reads⟩
      · exact ih (bounded.2 staged reply passed) restWithin

end Overlay

end BatchTree
