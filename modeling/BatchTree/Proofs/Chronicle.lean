import BatchTree.Proofs.Reachability
import Mathlib.Data.Finset.Basic
import Mathlib.Data.List.DropRight

/-!
# The events as a chronicle

Those who watch the tree hear of nothing but events, and the events come from the log of a
batch, not from its images.  This module reads off the events alone which paths exist and
what the record of each of them must say, and shows that this is what the tree says.
-/

namespace BatchTree

@[simp] theorem Change.zxid_event (change : Change) (zxid : Zxid) :
    (change.event zxid).zxid = zxid := by
  cases change <;> rfl

namespace Event

variable (path : Path) (event : Event)

/-- Has the path been created? -/
def creates : Bool :=
  event.kind = .created ∧ event.path = path

/-- Has the data of the path been set? -/
def rewrites : Bool :=
  event.kind = .dataChanged ∧ event.path = path

/-- Has a child of the path been created or deleted? -/
def movesChild : Bool :=
  event.kind ≠ .dataChanged ∧ event.path.parent? = some path

/-- The paths that exist after an event, if the event can be true of those that existed
before it. -/
def retell? (standing : Finset Path) (event : Event) : Option (Finset Path) :=
  match event.kind with
  | .created =>
      if event.path ∉ standing ∧ ∃ parent ∈ standing, event.path.parent? = some parent then
        some (insert event.path standing)
      else
        none
  | .deleted =>
      if event.path ∈ standing ∧ event.path ≠ Path.root ∧
          ∀ other ∈ standing, other.parent? ≠ some event.path then
        some (standing.erase event.path)
      else
        none
  | .dataChanged =>
      if event.path ∈ standing then some standing else none

end Event

namespace Chronicle

/-- The paths that exist after all events, if each event can be true where it stands. -/
def standing? (events : List Event) : Option (Finset Path) :=
  events.foldlM Event.retell? {Path.root}

/-- The events since the path was last created, or all of them if it never was. -/
def since (path : Path) (events : List Event) : List Event :=
  events.rtakeWhile fun event => !event.creates path

/-- The batch of the last event that passes a test. -/
def stamp? (test : Event → Bool) (events : List Event) : Option Zxid :=
  (events.filter test).getLast?.map Event.zxid

/-- The record of a node is what the events say of its path. -/
structure Records (events : List Event) (path : Path) (node : Node) : Prop where
  czxid_eq : if path = Path.root then node.stat.czxid = 0
    else stamp? (·.creates path) events = some node.stat.czxid
  version_eq : node.stat.version = (since path events).countP (·.rewrites path)
  mzxid_eq : node.stat.mzxid =
    (stamp? (·.rewrites path) (since path events)).getD node.stat.czxid
  cversion_eq : node.stat.cversion = (since path events).countP (·.movesChild path)
  pzxid_eq : node.stat.pzxid =
    (stamp? (·.movesChild path) (since path events)).getD node.stat.czxid

/-- The events up to batch `now` tell of a view: replayed, they lead to its paths; they stand
in the order of their batches; and each node records what they say of it. -/
structure Tells (events : List Event) (now : Zxid) (view : View) : Prop where
  standing : ∃ standing, standing? events = some standing ∧
    ∀ path, path ∈ standing ↔ (view path).isSome
  ordered : events.Pairwise fun first second => first.zxid ≤ second.zxid
  current : ∀ event ∈ events, event.zxid ≤ now
  records : ∀ {path : Path} {node : Node}, view path = some node → Records events path node

section Append

variable {path : Path} {event : Event} (events : List Event)

theorem since_append_of_creates (creates : event.creates path = true) :
    since path (events ++ [event]) = [] := by
  rw [since, List.rtakeWhile_concat_neg]
  simp [creates]

theorem since_append (other : event.creates path = false) :
    since path (events ++ [event]) = since path events ++ [event] := by
  rw [since, List.rtakeWhile_concat_pos]
  · rfl
  · simp [other]

theorem stamp?_append (test : Event → Bool) :
    stamp? test (events ++ [event]) =
      if test event then some event.zxid else stamp? test events := by
  cases passes : test event <;> simp [stamp?, passes]

end Append

end Chronicle

/-- An event says of a node that outlasts it what has happened to the record. -/
structure Event.Marks (event : Event) (path : Path) (before after : Node) : Prop where
  notCreated : event.creates path = false
  czxid_eq : after.stat.czxid = before.stat.czxid
  version_eq : after.stat.version =
    before.stat.version + if event.rewrites path then 1 else 0
  mzxid_eq : after.stat.mzxid = if event.rewrites path then event.zxid else before.stat.mzxid
  cversion_eq : after.stat.cversion =
    before.stat.cversion + if event.movesChild path then 1 else 0
  pzxid_eq : after.stat.pzxid = if event.movesChild path then event.zxid else before.stat.pzxid

namespace Chronicle

variable {events : List Event} {event : Event} {path : Path} {before node : Node}
  {now : Zxid} {view after : View} {edit : Edit}

/-- A node that has just been created has no history. -/
theorem records_new (events : List Event) (creates : event.creates path = true) (notRoot : path ≠ Path.root)
    (data : Payload) : Records (events ++ [event]) path (.new data event.zxid) where
  czxid_eq := by
    rw [if_neg notRoot, stamp?_append, if_pos creates]
    rfl
  version_eq := by
    rw [since_append_of_creates events creates]
    rfl
  mzxid_eq := by
    rw [since_append_of_creates events creates]
    rfl
  cversion_eq := by
    rw [since_append_of_creates events creates]
    rfl
  pzxid_eq := by
    rw [since_append_of_creates events creates]
    rfl

/-- One more event, and the record has followed it. -/
theorem Records.append (records : Records events path before)
    (marks : event.Marks path before node) : Records (events ++ [event]) path node where
  czxid_eq := by
    have created := records.czxid_eq
    rw [stamp?_append, marks.notCreated, marks.czxid_eq]
    exact created
  version_eq := by
    rw [since_append events marks.notCreated, List.countP_append, marks.version_eq,
      records.version_eq]
    cases marked : event.rewrites path <;> simp [marked]
  mzxid_eq := by
    rw [since_append events marks.notCreated, stamp?_append, marks.mzxid_eq, marks.czxid_eq,
      records.mzxid_eq]
    cases event.rewrites path <;> simp
  cversion_eq := by
    rw [since_append events marks.notCreated, List.countP_append, marks.cversion_eq,
      records.cversion_eq]
    cases marked : event.movesChild path <;> simp [marked]
  pzxid_eq := by
    rw [since_append events marks.notCreated, stamp?_append, marks.pzxid_eq, marks.czxid_eq,
      records.pzxid_eq]
    cases event.movesChild path <;> simp

end Chronicle

namespace Event.Marks

variable {event : Event} {path parent : Path} {segment : Segment} {node : Node}
  {names : Names} {now : Zxid} {data : Payload} {kind : EventKind}

theorem untouched (other : event.path ≠ path) (unmoved : event.movesChild path = false) :
    event.Marks path node node := by
  constructor <;> simp [creates, rewrites, other, unmoved]

theorem setData : Event.Marks ⟨path, .dataChanged, now⟩ path node (node.setData data now) := by
  constructor <;> simp [creates, rewrites, movesChild, Node.setData, Stat.touchData]

/-- The creation and the deletion of a child mark the children. -/
theorem touchChildren (moves : kind ≠ .dataChanged) (count : Nat) :
    Event.Marks ⟨parent.extend segment, kind, now⟩ parent node
      { node with children := names, stat := node.stat.touchChildren now count } := by
  have notSelf := Path.extend_ne_self parent segment
  constructor <;> simp [creates, rewrites, movesChild, Stat.touchChildren, moves, notSelf]

end Event.Marks

namespace View

variable {now : Zxid} {view after : View} {edit : Edit} {path : Path} {node : Node}

/-- Each node found after an edit is new and its creation is told of, or it outlasts the
edit and what happened to it is told of. -/
theorem Step.created_or_marks (step : Step now view edit after) (consistent : view.Consistent)
    (found : after path = some node) :
    (((edit.change after).event now).creates path = true ∧ path ≠ Path.root ∧
        ∃ data, node = .new data now) ∨
      ∃ before, view path = some before ∧
        ((edit.change after).event now).Marks path before node := by
  cases step with
  | @create parent segment above data standing free =>
      by_cases created : path = parent.extend segment
      · subst created
        rw [withCreated_self, Option.some.injEq] at found
        refine .inl ⟨?_, Path.extend_ne_root parent segment, data, found.symm⟩
        simp [Edit.change, Change.event, Event.creates]
      · by_cases touched : path = parent
        · subst touched
          rw [withCreated_parent, Option.some.injEq] at found
          subst found
          refine .inr ⟨above, standing, ?_⟩
          exact .touchChildren (by decide) _
        · rw [withCreated_of_ne view touched created] at found
          refine .inr ⟨node, found, .untouched (Ne.symm created) ?_⟩
          simp [Edit.change, Change.event, Event.movesChild, Ne.symm touched]
  | @delete parent segment above gone standing taken _ =>
      by_cases deleted : path = parent.extend segment
      · subst deleted
        rw [withDeleted_self] at found
        cases found
      · by_cases touched : path = parent
        · subst touched
          rw [withDeleted_parent, Option.some.injEq] at found
          subst found
          refine .inr ⟨above, standing, ?_⟩
          have named : segment.name ∈ above.children := by
            rw [consistent.name_mem_children_iff standing, taken]
            rfl
          rw [Node.withoutChild_of_mem named]
          exact .touchChildren (by decide) _
        · rw [withDeleted_of_ne view touched deleted] at found
          refine .inr ⟨node, found, .untouched (Ne.symm deleted) ?_⟩
          simp [Edit.change, Change.event, Event.movesChild, Ne.symm touched]
  | @setData other before data taken =>
      by_cases touched : path = other
      · subst touched
        rw [withData_self, Option.some.injEq] at found
        subst found
        exact .inr ⟨before, taken, .setData⟩
      · rw [withData_of_ne view touched] at found
        refine .inr ⟨node, found, .untouched (Ne.symm touched) ?_⟩
        simp [Edit.change, Change.event, Event.movesChild]

/-- An event can be true of the paths that the view shows before the edit, and leads to
those that it shows afterwards. -/
theorem Step.retell? (step : Step now view edit after) (consistent : view.Consistent)
    {standing : Finset Path} (isStanding : ∀ path, path ∈ standing ↔ (view path).isSome) :
    ∃ left, ((edit.change after).event now).retell? standing = some left ∧
      ∀ path, path ∈ left ↔ (after path).isSome := by
  cases step with
  | @create parent segment above data found free =>
      refine ⟨insert (parent.extend segment) standing, ?_, ?_⟩
      · apply if_pos
        constructor
        · intro member
          have present := (isStanding _).1 member
          change (view (parent.extend segment)).isSome at present
          rw [free] at present
          cases present
        · refine ⟨parent, (isStanding parent).2 ?_, Path.parent?_extend parent segment⟩
          rw [found]
          rfl
      · intro path
        rw [Finset.mem_insert, isStanding, isSome_withCreated found]
  | @delete parent segment above node found taken bare =>
      refine ⟨standing.erase (parent.extend segment), ?_, ?_⟩
      · apply if_pos
        refine ⟨(isStanding _).2 ?_, Path.extend_ne_root parent segment, ?_⟩
        · change (view (parent.extend segment)).isSome
          rw [taken]
          rfl
        · intro other member isParent
          obtain ⟨name, rfl⟩ := Path.parent?_eq_some_iff.1 isParent
          have present := (isStanding _).1 member
          change (view ((parent.extend segment).extend name)).isSome at present
          rw [consistent.extend_eq_none_of_bare taken bare name] at present
          cases present
      · intro path
        rw [Finset.mem_erase, isStanding, isSome_withDeleted found]
  | @setData path node data taken =>
      refine ⟨standing, ?_, ?_⟩
      · apply if_pos
        apply (isStanding path).2
        rw [taken]
        rfl
      · intro other
        rw [isStanding, isSome_withData taken]

end View

namespace Chronicle

variable {events : List Event} {now : Zxid} {view after : View} {edit : Edit}

theorem tells_fresh : Tells [] 0 Tree.fresh.get? where
  standing := by
    refine ⟨{Path.root}, rfl, ?_⟩
    intro path
    rw [Finset.mem_singleton, Tree.get?_fresh]
    split <;> simp [*]
  ordered := .nil
  current := by
    intro event member
    cases member
  records := by
    intro path node found
    rw [Tree.get?_fresh] at found
    split at found
    · rename_i isRoot
      cases found
      subst isRoot
      exact ⟨if_pos rfl ▸ rfl, rfl, rfl, rfl, rfl⟩
    · cases found

/-- The next batch begins. -/
theorem Tells.advance (tells : Tells events now view) : Tells events (now + 1) view :=
  { tells with
    current := fun event member => Int.le_add_one (tells.current event member) }

/-- One more edit, and the event that tells of it. -/
theorem Tells.step (tells : Tells events now view) (consistent : view.Consistent)
    (step : View.Step now view edit after) :
    Tells (events ++ [(edit.change after).event now]) now after where
  standing := by
    obtain ⟨standing, isRetold, isStanding⟩ := tells.standing
    obtain ⟨left, retold, isLeft⟩ := step.retell? consistent isStanding
    refine ⟨left, ?_, isLeft⟩
    rw [standing?] at isRetold ⊢
    rw [List.foldlM_append, isRetold]
    exact (bind_pure _).trans retold
  ordered := by
    rw [List.pairwise_append]
    refine ⟨tells.ordered, List.pairwise_singleton _ _, ?_⟩
    intro event earlier last isLast
    rw [List.mem_singleton.1 isLast, Change.zxid_event]
    exact tells.current event earlier
  current := by
    intro event member
    rcases List.mem_append.1 member with earlier | last
    · exact tells.current event earlier
    · rw [List.mem_singleton.1 last, Change.zxid_event]
  records := by
    intro path node found
    rcases step.created_or_marks consistent found with
      ⟨creates, notRoot, data, rfl⟩ | ⟨before, standing, marks⟩
    · have records := records_new events creates notRoot data
      rwa [Change.zxid_event] at records
    · exact (tells.records standing).append marks

/-- A batch, and the events that tell of it. -/
theorem Tells.execute {tree : Tree} (tells : Tells events tree.zxid tree.get?)
    (reachable : tree.Reachable) (limits : Limits) (batch : Batch) :
    let effect := tree.execute limits batch
    Tells (events ++ effect.events) effect.tree.zxid effect.tree.get? := by
  dsimp only
  generalize isEffect : tree.execute limits batch = effect
  have ends : tree.Ends limits batch effect := isEffect ▸ Tree.ends_execute ..
  cases ends with
  | empty => exact (List.append_nil events).symm ▸ tells
  | aborted => exact (List.append_nil events).symm ▸ tells
  | refused => exact (List.append_nil events).symm ▸ tells
  | @committed _ overlay replies _ success _ =>
      have accepts := Overlay.acceptsAll_of_validateAll success
      have both : View.Consistent overlay.get? ∧
          Tells (events ++ overlay.log.map (·.event overlay.zxid)) overlay.zxid overlay.get? := by
        apply accepts.preserves fun overlay => View.Consistent overlay.get? ∧
          Tells (events ++ overlay.log.map (·.event overlay.zxid)) overlay.zxid overlay.get?
        · refine ⟨reachable.consistent, ?_⟩
          exact (List.append_nil events).symm ▸ tells.advance
        · intro before staged edit holds _ stages
          refine ⟨holds.1.step stages.step, ?_⟩
          rw [stages.log_eq, stages.zxid_eq, List.map_append, ← List.append_assoc]
          exact holds.2.step holds.1 stages.step
      have base : overlay.base = tree := accepts.base_eq
      rw [← base]
      change Tells _ overlay.zxid (overlay.base.apply overlay.toChangeSet).get?
      rw [Overlay.get?_apply_toChangeSet]
      exact both.2

end Chronicle

end BatchTree
