import BatchTree.Proofs.Bookkeeping
import BatchTree.Proofs.Deeds
import BatchTree.Proofs.Numerals
import Mathlib.Data.List.Sort

/-!
# Sequential names

A sequential create takes its counter from the parent, which counts the changes to its
children and is never set back while it stands.  So the paths that sequential creates make
below one parent are distinct, and those of one stem are made in ascending order.  A counter
is free for the same reason: every child that was made by one is behind the parent's, and
only a persistent create can have taken the next one (`Traced`).
-/

namespace BatchTree

namespace Deed

variable {deed : Deed} {parent path : Path} {stem : String} {mode : CreateMode}

/-- The deed makes the node at `path`, for which `text` was asked. -/
structure Makes (deed : Deed) (mode : CreateMode) (text : String) (path : Path) :
    Prop where
  asked : ∃ data, deed.operation = .create text data mode
  answered : deed.reply = .created path.text

theorem Makes.names (makes : deed.Makes mode stem path) : deed.before.Names stem mode path := by
  obtain ⟨limits, before, operation, after, reply, accepts⟩ := deed
  obtain ⟨⟨data, rfl⟩, rfl⟩ := makes
  generalize isReply : Reply.created path.text = reply at accepts
  cases accepts with
  | create _ names _ =>
      rw [Reply.created.injEq] at isReply
      rwa [Path.text_injective isReply]

theorem Makes.stages (makes : deed.Makes mode stem path) :
    ∃ data, deed.before.Stages (.create path data) deed.after := by
  obtain ⟨limits, before, operation, after, reply, accepts⟩ := deed
  obtain ⟨⟨data, rfl⟩, rfl⟩ := makes
  generalize isReply : Reply.created path.text = reply at accepts
  cases accepts with
  | create _ _ stages =>
      rw [Reply.created.injEq] at isReply
      rw [Path.text_injective isReply]
      exact ⟨data, stages⟩

/-- A deed that makes a node by a counter moves the counter on. -/
theorem Makes.counter (makes : deed.Makes .sequential stem path)
    (isParent : path.parent? = some parent) :
    ∃ above later, deed.before.get? parent = some above ∧
      Path.withSequence stem above.stat.cversion = .ok path ∧
      deed.after.get? parent = some later ∧ later.stat.cversion = above.stat.cversion + 1 := by
  obtain ⟨data, stages⟩ := makes.stages
  cases makes.names with
  | @sequential other segment above found read =>
      rw [Path.parent?_extend, Option.some.injEq] at isParent
      subst isParent
      obtain ⟨aboveToo, foundToo, stamped⟩ := stages.step.parent_of_create
      rw [found, Option.some.injEq] at foundToo
      subst foundToo
      exact ⟨above, _, found, read, stamped, rfl⟩

/-- The stem and the path of a node that the deed makes below `parent` by a counter. -/
def numbered? (parent : Path) (deed : Deed) : Option (String × Path) :=
  match deed.operation, deed.reply with
  | .create stem _ .sequential, .created text =>
      match Path.parse text with
      | .ok path => if path.parent? = some parent then some (stem, path) else none
      | .error _ => none
  | _, _ => none

theorem numbered?_eq_some_iff :
    deed.numbered? parent = some (stem, path) ↔
      deed.Makes .sequential stem path ∧ path.parent? = some parent := by
  constructor
  · intro numbered
    unfold numbered? at numbered
    split at numbered
    · rename_i other data text asked answered
      split at numbered
      · rename_i read
        split at numbered
        · rename_i isParent
          rw [Option.some.injEq, Prod.mk.injEq] at numbered
          obtain ⟨rfl, rfl⟩ := numbered
          exact ⟨⟨⟨data, asked⟩, by rw [answered, Path.text_of_parse read]⟩, isParent⟩
        · cases numbered
      · cases numbered
    · cases numbered
  · rintro ⟨⟨⟨data, asked⟩, answered⟩, isParent⟩
    simp only [numbered?, asked, answered, Path.parse_text, if_pos isParent]

end Deed

/-- The nodes that deeds make below `parent` by a counter, with their stems, in the order in
which they are made. -/
def numbered (parent : Path) (deeds : List Deed) : List (String × Path) :=
  deeds.filterMap (Deed.numbered? parent)

/-- The nodes among them that have the given stem. -/
def numberedAs (stem : String) (parent : Path) (deeds : List Deed) : List Path :=
  ((numbered parent deeds).filter fun made => made.1 = stem).map Prod.snd

/-- No deed meets a counter at `parent` that outgrows the width of a numeral. -/
def WithinWidth (parent : Path) (deeds : List Deed) : Prop :=
  ∀ deed ∈ deeds, ∀ above ∈ deed.before.get? parent,
    above.stat.cversion < 10 ^ Path.sequenceWidth

/-- The view is consistent, and no node counts less than no change of its children. -/
structure View.Counted (view : View) : Prop where
  consistent : view.Consistent
  nonneg : ∀ {path : Path} {node : Node}, view path = some node → 0 ≤ node.stat.cversion

theorem View.Counted.step {view after : View} {now : Zxid} {edit : Edit} (counted : view.Counted)
    (step : View.Step now view edit after) : after.Counted where
  consistent := counted.consistent.step step
  nonneg := by
    intro path node found
    rcases step.new_or_touched counted.consistent found with
      ⟨-, data, -, rfl⟩ | ⟨before, standing, touched⟩
    · exact Int.le_refl 0
    · exact Int.le_trans (counted.nonneg standing) touched.cversion_le

theorem Deed.counted (deed : Deed) (initially : View.Counted deed.before.get?) :
    View.Counted deed.after.get? :=
  deed.preserves View.Counted (fun counted step => counted.step step) initially

theorem counted_fresh : View.Counted Tree.fresh.get? where
  consistent := Tree.consistent_fresh
  nonneg := by
    intro path node found
    rw [Tree.get?_fresh] at found
    split at found
    · cases found
      exact Int.le_refl 0
    · cases found

/-- While `parent` is not deleted, no two nodes are made below it by the same counter, and
those of one stem are made in ascending order. -/
structure Enumerates (parent : Path) (life : List Deed) : Prop where
  distinct : ((numbered parent life).map Prod.snd).Nodup
  ascending : ∀ stem,
    ((numberedAs stem parent life).map fun path => Text.bytes path.text).Pairwise (· < ·)

section Lives

variable {view final : View} {life : List Deed} {parent : Path}

theorem Leads.counted {deeds : List Deed} (leads : Leads view deeds final)
    (initially : view.Counted) : final.Counted :=
  leads.preserves View.Counted (fun counted step => counted.step step) initially

/-- Counters are used up in order. -/
theorem Leads.numbered_pairwise (leads : Leads view life final) (counted : view.Counted)
    (spared : ∀ deed ∈ life, ¬deed.Deletes parent) (within : WithinWidth parent life) :
    (numbered parent life).Pairwise fun first second =>
      first.2 ≠ second.2 ∧ (first.1 = second.1 → first.2.text < second.2.text) := by
  induction leads with
  | nil => exact .nil
  | @cons _ _ deed others meets rest ih =>
      subst meets
      have countedAfter : View.Counted deed.after.get? := deed.counted counted
      have othersSpared := fun other member => spared other (List.mem_cons_of_mem deed member)
      have othersWithin := fun other member => within other (List.mem_cons_of_mem deed member)
      have pairwise := ih countedAfter othersSpared othersWithin
      rw [numbered, List.filterMap_cons]
      split
      · exact pairwise
      · rename_i first isFirst
        refine List.pairwise_cons.2 ⟨?_, pairwise⟩
        intro second isSecond
        obtain ⟨other, member, isOther⟩ := List.mem_filterMap.1 isSecond
        obtain ⟨makes, isParent⟩ := Deed.numbered?_eq_some_iff.1 isFirst
        obtain ⟨makesToo, isParentToo⟩ := Deed.numbered?_eq_some_iff.1 isOther
        obtain ⟨above, later, found, read, foundLater, next⟩ := makes.counter isParent
        obtain ⟨met, _, isMet, readToo, -, -⟩ := makesToo.counter isParentToo
        obtain ⟨earlier, beyond, parts⟩ := List.append_of_mem member
        subst parts
        -- Until the other deed the counter has not gone back behind the next one.
        obtain ⟨stands, isStanding, notBack⟩ := rest.upTo.persists countedAfter.consistent
          (fun node => above.stat.cversion + 1 ≤ node.stat.cversion)
          (fun touched behind => Int.le_trans behind touched.cversion_le)
          (fun deed inEarlier => othersSpared deed (List.mem_append_left _ inEarlier))
          foundLater (Int.le_of_eq next.symm)
        rw [isMet, Option.some.injEq] at isStanding
        subst isStanding
        have counts : Path.Counts above.stat.cversion :=
          ⟨counted.nonneg found, within deed List.mem_cons_self above found⟩
        have countsToo : Path.Counts met.stat.cversion :=
          ⟨(rest.upTo.counted countedAfter).nonneg isMet, othersWithin other member met isMet⟩
        have less := Int.lt_of_add_one_le notBack
        refine ⟨Path.withSequence_ne counts countsToo less read readToo, ?_⟩
        intro sameStem
        exact Path.text_lt_of_withSequence counts countsToo less read (sameStem ▸ readToo)

theorem Leads.enumerates (leads : Leads view life final) (counted : view.Counted)
    (spared : ∀ deed ∈ life, ¬deed.Deletes parent) (within : WithinWidth parent life) :
    Enumerates parent life where
  distinct := by
    rw [List.Nodup, List.pairwise_map]
    exact (leads.numbered_pairwise counted spared within).imp And.left
  ascending := by
    intro stem
    rw [numberedAs, List.map_map, List.pairwise_map, List.pairwise_filter]
    refine (leads.numbered_pairwise counted spared within).imp ?_
    intro first second ordered isFirst isSecond
    have sameStem : first.1 = second.1 :=
      (of_decide_eq_true isFirst).trans (of_decide_eq_true isSecond).symm
    exact Text.bytes_lt_iff.2 (ordered.2 sameStem)

theorem parent?_of_mem_numberedAs {stem : String} {path : Path}
    (member : path ∈ numberedAs stem parent life) : path.parent? = some parent := by
  obtain ⟨made, isMade, rfl⟩ := List.mem_map.1 member
  obtain ⟨deed, -, numbered⟩ := List.mem_filterMap.1 (List.mem_filter.1 isMade).1
  exact (Deed.numbered?_eq_some_iff.1 numbered).2

theorem Enumerates.names_ascending (enumerates : Enumerates parent life) (stem : String) :
    ((numberedAs stem parent life).map Path.name).Pairwise (· < ·) := by
  have ascending := enumerates.ascending stem
  rw [List.pairwise_map] at ascending ⊢
  refine ascending.imp_of_mem ?_
  intro first second isFirst isSecond less
  obtain ⟨one, rfl⟩ := Path.parent?_eq_some_iff.1 (parent?_of_mem_numberedAs isFirst)
  obtain ⟨two, rfl⟩ := Path.parent?_eq_some_iff.1 (parent?_of_mem_numberedAs isSecond)
  rw [Path.name_extend, Path.name_extend]
  exact Path.name_lt_of_text_lt (Text.bytes_lt_iff.1 less)

/-- The nodes of one stem are listed in the order in which they were made, as far as they are
still there. -/
theorem Enumerates.listed (enumerates : Enumerates parent life) (stem : String) (node : Node) :
    let names := (numberedAs stem parent life).map Path.name
    node.childNames.filter (· ∈ names) = names.filter node.hasChild := by
  intro names
  have listed : node.childNames.Pairwise (· < ·) := by
    have ascending := node.childNames_ascending
    rw [List.pairwise_map] at ascending
    exact ascending.imp Text.bytes_lt_iff.1
  apply (listed.filter _).eq_of_mem_iff ((enumerates.names_ascending stem).filter _)
  intro name
  rw [List.mem_filter, List.mem_filter, Node.childNames, Std.ExtTreeSet.mem_toList,
    Node.hasChild_iff, decide_eq_true_iff, and_comm]

end Lives

/-! ## Counters that are taken -/

/-- The node at `path` is the one that `maker` has made: it was not deleted since. -/
def MadeBy (deeds : List Deed) (maker : Deed) (path : Path) : Prop :=
  ∃ earlier later, deeds = earlier ++ maker :: later ∧ ∀ deed ∈ later, ¬deed.Deletes path

/-- Every node but the root was made by one of the deeds; and if by a counter, then by one
that the parent has passed. -/
structure Traced (deeds : List Deed) (view : View) : Prop where
  counted : view.Counted
  maker : ∀ {parent : Path} {segment : Segment} {above : Node}, view parent = some above →
    (view (parent.extend segment)).isSome →
    ∃ maker mode text, MadeBy deeds maker (parent.extend segment) ∧
      maker.Makes mode text (parent.extend segment) ∧
      (mode = .sequential → ∃ counter, 0 ≤ counter ∧ counter < above.stat.cversion ∧
        Path.withSequence text counter = .ok (parent.extend segment))

section Tracing

variable {deeds done : List Deed} {deed maker : Deed} {view final : View}
  {path parent : Path} {segment : Segment} {above : Node}

theorem MadeBy.concat (made : MadeBy deeds maker path) (spares : ¬deed.Deletes path) :
    MadeBy (deeds ++ [deed]) maker path := by
  obtain ⟨earlier, later, rfl, spared⟩ := made
  refine ⟨earlier, later ++ [deed], by simp, ?_⟩
  intro other member
  rcases List.mem_append.1 member with inLater | last
  · exact spared other inLater
  · rwa [List.mem_singleton.1 last]

theorem traced_fresh : Traced ([] : List Deed) Tree.fresh.get? where
  counted := counted_fresh
  maker := by
    intro parent segment above _ present
    rw [Tree.get?_fresh, if_neg (Path.extend_ne_root parent segment)] at present
    cases present

/-- What a deed deletes is gone afterwards. -/
theorem Deed.missing_of_deletes (deletes : deed.Deletes path) : deed.after.get? path = none := by
  obtain ⟨limits, before, operation, after, reply, accepts⟩ := deed
  obtain ⟨isKind, names⟩ := deletes
  cases accepts with
  | create => cases isKind
  | setData => cases isKind
  | check => cases isKind
  | delete read _ _ stages =>
      obtain rfl := Except.ok.inj (read.symm.trans names)
      exact stages.step.missing_of_delete

/-- A node that a deed leaves was made by it, or stood before and was touched at most once. -/
theorem Deed.makes_or_touched {node : Node} (consistent : View.Consistent deed.before.get?)
    (found : deed.after.get? path = some node) :
    (∃ mode text, deed.Makes mode text path) ∨
      ∃ now edit before, deed.before.get? path = some before ∧ before.Touched now edit node := by
  obtain ⟨limits, before, operation, after, reply, accepts⟩ := deed
  have staged {edit : Edit} (stages : before.Stages edit after)
      (other : ∀ data, edit ≠ .create path data) :
      ∃ now edit standing, before.get? path = some standing ∧ standing.Touched now edit node := by
    rcases stages.step.new_or_touched consistent found with
      ⟨-, data, isCreate, -⟩ | ⟨standing, stood, touched⟩
    · exact absurd isCreate (other data)
    · exact ⟨_, _, standing, stood, touched⟩
  cases accepts with
  | @create text data mode target _ _ _ stages =>
      by_cases same : target = path
      · subst same
        exact .inl ⟨mode, text, ⟨data, rfl⟩, rfl⟩
      · exact .inr (staged stages fun data created => same (Edit.create.inj created).1)
  | delete _ _ _ stages => exact .inr (staged stages fun _ => Edit.noConfusion)
  | setData _ _ _ _ stages => exact .inr (staged stages fun _ => Edit.noConfusion)
  | check => exact .inr ⟨0, .delete path, node, found, .untouched node⟩

/-- Every deed leaves a trace. -/
theorem Traced.concat (traced : Traced done deed.before.get?) :
    Traced (done ++ [deed]) deed.after.get? where
  counted := deed.counted traced.counted
  maker := by
    intro parent segment above foundAbove present
    have consistent := traced.counted.consistent
    obtain ⟨node, found⟩ := Option.isSome_iff_exists.1 present
    rcases deed.makes_or_touched consistent found with
      ⟨mode, text, makes⟩ | ⟨_, _, before, standing, -⟩
    · -- The deed has made the node, and so moved the counter on.
      refine ⟨deed, mode, text, ⟨done, [], rfl, List.forall_mem_nil _⟩, makes, ?_⟩
      rintro rfl
      obtain ⟨met, later, isMet, read, isLater, next⟩ :=
        makes.counter (Path.parent?_extend parent segment)
      rw [foundAbove, Option.some.injEq] at isLater
      subst isLater
      exact ⟨_, traced.counted.nonneg isMet, next ▸ Int.lt_add_one_of_le (Int.le_refl _), read⟩
    · -- The node stood before, and so did the parent, whose counter has not gone back.
      have presentBefore : (deed.before.get? (parent.extend segment)).isSome := by
        rw [standing, Option.isSome_some]
      obtain ⟨met, isMet⟩ := Option.isSome_iff_exists.1
        (consistent.parent_exists parent segment presentBefore)
      obtain ⟨maker, mode, text, made, makes, passed⟩ := traced.maker isMet presentBefore
      refine ⟨maker, mode, text, made.concat ?_, makes, ?_⟩
      · intro deletes
        rw [deed.missing_of_deletes deletes] at found
        cases found
      · intro isSequential
        obtain ⟨counter, nonneg, behind, read⟩ := passed isSequential
        refine ⟨counter, nonneg, Int.lt_of_lt_of_le behind ?_, read⟩
        rcases deed.deletes_or_touched consistent isMet with
          deletes | ⟨_, _, later, isLater, touched⟩
        · rw [deed.missing_of_deletes deletes] at foundAbove
          cases foundAbove
        · rw [foundAbove, Option.some.injEq] at isLater
          subst isLater
          exact touched.cversion_le

theorem Leads.traced (leads : Leads view deeds final) (traced : Traced done view) :
    Traced (done ++ deeds) final := by
  induction leads generalizing done with
  | nil => rwa [List.append_nil]
  | @cons _ _ deed others meets _ ih =>
      subst meets
      rw [← List.singleton_append, ← List.append_assoc]
      exact ih traced.concat

/-- What stands where the next counter leads was made by a persistent create. -/
theorem Traced.persistent_of_taken {stem : String} (traced : Traced deeds view)
    (found : view parent = some above) (fits : above.stat.cversion < 10 ^ Path.sequenceWidth)
    (read : Path.withSequence stem above.stat.cversion = .ok (parent.extend segment))
    (taken : (view (parent.extend segment)).isSome) :
    ∃ maker text, MadeBy deeds maker (parent.extend segment) ∧
      maker.Makes .persistent text (parent.extend segment) := by
  obtain ⟨maker, mode, text, made, makes, passed⟩ := traced.maker found taken
  refine ⟨maker, text, made, ?_⟩
  cases mode with
  | persistent => exact makes
  | sequential =>
      -- Two counters cannot lead to the same path, and the parent has passed this one.
      obtain ⟨counter, nonneg, behind, readToo⟩ := passed rfl
      have counts : Path.Counts above.stat.cversion := ⟨traced.counted.nonneg found, fits⟩
      have countsToo : Path.Counts counter := ⟨nonneg, Int.lt_trans behind fits⟩
      exact absurd rfl (Path.withSequence_ne countsToo counts behind readToo read)

end Tracing

namespace Overlay

variable {limits : Limits}

/-- A sequential create below a node that stands, with a payload within the limits and a stem
that can be completed. -/
structure Numbers (limits : Limits) (overlay : Overlay) (stem : String) (data : Payload)
    (parent : Path) (above : Node) : Prop where
  fits : data.size ≤ limits.maxDataLength
  completed : ∃ requested, requestedPath stem .sequential = .ok requested ∧
    requested.parent? = some parent
  found : overlay.get? parent = some above

/-- Such a create is refused only because its target is taken. -/
theorem Numbers.taken_of_error {overlay : Overlay} {stem : String} {data : Payload}
    {parent : Path} {above : Node} {status : Status}
    (numbers : overlay.Numbers limits stem data parent above)
    (failure : overlay.validate limits (.create stem data .sequential) = .error status) :
    status = .nodeExists ∧ ∃ segment,
      Path.withSequence stem above.stat.cversion = .ok (parent.extend segment) ∧
        (overlay.get? (parent.extend segment)).isSome := by
  obtain ⟨fits, ⟨requested, isRequested, isParent⟩, found⟩ := numbers
  obtain ⟨segment, isTarget⟩ := exists_targetPath isRequested isParent above
  simp only [validate, create, if_neg (Nat.not_lt.2 fits), isRequested, isParent, found,
    isTarget] at failure
  have read := targetPath_sequential_eq_ok_iff.1 isTarget
  cases taken : overlay.contains (parent.extend segment) with
  | true =>
      rw [taken, if_pos rfl, Except.error.injEq] at failure
      exact ⟨failure.symm, segment, read, taken⟩
  | false =>
      rw [stageCreate?_extend found (contains_eq_false_iff.1 taken), taken] at failure
      cases failure

end Overlay

namespace Tree

/-- What becomes of the sequential creates of a series of batches on the fresh tree. -/
structure NumbersInOrder (series : List (Limits × Batch)) : Prop where
  recounts : fresh.Recounts series (fresh.deeds series)
  enumerates : ∀ {earlier life later : List Deed} {parent : Path},
    fresh.deeds series = earlier ++ (life ++ later) →
      (∀ deed ∈ life, ¬deed.Deletes parent) → WithinWidth parent life → Enumerates parent life
  /-- The nodes of one stem are listed in the order in which they were made, as far as they are
  still there. -/
  listed : ∀ {earlier life : List Deed} {parent : Path} {node : Node},
    fresh.deeds series = earlier ++ life → (∀ deed ∈ life, ¬deed.Deletes parent) →
      WithinWidth parent life → (fresh.executeSeries series).1.get? parent = some node →
      ∀ stem, let names := (numberedAs stem parent life).map Path.name
        node.childNames.filter (· ∈ names) = names.filter node.hasChild
  /-- One is refused, at any place of the next batch, only because a persistent create has taken
  its target. -/
  refused : ∀ {limits : Limits} {done : Batch} {overlay : Overlay} {replies : List Reply},
    let tree := (fresh.executeSeries series).1
    (Overlay.ofTree tree).validateAll limits 0 done = .ok (overlay, replies) →
      ∀ {stem : String} {data : Payload} {parent : Path} {above : Node} {status : Status},
        overlay.Numbers limits stem data parent above →
        above.stat.cversion < 10 ^ Path.sequenceWidth →
        overlay.validate limits (.create stem data .sequential) = .error status →
        status = .nodeExists ∧ ∃ target maker text,
          Path.withSequence stem above.stat.cversion = .ok target ∧
            (overlay.get? target).isSome ∧
            MadeBy (fresh.deeds series ++ (Overlay.ofTree tree).deeds limits done)
              maker target ∧
            maker.Makes .persistent text target

/-- Sequential names are unique and ordered. -/
theorem numbers_in_order (series : List (Limits × Batch)) : NumbersInOrder series := by
  have recounts := fresh.recounts_deeds series
  have enumerates {earlier life later : List Deed} {parent : Path}
      (parts : fresh.deeds series = earlier ++ (life ++ later))
      (spared : ∀ deed ∈ life, ¬deed.Deletes parent) (within : WithinWidth parent life) :
      Enumerates parent life := by
    have leads := recounts.leads
    rw [parts] at leads
    obtain ⟨first, before, onwards⟩ := leads_append_iff.1 leads
    obtain ⟨last, during, -⟩ := leads_append_iff.1 onwards
    exact during.enumerates (before.counted counted_fresh) spared within
  constructor
  case recounts => exact recounts
  case enumerates => exact enumerates
  case listed =>
    intro earlier life parent node parts spared within _ stem
    rw [← List.append_nil life] at parts
    exact (enumerates parts spared within).listed stem node
  case refused =>
    intro limits done overlay replies tree success stem data parent above status numbers fits
      failure
    have begun : Leads tree.get? ((Overlay.ofTree tree).deeds limits done) overlay.get? := by
      rw [← get?_ofTree_eq]
      exact (Overlay.leads_deeds success).1
    have traced := begun.traced (recounts.leads.traced traced_fresh)
    obtain ⟨isStatus, segment, read, taken⟩ := numbers.taken_of_error failure
    obtain ⟨maker, text, made, makes⟩ := traced.persistent_of_taken numbers.found fits read taken
    exact ⟨isStatus, parent.extend segment, maker, text, read, taken, made, makes⟩

/-- In particular where two stems share a counter, a node is deleted, a batch is aborted, and a
persistent create takes the next target. -/
theorem numbers_in_order_of_queue :
    let queue : Path := Path.root.extend ⟨"q", (Segment.fault?_eq_none_iff _).1 rfl⟩
    let create (path : String) (mode : CreateMode) : Operation := .create path ByteArray.empty mode
    let series : List (Limits × Batch) :=
      [({}, [create "/q" .persistent, create "/q/a-" .sequential, create "/q/b-" .sequential]),
        ({}, [.delete "/q/a-0000000000" 0, create "/q/a-" .sequential]),
        ({}, [create "/q/a-" .sequential, .delete "/missing" 0]),
        (⟨0⟩, [create "/q/a-0000000005" .persistent])]
    let deeds := fresh.deeds series
    let tree := (fresh.executeSeries series).1
    NumbersInOrder series ∧ Enumerates queue deeds ∧
      (numberedAs "/q/a-" queue deeds).map Path.text = ["/q/a-0000000000", "/q/a-0000000003"] ∧
      (tree.get? queue).map Node.childNames =
        some ["a-0000000003", "a-0000000005", "b-0000000001"] ∧
      (∃ target maker text, Path.withSequence "/q/a-" 5 = .ok target ∧ MadeBy deeds maker target ∧
        maker.Makes .persistent text target) := by
  intro queue create series deeds tree
  have inOrder := numbers_in_order series
  let standIn : Path := queue.extend ⟨"a-0", (Segment.fault?_eq_none_iff _).1 rfl⟩
  let above := ((Overlay.ofTree tree).get? queue).getD .root
  have facts : ((∀ deed ∈ deeds, ¬deed.Deletes queue) ∧
      ∀ deed ∈ deeds, ∀ above ∈ deed.before.get? queue,
        above.stat.cversion < 10 ^ Path.sequenceWidth) ∧
      ((numberedAs "/q/a-" queue deeds).map Path.text = ["/q/a-0000000000", "/q/a-0000000003"] ∧
        (tree.get? queue).map Node.childNames =
          some ["a-0000000003", "a-0000000005", "b-0000000001"]) ∧
      Overlay.requestedPath "/q/a-" .sequential = .ok standIn ∧
      (Overlay.ofTree tree).get? queue = some above ∧ above.stat.cversion = 5 ∧
      ((Overlay.ofTree tree).validate {} (create "/q/a-" .sequential)).map (fun _ => ()) =
        .error .nodeExists := by
    decide +kernel
  obtain ⟨⟨spared, within⟩, ⟨made, listed⟩, completed, found, counter, refused⟩ := facts
  have whole : deeds = [] ++ (deeds ++ []) := by rw [List.nil_append, List.append_nil]
  refine ⟨inOrder, inOrder.enumerates whole spared within, made, listed, ?_⟩
  have numbers : (Overlay.ofTree tree).Numbers {} "/q/a-" ByteArray.empty queue above :=
    ⟨Nat.zero_le _, ⟨standIn, completed, Path.parent?_extend queue _⟩, found⟩
  cases failure : (Overlay.ofTree tree).validate {} (create "/q/a-" .sequential) with
  | ok passed =>
      rw [failure] at refused
      cases refused
  | error status =>
      have begun : (Overlay.ofTree tree).validateAll {} 0 [] = .ok (Overlay.ofTree tree, []) := rfl
      have fits : above.stat.cversion < 10 ^ Path.sequenceWidth := by
        rw [counter]
        decide
      obtain ⟨-, target, maker, text, read, -, taken, makes⟩ :=
        inOrder.refused begun numbers fits failure
      rw [counter] at read
      exact ⟨target, maker, text, read, List.append_nil deeds ▸ taken, makes⟩

end Tree

end BatchTree
