import BatchTree.Proofs.Reachability
import BatchTree.Proofs.Touch

/-!
# Deeds

What a series of batches does, operation by operation: the operations of those batches that
are committed, each with the state that it met, the state that it left and its reply.
Deeds lead from one view to another, so what every edit keeps of a node holds of it for as
long as no deed deletes it (`Leads.persists`).
-/

namespace BatchTree

/-- An operation that passed under some limits, with the state it met, the state it left and its
reply. -/
structure Deed where
  limits : Limits
  before : Overlay
  operation : Operation
  after : Overlay
  reply : Reply
  accepts : before.Accepts limits operation after reply

namespace Deed

variable {deed : Deed} {path : Path} {node : Node}

/-- What was asked, and what was answered. -/
def answer (deed : Deed) : Operation × Reply :=
  (deed.operation, deed.reply)

theorem map_answer (deeds : List Deed) :
    deeds.map answer = (deeds.map operation).zip (deeds.map reply) := by
  rw [List.zip_map']
  rfl

/-- The deed takes away the node at `path`. -/
def Deletes (deed : Deed) (path : Path) : Prop :=
  deed.operation.kind = .delete ∧ Path.parse deed.operation.path = .ok path

instance (deed : Deed) (path : Path) : Decidable (deed.Deletes path) :=
  inferInstanceAs (Decidable (_ ∧ _))

/-- What every edit keeps of a view, a deed keeps. -/
theorem preserves (property : View → Prop)
    (step : ∀ {now view edit after}, property view → View.Step now view edit after →
      property after)
    (deed : Deed) (holds : property deed.before.get?) : property deed.after.get? := by
  rcases deed.accepts.stages_or_eq with ⟨edit, -, stages⟩ | same
  · exact step holds stages.step
  · rwa [same]

theorem consistent (deed : Deed) (initially : View.Consistent deed.before.get?) :
    View.Consistent deed.after.get? :=
  deed.preserves View.Consistent (fun consistent step => consistent.step step) initially

/-- A deed deletes a node or leaves it standing, touched at most once. -/
theorem deletes_or_touched (consistent : View.Consistent deed.before.get?)
    (found : deed.before.get? path = some node) :
    deed.Deletes path ∨ ∃ now edit later, deed.after.get? path = some later ∧
      node.Touched now edit later := by
  obtain ⟨limits, before, operation, after, reply, accepts⟩ := deed
  have staged {edit : Edit} (stages : before.Stages edit after) (other : edit ≠ .delete path) :
      ∃ now edit later, after.get? path = some later ∧ node.Touched now edit later := by
    rcases stages.step.deleted_or_touched consistent found with
      deleted | ⟨later, isLater, touched⟩
    · exact absurd deleted other
    · exact ⟨_, _, later, isLater, touched⟩
  cases accepts with
  | create _ _ stages => exact .inr (staged stages Edit.noConfusion)
  | @delete _ _ target _ _ read _ _ stages =>
      by_cases same : target = path
      · exact .inl ⟨rfl, same ▸ read⟩
      · exact .inr (staged stages fun deleted => same (Edit.delete.inj deleted))
  | setData _ _ _ _ stages => exact .inr (staged stages Edit.noConfusion)
  | check => exact .inr ⟨0, .delete path, node, found, .untouched node⟩

end Deed

/-- The deeds lead from one view to another, each of them meeting what the one before it
has left. -/
inductive Leads : View → List Deed → View → Prop where
  | nil (view : View) : Leads view [] view
  | cons {view final : View} {deed : Deed} {others : List Deed}
      (meets : deed.before.get? = view) (rest : Leads deed.after.get? others final) :
      Leads view (deed :: others) final

section Stretches

variable {view final : View} {deed first second : Deed}
  {deeds earlier between later : List Deed} {path : Path} {node : Node}

theorem leads_cons_iff :
    Leads view (deed :: deeds) final ↔
      deed.before.get? = view ∧ Leads deed.after.get? deeds final := by
  constructor
  · rintro ⟨⟩
    rename_i meets rest
    exact ⟨meets, rest⟩
  · rintro ⟨meets, rest⟩
    exact .cons meets rest

theorem leads_append_iff :
    Leads view (earlier ++ later) final ↔
      ∃ middle, Leads view earlier middle ∧ Leads middle later final := by
  induction earlier generalizing view with
  | nil =>
      constructor
      · intro leads
        exact ⟨view, .nil view, leads⟩
      · rintro ⟨_, ⟨⟩, leads⟩
        exact leads
  | cons head rest ih =>
      rw [List.cons_append, leads_cons_iff, ih]
      constructor
      · rintro ⟨meets, middle, first, second⟩
        exact ⟨middle, .cons meets first, second⟩
      · rintro ⟨middle, first, second⟩
        obtain ⟨meets, first⟩ := leads_cons_iff.1 first
        exact ⟨meets, middle, first, second⟩

namespace Leads

/-- What every edit keeps of a view, deeds keep. -/
theorem preserves (leads : Leads view deeds final) (property : View → Prop)
    (step : ∀ {now view edit after}, property view → View.Step now view edit after →
      property after)
    (initially : property view) : property final := by
  induction leads with
  | nil => exact initially
  | @cons _ _ deed _ meets _ ih => exact ih (deed.preserves property step (meets ▸ initially))

theorem consistent (leads : Leads view deeds final) (initially : view.Consistent) :
    final.Consistent :=
  leads.preserves View.Consistent (fun consistent step => consistent.step step) initially

/-- A deed meets what those before it have led to. -/
theorem upTo (leads : Leads view (earlier ++ deed :: later) final) :
    Leads view earlier deed.before.get? := by
  obtain ⟨middle, first, second⟩ := leads_append_iff.1 leads
  rwa [(leads_cons_iff.1 second).1]

/-- The deeds after one lead on from what it has left. -/
theorem onFrom (leads : Leads view (earlier ++ deed :: later) final) :
    Leads deed.after.get? later final := by
  obtain ⟨middle, -, second⟩ := leads_append_iff.1 leads
  exact (leads_cons_iff.1 second).2

/-- What outlasts every touch holds of a node for as long as no deed deletes it. -/
theorem persists (leads : Leads view deeds final) (consistent : view.Consistent)
    (property : Node → Prop)
    (keeps : ∀ {now edit node later}, Node.Touched now edit node later → property node →
      property later)
    (spared : ∀ deed ∈ deeds, ¬deed.Deletes path) (found : view path = some node)
    (holds : property node) : ∃ later, final path = some later ∧ property later := by
  induction leads generalizing node with
  | nil => exact ⟨node, found, holds⟩
  | @cons _ _ deed others meets _ ih =>
      subst meets
      have othersSpared := fun other member => spared other (List.mem_cons_of_mem deed member)
      rcases deed.deletes_or_touched consistent found with
        deletes | ⟨_, _, after, isAfter, touched⟩
      · exact absurd deletes (spared deed List.mem_cons_self)
      · exact ih (deed.consistent consistent) othersSpared isAfter (keeps touched holds)

end Leads

end Stretches

namespace Overlay

variable {limits : Limits}

/-- The deeds of a batch, up to the first operation that fails. -/
def deeds (limits : Limits) (overlay : Overlay) : Batch → List Deed
  | [] => []
  | operation :: rest =>
      match passed : overlay.validate limits operation with
      | .error _ => []
      | .ok (staged, reply) =>
          ⟨limits, overlay, operation, staged, reply, accepts_of_validate passed⟩ ::
            staged.deeds limits rest

theorem deeds_cons_of_ok {overlay staged : Overlay} {operation : Operation} {rest : Batch}
    {reply : Reply} (passed : overlay.validate limits operation = .ok (staged, reply)) :
    overlay.deeds limits (operation :: rest) =
      ⟨limits, overlay, operation, staged, reply, accepts_of_validate passed⟩ ::
        staged.deeds limits rest := by
  rw [deeds]
  split
  · rename_i failed
    rw [passed] at failed
    cases failed
  · rename_i stagedToo replyToo passedToo
    have same := passed.symm.trans passedToo
    rw [Except.ok.injEq, Prod.mk.injEq] at same
    obtain ⟨rfl, rfl⟩ := same
    rfl

/-- A batch of which every operation passes does them all. -/
theorem leads_deeds {index : Nat} {overlay final : Overlay} {batch : Batch} {replies : List Reply}
    (success : overlay.validateAll limits index batch = .ok (final, replies)) :
    Leads overlay.get? (overlay.deeds limits batch) final.get? ∧
      (overlay.deeds limits batch).map Deed.operation = batch ∧
      (overlay.deeds limits batch).map Deed.reply = replies := by
  induction batch generalizing index overlay replies with
  | nil =>
      simp only [validateAll, Except.ok.injEq, Prod.mk.injEq] at success
      obtain ⟨rfl, rfl⟩ := success
      exact ⟨.nil _, rfl, rfl⟩
  | cons operation rest ih =>
      obtain ⟨staged, reply, others, passed, passedAll, rfl⟩ := ok_of_validateAll_cons success
      obtain ⟨leads, operations, replies⟩ := ih passedAll
      rw [deeds_cons_of_ok passed]
      exact ⟨.cons rfl leads, congrArg (_ :: ·) operations, congrArg (_ :: ·) replies⟩

end Overlay

namespace Tree

/-- What the committed batches of a series were asked, and what they were answered, operation by
operation. -/
def answers (tree : Tree) (series : List (Limits × Batch)) : List (Operation × Reply) :=
  let committed := (series.zip (tree.executeSeries series).2).filter (·.2.isCommitted)
  committed.flatMap fun entry => entry.1.2.zip entry.2.replies

/-- The deeds of a series of batches. -/
def deeds (tree : Tree) : List (Limits × Batch) → List Deed
  | [] => []
  | (limits, batch) :: rest =>
      let effect := tree.execute limits batch
      (if effect.response.isCommitted then (Overlay.ofTree tree).deeds limits batch else []) ++
        effect.tree.deeds rest

/-- The deeds are those of a series of batches: they lead to the tree that the series leads to,
and tell of all that it has committed. -/
structure Recounts (tree : Tree) (series : List (Limits × Batch)) (deeds : List Deed) : Prop where
  leads : Leads tree.get? deeds (tree.executeSeries series).1.get?
  answers_eq : deeds.map Deed.answer = tree.answers series

variable {limits : Limits} {tree : Tree}

/-- A batch of which every operation passes leads to the tree in which it is installed. -/
theorem leads_deeds_of_ok {batch : Batch} {overlay : Overlay} {replies : List Reply}
    (success : (Overlay.ofTree tree).validateAll limits 0 batch = .ok (overlay, replies)) :
    Leads tree.get? ((Overlay.ofTree tree).deeds limits batch)
      (tree.apply overlay.toChangeSet).get? := by
  have base : overlay.base = tree := (Overlay.acceptsAll_of_validateAll success).base_eq
  have leads := (Overlay.leads_deeds success).1
  rwa [get?_ofTree_eq, ← Overlay.get?_apply_toChangeSet, base] at leads

/-- A batch leads to the tree that it is committed as. -/
theorem leads_deeds_of_committed {batch : Batch}
    (committed : (tree.execute limits batch).response.isCommitted = true) :
    Leads tree.get? ((Overlay.ofTree tree).deeds limits batch)
        (tree.execute limits batch).tree.get? ∧
      ((Overlay.ofTree tree).deeds limits batch).map Deed.answer =
        batch.zip (tree.execute limits batch).response.replies := by
  generalize effect : tree.execute limits batch = ended at committed
  have ends : tree.Ends limits batch ended := effect ▸ ends_execute ..
  cases ends with
  | empty => exact ⟨.nil _, rfl⟩
  | aborted _ failure =>
      rw [unaffected, Response.isCommitted_aborted _ _ (Overlay.validateAll_refusal failure)]
        at committed
      cases committed
  | refused => cases committed
  | committed _ success _ =>
      obtain ⟨-, operations, answers⟩ := Overlay.leads_deeds success
      refine ⟨leads_deeds_of_ok success, ?_⟩
      rw [Deed.map_answer, operations, answers]
      rfl

theorem answers_cons (batch : Batch) (rest : List (Limits × Batch)) :
    tree.answers ((limits, batch) :: rest) =
      (if (tree.execute limits batch).response.isCommitted then
          batch.zip (tree.execute limits batch).response.replies
        else
          []) ++
        (tree.execute limits batch).tree.answers rest := by
  rw [answers, executeSeries, List.zip_cons_cons, List.filter_cons]
  dsimp only
  split
  · rw [List.flatMap_cons]
    rfl
  · rfl

/-- The deeds of a series recount it. -/
theorem recounts_deeds (tree : Tree) (series : List (Limits × Batch)) :
    tree.Recounts series (tree.deeds series) := by
  induction series generalizing tree with
  | nil => exact ⟨.nil _, rfl⟩
  | cons first rest ih =>
      obtain ⟨limits, batch⟩ := first
      obtain ⟨leads, answersRest⟩ := ih (tree.execute limits batch).tree
      cases committed : (tree.execute limits batch).response.isCommitted with
      | true =>
          obtain ⟨leadsFirst, answersFirst⟩ := leads_deeds_of_committed committed
          constructor
          · rw [deeds, committed]
            exact leads_append_iff.2 ⟨_, leadsFirst, leads⟩
          · rw [deeds, answers_cons, committed, if_pos rfl, if_pos rfl, List.map_append,
              answersFirst, answersRest]
      | false =>
          rw [tree_of_not_committed committed] at leads answersRest
          constructor
          · rw [deeds, committed, tree_of_not_committed committed, executeSeries,
              tree_of_not_committed committed]
            exact leads
          · rw [deeds, answers_cons, committed, tree_of_not_committed committed]
            exact answersRest

end Tree

end BatchTree
