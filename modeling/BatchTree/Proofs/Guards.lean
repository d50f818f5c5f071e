import BatchTree.Proofs.Batching

/-!
# Guards

A check and an expected version can end a batch, and that is all they can do.  So a batch that
commits does the same when its guards are given up, and one that fails without them fails with
them as well, at the same operation or before it (`Tree.guards_only_guard`).
-/

namespace BatchTree

/-- The operation with no version expected of the node. -/
def Operation.unguarded : Operation → Operation
  | create path data mode => create path data mode
  | delete path _ => delete path anyVersion
  | setData path data _ => setData path data anyVersion
  | check path _ => check path anyVersion

/-- `relaxed` is what is left of the batch when some of its checks are left out and some of the
versions that it expects are given up.  The flags say which operations are left. -/
inductive Batch.RelaxesTo : (batch : Batch) → (kept : List Bool) → (relaxed : Batch) → Prop where
  | nil : RelaxesTo [] [] []
  | leaveOut {batch relaxed : Batch} {kept : List Bool} (text : String) (version : Version)
      (others : RelaxesTo batch kept relaxed) :
      RelaxesTo (.check text version :: batch) (false :: kept) relaxed
  | keep {batch relaxed : Batch} {kept : List Bool} {operation eased : Operation}
      (eases : eased = operation ∨ eased = operation.unguarded)
      (others : RelaxesTo batch kept relaxed) :
      RelaxesTo (operation :: batch) (true :: kept) (eased :: relaxed)

/-- The entries whose flags are set. -/
def flagged {α : Type} : (flags : List Bool) → (entries : List α) → List α
  | true :: flags, entry :: entries => entry :: flagged flags entries
  | false :: flags, _ :: entries => flagged flags entries
  | _, _ => []

namespace Overlay

variable {limits : Limits} {overlay final : Overlay} {operation eased : Operation}
  {batch relaxed : Batch} {kept : List Bool} {replies : List Reply}

/-- An expected version is a reason to refuse a node, and makes no other difference. -/
theorem expectNode_unguarded (overlay : Overlay) (path : Path) (version : Version) :
    overlay.expectNode path version = overlay.expectNode path anyVersion ∨
      overlay.expectNode path version = .error .badVersion := by
  have any (node : Node) : Version.admits anyVersion node.version = true :=
    Version.admits_iff.2 (.inl rfl)
  rw [expectNode, expectNode]
  cases overlay.get? path with
  | none => exact .inl rfl
  | some node =>
      dsimp only
      rw [any node]
      split
      · exact .inl rfl
      · exact .inr rfl

/-- So it is with operations. -/
theorem validate_unguarded (limits : Limits) (overlay : Overlay) (operation : Operation) :
    overlay.validate limits operation = overlay.validate limits operation.unguarded ∨
      overlay.validate limits operation = .error .badVersion := by
  cases operation with
  | create text data mode => exact .inl rfl
  | delete text version =>
      simp only [Operation.unguarded, validate, delete]
      cases readPath text with
      | error status => exact .inl rfl
      | ok target =>
          dsimp only
          split
          · exact .inl rfl
          · rcases overlay.expectNode_unguarded target version with same | refused
            · rw [same]
              exact .inl rfl
            · rw [refused]
              exact .inr rfl
  | setData text data version =>
      simp only [Operation.unguarded, validate, setData]
      split
      · exact .inl rfl
      · cases readPath text with
        | error status => exact .inl rfl
        | ok target =>
            dsimp only
            rcases overlay.expectNode_unguarded target version with same | refused
            · rw [same]
              exact .inl rfl
            · rw [refused]
              exact .inr rfl
  | check text version =>
      simp only [Operation.unguarded, validate, check]
      cases readPath text with
      | error status => exact .inl rfl
      | ok target =>
          dsimp only
          rcases overlay.expectNode_unguarded target version with same | refused
          · rw [same]
            exact .inl rfl
          · rw [refused]
            exact .inr rfl

theorem validate_eased (eases : eased = operation ∨ eased = operation.unguarded) :
    overlay.validate limits operation = overlay.validate limits eased ∨
      overlay.validate limits operation = .error .badVersion := by
  rcases eases with rfl | rfl
  · exact .inl rfl
  · exact overlay.validate_unguarded limits operation

/-- What is left of a batch that passes stages the same, with the same replies. -/
theorem ok_of_relaxesTo (relaxes : batch.RelaxesTo kept relaxed) {start : Nat}
    (success : overlay.validateAll limits start batch = .ok (final, replies)) (first : Nat) :
    overlay.validateAll limits first relaxed = .ok (final, flagged kept replies) := by
  induction relaxes generalizing overlay start replies first with
  | nil =>
      simp only [validateAll, Except.ok.injEq, Prod.mk.injEq] at success
      obtain ⟨rfl, rfl⟩ := success
      rfl
  | leaveOut text version others ih =>
      obtain ⟨staged, reply, rest, passed, passedAll, rfl⟩ := ok_of_validateAll_cons success
      -- A check that passes has staged nothing.
      cases accepts_of_validate passed with
      | check => exact ih passedAll first
  | keep eases others ih =>
      obtain ⟨staged, reply, rest, passed, passedAll, rfl⟩ := ok_of_validateAll_cons success
      rcases validate_eased eases with same | refused
      · rw [validateAll, ← same, passed]
        dsimp only
        rw [ih passedAll]
        rfl
      · rw [refused] at passed
        cases passed

/-- If what is left of a batch fails, the batch fails too, there or earlier.  The first operation
of the one has index `first`, that of the other `start`. -/
theorem error_of_relaxesTo (relaxes : batch.RelaxesTo kept relaxed) {first offset : Nat}
    {status : Status}
    (failure : overlay.validateAll limits first relaxed = .error (first + offset, status))
    (start : Nat) :
    ∃ place, (flagged kept (List.range' start batch.length))[offset]? = some place ∧
      ∃ index ≤ place, ∃ code, overlay.validateAll limits start batch = .error (index, code) := by
  induction relaxes generalizing overlay first offset start with
  | nil => cases failure
  | @leaveOut batch relaxed kept text version others ih =>
      obtain ⟨place, isPlace, index, within, code, failsToo⟩ := ih failure (start + 1)
      refine ⟨place, isPlace, ?_⟩
      cases checked : overlay.validate limits (.check text version) with
      | error code =>
          -- The check fails, and all that follows it has a greater index.
          have later := index_of_validateAll failsToo
          refine ⟨start, by omega, code, ?_⟩
          rw [validateAll, checked]
      | ok passed =>
          obtain ⟨staged, reply⟩ := passed
          cases accepts_of_validate checked with
          | check =>
              refine ⟨index, within, code, ?_⟩
              rw [validateAll, checked]
              dsimp only
              rw [failsToo]
  | @keep batch relaxed kept operation eased eases others ih =>
      rcases error_of_validateAll_cons failure with ⟨here, refused⟩ | ⟨staged, reply, passed, later⟩
      · obtain rfl : offset = 0 := by omega
        refine ⟨start, rfl, start, Nat.le_refl start, ?_⟩
        rcases validate_eased eases with same | refusedToo
        · exact ⟨status, by rw [validateAll, same, refused]⟩
        · exact ⟨.badVersion, by rw [validateAll, refusedToo]⟩
      · have within := index_of_validateAll later
        obtain ⟨further, rfl⟩ : ∃ further, offset = further + 1 := ⟨offset - 1, by omega⟩
        rw [← Nat.add_assoc, Nat.add_right_comm] at later
        obtain ⟨place, isPlace, index, notAfter, code, failsToo⟩ := ih later (start + 1)
        refine ⟨place, isPlace, ?_⟩
        rcases validate_eased eases with same | refused
        · refine ⟨index, notAfter, code, ?_⟩
          rw [validateAll, same, passed]
          dsimp only
          rw [failsToo]
        · have behind := index_of_validateAll failsToo
          exact ⟨start, by omega, .badVersion, by rw [validateAll, refused]⟩

end Overlay

/-- The effect is that of the whole batch, of which the flagged operations are answered. -/
structure Effect.SelectedFrom (rest : Effect) (kept : List Bool) (whole : Effect) : Prop where
  committed : rest.response.isCommitted = true
  tree_eq : rest.tree = whole.tree
  zxid_eq : rest.response.zxid = whole.response.zxid
  events_eq : rest.events = whole.events
  replies_eq : rest.response.replies = flagged kept whole.response.replies

namespace Tree

/-- How a batch compares with what is left of it when guards are given up. -/
structure OnlyGuards (limits : Limits) (tree : Tree) (batch : Batch) (kept : List Bool)
    (relaxed : Batch) : Prop where
  commits : relaxed ≠ [] → tree.Commits limits batch →
    (tree.execute limits relaxed).SelectedFrom kept (tree.execute limits batch)
  /-- Operation `index` of what is left is operation `place` of the batch. -/
  aborts : ∀ index status, tree.Aborts limits relaxed index status →
    ∃ place, (flagged kept (List.range batch.length))[index]? = some place ∧
      ∃ earlier ≤ place, ∃ code, tree.Aborts limits batch earlier code

/-- On every tree, guards decide whether a batch goes through and nothing else. -/
theorem guards_only_guard {batch relaxed : Batch} {kept : List Bool}
    (relaxes : batch.RelaxesTo kept relaxed) (limits : Limits) (tree : Tree) :
    tree.OnlyGuards limits batch kept relaxed where
  commits := by
    intro left commits
    have nonempty : batch ≠ [] := by
      rintro rfl
      cases relaxes
      exact left rfl
    obtain ⟨overlay, replies, success, installed⟩ := commits.judged
    have successToo := Overlay.ok_of_relaxesTo relaxes success 0
    rw [execute_of_ok nonempty success (installed nonempty),
      execute_of_ok left successToo (installed nonempty)]
    exact ⟨rfl, rfl, rfl, rfl, rfl⟩
  aborts := by
    intro index status aborts
    have failure := aborts.judged
    rw [← Nat.zero_add index] at failure
    obtain ⟨place, isPlace, earlier, within, code, failsToo⟩ :=
      Overlay.error_of_relaxesTo relaxes failure 0
    rw [← List.range_eq_range'] at isPlace
    exact ⟨place, isPlace, earlier, within, code, aborts_of_error failsToo⟩

/-- In particular for a batch that loses a check and an expected version and commits either way,
and for one that without its guards fails at its last operation, and with them at its first. -/
theorem guards_only_guard_of_update :
    let tree := (Tree.fresh.execute {} [.create "/a" ByteArray.empty .persistent]).tree
    let batch : Batch := [.check "/a" 0, .setData "/a" "data".toUTF8 0,
      .create "/a/" ByteArray.empty .sequential, .delete "/a/0000000000" 0]
    let relaxed : Batch := [.setData "/a" "data".toUTF8 (-1),
      .create "/a/" ByteArray.empty .sequential, .delete "/a/0000000000" 0]
    let failing : Batch := [.check "/a" 7, .setData "/a" "data".toUTF8 3, .delete "/b" 0]
    let failingToo : Batch := [.setData "/a" "data".toUTF8 (-1), .delete "/b" (-1)]
    (tree.execute {} relaxed).SelectedFrom [false, true, true, true] (tree.execute {} batch) ∧
      tree.Aborts {} failingToo 1 .noNode ∧
      flagged [false, true, true] (List.range failing.length) = [1, 2] ∧
      ∃ earlier ≤ 2, ∃ code, tree.Aborts {} failing earlier code := by
  intro tree batch relaxed failing failingToo
  have relaxes : batch.RelaxesTo [false, true, true, true] relaxed :=
    .leaveOut _ _ (.keep (.inr rfl) (.keep (.inl rfl) (.keep (.inl rfl) .nil)))
  have relaxesToo : failing.RelaxesTo [false, true, true] failingToo :=
    .leaveOut _ _ (.keep (.inr rfl) (.keep (.inr rfl) .nil))
  have commits : (tree.execute {} batch).response.isCommitted = true := by decide +kernel
  have aborts : tree.execute {} failingToo = tree.unaffected (.aborted 2 1 .noNode) := by
    decide +kernel
  obtain ⟨place, isPlace, fails⟩ :=
    (guards_only_guard relaxesToo {} tree).aborts 1 .noNode aborts
  obtain rfl : 2 = place := Option.some.inj isPlace
  exact ⟨(guards_only_guard relaxes {} tree).commits (List.cons_ne_nil _ _) commits, aborts, rfl,
    fails⟩

end Tree

end BatchTree
