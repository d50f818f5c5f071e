import BatchTree.Proofs.Completion
import BatchTree.Proofs.Staging

/-!
# Accepted operations

What is known once an operation has passed: the path it names, the node it found
there, the edit that was staged and the reply that was given.  `Accepts` says it for
each kind of operation, and only `accepts_of_validate` looks into the judgement.
-/

namespace BatchTree

namespace Overlay

theorem readPath_of_ok {text : String} {path : Path} (read : Path.parse text = .ok path) :
    readPath text = .ok path := by
  rw [readPath, read]
  rfl

/-- A path that cannot be read is a bad argument. -/
theorem readPath_of_error {text : String} {fault : Path.Fault}
    (read : Path.parse text = .error fault) : readPath text = .error .badArguments := by
  rw [readPath, read]
  rfl

theorem readPath_eq_ok_iff {text : String} {path : Path} :
    readPath text = .ok path ↔ Path.parse text = .ok path := by
  cases read : Path.parse text with
  | error fault =>
      rw [readPath_of_error read]
      simp
  | ok other =>
      rw [readPath_of_ok read]
      simp

theorem status_of_readPath {text : String} {status : Status}
    (failure : readPath text = .error status) : status = .badArguments := by
  cases read : Path.parse text with
  | error fault =>
      rw [readPath_of_error read, Except.error.injEq] at failure
      exact failure.symm
  | ok path =>
      rw [readPath_of_ok read] at failure
      cases failure

/-- The stand-in for a sequential create has the parent that every completion of the
stem has. -/
theorem requestedPath_sequential_ok {text : String} {requested : Path}
    (success : requestedPath text .sequential = .ok requested) :
    ∃ (parent : Path) (segment : Segment), requested = parent.extend segment ∧
      ∀ sequence, ∃ named, Path.withSequence text sequence = .ok (parent.extend named) := by
  have read : Path.parse (text ++ "0") = .ok requested := by
    simp only [requestedPath] at success
    split at success
    · cases success
    · exact readPath_eq_ok_iff.1 success
  obtain ⟨parent, segment, rfl, every⟩ := Path.completes_zero.parse_other read
  exact ⟨parent, segment, rfl, fun sequence => every (Path.completes_sequenceText sequence)⟩

/-- A stem that some counter completes has a stand-in. -/
theorem exists_requestedPath_sequential {text : String} {sequence : Int} {path : Path}
    (read : Path.withSequence text sequence = .ok path) :
    ∃ requested, requestedPath text .sequential = .ok requested := by
  obtain ⟨parent, -, -, every⟩ := (Path.completes_sequenceText sequence).parse_other read
  obtain ⟨first, readOne⟩ := every Path.completes_one
  obtain ⟨second, readZero⟩ := every Path.completes_zero
  refine ⟨parent.extend second, ?_⟩
  simp only [requestedPath, Path.checkStem, readOne, Except.map]
  exact readPath_eq_ok_iff.2 readZero

theorem status_of_requestedPath {text : String} {mode : CreateMode} {status : Status}
    (failure : requestedPath text mode = .error status) : status = .badArguments := by
  cases mode with
  | persistent => exact status_of_readPath failure
  | sequential =>
      simp only [requestedPath] at failure
      split at failure
      · cases failure
        rfl
      · exact status_of_readPath failure

theorem targetPath_sequential_eq_ok_iff {text : String} {requested target : Path} {above : Node} :
    targetPath text .sequential requested above = .ok target ↔
      Path.withSequence text above.stat.cversion = .ok target := by
  rw [targetPath]
  cases Path.withSequence text above.stat.cversion with
  | error fault =>
      constructor
      · intro impossible
        cases impossible
      · intro impossible
        cases impossible
  | ok path =>
      constructor
      · rintro ⟨⟩
        rfl
      · rintro ⟨⟩
        rfl

/-- Once the stand-in is known to be below a parent, the target is known to be so too. -/
theorem exists_targetPath {text : String} {mode : CreateMode} {requested parent : Path}
    (isRequested : requestedPath text mode = .ok requested)
    (isParent : requested.parent? = some parent) (above : Node) :
    ∃ segment, targetPath text mode requested above = .ok (parent.extend segment) := by
  cases mode with
  | persistent =>
      obtain ⟨segment, rfl⟩ := Path.parent?_eq_some_iff.1 isParent
      exact ⟨segment, rfl⟩
  | sequential =>
      obtain ⟨other, segment, rfl, every⟩ := requestedPath_sequential_ok isRequested
      rw [Path.parent?_extend, Option.some.injEq] at isParent
      subst isParent
      obtain ⟨named, read⟩ := every above.stat.cversion
      exact ⟨named, targetPath_sequential_eq_ok_iff.2 read⟩

theorem expectNode_eq_ok_iff {overlay : Overlay} {path : Path} {version : Version} {node : Node} :
    overlay.expectNode path version = .ok node ↔
      overlay.get? path = some node ∧ version.admits node.version = true := by
  rw [expectNode]
  split
  · rename_i missing
    simp [missing]
  · rename_i other found
    rw [found, Option.some.injEq]
    split
    · rename_i admitted
      rw [Except.ok.injEq]
      constructor
      · rintro rfl
        exact ⟨rfl, admitted⟩
      · exact And.left
    · rename_i refused
      constructor
      · intro impossible
        cases impossible
      · rintro ⟨rfl, admitted⟩
        exact absurd admitted refused

/-- How a create names its node: as it was asked to, or by the counter of the parent. -/
inductive Names (overlay : Overlay) (text : String) : CreateMode → Path → Prop where
  | persistent {target : Path} (read : Path.parse text = .ok target) :
      Names overlay text .persistent target
  | sequential {parent : Path} {segment : Segment} {above : Node}
      (found : overlay.get? parent = some above)
      (read : Path.withSequence text above.stat.cversion = .ok (parent.extend segment)) :
      Names overlay text .sequential (parent.extend segment)

theorem names_of_targetPath {overlay : Overlay} {text : String} {mode : CreateMode}
    {requested parent target : Path} {above : Node}
    (isRequested : requestedPath text mode = .ok requested)
    (isParent : requested.parent? = some parent) (found : overlay.get? parent = some above)
    (isTarget : targetPath text mode requested above = .ok target) :
    overlay.Names text mode target := by
  cases mode with
  | persistent =>
      cases isTarget
      exact .persistent (readPath_eq_ok_iff.1 isRequested)
  | sequential =>
      obtain ⟨segment, same⟩ := exists_targetPath isRequested isParent above
      rw [isTarget, Except.ok.injEq] at same
      subst same
      exact .sequential found (targetPath_sequential_eq_ok_iff.1 isTarget)

/-- What an operation that passes has found, staged and replied. -/
inductive Accepts (limits : Limits) (overlay : Overlay) : Operation → Overlay → Reply → Prop where
  | create {text : String} {data : Payload} {mode : CreateMode} {target : Path} {staged : Overlay}
      (fits : data.size ≤ limits.maxDataLength) (names : overlay.Names text mode target)
      (stages : overlay.Stages (.create target data) staged) :
      Accepts limits overlay (.create text data mode) staged (.created target.text)
  | delete {text : String} {version : Version} {target : Path} {node : Node} {staged : Overlay}
      (read : Path.parse text = .ok target) (found : overlay.get? target = some node)
      (admitted : version.admits node.version = true)
      (stages : overlay.Stages (.delete target) staged) :
      Accepts limits overlay (.delete text version) staged .deleted
  | setData {text : String} {data : Payload} {version : Version} {target : Path} {node : Node}
      {staged : Overlay}
      (fits : data.size ≤ limits.maxDataLength)
      (read : Path.parse text = .ok target) (found : overlay.get? target = some node)
      (admitted : version.admits node.version = true)
      (stages : overlay.Stages (.setData target data) staged) :
      Accepts limits overlay (.setData text data version) staged
        (.dataSet (node.setData data overlay.zxid).stat)
  | check {text : String} {version : Version} {target : Path} {node : Node}
      (read : Path.parse text = .ok target) (found : overlay.get? target = some node)
      (admitted : version.admits node.version = true) :
      Accepts limits overlay (.check text version) overlay .checked

section Accepted

variable {limits : Limits} {overlay staged : Overlay} {text : String} {data : Payload}
  {version : Version} {reply : Reply}

theorem accepts_of_create {mode : CreateMode}
    (success : overlay.create limits text data mode = .ok (staged, reply)) :
    overlay.Accepts limits (.create text data mode) staged reply := by
  unfold create at success
  split at success
  · cases success
  · rename_i fits
    split at success
    · cases success
    · rename_i requested isRequested
      split at success
      · cases success
      · rename_i parent isParent
        split at success
        · cases success
        · rename_i above found
          split at success
          · cases success
          · rename_i target isTarget
            split at success
            · cases success
            · split at success
              · cases success
              · rename_i created isStaged
                simp only [Except.ok.injEq, Prod.mk.injEq] at success
                obtain ⟨rfl, rfl⟩ := success
                exact .create (Nat.le_of_not_lt fits)
                  (names_of_targetPath isRequested isParent found isTarget)
                  (stages_of_stageCreate? isStaged)

theorem accepts_of_delete
    (success : overlay.delete text version = .ok (staged, reply)) :
    overlay.Accepts limits (.delete text version) staged reply := by
  unfold delete at success
  split at success
  · cases success
  · rename_i target isTarget
    split at success
    · cases success
    · split at success
      · cases success
      · rename_i node isNode
        split at success
        · cases success
        · split at success
          · cases success
          · rename_i deleted isStaged
            simp only [Except.ok.injEq, Prod.mk.injEq] at success
            obtain ⟨rfl, rfl⟩ := success
            obtain ⟨found, admitted⟩ := expectNode_eq_ok_iff.1 isNode
            exact .delete (readPath_eq_ok_iff.1 isTarget) found admitted
              (stages_of_stageDelete? isStaged)

theorem accepts_of_setData
    (success : overlay.setData limits text data version = .ok (staged, reply)) :
    overlay.Accepts limits (.setData text data version) staged reply := by
  unfold setData at success
  split at success
  · cases success
  · rename_i fits
    split at success
    · cases success
    · rename_i target isTarget
      split at success
      · cases success
      · rename_i node isNode
        obtain ⟨found, admitted⟩ := expectNode_eq_ok_iff.1 isNode
        rw [stageSetData?_of_taken found] at success
        simp only [Except.ok.injEq, Prod.mk.injEq] at success
        obtain ⟨rfl, rfl⟩ := success
        exact .setData (Nat.le_of_not_lt fits) (readPath_eq_ok_iff.1 isTarget) found admitted
          (stages_withData found)

theorem accepts_of_check
    (success : overlay.check text version = .ok (staged, reply)) :
    overlay.Accepts limits (.check text version) staged reply := by
  unfold check at success
  split at success
  · cases success
  · rename_i target isTarget
    split at success
    · cases success
    · rename_i node isNode
      simp only [Except.ok.injEq, Prod.mk.injEq] at success
      obtain ⟨rfl, rfl⟩ := success
      obtain ⟨found, admitted⟩ := expectNode_eq_ok_iff.1 isNode
      exact .check (readPath_eq_ok_iff.1 isTarget) found admitted

end Accepted

/-- An operation that passes is accepted as its kind demands. -/
theorem accepts_of_validate {limits : Limits} {overlay staged : Overlay} {operation : Operation}
    {reply : Reply} (success : overlay.validate limits operation = .ok (staged, reply)) :
    overlay.Accepts limits operation staged reply := by
  cases operation with
  | create text data mode => exact accepts_of_create success
  | delete text version => exact accepts_of_delete success
  | setData text data version => exact accepts_of_setData success
  | check text version => exact accepts_of_check success

/-- An accepted operation stages one edit, whose payload is within the limits, or
nothing at all. -/
theorem Accepts.stages_or_eq {limits : Limits} {overlay staged : Overlay} {operation : Operation}
    {reply : Reply} (accepts : overlay.Accepts limits operation staged reply) :
    (∃ edit, (∀ data ∈ Edit.data? edit, data.size ≤ limits.maxDataLength) ∧
      overlay.Stages edit staged) ∨ staged = overlay := by
  cases accepts with
  | create fits _ stages =>
      refine .inl ⟨_, ?_, stages⟩
      rintro _ ⟨⟩
      exact fits
  | delete _ _ _ stages =>
      refine .inl ⟨_, ?_, stages⟩
      rintro _ ⟨⟩
  | setData fits _ _ _ stages =>
      refine .inl ⟨_, ?_, stages⟩
      rintro _ ⟨⟩
      exact fits
  | check => exact .inr rfl

theorem Accepts.base_eq {limits : Limits} {overlay staged : Overlay} {operation : Operation}
    {reply : Reply} (accepts : overlay.Accepts limits operation staged reply) :
    staged.base = overlay.base := by
  rcases accepts.stages_or_eq with ⟨edit, -, stages⟩ | same
  · exact stages.base_eq
  · rw [same]

theorem Accepts.consistent {limits : Limits} {overlay staged : Overlay} {operation : Operation}
    {reply : Reply} (accepts : overlay.Accepts limits operation staged reply)
    (consistent : View.Consistent overlay.get?) : View.Consistent staged.get? := by
  rcases accepts.stages_or_eq with ⟨edit, -, stages⟩ | same
  · exact consistent.step stages.step
  · rwa [same]

/-! ## Refused operations -/

/-- The codes that an operation is refused with. -/
def refusals : List Status :=
  [.badArguments, .noNode, .badVersion, .nodeExists, .notEmpty, .noParent]

theorem readPath_refusal {text : String} {status : Status}
    (failure : readPath text = .error status) : status ∈ refusals := by
  rw [status_of_readPath failure]
  decide

theorem expectNode_refusal {overlay : Overlay} {path : Path} {version : Version} {status : Status}
    (failure : overlay.expectNode path version = .error status) : status ∈ refusals := by
  unfold expectNode at failure
  split at failure
  · cases failure
    decide
  · split at failure
    · cases failure
    · cases failure
      decide

theorem targetPath_refusal {text : String} {mode : CreateMode} {requested : Path} {above : Node}
    {status : Status} (failure : targetPath text mode requested above = .error status) :
    status ∈ refusals := by
  cases mode with
  | persistent => cases failure
  | sequential =>
      rw [targetPath] at failure
      cases read : Path.withSequence text above.stat.cversion with
      | error fault =>
          rw [read] at failure
          cases failure
          exact List.mem_cons_self
      | ok path =>
          rw [read] at failure
          cases failure

section Refused

variable {limits : Limits} {overlay : Overlay} {text : String} {data : Payload}
  {version : Version} {status : Status}

theorem create_refusal {mode : CreateMode}
    (failure : overlay.create limits text data mode = .error status) : status ∈ refusals := by
  unfold create at failure
  split at failure
  · cases failure
    decide
  · split at failure
    · rename_i isRefused
      cases failure
      rw [status_of_requestedPath isRefused]
      decide
    · split at failure
      · cases failure
        decide
      · split at failure
        · cases failure
          decide
        · split at failure
          · rename_i isRefused
            cases failure
            exact targetPath_refusal isRefused
          · split at failure
            · cases failure
              decide
            · split at failure
              · cases failure
                decide
              · cases failure

theorem delete_refusal (failure : overlay.delete text version = .error status) :
    status ∈ refusals := by
  unfold delete at failure
  split at failure
  · rename_i isRefused
    cases failure
    exact readPath_refusal isRefused
  · split at failure
    · cases failure
      decide
    · split at failure
      · rename_i isRefused
        cases failure
        exact expectNode_refusal isRefused
      · split at failure
        · cases failure
          decide
        · split at failure
          · cases failure
            decide
          · cases failure

theorem setData_refusal (failure : overlay.setData limits text data version = .error status) :
    status ∈ refusals := by
  unfold setData at failure
  split at failure
  · cases failure
    decide
  · split at failure
    · rename_i isRefused
      cases failure
      exact readPath_refusal isRefused
    · split at failure
      · rename_i isRefused
        cases failure
        exact expectNode_refusal isRefused
      · split at failure
        · cases failure
          decide
        · cases failure

theorem check_refusal (failure : overlay.check text version = .error status) :
    status ∈ refusals := by
  unfold check at failure
  split at failure
  · rename_i isRefused
    cases failure
    exact readPath_refusal isRefused
  · split at failure
    · rename_i isRefused
      cases failure
      exact expectNode_refusal isRefused
    · cases failure

/-- An operation is refused with one of its own codes, never with one that speaks of the
batch or of the store. -/
theorem validate_refusal {operation : Operation}
    (failure : overlay.validate limits operation = .error status) : status ∈ refusals := by
  cases operation with
  | create text data mode => exact create_refusal failure
  | delete text version => exact delete_refusal failure
  | setData text data version => exact setData_refusal failure
  | check text version => exact check_refusal failure

end Refused

/-! ## Whole batches -/

/-- The operations of a batch, accepted one after the other. -/
inductive AcceptsAll (limits : Limits) : Overlay → Batch → Overlay → List Reply → Prop where
  | nil (overlay : Overlay) : AcceptsAll limits overlay [] overlay []
  | cons {overlay staged final : Overlay} {operation : Operation} {rest : Batch} {reply : Reply}
      {replies : List Reply} (first : overlay.Accepts limits operation staged reply)
      (others : AcceptsAll limits staged rest final replies) :
      AcceptsAll limits overlay (operation :: rest) final (reply :: replies)

/-- A batch passes if its first operation does, and the others do on top of it. -/
theorem ok_of_validateAll_cons {limits : Limits} {index : Nat} {overlay final : Overlay}
    {operation : Operation} {rest : Batch} {replies : List Reply}
    (success : overlay.validateAll limits index (operation :: rest) = .ok (final, replies)) :
    ∃ staged reply others, overlay.validate limits operation = .ok (staged, reply) ∧
      staged.validateAll limits (index + 1) rest = .ok (final, others) ∧
      replies = reply :: others := by
  unfold validateAll at success
  split at success
  · cases success
  · rename_i staged reply passed
    split at success
    · cases success
    · rename_i last others passedAll
      simp only [Except.ok.injEq, Prod.mk.injEq] at success
      obtain ⟨rfl, rfl⟩ := success
      exact ⟨staged, reply, others, passed, passedAll, rfl⟩

/-- A batch fails because its first operation does, or because another does on top of it. -/
theorem error_of_validateAll_cons {limits : Limits} {start index : Nat} {overlay : Overlay}
    {operation : Operation} {rest : Batch} {status : Status}
    (failure : overlay.validateAll limits start (operation :: rest) = .error (index, status)) :
    (index = start ∧ overlay.validate limits operation = .error status) ∨
      ∃ staged reply, overlay.validate limits operation = .ok (staged, reply) ∧
        staged.validateAll limits (start + 1) rest = .error (index, status) := by
  unfold validateAll at failure
  split at failure
  · rename_i refused
    cases failure
    exact .inl ⟨rfl, refused⟩
  · rename_i staged reply passed
    split at failure
    · rename_i refused
      cases failure
      exact .inr ⟨staged, reply, passed, refused⟩
    · cases failure

theorem acceptsAll_of_validateAll {limits : Limits} {index : Nat} {overlay final : Overlay}
    {batch : Batch} {replies : List Reply}
    (success : overlay.validateAll limits index batch = .ok (final, replies)) :
    overlay.AcceptsAll limits batch final replies := by
  induction batch generalizing index overlay replies with
  | nil =>
      simp only [validateAll, Except.ok.injEq, Prod.mk.injEq] at success
      obtain ⟨rfl, rfl⟩ := success
      exact .nil overlay
  | cons operation rest ih =>
      obtain ⟨staged, reply, others, passed, passedAll, rfl⟩ := ok_of_validateAll_cons success
      exact .cons (accepts_of_validate passed) (ih passedAll)

/-- A batch fails at one of its operations, with a code of that operation. -/
theorem validateAll_refusal {limits : Limits} {start index : Nat} {overlay : Overlay}
    {batch : Batch} {status : Status}
    (failure : overlay.validateAll limits start batch = .error (index, status)) :
    status ∈ refusals := by
  induction batch generalizing start overlay with
  | nil => cases failure
  | cons operation rest ih =>
      rcases error_of_validateAll_cons failure with ⟨-, refused⟩ | ⟨staged, reply, -, refused⟩
      · exact validate_refusal refused
      · exact ih refused

theorem AcceptsAll.base_eq {limits : Limits} {overlay final : Overlay} {batch : Batch}
    {replies : List Reply} (accepts : overlay.AcceptsAll limits batch final replies) :
    final.base = overlay.base := by
  induction accepts with
  | nil => rfl
  | cons first _ ih => rw [ih, first.base_eq]

/-- Each accepted operation has its reply. -/
theorem AcceptsAll.length_replies {limits : Limits} {overlay final : Overlay} {batch : Batch}
    {replies : List Reply} (accepts : overlay.AcceptsAll limits batch final replies) :
    replies.length = batch.length := by
  induction accepts with
  | nil => rfl
  | cons _ _ ih => rw [List.length_cons, List.length_cons, ih]

/-- What every staged edit keeps, an accepted batch keeps. -/
theorem AcceptsAll.preserves {limits : Limits} {overlay final : Overlay} {batch : Batch}
    {replies : List Reply} (accepts : overlay.AcceptsAll limits batch final replies)
    (property : Overlay → Prop) (initially : property overlay)
    (step : ∀ {overlay staged edit}, property overlay →
      (∀ data ∈ Edit.data? edit, data.size ≤ limits.maxDataLength) →
      overlay.Stages edit staged → property staged) :
    property final := by
  induction accepts with
  | nil => exact initially
  | cons first _ ih =>
      apply ih
      rcases first.stages_or_eq with ⟨edit, fits, stages⟩ | same
      · exact step initially fits stages
      · rwa [same]

end Overlay

end BatchTree
