import BatchTree.Session.Load

/-!
# A single client

Of all the ways in which the threads of a session can take turns, this is the one
that a client sees who makes one call at a time and lets the worker come to rest
before going on.  A call that would wait for a worker that is held is not made.
-/

namespace BatchTree

namespace Session

/-- Notes that come before a step. -/
def Step.after (step : Step) (notes : List Note) : Step :=
  { step with notes := notes ++ step.notes }

@[simp] theorem Step.session_after (step : Step) (notes : List Note) :
    (step.after notes).session = step.session := rfl

/-- Let the worker go on until it is held or has nothing to do. -/
def settle (store : Store) (session : Session) : Step :=
  match stepped : session.workerStep? store with
  | none => { store, session, notes := [] }
  | some step =>
      have := workerStep?_load_lt stepped
      (settle step.store step.session).after step.notes
termination_by session.load

theorem load_settle_le (store : Store) (session : Session) :
    (session.settle store).session.load ≤ session.load := by
  fun_induction settle store session with
  | case1 => exact Nat.le_refl _
  | case2 store session step stepped lower ih =>
      exact Nat.le_of_lt (Nat.lt_of_le_of_lt ih lower)

/-- A settled worker has no step to make. -/
theorem workerStep?_settle (store : Store) (session : Session) :
    (session.settle store).session.workerStep? (session.settle store).store = none := by
  fun_induction settle store session with
  | case1 store session stepped => exact stepped
  | case2 store session step stepped lower ih => exact ih

/-- Skip a call that would wait while the worker is held. -/
def skipHeldBack? (store : Store) (session : Session) : Option Step :=
  match session.callers with
  | (.perform origin (.submit _) :: rest) :: others =>
      if session.isHeld then
        some
          { store
            session := { session with callers := rest :: others }
            notes := [.answered origin .heldBack] }
      else
        none
  | _ => none

theorem load_skipHeldBack?_lt {store : Store} {session : Session} {step : Step}
    (skipped : session.skipHeldBack? store = some step) : step.session.load < session.load := by
  unfold skipHeldBack? at skipped
  split at skipped
  · rename_i origin request rest others callers
    split at skipped
    · cases skipped
      simp only [load, callers, Task.threadLoad, Task.totalLoad_cons, Task.load,
        Call.load]
      omega
    · cases skipped
  · cases skipped

/-- The next step of the client, who is the first caller. -/
def clientStep? (store : Store) (session : Session) : Option Step :=
  match session.skipHeldBack? store with
  | some step => some step
  | none => session.callerStep? store 0

theorem load_clientStep?_lt {store : Store} {session : Session} {step : Step}
    (stepped : session.clientStep? store = some step) : step.session.load < session.load := by
  unfold clientStep? at stepped
  split at stepped
  · rename_i skipped
    cases stepped
    exact load_skipHeldBack?_lt skipped
  · exact callerStep?_load_lt stepped

/-- Let the client go on until it has nothing to do, the worker coming to rest
before each of its steps. -/
def converse (store : Store) (session : Session) : Step :=
  let settled := session.settle store
  match stepped : settled.session.clientStep? settled.store with
  | none => settled
  | some step =>
      have := Nat.lt_of_lt_of_le (load_clientStep?_lt stepped) (load_settle_le store session)
      (converse step.store step.session).after (settled.notes ++ step.notes)
termination_by session.load

/-- Make a call as the only client. -/
def call (store : Store) (session : Session) (call : Call) : Step :=
  converse store { session with callers := [[.perform .caller call]] }

/-- Let go a worker that is held, and let it come to rest. -/
def letGo (store : Store) (session : Session) : Step :=
  session.release.settle store

end Session

/-- The answer to the call of a client. -/
def Note.callerAnswer? : List Note → Option Answer :=
  List.findSome? fun note =>
    match note with
    | .answered .caller answer => some answer
    | _ => none

/-- The response to a batch that the only client submits and waits for.  If none
comes, the batch counts as unavailable. -/
def Session.execute (store : Store) (session : Session) (batch : Batch) : Step × Response :=
  let step := session.call store (.submit (.batch batch))
  match Note.callerAnswer? step.notes with
  | some (.response response) => (step, response)
  | _ => (step, .rejected batch.length .unavailable)

end BatchTree
