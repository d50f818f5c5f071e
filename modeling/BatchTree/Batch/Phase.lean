/-!
# Phases of a batch

A batch waits, is validated, and then either takes effect or is rolled back.
-/

namespace BatchTree

/-- Where a batch stands. -/
inductive Phase where
  | pending
  | validating
  | committed
  | aborted
  deriving DecidableEq, Repr

namespace Phase

def name : Phase → String
  | .pending => "Pending"
  | .validating => "Validating"
  | .committed => "Committed"
  | .aborted => "Aborted"

/-- Is the batch over? -/
def isTerminal (phase : Phase) : Bool :=
  phase == .committed || phase == .aborted

/-- May a batch go from one phase to the other? -/
def precedes : Phase → Phase → Bool
  | .pending, .validating => true
  | .validating, .committed => true
  | .validating, .aborted => true
  | _, _ => false

/-- A step that no batch takes. -/
structure InvalidTransition where
  source : Phase
  target : Phase
  deriving DecidableEq, Repr

def InvalidTransition.message (fault : InvalidTransition) : String :=
  s!"invalid batch transition {fault.source.name} -> {fault.target.name}"

/-- Go on to another phase. -/
def advance (phase next : Phase) : Except InvalidTransition Phase :=
  if phase.precedes next then .ok next else .error ⟨phase, next⟩

end Phase

end BatchTree
