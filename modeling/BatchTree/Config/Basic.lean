import BatchTree.Batch.Validate

/-!
# Configuration

The settings of a server, shared by all of its sessions, and the conditions under
which a session can be opened with them.
-/

namespace BatchTree

/-- The settings of a server. -/
@[ext] structure Config where
  /-- The largest payload in bytes. -/
  maxDataLength : Nat := defaultMaxDataLength
  /-- Longer batches are rejected without being run. -/
  maxBatchSize : Nat := 1000
  /-- How many batches a session may have waiting. -/
  queueDepth : Nat := 1024
  workerName : String := "arbor-session"
  deriving DecidableEq, Repr

namespace Config

/-- Why no configuration could be had. -/
inductive Fault where
  /-- The document could not be read as text. -/
  | unreadable
  /-- The text is no document, or not one of a configuration. -/
  | malformed
  /-- A setting has a value that no session can work with. -/
  | unusable (reason : String)
  deriving DecidableEq, Repr

/-- The wording of a fault. -/
def Fault.message : Fault → String
  | .unreadable => "failed to read config"
  | .malformed => "failed to parse config"
  | .unusable reason => "invalid config: " ++ reason

/-- The first setting that is unusable. -/
def fault? (config : Config) : Option Fault :=
  if config.maxBatchSize = 0 then
    some (.unusable "max_batch_ops must be at least 1")
  else if config.queueDepth = 0 then
    some (.unusable "queue_depth must be at least 1")
  else if config.workerName.isEmpty then
    some (.unusable "worker_name must not be empty")
  else
    none

/-- Can a session be opened with these settings? -/
structure Usable (config : Config) : Prop where
  batches : 0 < config.maxBatchSize
  queue : 0 < config.queueDepth
  named : config.workerName ≠ ""

theorem fault?_eq_none_iff (config : Config) : config.fault? = none ↔ config.Usable := by
  unfold fault?
  constructor
  · intro clean
    split at clean
    · cases clean
    · split at clean
      · cases clean
      · split at clean
        · cases clean
        · rename_i batches queue named
          exact ⟨Nat.pos_of_ne_zero batches, Nat.pos_of_ne_zero queue, by simpa using named⟩
  · intro usable
    have named : config.workerName.isEmpty = false := by simpa using usable.named
    simp [Nat.ne_of_gt usable.batches, Nat.ne_of_gt usable.queue, named]

/-- The settings, or what is wrong with them. -/
def validate (config : Config) : Except Fault Config :=
  match config.fault? with
  | some fault => .error fault
  | none => .ok config

theorem usable_of_validate {config validated : Config} (success : config.validate = .ok validated) :
    validated = config ∧ config.Usable := by
  rw [validate] at success
  split at success
  · cases success
  · rename_i clean
    cases success
    exact ⟨rfl, config.fault?_eq_none_iff.1 clean⟩

theorem validate_of_usable {config : Config} (usable : config.Usable) :
    config.validate = .ok config := by
  rw [validate, config.fault?_eq_none_iff.2 usable]

/-- The bounds that hold for every operation. -/
def limits (config : Config) : Limits where
  maxDataLength := config.maxDataLength

end Config

end BatchTree
