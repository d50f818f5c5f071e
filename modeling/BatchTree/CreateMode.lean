/-!
# Create modes

Whether a node is created at the requested path or at a path that the parent's
counter completes.  A mode is stored and sent as a flag.
-/

namespace BatchTree

/-- How a create names its node. -/
inductive CreateMode where
  | persistent
  | sequential
  deriving DecidableEq, Repr

namespace CreateMode

instance : Inhabited CreateMode := ⟨.persistent⟩

def isSequential (mode : CreateMode) : Bool :=
  mode == .sequential

def flag : CreateMode → Int
  | .persistent => 0
  | .sequential => 2

def ofFlag? (flag : Int) : Option CreateMode :=
  if flag = 0 then some .persistent else if flag = 2 then some .sequential else none

theorem ofFlag?_eq_some_iff (flag : Int) (mode : CreateMode) :
    ofFlag? flag = some mode ↔ mode.flag = flag := by
  unfold ofFlag?
  split
  · rename_i zero
    subst zero
    cases mode <;> simp [CreateMode.flag]
  · split
    · rename_i two
      subst two
      cases mode <;> simp [CreateMode.flag]
    · cases mode <;> simp_all [CreateMode.flag, eq_comm]

@[simp] theorem ofFlag?_flag (mode : CreateMode) : ofFlag? mode.flag = some mode :=
  (ofFlag?_eq_some_iff _ _).2 rfl

/-- What is said of a flag that no mode has. -/
def unknownMessage (flag : Int) : String :=
  s!"unknown create mode flag: {flag}"

end CreateMode

end BatchTree
