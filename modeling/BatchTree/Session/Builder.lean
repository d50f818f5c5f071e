import BatchTree.Batch.Operation

/-!
# Building batches

Operations are collected one after the other and then submitted as one batch.
-/

namespace BatchTree

/-- The operations collected so far. -/
structure BatchBuilder where
  operations : Batch := []
  deriving DecidableEq

namespace BatchBuilder

/-- Add an operation at the end. -/
def add (builder : BatchBuilder) (operation : Operation) : BatchBuilder :=
  { builder with operations := builder.operations ++ [operation] }

def create (builder : BatchBuilder) (path : String) (data : Payload) (mode : CreateMode) :
    BatchBuilder :=
  builder.add (.create path data mode)

def delete (builder : BatchBuilder) (path : String) (version : Version) : BatchBuilder :=
  builder.add (.delete path version)

def setData (builder : BatchBuilder) (path : String) (data : Payload) (version : Version) :
    BatchBuilder :=
  builder.add (.setData path data version)

def check (builder : BatchBuilder) (path : String) (version : Version) : BatchBuilder :=
  builder.add (.check path version)

/-- What the collected operations do, in order. -/
def kinds (builder : BatchBuilder) : List Operation.Kind :=
  builder.operations.map Operation.kind

/-- Collect the operations of a batch. -/
def ofBatch (batch : Batch) : BatchBuilder :=
  batch.foldl add {}

@[simp] theorem operations_add (builder : BatchBuilder) (operation : Operation) :
    (builder.add operation).operations = builder.operations ++ [operation] := rfl

@[simp] theorem operations_ofBatch (batch : Batch) : (ofBatch batch).operations = batch := by
  have collected : ∀ (rest : Batch) (builder : BatchBuilder),
      (rest.foldl add builder).operations = builder.operations ++ rest := by
    intro rest
    induction rest with
    | nil => simp
    | cons operation rest ih =>
        intro builder
        simp [ih]
  rw [ofBatch, collected]
  rfl

end BatchBuilder

end BatchTree
