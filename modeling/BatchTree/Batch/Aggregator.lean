import BatchTree.Batch.Response

/-!
# Gathering replies

While a batch is validated its replies are provisional.  They are kept on commit
and thrown away on abort.
-/

namespace BatchTree

/-- The provisional replies of a batch of `count` operations. -/
structure Aggregator where
  count : Nat
  provisional : List Reply := []
  deriving DecidableEq, Repr

namespace Aggregator

/-- Add the reply of the next operation. -/
def record (aggregator : Aggregator) (reply : Reply) : Aggregator :=
  { aggregator with provisional := aggregator.provisional ++ [reply] }

/-- The batch was installed. -/
def commit (aggregator : Aggregator) (zxid : Option Zxid) : Response :=
  .committed aggregator.provisional zxid

/-- Operation `index` failed. -/
def abort (aggregator : Aggregator) (index : Nat) (status : Status) : Response :=
  .aborted aggregator.count index status

end Aggregator

end BatchTree
