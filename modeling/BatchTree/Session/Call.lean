import BatchTree.Batch.Response
import BatchTree.Config.Basic
import BatchTree.Path.Parse
import BatchTree.Session.Builder

/-!
# Calls and answers

What can be asked of a session, and what it answers.  A batch can be submitted
and waited for, or submitted together with a completion: the calls to make, in
order, once its response is there.
-/

namespace BatchTree

/-- A batch to wait for. -/
inductive Request where
  | batch (operations : Batch)
  /-- What a builder has collected. -/
  | built (builder : BatchBuilder)
  | create (path : String) (data : Payload) (mode : CreateMode)
  | delete (path : String) (version : Version)
  | setData (path : String) (data : Payload) (version : Version)
  | check (path : String) (version : Version)
  deriving DecidableEq

/-- What a session can be asked. -/
inductive Call where
  /-- Submit a batch and wait for its response. -/
  | submit (request : Request)
  /-- Submit a batch under a label and do not wait. -/
  | submitAsync (label : String) (batch : Batch) (completion : List Call)
  | exists (path : String)
  | getData (path : String)
  | getChildren (path : String)
  | setAuthoritative (value : Bool)
  | shutDown
  | status
  | config
  | describe
  /-- Wait, on the worker alone, until released or until the session is shut down. -/
  | hold
  /-- Break off the completion that makes this call. -/
  | crash
  /-- A request for a create mode that does not exist. -/
  | unknownMode (flag : Int)

/-- What a session says to a call. -/
inductive Answer where
  | response (response : Response)
  | committed (kinds : List Operation.Kind) (response : Response)
  | submitted
  | path (path : String)
  | done
  | stat (stat : Stat)
  | found (stat : Option Stat)
  | data (data : Payload) (stat : Stat)
  | names (names : List String)
  | failed (failure : Failure)
  | flag (value : Bool)
  | flags (authoritative shutDown : Bool)
  | config (config : Config)
  | description (text : String)
  | released
  | shutDown
  | notOnWorker
  /-- The call would have waited for a worker that is held, and was not made. -/
  | heldBack
  | unknownMode (flag : Int)
  deriving DecidableEq

namespace Request

/-- The batch that is submitted.  A single operation is a batch of one. -/
def operations : Request → Batch
  | batch operations => operations
  | built builder => builder.operations
  | create path data mode => [.create path data mode]
  | delete path version => [.delete path version]
  | setData path data version => [.setData path data version]
  | check path version => [.check path version]

/-- The one reply of a batch of one, turned into an answer.  A reply of another
kind, or none at all, would be as good as no store. -/
def singleAnswer (path : String) (response : Response) (answer? : Reply → Option Answer) :
    Answer :=
  match response.toExcept with
  | .error failure => .failed failure
  | .ok replies => (replies.head?.bind answer?).getD (.failed (.node .unavailable path))

/-- The answer to a request, when the response to its batch is there. -/
def answer (request : Request) (response : Response) : Answer :=
  match request with
  | batch _ => .response response
  | built builder => .committed builder.kinds response
  | create path _ _ => singleAnswer path response fun reply => reply.createdPath?.map .path
  | delete path _ => singleAnswer path response fun _ => some .done
  | setData path _ _ => singleAnswer path response fun reply => reply.stat?.map .stat
  | check path _ => singleAnswer path response fun _ => some .done

end Request

/-- Does a call wait for a response? -/
def Call.waits : Call → Bool
  | submit _ => true
  | _ => false

end BatchTree
