import BatchTree.Watch.Event

/-!
# Broadcasting events

Events are handed to every registered sink in turn.  A sink that refuses an event
is dropped and never asked again; what one sink receives does not depend on the
others.  A sink may also break down while it is being served: the round then ends
on the spot, and the sinks after it go without.
-/

namespace BatchTree

/-- What a sink does with one event. -/
inductive Delivery (σ : Type) where
  /-- The event was taken, and the sink goes on as `after`. -/
  | accepted (after : σ)
  /-- The sink is closed. -/
  | refused
  /-- The sink broke down. -/
  | broken

/-- Something that events can be delivered to.  Whether it takes an event depends
on its own state alone. -/
class EventSink (σ : Type) where
  deliver : σ → Event → Delivery σ

/-- How a round of events ended for one sink. -/
inductive Ending where
  | served
  | refused
  | broken
  deriving DecidableEq, Repr

/-- Hand events to a sink until it takes one no more. -/
def EventSink.offer {σ : Type} [EventSink σ] : σ → List Event → σ × Ending
  | sink, [] => (sink, .served)
  | sink, event :: rest =>
      match EventSink.deliver sink event with
      | .accepted after => EventSink.offer after rest
      | .refused => (sink, .refused)
      | .broken => (sink, .broken)

/-- A sink and whether it is still registered. -/
structure Subscription (σ : Type) where
  sink : σ
  active : Bool := true
  deriving DecidableEq, Repr

/-- The sinks in order of registration, dropped ones included, and how many events
have been fired. -/
structure Broadcast (σ : Type) where
  subscriptions : List (Subscription σ) := []
  fired : Nat := 0
  deriving DecidableEq, Repr

namespace Broadcast

variable {σ : Type}

/-- Register a sink. -/
def add (broadcast : Broadcast σ) (sink : σ) : Broadcast σ :=
  { broadcast with subscriptions := broadcast.subscriptions ++ [⟨sink, true⟩] }

/-- Number of sinks ever registered, which is the index of the next one. -/
def size (broadcast : Broadcast σ) : Nat :=
  broadcast.subscriptions.length

/-- Number of sinks that have not been dropped. -/
def sinkCount (broadcast : Broadcast σ) : Nat :=
  broadcast.subscriptions.countP (·.active)

/-- The sink with the given index of registration. -/
def sink? (broadcast : Broadcast σ) (index : Nat) : Option σ :=
  broadcast.subscriptions[index]?.map (·.sink)

/-- Change the state of one sink from the receiving side. -/
def modifySink (broadcast : Broadcast σ) (index : Nat) (change : σ → σ) : Broadcast σ :=
  { broadcast with
    subscriptions := broadcast.subscriptions.modify index fun subscription =>
      { subscription with sink := change subscription.sink } }

/-- Serve the sinks in turn.  Says whether the round came to its end. -/
def serve [EventSink σ] (events : List Event) :
    List (Subscription σ) → List (Subscription σ) × Bool
  | [] => ([], true)
  | subscription :: rest =>
      if subscription.active then
        match EventSink.offer subscription.sink events with
        | (sink, .served) =>
            let (served, complete) := serve events rest
            (⟨sink, true⟩ :: served, complete)
        | (sink, .refused) =>
            let (served, complete) := serve events rest
            (⟨sink, false⟩ :: served, complete)
        | (sink, .broken) => (⟨sink, true⟩ :: rest, false)
      else
        let (served, complete) := serve events rest
        (subscription :: served, complete)

/-- Fire events.  They are counted once every sink has had its turn.  Says whether
the round came to its end. -/
def fire [EventSink σ] (broadcast : Broadcast σ) (events : List Event) : Broadcast σ × Bool :=
  if events.isEmpty then
    (broadcast, true)
  else
    match serve events broadcast.subscriptions with
    | (subscriptions, true) => (⟨subscriptions, broadcast.fired + events.length⟩, true)
    | (subscriptions, false) => ({ broadcast with subscriptions := subscriptions }, false)

/-- A summary for logs. -/
def summary (broadcast : Broadcast σ) : String :=
  s!"NotificationTrigger \x7b sinks: {broadcast.sinkCount}, fired: {broadcast.fired} \x7d"

end Broadcast

end BatchTree
