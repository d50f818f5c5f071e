import BatchTree.Watch.Broadcast

/-!
# Mailboxes

The sinks that come with the library.  A channel passes events to a receiver and
closes when the receiver goes away; a recorder keeps all it sees; a limited sink
takes a fixed number of events; a broken one fails at every delivery.
-/

namespace BatchTree

/-- What a mailbox does with its events. -/
inductive MailboxKind where
  | channel
  | recorder
  | limited (capacity : Nat)
  | broken
  deriving DecidableEq, Repr

/-- A sink with the events that wait in it. -/
structure Mailbox where
  kind : MailboxKind
  events : List Event := []
  /-- Is there still a receiver? -/
  isOpen : Bool := true
  deriving DecidableEq

namespace Mailbox

def channel : Mailbox where
  kind := .channel

def recorder : Mailbox where
  kind := .recorder

def limited (capacity : Nat) : Mailbox where
  kind := .limited capacity

def broken : Mailbox where
  kind := .broken

/-- Does the mailbox take another event?  A broken one never comes to say no. -/
def accepts (mailbox : Mailbox) : Bool :=
  match mailbox.kind with
  | .channel => mailbox.isOpen
  | .recorder => true
  | .limited capacity => mailbox.events.length < capacity
  | .broken => false

/-- The mailbox with one more event. -/
def push (mailbox : Mailbox) (event : Event) : Mailbox :=
  { mailbox with events := mailbox.events ++ [event] }

instance : EventSink Mailbox where
  deliver mailbox event :=
    if mailbox.kind = .broken then .broken
    else if mailbox.accepts then .accepted (mailbox.push event)
    else .refused

/-- Drop the receiver of a channel.  The events that wait there are never seen. -/
def close (mailbox : Mailbox) : Mailbox :=
  if mailbox.kind = .channel then { mailbox with isOpen := false } else mailbox

/-- Take the waiting events away.  A limited sink keeps the events it has taken,
since they count against its capacity. -/
def emptied (mailbox : Mailbox) : Mailbox :=
  match mailbox.kind with
  | .limited _ => mailbox
  | _ => { mailbox with events := [] }

/-- The mailbox after a look at its events.  A receiver can only look by taking;
a recorder can show its events and keep them. -/
def peeked (mailbox : Mailbox) : Mailbox :=
  if mailbox.kind = .recorder then mailbox else mailbox.emptied

/-- The waiting events, unless there is no receiver to see them. -/
def waiting? (mailbox : Mailbox) : Option (List Event) :=
  if mailbox.isOpen then some mailbox.events else none

end Mailbox

end BatchTree
