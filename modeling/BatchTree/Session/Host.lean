import BatchTree.Session.Schedule

/-!
# Hosts

Several sessions over one store, and the receivers of those who have subscribed
to its events.
-/

namespace BatchTree

/-- Sessions that share a store. -/
structure Host where
  store : Store := {}
  sessions : List Session
  /-- The sinks of the receivers, by their index of registration. -/
  receivers : List Nat := []

namespace Host

/-- Open a session for each configuration, or report the first that is unusable. -/
def openAll (configs : List Config) : Except Config.Fault Host :=
  (configs.mapM Session.openWith).map fun sessions => { sessions }

/-- Let one session act. -/
def act (host : Host) (index : Nat) (action : Store → Session → Session.Step) :
    Host × List Note :=
  match host.sessions[index]? with
  | none => (host, [])
  | some session =>
      let step := action host.store session
      ({ host with
        store := step.store
        sessions := host.sessions.set index step.session }, step.notes)

/-- Make a call to one session. -/
def call (host : Host) (index : Nat) (call : Call) : Host × List Note :=
  host.act index fun store session => session.call store call

/-- Let go the worker of one session. -/
def letGo (host : Host) (index : Nat) : Host × List Note :=
  host.act index fun store session => session.letGo store

/-- Shut every session down, in order. -/
def shutDown (host : Host) : Host × List Note :=
  (List.range host.sessions.length).foldl
    (fun state index =>
      let (host, notes) := state.1.call index .shutDown
      (host, state.2 ++ notes))
    (host, [])

/-! ## Watching -/

/-- Change those who watch the store. -/
def modifyWatchers (host : Host) (change : Broadcast Mailbox → Broadcast Mailbox) : Host :=
  { host with store := { host.store with watchers := change host.store.watchers } }

/-- Register a sink that nobody reads. -/
def addSink (host : Host) (mailbox : Mailbox) : Host :=
  host.modifyWatchers (·.add mailbox)

/-- Subscribe to events.  Yields the number of the receiver. -/
def subscribe (host : Host) : Host × Nat :=
  let sink := host.store.watchers.size
  ({ host.addSink .channel with receivers := host.receivers ++ [sink] }, host.receivers.length)

/-- Take the waiting events of a receiver, if it is still there. -/
def takeEvents (host : Host) (receiver : Nat) : Host × Option (List Event) :=
  match host.receivers[receiver]? with
  | none => (host, none)
  | some sink =>
      (host.modifyWatchers (·.modifySink sink Mailbox.emptied),
        (host.store.watchers.sink? sink).bind Mailbox.waiting?)

/-- Drop a receiver.  Its sink stays until the next event finds it closed. -/
def unsubscribe (host : Host) (receiver : Nat) : Host :=
  match host.receivers[receiver]? with
  | none => host
  | some sink => host.modifyWatchers (·.modifySink sink Mailbox.close)

end Host

end BatchTree
