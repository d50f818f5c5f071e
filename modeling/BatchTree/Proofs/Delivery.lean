import BatchTree.Store

/-!
# What the watchers hear

A recorder takes every event, and the sinks before it can keep an event from it only by
breaking down.  If none of the sinks can break down, every round of events comes to its end.
-/

namespace BatchTree

namespace Mailbox

variable {mailbox : Mailbox}

theorem deliver_of_recorder (recorder : mailbox.kind = .recorder) (event : Event) :
    EventSink.deliver mailbox event = .accepted (mailbox.push event) := by
  simp [EventSink.deliver, accepts, recorder]

/-- A sound mailbox takes an event or refuses it. -/
theorem deliver_of_sound (sound : mailbox.kind ≠ .broken) (event : Event) :
    EventSink.deliver mailbox event = .accepted (mailbox.push event) ∨
      EventSink.deliver mailbox event = .refused := by
  simp only [EventSink.deliver, if_neg sound]
  cases mailbox.accepts
  · exact .inr rfl
  · exact .inl rfl

theorem offer_of_recorder (recorder : mailbox.kind = .recorder) (events : List Event) :
    EventSink.offer mailbox events =
      ({ mailbox with events := mailbox.events ++ events }, .served) := by
  induction events generalizing mailbox with
  | nil => simp [EventSink.offer]
  | cons event rest ih =>
      rw [EventSink.offer, deliver_of_recorder recorder]
      dsimp only
      rw [@ih (mailbox.push event) recorder]
      simp [push]

/-- A sound mailbox stays sound. -/
theorem offer_of_sound (sound : mailbox.kind ≠ .broken) (events : List Event) :
    (EventSink.offer mailbox events).1.kind ≠ .broken ∧
      (EventSink.offer mailbox events).2 ≠ .broken := by
  induction events generalizing mailbox with
  | nil => exact ⟨sound, Ending.noConfusion⟩
  | cons event rest ih =>
      rw [EventSink.offer]
      rcases deliver_of_sound sound event with taken | refused
      · rw [taken]
        exact @ih (mailbox.push event) sound
      · rw [refused]
        exact ⟨sound, Ending.noConfusion⟩

end Mailbox

namespace Broadcast

/-- The sink does not break down when it is served. -/
def Sound (subscription : Subscription Mailbox) : Prop :=
  subscription.active = true → subscription.sink.kind ≠ .broken

/-- A recorder has the given seat and has kept the given events, and no sink that is served
before it can break down. -/
inductive Hears (heard : List Event) : Nat → List (Subscription Mailbox) → Prop where
  | here {mailbox : Mailbox} {behind : List (Subscription Mailbox)}
      (recorder : mailbox.kind = .recorder) (kept : mailbox.events = heard) :
      Hears heard 0 (⟨mailbox, true⟩ :: behind)
  | there {subscription : Subscription Mailbox} {rest : List (Subscription Mailbox)} {seat : Nat}
      (sound : Sound subscription) (hears : Hears heard seat rest) :
      Hears heard (seat + 1) (subscription :: rest)

/-- Serving a sound sink is followed by serving the rest. -/
theorem serve_cons_of_sound {subscription : Subscription Mailbox} (sound : Sound subscription)
    (events : List Event) (rest : List (Subscription Mailbox)) :
    ∃ served, Sound served ∧
      serve events (subscription :: rest) =
        (served :: (serve events rest).1, (serve events rest).2) := by
  rw [serve]
  by_cases active : subscription.active
  · have offered := Mailbox.offer_of_sound (sound active) events
    rw [if_pos active]
    generalize EventSink.offer subscription.sink events = ended at offered
    obtain ⟨sink, ending⟩ := ended
    cases ending with
    | served => exact ⟨⟨sink, true⟩, fun _ => offered.1, rfl⟩
    | refused => exact ⟨⟨sink, false⟩, Bool.noConfusion, rfl⟩
    | broken => exact absurd rfl offered.2
  · rw [if_neg active]
    exact ⟨subscription, sound, rfl⟩

/-- The recorder hears every event of a round, also of one that is broken off. -/
theorem Hears.serve {heard : List Event} {seat : Nat} {subscriptions : List (Subscription Mailbox)}
    (hears : Hears heard seat subscriptions) (events : List Event) :
    Hears (heard ++ events) seat (Broadcast.serve events subscriptions).1 := by
  induction hears with
  | @here mailbox behind recorder kept =>
      rw [Broadcast.serve, if_pos rfl, Mailbox.offer_of_recorder recorder, kept]
      exact .here recorder rfl
  | @there subscription rest seat sound _ ih =>
      obtain ⟨served, soundToo, same⟩ := serve_cons_of_sound sound events rest
      rw [same]
      exact .there soundToo ih

theorem Hears.fire {heard : List Event} {seat : Nat} {broadcast : Broadcast Mailbox}
    (hears : Hears heard seat broadcast.subscriptions) (events : List Event) :
    Hears (heard ++ events) seat (broadcast.fire events).1.subscriptions := by
  rw [Broadcast.fire]
  split
  · rename_i none
    rw [List.isEmpty_iff] at none
    rw [none, List.append_nil]
    exact hears
  · have served := hears.serve events
    generalize Broadcast.serve events broadcast.subscriptions = round at served
    obtain ⟨subscriptions, complete⟩ := round
    cases complete with
    | true => exact served
    | false => exact served

/-- If no sink can break down, a round comes to its end, and no sink can break down in the
next one. -/
theorem serve_of_sound {subscriptions : List (Subscription Mailbox)}
    (sound : ∀ subscription ∈ subscriptions, Sound subscription) (events : List Event) :
    (∀ subscription ∈ (serve events subscriptions).1, Sound subscription) ∧
      (serve events subscriptions).2 = true := by
  induction subscriptions with
  | nil => exact ⟨sound, rfl⟩
  | cons subscription rest ih =>
      rw [List.forall_mem_cons] at sound
      obtain ⟨served, soundToo, same⟩ := serve_cons_of_sound sound.1 events rest
      rw [same, List.forall_mem_cons]
      exact ⟨⟨soundToo, (ih sound.2).1⟩, (ih sound.2).2⟩

/-- If no sink can break down, neither can the broadcast. -/
theorem fire_of_sound {broadcast : Broadcast Mailbox}
    (sound : ∀ subscription ∈ broadcast.subscriptions, Sound subscription)
    (events : List Event) :
    ∃ fired : Broadcast Mailbox, (∀ subscription ∈ fired.subscriptions, Sound subscription) ∧
      broadcast.fire events = (fired, true) := by
  rw [Broadcast.fire]
  split
  · exact ⟨broadcast, sound, rfl⟩
  · have served := serve_of_sound sound events
    generalize Broadcast.serve events broadcast.subscriptions = round at served
    obtain ⟨subscriptions, complete⟩ := round
    obtain ⟨soundToo, rfl⟩ := served
    exact ⟨⟨subscriptions, broadcast.fired + events.length⟩, soundToo, rfl⟩

/-- A recorder that watches alone takes all events of a round, which comes to its end. -/
theorem fire_of_recorder {broadcast : Broadcast Mailbox} {mailbox : Mailbox}
    (alone : broadcast.subscriptions = [⟨mailbox, true⟩]) (recorder : mailbox.kind = .recorder)
    (events : List Event) :
    (broadcast.fire events).2 = true ∧
      (broadcast.fire events).1.subscriptions =
        [⟨{ mailbox with events := mailbox.events ++ events }, true⟩] := by
  rw [Broadcast.fire]
  split
  · rename_i none
    rw [List.isEmpty_iff] at none
    rw [none, List.append_nil]
    exact ⟨rfl, alone⟩
  · rw [alone, serve, if_pos rfl, Mailbox.offer_of_recorder recorder]
    exact ⟨rfl, rfl⟩

end Broadcast

namespace Store

variable {store : Store}

/-- No watcher can break down. -/
def Sound (store : Store) : Prop :=
  ∀ subscription ∈ store.watchers.subscriptions, Broadcast.Sound subscription

theorem sound_of_unwatched : Sound {} :=
  List.forall_mem_nil _

/-- Where no watcher can break down, every batch is answered, and it stays so. -/
theorem Sound.execute (sound : store.Sound) (limits : Limits) (batch : Batch) :
    ∃ after, after.Sound ∧ after.tree = (store.tree.execute limits batch).tree ∧
      store.execute limits batch =
        (after, .answered (store.tree.execute limits batch).response) := by
  obtain ⟨fired, soundToo, isFired⟩ :=
    Broadcast.fire_of_sound sound (store.tree.execute limits batch).events
  refine ⟨⟨(store.tree.execute limits batch).tree, fired⟩, soundToo, rfl, ?_⟩
  rw [Store.execute, isFired]

end Store

end BatchTree
