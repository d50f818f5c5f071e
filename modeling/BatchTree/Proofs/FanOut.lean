import BatchTree.Proofs.Delivery

/-!
# Fan-out

What a sink receives is between it and the events.  Followed by itself (`Hearer`), a sink
takes event after event until it refuses one, and no more after that; and in a broadcast each
sink fares exactly so, however many others are served in the same rounds and however those
end (`Broadcast.FansOut`).  The sinks may be of any type, as long as they take or refuse what
they are offered.
-/

namespace BatchTree

namespace EventSink

variable {σ τ : Type} [EventSink σ] [EventSink τ]

/-- The sink takes or refuses what it is offered.  It does not break down, now or later. -/
def Steady (sink : σ) : Prop :=
  ∀ events, (EventSink.offer sink events).2 ≠ .broken

/-- A steady sink takes an event and stays steady, or refuses it. -/
theorem Steady.deliver_cases {sink : σ} (steady : Steady sink) (event : Event) :
    (∃ after, EventSink.deliver sink event = .accepted after ∧ Steady after) ∨
      EventSink.deliver sink event = .refused := by
  cases delivered : EventSink.deliver sink event with
  | accepted after =>
      refine .inl ⟨after, rfl, ?_⟩
      intro events
      have later := steady (event :: events)
      rwa [EventSink.offer, delivered] at later
  | refused => exact .inr rfl
  | broken =>
      have now := steady [event]
      rw [EventSink.offer, delivered] at now
      exact absurd rfl now

/-- Only a broken mailbox breaks down. -/
theorem steady_mailbox_iff {mailbox : Mailbox} : Steady mailbox ↔ mailbox.kind ≠ .broken := by
  constructor
  · intro steady broken
    have now := steady [⟨.root, .created, 0⟩]
    simp [EventSink.offer, EventSink.deliver, broken] at now
  · exact fun sound events => (Mailbox.offer_of_sound sound events).2

/-- A mailbox whose receiver has gone away can still say no. -/
theorem Steady.close {mailbox : Mailbox} (steady : Steady mailbox) : Steady mailbox.close := by
  rw [steady_mailbox_iff] at steady ⊢
  rw [Mailbox.close]
  split
  · exact steady
  · exact steady

end EventSink

/-- A sink together with the events that it has taken. -/
structure Tapped (σ : Type) where
  sink : σ
  taken : List Event := []

/-- Whether an event is taken is up to the sink. -/
instance {σ : Type} [EventSink σ] : EventSink (Tapped σ) where
  deliver tapped event :=
    match EventSink.deliver tapped.sink event with
    | .accepted after => .accepted ⟨after, tapped.taken ++ [event]⟩
    | .refused => .refused
    | .broken => .broken

namespace Broadcast

/-- What can be done with a broadcast. -/
inductive Call (σ : Type) where
  | add (sink : σ)
  /-- The receiving side of a sink does something to it, such as to close it. -/
  | adjust (seat : Nat) (change : σ → σ)
  | fire (events : List Event)

section Calls

variable {σ : Type}

/-- The same call for sinks that are tapped. -/
def Call.tap : Call σ → Call (Tapped σ)
  | .add sink => .add ⟨sink, []⟩
  | .adjust seat change => .adjust seat fun tapped => { tapped with sink := change tapped.sink }
  | .fire events => .fire events

/-- The events that a call fires. -/
def Call.events : Call σ → List Event
  | .add _ => []
  | .adjust _ _ => []
  | .fire events => events

variable [EventSink σ]

/-- The call brings in no sink that could break down. -/
def Call.Steady : Call σ → Prop
  | .add sink => EventSink.Steady sink
  | .adjust _ change => ∀ sink, EventSink.Steady sink → EventSink.Steady (change sink)
  | .fire _ => True

def perform (broadcast : Broadcast σ) : Call σ → Broadcast σ
  | .add sink => broadcast.add sink
  | .adjust seat change => broadcast.modifySink seat change
  | .fire events => (broadcast.fire events).1

def performAll (broadcast : Broadcast σ) (calls : List (Call σ)) : Broadcast σ :=
  calls.foldl perform broadcast

end Calls

end Broadcast

/-- A sink by itself, with the events that it has taken and the one that it has refused. -/
structure Hearer (σ : Type) extends Tapped σ where
  refused : Option Event := none

namespace Hearer

variable {σ : Type}

/-- A sink that has just been registered. -/
def of (sink : σ) : Hearer σ where
  sink := sink

/-- The sink as it stands in a broadcast. -/
def subscription (hearer : Hearer σ) : Subscription (Tapped σ) where
  sink := hearer.toTapped
  active := hearer.refused.isNone

/-- Something is done to the sink from the receiving side. -/
def adjust (hearer : Hearer σ) (change : σ → σ) : Hearer σ :=
  { hearer with sink := change hearer.sink }

/-- What does not depend on the seat needs no seat. -/
theorem mapIdx_unseated (hearers : List (Hearer σ)) (change : Hearer σ → Hearer σ) :
    hearers.mapIdx (fun _ hearer => change hearer) = hearers.map change := by
  apply List.ext_getElem?
  simp

/-- The hearer has taken all of the events, or those before the one that it has refused. -/
def Heard (hearer : Hearer σ) (events : List Event) : Prop :=
  match hearer.refused with
  | none => events = hearer.taken
  | some event => ∃ missed, events = hearer.taken ++ event :: missed

variable [EventSink σ]

/-- Offer an event, unless one has been refused before. -/
def hear (hearer : Hearer σ) (event : Event) : Hearer σ :=
  match hearer.refused with
  | some _ => hearer
  | none =>
      match EventSink.deliver hearer.sink event with
      | .accepted after => { hearer with sink := after, taken := hearer.taken ++ [event] }
      | .refused => { hearer with refused := some event }
      | .broken => hearer

def hearAll (hearer : Hearer σ) (events : List Event) : Hearer σ :=
  events.foldl hear hearer

/-- What a call does to the sink that has the given seat. -/
def heed (seat : Nat) (hearer : Hearer σ) : Broadcast.Call σ → Hearer σ
  | .add _ => hearer
  | .adjust other change => if other = seat then hearer.adjust change else hearer
  | .fire events => hearer.hearAll events

def follow (seat : Nat) (hearer : Hearer σ) (calls : List (Broadcast.Call σ)) : Hearer σ :=
  calls.foldl (heed seat) hearer

/-- Unless it has refused an event, the sink takes or refuses what it is offered. -/
def Steady (hearer : Hearer σ) : Prop :=
  hearer.refused = none → EventSink.Steady hearer.sink

section Laws

variable {hearer : Hearer σ} {events : List Event}

theorem hear_of_refused {event : Event} (settled : hearer.refused.isSome) :
    hearer.hear event = hearer := by
  obtain ⟨refused, isRefused⟩ := Option.isSome_iff_exists.1 settled
  rw [hear, isRefused]

theorem hearAll_of_refused (settled : hearer.refused.isSome) (events : List Event) :
    hearer.hearAll events = hearer := by
  induction events with
  | nil => rfl
  | cons event rest ih =>
      rw [hearAll, List.foldl_cons, hear_of_refused settled]
      exact ih

/-- An event is passed over, taken, or refused. -/
theorem Steady.hear_cases (steady : hearer.Steady) (event : Event) :
    (hearer.refused.isSome ∧ hearer.hear event = hearer) ∨
      (hearer.refused = none ∧ ∃ after, EventSink.Steady after ∧
        EventSink.deliver hearer.sink event = .accepted after ∧
        hearer.hear event = { hearer with sink := after, taken := hearer.taken ++ [event] }) ∨
      (hearer.refused = none ∧ EventSink.deliver hearer.sink event = .refused ∧
        hearer.hear event = { hearer with refused := some event }) := by
  cases refusal : hearer.refused with
  | some refused =>
      have settled : hearer.refused.isSome := by rw [refusal, Option.isSome_some]
      exact .inl ⟨rfl, hear_of_refused settled⟩
  | none =>
      rcases (steady refusal).deliver_cases event with ⟨after, taken, steadyToo⟩ | refused
      · exact .inr (.inl ⟨rfl, after, steadyToo, taken, by rw [Hearer.hear, refusal, taken]⟩)
      · exact .inr (.inr ⟨rfl, refused, by rw [Hearer.hear, refusal, refused]⟩)

theorem Steady.hear (steady : hearer.Steady) (event : Event) : (hearer.hear event).Steady := by
  rcases steady.hear_cases event with ⟨-, same⟩ | ⟨-, after, steadyToo, -, taken⟩ | ⟨-, -, refused⟩
  · rw [same]
    exact steady
  · rw [taken]
    exact fun _ => steadyToo
  · rw [refused]
    exact fun willing => nomatch willing

theorem Steady.hearAll (steady : hearer.Steady) (events : List Event) :
    (hearer.hearAll events).Steady := by
  induction events generalizing hearer with
  | nil => exact steady
  | cons event rest ih => exact ih (steady.hear event)

/-- One more event is taken, refused, or missed. -/
theorem Heard.hear (heard : hearer.Heard events) (steady : hearer.Steady) (event : Event) :
    (hearer.hear event).Heard (events ++ [event]) := by
  rcases steady.hear_cases event with ⟨settled, same⟩ | ⟨willing, after, -, -, taken⟩ |
    ⟨willing, -, refused⟩
  · obtain ⟨refused, isRefused⟩ := Option.isSome_iff_exists.1 settled
    rw [same]
    simp only [Heard, isRefused] at heard ⊢
    obtain ⟨missed, rfl⟩ := heard
    exact ⟨missed ++ [event], by simp⟩
  · simp only [Heard, willing] at heard
    simp only [taken, Heard, willing, heard]
  · simp only [Heard, willing] at heard
    simp only [refused, Heard, heard]
    exact ⟨[], rfl⟩

theorem Heard.hearAll (heard : hearer.Heard events) (steady : hearer.Steady)
    (others : List Event) : (hearer.hearAll others).Heard (events ++ others) := by
  induction others generalizing hearer events with
  | nil => rwa [List.append_nil]
  | cons event rest ih =>
      have later := ih (heard.hear steady event) (steady.hear event)
      rwa [List.append_assoc] at later

theorem follow_cons (seat : Nat) (call : Broadcast.Call σ) (rest : List (Broadcast.Call σ)) :
    hearer.follow seat (call :: rest) = (hearer.heed seat call).follow seat rest :=
  rfl

theorem follow_append (seat : Nat) (before after : List (Broadcast.Call σ)) :
    hearer.follow seat (before ++ after) = (hearer.follow seat before).follow seat after :=
  List.foldl_append

/-- Once the sink has refused an event, it takes no more. -/
theorem follow_of_refused (settled : hearer.refused.isSome) (seat : Nat)
    (calls : List (Broadcast.Call σ)) :
    (hearer.follow seat calls).taken = hearer.taken ∧
      (hearer.follow seat calls).refused = hearer.refused := by
  induction calls generalizing hearer with
  | nil => exact ⟨rfl, rfl⟩
  | cons call rest ih =>
      rw [follow_cons]
      cases call with
      | add sink => exact ih settled
      | adjust other change =>
          rw [heed]
          split
          · have settledToo : (hearer.adjust change).refused.isSome := settled
            exact ih settledToo
          · exact ih settled
      | fire events =>
          rw [heed, hearAll_of_refused settled]
          exact ih settled

theorem Steady.heed {call : Broadcast.Call σ} (steady : hearer.Steady) (callSteady : call.Steady)
    (seat : Nat) : (hearer.heed seat call).Steady := by
  cases call with
  | add sink => exact steady
  | adjust other change =>
      rw [Hearer.heed]
      split
      · exact fun willing => callSteady _ (steady willing)
      · exact steady
  | fire events => exact steady.hearAll events

theorem Heard.heed (heard : hearer.Heard events) (steady : hearer.Steady) (seat : Nat)
    (call : Broadcast.Call σ) : (hearer.heed seat call).Heard (events ++ call.events) := by
  cases call with
  | add sink => rwa [Broadcast.Call.events, List.append_nil]
  | adjust other change =>
      rw [Broadcast.Call.events, List.append_nil, Hearer.heed]
      split
      · exact heard
      · exact heard
  | fire events => exact heard.hearAll steady events

/-- Whatever else is done, the sink hears what is fired. -/
theorem Heard.follow {calls : List (Broadcast.Call σ)} (heard : hearer.Heard events)
    (steady : hearer.Steady) (callsSteady : ∀ call ∈ calls, call.Steady) (seat : Nat) :
    (hearer.follow seat calls).Heard (events ++ calls.flatMap (·.events)) := by
  induction calls generalizing hearer events with
  | nil => rwa [List.flatMap_nil, List.append_nil]
  | cons call rest ih =>
      rw [List.forall_mem_cons] at callsSteady
      rw [List.flatMap_cons, ← List.append_assoc]
      exact ih (heard.heed steady seat call) (steady.heed callsSteady.1 seat) callsSteady.2

/-- What the sink answers for an offer that leaves it so. -/
def ending (hearer : Hearer σ) : Ending :=
  if hearer.refused.isNone then .served else .refused

/-- To be offered events is to hear them. -/
theorem offer_eq (steady : hearer.Steady) (willing : hearer.refused = none)
    (events : List Event) :
    EventSink.offer hearer.toTapped events =
      ((hearer.hearAll events).toTapped, (hearer.hearAll events).ending) := by
  induction events generalizing hearer with
  | nil => simp [EventSink.offer, hearAll, ending, willing]
  | cons event rest ih =>
      have steadyToo := steady.hear event
      rw [EventSink.offer, hearAll, List.foldl_cons]
      rcases steady.hear_cases event with ⟨settled, -⟩ | ⟨-, after, -, delivered, taken⟩ |
        ⟨-, delivered, refused⟩
      · rw [willing] at settled
        cases settled
      · rw [taken] at steadyToo ⊢
        simp only [EventSink.deliver, delivered]
        exact ih steadyToo willing
      · rw [refused]
        simp only [EventSink.deliver, delivered]
        rw [← hearAll, hearAll_of_refused rfl rest]
        rfl

end Laws

end Hearer

namespace Broadcast

variable {σ : Type} [EventSink σ] {hearers : List (Hearer σ)}

/-- A round reaches every sink as if it were alone. -/
theorem serve_subscriptions (steady : ∀ hearer ∈ hearers, hearer.Steady) (events : List Event) :
    serve events (hearers.map Hearer.subscription) =
      (hearers.map fun hearer => (hearer.hearAll events).subscription, true) := by
  induction hearers with
  | nil => rfl
  | cons hearer rest ih =>
      rw [List.forall_mem_cons] at steady
      rw [List.map_cons, List.map_cons, serve, ih steady.2]
      cases willing : hearer.refused with
      | none =>
          simp only [Hearer.subscription, willing, Option.isNone_none, if_true]
          rw [Hearer.offer_eq steady.1 willing]
          cases later : (hearer.hearAll events).refused with
          | none => simp [Hearer.ending, later]
          | some refused => simp [Hearer.ending, later]
      | some refused =>
          simp [Hearer.subscription, willing,
            Hearer.hearAll_of_refused (by rw [willing]; rfl) events]

/-- The hearers that a call brings in. -/
def Call.newcomers : Call σ → List (Hearer σ)
  | .add sink => [.of sink]
  | .adjust _ _ => []
  | .fire _ => []

theorem Call.Steady.newcomers {call : Call σ} (steady : call.Steady) :
    ∀ hearer ∈ call.newcomers, hearer.Steady := by
  cases call with
  | add sink =>
      intro hearer mem
      rw [List.mem_singleton.1 mem]
      exact fun _ => steady
  | adjust seat change => simp [Call.newcomers]
  | fire events => simp [Call.newcomers]

/-- Number of sinks that calls register. -/
def registered (calls : List (Call σ)) : Nat :=
  (calls.flatMap Call.newcomers).length

/-- What becomes of the sinks that calls register, each by itself.  The first of them gets the
given seat. -/
def audience (seat : Nat) : List (Call σ) → List (Hearer σ)
  | [] => []
  | call :: rest =>
      call.newcomers.map (·.follow seat rest) ++ audience (seat + call.newcomers.length) rest

/-- A call does to each sink in its seat what it does to it alone. -/
theorem perform_tap (steady : ∀ hearer ∈ hearers, hearer.Steady) (call : Call σ) (fired : Nat) :
    perform ⟨hearers.map Hearer.subscription, fired⟩ call.tap =
      ⟨(hearers.mapIdx (fun seat hearer => hearer.heed seat call) ++ call.newcomers).map
        Hearer.subscription, fired + call.events.length⟩ := by
  cases call with
  | add sink =>
      simp [perform, add, Call.tap, Call.newcomers, Call.events, Hearer.heed, Hearer.of,
        Hearer.subscription, Hearer.mapIdx_unseated]
  | adjust seat change =>
      simp only [perform, modifySink, Call.tap, Call.newcomers, Call.events, List.append_nil,
        List.length_nil, Nat.add_zero, mk.injEq, and_true]
      apply List.ext_getElem?
      intro other
      rw [List.getElem?_modify, List.getElem?_map, List.getElem?_map, List.getElem?_mapIdx]
      cases hearers[other]? with
      | none => rfl
      | some hearer =>
          by_cases same : seat = other
          · simp [same, Hearer.heed, Hearer.adjust, Hearer.subscription]
          · simp [same, Hearer.heed]
  | fire events =>
      simp only [perform, fire, Call.tap, Call.newcomers, Call.events, Hearer.heed,
        List.append_nil, Hearer.mapIdx_unseated hearers (·.hearAll events),
        serve_subscriptions steady, List.map_map, Function.comp_def]
      split
      · rename_i none
        rw [List.isEmpty_iff] at none
        simp [none, Hearer.hearAll]
      · rfl

/-- So do calls one after the other, also to the sinks that are registered on the way. -/
theorem performAll_tap {calls : List (Call σ)} (steady : ∀ hearer ∈ hearers, hearer.Steady)
    (callsSteady : ∀ call ∈ calls, call.Steady) (fired : Nat) :
    performAll ⟨hearers.map Hearer.subscription, fired⟩ (calls.map Call.tap) =
      ⟨(hearers.mapIdx (fun seat hearer => hearer.follow seat calls) ++
        audience hearers.length calls).map Hearer.subscription,
        fired + (calls.flatMap (·.events)).length⟩ := by
  induction calls generalizing hearers fired with
  | nil =>
      simp [performAll, audience, Hearer.follow, Hearer.mapIdx_unseated]
  | cons call rest ih =>
      rw [List.forall_mem_cons] at callsSteady
      have steadyToo : ∀ hearer ∈ hearers.mapIdx (fun seat hearer => hearer.heed seat call) ++
          call.newcomers, hearer.Steady := by
        intro hearer mem
        rcases List.mem_append.1 mem with old | new
        · obtain ⟨seat, bound, rfl⟩ := List.mem_mapIdx.1 old
          exact (steady _ (List.getElem_mem bound)).heed callsSteady.1 seat
        · exact callsSteady.1.newcomers hearer new
      rw [List.map_cons, performAll, List.foldl_cons, perform_tap steady, ← performAll,
        ih steadyToo callsSteady.2]
      have alone : (call.newcomers.mapIdx fun index hearer =>
          hearer.follow (index + hearers.length) rest) =
          call.newcomers.map (·.follow hearers.length rest) := by
        cases call <;> simp [Call.newcomers]
      simp [audience, List.mapIdx_append, alone, Hearer.follow_cons, Function.comp_def,
        Nat.add_assoc]

theorem length_audience (seat : Nat) (calls : List (Call σ)) :
    (audience seat calls).length = registered calls := by
  induction calls generalizing seat with
  | nil => rfl
  | cons call rest ih => simp [audience, ih, registered]

/-- Later calls go on with the sinks that are there, and register more. -/
theorem audience_append (seat : Nat) (before after : List (Call σ)) :
    audience seat (before ++ after) =
      ((audience seat before).mapIdx fun index hearer => hearer.follow (seat + index) after) ++
        audience (seat + registered before) after := by
  induction before generalizing seat with
  | nil => rfl
  | cons call rest ih =>
      cases call <;>
        simp [audience, Call.newcomers, registered, ih, Hearer.follow_append, Nat.add_assoc,
          Nat.add_comm 1]

/-- The seat of a sink is the number of those that are registered before it. -/
theorem getElem?_audience (before after : List (Call σ)) (sink : σ) :
    (audience 0 (before ++ .add sink :: after))[registered before]? =
      some ((Hearer.of sink).follow (registered before) after) := by
  have counted := length_audience 0 before
  rw [audience_append, List.getElem?_append_right (by simp [counted])]
  simp [counted, audience, Call.newcomers]

/-- A sink that is registered goes on with later calls. -/
theorem getElem?_audience_append {before : List (Call σ)} {seat : Nat} {hearer : Hearer σ}
    (stands : (audience 0 before)[seat]? = some hearer) (after : List (Call σ)) :
    (audience 0 (before ++ after))[seat]? = some (hearer.follow seat after) := by
  have bound : seat < (audience 0 before).length := (List.getElem?_eq_some_iff.1 stands).1
  rw [audience_append, List.getElem?_append_left (by simpa using bound), List.getElem?_mapIdx,
    stands, Option.map_some, Nat.zero_add]

end Broadcast

section Untapped

variable {σ : Type}

/-- The subscription without the tap. -/
def Subscription.untapped (subscription : Subscription (Tapped σ)) : Subscription σ where
  sink := subscription.sink.sink
  active := subscription.active

/-- The broadcast without the taps. -/
def Broadcast.untapped (broadcast : Broadcast (Tapped σ)) : Broadcast σ where
  subscriptions := broadcast.subscriptions.map Subscription.untapped
  fired := broadcast.fired

variable [EventSink σ]

theorem Tapped.offer_sink (tapped : Tapped σ) (events : List Event) :
    EventSink.offer tapped.sink events =
      ((EventSink.offer tapped events).1.sink, (EventSink.offer tapped events).2) := by
  induction events generalizing tapped with
  | nil => rfl
  | cons event rest ih =>
      rw [EventSink.offer, EventSink.offer]
      cases delivered : EventSink.deliver tapped.sink event with
      | accepted after => simp only [EventSink.deliver, delivered, ← ih]
      | refused => simp only [EventSink.deliver, delivered]
      | broken => simp only [EventSink.deliver, delivered]

namespace Broadcast

theorem serve_untapped (events : List Event) (subscriptions : List (Subscription (Tapped σ))) :
    serve events (subscriptions.map Subscription.untapped) =
      ((serve events subscriptions).1.map Subscription.untapped,
        (serve events subscriptions).2) := by
  induction subscriptions with
  | nil => rfl
  | cons subscription rest ih =>
      rw [List.map_cons, serve, serve, ih]
      cases active : subscription.active with
      | false => simp [Subscription.untapped, active]
      | true =>
          simp only [Subscription.untapped, active, if_true, Tapped.offer_sink]
          generalize EventSink.offer subscription.sink events = offered
          obtain ⟨tapped, ending⟩ := offered
          cases ending <;> rfl

theorem fire_untapped (broadcast : Broadcast (Tapped σ)) (events : List Event) :
    broadcast.untapped.fire events =
      ((broadcast.fire events).1.untapped, (broadcast.fire events).2) := by
  rw [fire, fire]
  split
  · rfl
  · simp only [untapped, serve_untapped]
    generalize serve events broadcast.subscriptions = round
    obtain ⟨served, complete⟩ := round
    cases complete <;> rfl

theorem perform_untapped (broadcast : Broadcast (Tapped σ)) (call : Call σ) :
    broadcast.untapped.perform call = (broadcast.perform call.tap).untapped := by
  cases call with
  | add sink => simp [perform, add, untapped, Call.tap, Subscription.untapped]
  | adjust seat change =>
      simp only [perform, modifySink, untapped, Call.tap, mk.injEq, and_true]
      apply List.ext_getElem?
      intro other
      rw [List.getElem?_modify, List.getElem?_map, List.getElem?_map, List.getElem?_modify]
      cases broadcast.subscriptions[other]? with
      | none => rfl
      | some subscription =>
          by_cases same : seat = other
          · simp [same, Subscription.untapped]
          · simp [same]
  | fire events => simp only [perform, Call.tap, fire_untapped]

theorem performAll_untapped (broadcast : Broadcast (Tapped σ)) (calls : List (Call σ)) :
    broadcast.untapped.performAll calls = (broadcast.performAll (calls.map .tap)).untapped := by
  induction calls generalizing broadcast with
  | nil => rfl
  | cons call rest ih =>
      rw [List.map_cons, performAll, performAll, List.foldl_cons, List.foldl_cons,
        perform_untapped]
      exact ih (broadcast.perform call.tap)

end Broadcast

end Untapped

namespace Broadcast

variable {σ : Type} [EventSink σ]

/-- Nothing is asked of a sink that has been dropped. -/
theorem serve_modify_of_dropped {subscriptions : List (Subscription σ)} {seat : Nat}
    (dropped : ∀ subscription ∈ subscriptions[seat]?, subscription.active = false)
    (change : σ → σ) (events : List Event) :
    serve events (subscriptions.modify seat fun subscription =>
        { subscription with sink := change subscription.sink }) =
      ((serve events subscriptions).1.modify seat fun subscription =>
        { subscription with sink := change subscription.sink },
        (serve events subscriptions).2) := by
  induction subscriptions generalizing seat with
  | nil => simp [serve]
  | cons subscription rest ih =>
      cases seat with
      | zero =>
          have inactive : subscription.active = false := dropped subscription rfl
          simp [serve, inactive]
      | succ seat =>
          have later := @ih seat dropped
          simp only [List.modify_succ_cons, serve, later]
          cases subscription.active with
          | false => rfl
          | true =>
              simp only [if_true]
              generalize EventSink.offer subscription.sink events = offered
              obtain ⟨sink, ending⟩ := offered
              cases ending <;> rfl

theorem fire_modifySink_of_dropped {broadcast : Broadcast σ} {seat : Nat}
    (dropped : ∀ subscription ∈ broadcast.subscriptions[seat]?, subscription.active = false)
    (change : σ → σ) (events : List Event) :
    (broadcast.modifySink seat change).fire events =
      ((broadcast.fire events).1.modifySink seat change, (broadcast.fire events).2) := by
  rw [fire, fire]
  split
  · rfl
  · simp only [modifySink, serve_modify_of_dropped dropped change events]
    generalize serve events broadcast.subscriptions = round
    obtain ⟨served, complete⟩ := round
    cases complete <;> rfl

/-- Calls to a fresh broadcast reach every sink as if it were alone. -/
structure FansOut (calls : List (Call σ)) : Prop where
  /-- With a tap at each of its sinks a broadcast does the same. -/
  transparent : (performAll {} (calls.map Call.tap)).untapped = performAll {} calls
  /-- What is tapped at the sinks is what each of them hears by itself.  Those that have refused
  an event, and no others, are dropped. -/
  alone : (performAll {} (calls.map Call.tap)).subscriptions =
    (audience 0 calls).map Hearer.subscription
  /-- A sink hears what is fired after its registration, up to the event that it refuses. -/
  heard : ∀ before sink after, calls = before ++ .add sink :: after →
    (audience 0 calls)[registered before]? =
        some ((Hearer.of sink).follow (registered before) after) ∧
      ((Hearer.of sink).follow (registered before) after).Heard (after.flatMap (·.events))
  /-- A sink that has refused an event hears no more. -/
  settled : ∀ before after : List (Call σ), calls = before ++ after →
    ∀ (seat : Nat) (hearer : Hearer σ),
      (audience 0 before)[seat]? = some hearer → hearer.refused.isSome →
      ∃ later : Hearer σ, (audience 0 calls)[seat]? = some later ∧
        later.taken = hearer.taken ∧ later.refused = hearer.refused
  /-- Of a sink that has been dropped nothing is asked, whatever it has become. -/
  unheard : ∀ seat hearer, (audience 0 calls)[seat]? = some hearer → hearer.refused.isSome →
    ∀ change events, ((performAll {} calls).modifySink seat change).fire events =
      (((performAll {} calls).fire events).1.modifySink seat change,
        ((performAll {} calls).fire events).2)
  sinkCount_eq : (performAll {} calls).sinkCount =
    (audience 0 calls).countP (·.refused.isNone)
  fired_eq : (performAll {} calls).fired = (calls.flatMap (·.events)).length

theorem fansOut (calls : List (Call σ)) (steady : ∀ call ∈ calls, call.Steady) :
    FansOut calls := by
  have transparent : (performAll {} (calls.map Call.tap)).untapped = performAll {} calls :=
    (performAll_untapped {} calls).symm
  have tapped : performAll {} (calls.map Call.tap) =
      ⟨(audience 0 calls).map Hearer.subscription, (calls.flatMap (·.events)).length⟩ := by
    have nobody : ∀ hearer ∈ ([] : List (Hearer σ)), hearer.Steady := List.forall_mem_nil _
    simpa using performAll_tap nobody steady 0
  rw [tapped] at transparent
  refine ⟨?_, ?_, ?_, ?_, ?_, ?_, ?_⟩
  · rw [tapped, transparent]
  · rw [tapped]
  · rintro before sink after rfl
    refine ⟨getElem?_audience before after sink, ?_⟩
    simp only [List.mem_append, List.mem_cons] at steady
    have fresh : (Hearer.of sink).Heard [] := rfl
    have sinkSteady : (Hearer.of sink).Steady := fun _ => steady (.add sink) (.inr (.inl rfl))
    exact fresh.follow sinkSteady (fun call mem => steady call (.inr (.inr mem)))
      (registered before)
  · rintro before after rfl seat hearer stands settled
    exact ⟨_, getElem?_audience_append stands after, Hearer.follow_of_refused settled seat after⟩
  · intro seat hearer stands settled change events
    apply fire_modifySink_of_dropped
    intro subscription found
    rw [← transparent] at found
    simp only [untapped, List.getElem?_map, stands, Option.map_some, Option.mem_def,
      Option.some.injEq] at found
    rw [← found]
    simpa [Subscription.untapped, Hearer.subscription] using settled
  · rw [← transparent]
    simp [sinkCount, untapped, List.countP_map, Function.comp_def, Subscription.untapped,
      Hearer.subscription]
  · rw [← transparent]
    rfl

/-- In particular to a channel that is closed, a sink that takes one event, and a recorder that
is registered late. -/
theorem fansOut_to_mailboxes :
    let event (zxid : Zxid) : Event := ⟨.root, .dataChanged, zxid⟩
    let calls : List (Call Mailbox) :=
      [.add .channel, .add (.limited 1), .fire [event 1, event 2], .adjust 0 Mailbox.close,
        .add .recorder, .fire [event 3]]
    (∀ call ∈ calls, call.Steady) ∧ FansOut calls ∧
      (audience 0 calls).map (·.taken) = [[event 1, event 2], [event 1], [event 3]] ∧
      (performAll {} calls).sinkCount = 1 := by
  intro event calls
  have steady : ∀ call ∈ calls, call.Steady := by
    have sound {mailbox : Mailbox} : mailbox.kind ≠ .broken → EventSink.Steady mailbox :=
      EventSink.steady_mailbox_iff.2
    simp only [calls, List.forall_mem_cons, List.not_mem_nil, false_implies, implies_true,
      and_true]
    exact ⟨sound (by decide), sound (by decide), trivial, fun _ => EventSink.Steady.close,
      sound (by decide), trivial⟩
  exact ⟨steady, fansOut calls steady, rfl, rfl⟩

end Broadcast

end BatchTree
