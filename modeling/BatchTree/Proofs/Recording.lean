import BatchTree.Proofs.Chronicle
import BatchTree.Proofs.Delivery

/-!
# Recorders

A recorder that has watched from the start has kept the whole chronicle of the tree: what it
shows, replayed, leads to the paths of the tree and to the record of each node.
-/

namespace BatchTree

namespace Broadcast

/-- What the receiving side sees on the seat of the recorder. -/
theorem Hears.sink? {heard : List Event} {seat : Nat} {broadcast : Broadcast Mailbox}
    (hears : Hears heard seat broadcast.subscriptions) :
    ∃ mailbox, broadcast.sink? seat = some mailbox ∧ mailbox.kind = .recorder ∧
      mailbox.events = heard := by
  rw [Broadcast.sink?]
  generalize broadcast.subscriptions = subscriptions at hears
  induction hears with
  | @here mailbox behind recorder kept => exact ⟨mailbox, rfl, recorder, kept⟩
  | there sound hears ih => exact ih

theorem Hears.unique {heard other : List Event} {seat : Nat}
    {subscriptions : List (Subscription Mailbox)} (hears : Hears heard seat subscriptions)
    (hearsToo : Hears other seat subscriptions) : heard = other := by
  induction hears with
  | here recorder kept =>
      cases hearsToo with
      | here recorderToo keptToo => exact kept.symm.trans keptToo
  | there sound hears ih =>
      cases hearsToo with
      | there soundToo hearsToo => exact ih hearsToo

end Broadcast

namespace Store

/-- The stores of a run that begins on the fresh tree, with a recorder on the given seat that
has heard nothing yet.  Between batches watchers may come and go, as long as the recorder
keeps its seat and what it has heard. -/
inductive Recording (seat : Nat) : Store → Prop where
  | begin {watchers : Broadcast Mailbox} (hears : Broadcast.Hears [] seat watchers.subscriptions) :
      Recording seat ⟨.fresh, watchers⟩
  | execute {store : Store} (recording : Recording seat store) (limits : Limits) (batch : Batch) :
      Recording seat (store.execute limits batch).1
  | watch {store : Store} {watchers : Broadcast Mailbox} {heard : List Event}
      (recording : Recording seat store)
      (before : Broadcast.Hears heard seat store.watchers.subscriptions)
      (after : Broadcast.Hears heard seat watchers.subscriptions) :
      Recording seat ⟨store.tree, watchers⟩

variable {seat : Nat} {store : Store}

theorem Recording.reachable (recording : Recording seat store) : store.tree.Reachable := by
  induction recording with
  | begin hears => exact .fresh
  | execute _ limits batch ih => exact reachableUnder_execute ih (Set.mem_univ limits) batch
  | watch _ _ _ ih => exact ih

theorem Recording.hears_tells (recording : Recording seat store) :
    ∃ heard, Broadcast.Hears heard seat store.watchers.subscriptions ∧
      Chronicle.Tells heard store.tree.zxid store.tree.get? := by
  induction recording with
  | begin hears => exact ⟨[], hears, Chronicle.tells_fresh⟩
  | @execute store recording limits batch ih =>
      obtain ⟨heard, hears, tells⟩ := ih
      have told := hears.fire (store.tree.execute limits batch).events
      rw [← watchers_execute] at told
      refine ⟨_, told, ?_⟩
      rw [tree_execute]
      exact tells.execute recording.reachable limits batch
  | @watch store watchers heard _ before after ih =>
      obtain ⟨kept, hears, tells⟩ := ih
      rw [← before.unique hears] at tells
      exact ⟨heard, after, tells⟩

/-- What the recorder shows tells of the whole tree. -/
theorem Recording.shows_chronicle (recording : Recording seat store) :
    ∃ mailbox, store.watchers.sink? seat = some mailbox ∧ mailbox.kind = .recorder ∧
      Chronicle.Tells mailbox.events store.tree.zxid store.tree.get? := by
  obtain ⟨heard, hears, tells⟩ := recording.hears_tells
  obtain ⟨mailbox, found, recorder, kept⟩ := hears.sink?
  rw [← kept] at tells
  exact ⟨mailbox, found, recorder, tells⟩

/-- In particular a recorder between a sink that soon refuses and one that breaks down, of a
batch that deletes two nodes and creates one of them again. -/
theorem shows_chronicle_of_recreation :
    let watchers : Broadcast Mailbox := ((Broadcast.add {} (.limited 1)).add .recorder).add .broken
    let store := ((Store.mk .fresh watchers).execute {}
      [.create "/a" ByteArray.empty .persistent, .create "/a/b" ByteArray.empty .persistent,
        .setData "/a" "old".toUTF8 0, .delete "/a/b" 0, .delete "/a" 1,
        .create "/a" "new".toUTF8 .persistent, .setData "/a" "data".toUTF8 0]).1
    Recording 1 store ∧
      (∃ mailbox, store.watchers.sink? 1 = some mailbox ∧ mailbox.kind = .recorder ∧
        Chronicle.Tells mailbox.events store.tree.zxid store.tree.get?) ∧
      (store.watchers.sink? 1).map (·.events.length) = some 7 := by
  intro watchers store
  have hears : Broadcast.Hears [] 1 watchers.subscriptions :=
    .there (fun _ => MailboxKind.noConfusion) (.here rfl rfl)
  have recording : Recording 1 store := (Recording.begin hears).execute {} _
  exact ⟨recording, recording.shows_chronicle, by decide +kernel⟩

end Store

end BatchTree
