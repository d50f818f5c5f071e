import BatchTree.Proofs.Chronicle
import BatchTree.Proofs.Conversation
import BatchTree.Proofs.Delivery
import BatchTree.Proofs.Judgement
import BatchTree.Scenario.Run

/-!
# Verdicts of scenarios

A scenario passes if its seed takes effect and each of its steps meets its expectation.  What is
seen of a step is what its batch does to the tree that the batches before it have left, with the
events of this batch alone.  Otherwise the verdict names the seed, or the first step that does
not meet its expectation, and nothing is submitted after it (`Scenario.verdict_sound_complete`).
-/

namespace BatchTree

namespace Config

/-- What a session with these settings makes of a batch if it has nothing else to do: it turns a
batch away that is too large, and has any other executed. -/
def effect (config : Config) (tree : Tree) (batch : Batch) : Effect :=
  if config.maxBatchSize < batch.length then
    tree.unaffected (.rejected batch.length .badArguments)
  else
    tree.execute config.limits batch

/-- The tree that batches leave when they are submitted one after the other. -/
def treeAfter (config : Config) (batches : List Batch) : Tree :=
  batches.foldl (fun tree batch => (config.effect tree batch).tree) .fresh

/-- What is to be seen of a batch that is submitted after the given ones. -/
def sight (config : Config) (earlier : List Batch) (batch : Batch) : Observation :=
  let before := config.treeAfter earlier
  let effect := config.effect before batch
  { response := effect.response, before, after := effect.tree, events := effect.events }

end Config

namespace Scenario

/-- The batches that are submitted up to the end of the given steps.  An empty seed is not. -/
def batches (scenario : Scenario) (steps : List Step) : List Batch :=
  (if scenario.seed = [] then [] else [scenario.seed]) ++ steps.map Step.batch

/-- The seed is empty, or it is committed on the fresh tree. -/
def SeedTakes (scenario : Scenario) : Prop :=
  scenario.seed = [] ∨ (scenario.config.effect .fresh scenario.seed).response.isCommitted = true

/-- The step meets its expectation if it comes after the given ones. -/
def Passes (scenario : Scenario) (earlier : List Step) (step : Step) : Prop :=
  step.expectation.Met (scenario.config.sight (scenario.batches earlier) step.batch)

/-- Each of the steps meets its expectation, in this order. -/
def AllPass (scenario : Scenario) (steps : List Step) : Prop :=
  ∀ earlier step, earlier ++ [step] <+: steps → scenario.Passes earlier step

/-- How a scenario is to end, with the batches that are submitted by then. -/
inductive Ends (scenario : Scenario) : List Batch → Except Fault Unit → Prop where
  | seedFailed (refused : ¬scenario.SeedTakes) :
      Ends scenario [scenario.seed]
        (.error (.seedFailed scenario.name
          (scenario.config.effect .fresh scenario.seed).response.outcome))
  | passed (takes : scenario.SeedTakes) (all : scenario.AllPass scenario.steps) :
      Ends scenario (scenario.batches scenario.steps) (.ok ())
  /-- The step is the first that does not meet its expectation. -/
  | failed {earlier : List Step} {step : Step} {mismatch : Mismatch}
      (takes : scenario.SeedTakes) (isNext : earlier ++ [step] <+: scenario.steps)
      (all : scenario.AllPass earlier) (unmet : ¬scenario.Passes earlier step)
      (tells : mismatch.Tells step.expectation
        (scenario.config.sight (scenario.batches earlier) step.batch)) :
      Ends scenario (scenario.batches (earlier ++ [step]))
        (.error (.assertionFailed step.name mismatch))

/-- So many batches have been submitted, they have left this tree, and the recorder, which watches
alone, has these events.  Nothing is left for the session to do. -/
structure Stage.Stands (config : Config) (submitted : Nat) (tree : Tree) (heard : List Event)
    (stage : Stage) : Prop where
  tree_eq : stage.store.tree = tree
  watchers_eq :
    stage.store.watchers.subscriptions = [⟨{ kind := .recorder, events := heard }, true⟩]
  intake_eq : stage.session.intake = { config, tickets := submitted }
  worker_eq : stage.session.worker = {}

/-- The given batches have been submitted, and the recorder has these events. -/
abbrev Stage.StandsAfter (config : Config) (batches : List Batch) (heard : List Event)
    (stage : Stage) : Prop :=
  Stands config batches.length (config.treeAfter batches) heard stage

end Scenario

/-- A batch that passes has created nothing but paths. -/
theorem Overlay.AcceptsAll.exists_path_of_created {limits : Limits} {overlay final : Overlay}
    {batch : Batch} {replies : List Reply} {text : String}
    (accepts : overlay.AcceptsAll limits batch final replies)
    (created : .created text ∈ replies) : ∃ path : Path, path.text = text := by
  induction accepts with
  | nil => cases created
  | cons first _ ih =>
      rcases List.mem_cons.1 created with isFirst | later
      · cases first with
        | create =>
            cases isFirst
            exact ⟨_, rfl⟩
        | _ => cases isFirst
      · exact ih later

namespace Config

variable {config : Config} {tree : Tree} {batch : Batch}

theorem treeAfter_concat (config : Config) (earlier : List Batch) (batch : Batch) :
    config.treeAfter (earlier ++ [batch]) =
      (config.effect (config.treeAfter earlier) batch).tree := by
  rw [treeAfter, List.foldl_append]
  rfl

/-- A batch is turned away as too large, or it is executed. -/
theorem isRefused_or_ends (config : Config) (tree : Tree) (batch : Batch) :
    config.effect tree batch = tree.unaffected (.rejected batch.length .badArguments) ∨
      tree.Ends config.limits batch (config.effect tree batch) := by
  rw [effect]
  split
  · exact .inl rfl
  · exact .inr (Tree.ends_execute ..)

/-- The events of a batch bear the number that it is installed under. -/
theorem zxid_of_mem_events {event : Event}
    (member : event ∈ (config.effect tree batch).events) :
    event.zxid = tree.zxid + 1 ∧
      (config.effect tree batch).response.zxid = some event.zxid := by
  rcases config.isRefused_or_ends tree batch with isRefused | ends
  · rw [isRefused] at member
    cases member
  · generalize config.effect tree batch = effect at member ends ⊢
    cases ends with
    | empty => cases member
    | aborted => cases member
    | refused => cases member
    | @committed _ overlay replies _ success _ =>
        have base : overlay.base = tree := (Overlay.acceptsAll_of_validateAll success).base_eq
        obtain ⟨change, -, rfl⟩ := List.mem_map.1 member
        rw [Change.zxid_event, ← base]
        exact ⟨rfl, rfl⟩

/-- What a batch reports as created is a path. -/
theorem exists_path_of_created {text : String}
    (created : .created text ∈ (config.effect tree batch).response.replies) :
    ∃ path : Path, path.text = text := by
  rcases config.isRefused_or_ends tree batch with isRefused | ends
  · rw [isRefused] at created
    cases List.eq_of_mem_replicate created
  · generalize config.effect tree batch = effect at created ends
    cases ends with
    | empty => cases created
    | aborted =>
        obtain ⟨position, -, isFailed⟩ := List.mem_map.1 created
        cases isFailed
    | refused => cases List.eq_of_mem_replicate created
    | committed _ success _ =>
        exact (Overlay.acceptsAll_of_validateAll success).exists_path_of_created created

end Config

namespace Scenario

namespace Stage

variable {config : Config} {submitted : Nat} {tree : Tree} {heard : List Event} {stage : Stage}

theorem stands_first (config : Config) : Stands config 0 .fresh [] (first { intake := { config } })
    where
  tree_eq := rfl
  watchers_eq := rfl
  intake_eq := rfl
  worker_eq := rfl

theorem Stands.events_eq (stands : Stands config submitted tree heard stage) :
    stage.events = heard := by
  rw [events, Broadcast.sink?, stands.watchers_eq]
  rfl

/-- Forgetting what was heard leaves the rest as it is. -/
theorem Stands.cleared (stands : Stands config submitted tree heard stage) :
    Stands config submitted tree [] stage.cleared where
  tree_eq := stands.tree_eq
  watchers_eq := by
    rw [Stage.cleared, Broadcast.modifySink, stands.watchers_eq]
    rfl
  intake_eq := stands.intake_eq
  worker_eq := stands.worker_eq

/-- The recorder is told of the events of the batch that is executed. -/
theorem Stands.execute (stands : Stands config submitted tree heard stage) (batch : Batch) :
    let effect := tree.execute config.limits batch
    ∃ after : Store, stage.store.execute config.limits batch = (after, .answered effect.response) ∧
      after.tree = effect.tree ∧ after.watchers.subscriptions =
        [⟨{ kind := .recorder, events := heard ++ effect.events }, true⟩] := by
  obtain ⟨served, watchers⟩ := Broadcast.fire_of_recorder stands.watchers_eq rfl
    (tree.execute config.limits batch).events
  rw [Store.execute, stands.tree_eq]
  generalize stage.store.watchers.fire (tree.execute config.limits batch).events = fired
    at served watchers ⊢
  obtain ⟨after, complete⟩ := fired
  subst served
  exact ⟨_, rfl, rfl, watchers⟩

/-- A batch comes to what the session is to make of it, and the recorder hears of nothing else. -/
theorem Stands.conclude (stands : Stands config submitted tree heard stage) (batch : Batch) :
    let effect := config.effect tree batch
    ∃ after : Store,
      Session.conclusion stage.session.intake stage.store (.batch batch) =
        (after, effect.response) ∧
      after.tree = effect.tree ∧ after.watchers.subscriptions =
        [⟨{ kind := .recorder, events := heard ++ effect.events }, true⟩] := by
  rw [Session.conclusion, stands.intake_eq, Request.operations]
  by_cases large : config.maxBatchSize < batch.length
  · have isRefused : Intake.refusal? { config, tickets := submitted } batch =
        some .badArguments := by
      rw [Intake.refusal?, Intake.precheck?, if_pos large]
    rw [isRefused, Config.effect, if_pos large]
    refine ⟨stage.store, rfl, stands.tree_eq, ?_⟩
    rw [stands.watchers_eq, Tree.unaffected, List.append_nil]
  · have isAdmitted : Intake.refusal? { config, tickets := submitted } batch = none := by
      rw [Intake.refusal?, Intake.precheck?, if_neg large]
      rfl
    obtain ⟨after, isExecuted, isTree, watchers⟩ := stands.execute batch
    rw [isAdmitted, Config.effect, if_neg large, Intake.conclude, Intake.run, if_pos rfl,
      isExecuted]
    exact ⟨after, rfl, isTree, watchers⟩

/-- The stage after a batch. -/
theorem Stands.submit (stands : Stands config submitted tree heard stage)
    (room : 0 < config.queueDepth) (batch : Batch) :
    ∃ after,
      stage.submit batch = (after, (config.effect tree batch).response) ∧
      Stands config (submitted + 1) (config.effect tree batch).tree
        (heard ++ (config.effect tree batch).events) after := by
  have clear : Session.IsClear stage.session.intake := by
    rw [stands.intake_eq]
    exact ⟨rfl, room, List.forall_mem_nil _⟩
  obtain ⟨after, isConclusion, isTree, watchers⟩ := stands.conclude batch
  obtain ⟨notes, isExecuted⟩ := Session.execute_of_idle clear stands.worker_eq stage.store batch
  rw [isConclusion] at isExecuted
  refine ⟨⟨after, ⟨stage.session.intake.issue, {}, [[]]⟩⟩, ?_, isTree, watchers, ?_, rfl⟩
  · rw [Stage.submit, isExecuted]
  · rw [stands.intake_eq]
    rfl

/-- What is seen of a batch is what the batch alone brings about. -/
theorem StandsAfter.observe {earlier : List Batch} (stands : stage.StandsAfter config earlier [])
    (room : 0 < config.queueDepth) (batch : Batch) :
    ∃ after : Stage, stage.observe batch = (after, config.sight earlier batch) ∧
      after.StandsAfter config (earlier ++ [batch]) [] := by
  obtain ⟨after, isSubmitted, standsAfter⟩ := stands.submit room batch
  refine ⟨after.cleared, ?_, ?_⟩
  · rw [Stage.observe, isSubmitted]
    dsimp only
    rw [stands.tree_eq, standsAfter.tree_eq, standsAfter.events_eq]
    rfl
  · rw [StandsAfter, List.length_append, Config.treeAfter_concat]
    exact standsAfter.cleared

end Stage

variable {scenario : Scenario} {stage : Stage} {earlier later : List Step} {step : Step}
  {batches : List Batch} {verdict : Except Fault Unit}

theorem allPass_nil (scenario : Scenario) : scenario.AllPass [] := by
  intro earlier step isPrefix
  cases List.append_ne_nil_of_right_ne_nil earlier (List.cons_ne_nil step [])
    (List.prefix_nil.1 isPrefix)

theorem AllPass.concat (all : scenario.AllPass earlier) (passes : scenario.Passes earlier step) :
    scenario.AllPass (earlier ++ [step]) := by
  intro others other isPrefix
  rcases List.prefix_concat_iff.1 isPrefix with same | within
  · obtain ⟨rfl, isStep⟩ := List.append_inj' same rfl
    cases isStep
    exact passes
  · exact all others other within

theorem batches_concat (scenario : Scenario) (earlier : List Step) (step : Step) :
    scenario.batches (earlier ++ [step]) = scenario.batches earlier ++ [step.batch] := by
  rw [batches, batches, List.map_append, List.append_assoc]
  rfl

/-- The steps end as they are to end after those that have passed. -/
theorem ends_runSteps (room : 0 < scenario.config.queueDepth) (takes : scenario.SeedTakes)
    (isWhole : scenario.steps = earlier ++ later) (all : scenario.AllPass earlier)
    (stands : stage.StandsAfter scenario.config (scenario.batches earlier) []) :
    ∃ batches heard, scenario.Ends batches (runSteps stage later).2 ∧
      (runSteps stage later).1.StandsAfter scenario.config batches heard := by
  induction later generalizing earlier stage with
  | nil =>
      rw [List.append_nil] at isWhole
      subst isWhole
      exact ⟨_, _, .passed takes all, stands⟩
  | cons step rest ih =>
      obtain ⟨after, isObserved, standsAfter⟩ := stands.observe room step.batch
      rw [← batches_concat] at standsAfter
      have isNext : scenario.steps = earlier ++ [step] ++ rest := by
        rw [isWhole, List.append_assoc]
        rfl
      rw [runSteps, isObserved]
      dsimp only
      cases found : step.expectation.mismatch?
        (scenario.config.sight (scenario.batches earlier) step.batch) with
      | none =>
          have passes : scenario.Passes earlier step := Expectation.mismatch?_eq_none_iff.1 found
          exact ih isNext (all.concat passes) standsAfter
      | some mismatch =>
          have tells := Expectation.tells_of_mismatch? found
          have unmet : ¬scenario.Passes earlier step := fun passes => passes.not_tells _ tells
          exact ⟨_, _, .failed takes ⟨rest, isNext.symm⟩ all unmet tells, standsAfter⟩

/-- A seed that takes leaves the stage for the first step. -/
theorem runSeed_of_takes (room : 0 < scenario.config.queueDepth) (takes : scenario.SeedTakes) :
    ∃ stage : Stage,
      scenario.runSeed (.first { intake := { config := scenario.config } }) = (stage, .ok ()) ∧
      stage.StandsAfter scenario.config (scenario.batches []) [] := by
  have stands := Stage.stands_first scenario.config
  by_cases empty : scenario.seed = []
  · refine ⟨(Stage.first { intake := { config := scenario.config } }).cleared, ?_, ?_⟩
    · rw [runSeed, if_pos (List.isEmpty_iff.2 empty)]
    · rw [batches, if_pos empty]
      exact stands.cleared
  · obtain ⟨after, isSubmitted, standsAfter⟩ := stands.submit room scenario.seed
    refine ⟨after.cleared, ?_, ?_⟩
    · rw [runSeed, if_neg (mt List.isEmpty_iff.1 empty), isSubmitted]
      dsimp only
      rw [if_pos (takes.resolve_left empty)]
    · rw [batches, if_neg empty]
      exact standsAfter.cleared

/-- A seed that does not take ends the scenario. -/
theorem runSeed_of_refused (room : 0 < scenario.config.queueDepth)
    (refused : ¬scenario.SeedTakes) :
    ∃ (stage : Stage) (heard : List Event),
      scenario.runSeed (.first { intake := { config := scenario.config } }) =
        (stage, .error (.seedFailed scenario.name
          (scenario.config.effect .fresh scenario.seed).response.outcome)) ∧
      stage.StandsAfter scenario.config [scenario.seed] heard := by
  obtain ⟨nonempty, notCommitted⟩ := not_or.1 refused
  obtain ⟨after, isSubmitted, standsAfter⟩ :=
    (Stage.stands_first scenario.config).submit room scenario.seed
  refine ⟨after, _, ?_, standsAfter⟩
  rw [runSeed, if_neg (mt List.isEmpty_iff.1 nonempty), isSubmitted]
  dsimp only
  rw [if_neg notCommitted]

/-- A scenario ends as it is to end, and by then no other batches have been submitted than those
that are to be. -/
theorem ends_runIn (room : 0 < scenario.config.queueDepth) :
    let ended := scenario.runIn { intake := { config := scenario.config } }
    ∃ batches heard, scenario.Ends batches ended.2 ∧
      ended.1.StandsAfter scenario.config batches heard := by
  rw [runIn]
  by_cases takes : scenario.SeedTakes
  · obtain ⟨stage, isReady, stands⟩ := runSeed_of_takes room takes
    rw [isReady]
    exact ends_runSteps room takes (List.nil_append _).symm (allPass_nil scenario) stands
  · obtain ⟨stage, heard, isFailed, stands⟩ := runSeed_of_refused room takes
    rw [isFailed]
    exact ⟨_, heard, .seedFailed takes, stands⟩

/-- All that stands for a path in an expectation that is met is one. -/
theorem Passes.exists_path (passes : scenario.Passes earlier step) {text : String}
    (asked : text ∈ step.expectation.paths) : ∃ path : Path, path.text = text := by
  simp only [Expectation.paths, List.mem_append, List.mem_map] at asked
  rcases asked with (lookedUp | ⟨entry, isCreated, rfl⟩) | ⟨entry, isEvent, rfl⟩
  · exact Expectation.Met.exists_path passes lookedUp
  · exact Config.exists_path_of_created (List.mem_of_getElem? (passes.created entry isCreated))
  · cases areEvents : step.expectation.events with
    | none =>
        rw [areEvents] at isEvent
        cases isEvent
    | some events =>
        rw [areEvents, Option.getD_some, ← passes.events events areEvents] at isEvent
        obtain ⟨event, -, rfl⟩ := List.mem_map.1 isEvent
        exact ⟨event.path, rfl⟩

/-- A scenario is to pass under exactly these conditions. -/
theorem Ends.eq_ok_iff (ends : scenario.Ends batches verdict) :
    verdict = .ok () ↔ scenario.SeedTakes ∧ scenario.AllPass scenario.steps := by
  cases ends with
  | seedFailed refused =>
      constructor
      · rintro ⟨⟩
      · exact fun passed => absurd passed.1 refused
  | passed takes all => exact ⟨fun _ => ⟨takes, all⟩, fun _ => rfl⟩
  | failed takes isNext _ unmet _ =>
      constructor
      · rintro ⟨⟩
      · exact fun passed => absurd (passed.2 _ _ isNext) unmet

/-- What the verdict of a scenario says. -/
structure Judged (scenario : Scenario) : Prop where
  passes_iff : scenario.run = .ok () ↔ scenario.SeedTakes ∧ scenario.AllPass scenario.steps
  /-- The scenario ends as it is to end.  No more batches have been submitted by then than are
  to be, and the tree is as they leave it. -/
  ends : ∃ session batches, Session.openWith scenario.config = .ok session ∧
    scenario.run = (scenario.runIn session).2 ∧ scenario.Ends batches scenario.run ∧
    (scenario.runIn session).1.session.intake.tickets = batches.length ∧
    (scenario.runIn session).1.store.tree = scenario.config.treeAfter batches
  /-- The events that count for a step are numbered as its own batch is. -/
  numbered : ∀ (earlier : List Step) (step : Step),
    let sight := scenario.config.sight (scenario.batches earlier) step.batch
    ∀ event ∈ sight.events,
      event.zxid = sight.before.zxid + 1 ∧ sight.response.zxid = some event.zxid
  /-- A step does not pass if its expectation names a malformed path. -/
  wellFormed : ∀ (earlier : List Step) (step : Step), scenario.Passes earlier step →
    ∀ text ∈ step.expectation.paths, ∃ path : Path, path.text = text

/-- A scenario with usable settings passes exactly if its seed takes effect and each of its steps
meets its expectation; otherwise the verdict names what failed first, and nothing is submitted
after that. -/
theorem verdict_sound_complete (scenario : Scenario) (usable : scenario.config.Usable) :
    scenario.Judged := by
  have isOpened := Session.openWith_of_usable usable
  obtain ⟨batches, heard, ends, stands⟩ := ends_runIn usable.queue
  have isRun : scenario.run =
      (scenario.runIn { intake := { config := scenario.config } }).2 := by
    rw [run, isOpened]
  rw [← isRun] at ends
  constructor
  case passes_iff => exact ends.eq_ok_iff
  case ends =>
    refine ⟨_, batches, isOpened, isRun, ends, ?_, stands.tree_eq⟩
    rw [stands.intake_eq]
  case numbered => exact fun _ _ _ member => Config.zxid_of_mem_events member
  case wellFormed => exact fun _ _ passes _ asked => passes.exists_path asked

/-- In particular where the seed commits, a step is turned away for its size, another meets all
that is asked of it, and a check is to leave the tree unchanged, but takes the next number. -/
theorem verdict_sound_complete_of_numbered_check :
    let create (path : String) : Operation := .create path "old".toUTF8 .persistent
    let refused : Step :=
      ⟨"refused", [create "/b", create "/c", create "/d"],
        (({} : Expectation).toBeRejected .badArguments).withAbsent "/b"
          |>.toChangeNothing |>.withoutEvents⟩
    let changed : Step :=
      ⟨"changed", [.setData "/a" "new".toUTF8 0, create "/a/b"],
        (({} : Expectation).toCommit.creating 1 "/a/b").withData "/a" "new".toUTF8
          |>.withVersion "/a" 1 |>.withChildren "/a" ["b"]
          |>.withEvents [("/a", .dataChanged), ("/a/b", .created)]⟩
    let checked : Step :=
      ⟨"checked", [.check "/a" 1], ({} : Expectation).toCommit.toChangeNothing⟩
    let scenario : Scenario :=
      { name := "numbers"
        config := { maxBatchSize := 2 }
        seed := [create "/a"]
        steps := [refused, changed, checked, changed] }
    scenario.config.Usable ∧ scenario.Judged ∧
      scenario.run = .error (.assertionFailed "checked" .changed) := by
  intro create refused changed checked scenario
  have usable : scenario.config.Usable := ⟨by decide, by decide, by decide⟩
  exact ⟨usable, verdict_sound_complete scenario usable, by decide +kernel⟩

end Scenario

end BatchTree
