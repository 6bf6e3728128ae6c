import Muster.Proofs.Answers
import Muster.Proofs.WorkerLimits

/-!
What the phases of a coordinator mean. They only move forward, and a phase is shown only once what it
tells of has happened, whoever moved it there: the sequence of a bring-up, a request for a shutdown
or a stop, in any order and over any number of bring-ups.
-/

namespace Muster

def Entry.launchesWorker (template : LaunchTemplate) : Entry → Bool
  | .call (.startContainer _ context) none => template.startsWorker context
  | _ => false

def workersLaunched (template : LaunchTemplate) (journal : List Entry) : Nat :=
  journal.countP (Entry.launchesWorker template)

def MasterLaunched (template : LaunchTemplate) (journal : List Entry) : Prop :=
  ∃ container, .call (.startContainer container template.forMaster) none ∈ journal

/-- The number of rounds that the last bring-up of a journal came to. -/
def lastRounds : List Entry → Nat
  | [] => 0
  | .event (.requestingMaster ..) :: _ => 0
  | .event (.waitingForWorkers ..) :: earlier => lastRounds earlier + 1
  | _ :: earlier => lastRounds earlier

/-- What has happened, by a journal, when a phase is shown. -/
def Phase.Earned (plan : BringupPlan) (journal : List Entry) : Phase → Prop
  | created => False
  | started => True
  | masterRequested => True
  | masterLaunched => MasterLaunched plan.launch journal
  | workersRequesting round =>
    MasterLaunched plan.launch journal ∧ 1 ≤ round ∧ round ≤ Coordinator.maxRounds
  | workersSatisfied =>
    MasterLaunched plan.launch journal ∧ workersLaunched plan.launch journal = plan.limits.target
  | workersExhausted =>
    MasterLaunched plan.launch journal ∧ workersLaunched plan.launch journal < plan.limits.target ∧
      lastRounds journal = Coordinator.maxRounds
  | running => MasterLaunched plan.launch journal
  | shutdownRequested => .event .shutdownRequested ∈ journal
  | stopped => ∃ status diagnostics trackingUrl failure,
    .call (.unregister status diagnostics trackingUrl) failure ∈ journal

theorem Entry.launchesWorker_of_silent {template : LaunchTemplate} {entry : Entry}
    (silent : entry.concernsWorkers = false) : entry.launchesWorker template = false := by
  unfold launchesWorker
  split
  · simp [concernsWorkers] at silent
  · rfl

theorem MasterLaunched.later {template : LaunchTemplate} {journal later : List Entry}
    (launched : MasterLaunched template journal) (grown : journal <:+ later) :
    MasterLaunched template later := by
  obtain ⟨container, member⟩ := launched
  exact ⟨container, grown.subset member⟩

theorem lastRounds_milestones (journal : List Entry) :
    lastRounds (journal.filter Entry.isMilestone) = lastRounds journal := by
  induction journal with
  | nil => rfl
  | cons entry earlier ih =>
      cases entry with
      | call call failure => exact ih
      | event event =>
          cases event with
          | phaseChanged phase => exact ih
          | requestingMaster request host => rfl
          | waitingForWorkers outstanding round => exact congrArg (· + 1) ih
          | _ => exact ih

namespace Coordinator

open Relation (ReflTransGen)

variable {σ : Type} {clients : Clients σ} {c c' c'' : Coordinator σ}

structure Tallied (c : Coordinator σ) : Prop where
  accounted : c.Accounted
  counted : c.workers = workersLaunched c.plan.launch c.journal
  manned : c.master.isSome = true → MasterLaunched c.plan.launch c.journal

theorem tallied_init (plan : BringupPlan) (env : σ) : (init plan env).Tallied where
  accounted := accounted_init plan env
  counted := rfl
  manned opened := by simp [init] at opened

theorem Move.counted (move : Move clients c c')
    (counted : c.workers = workersLaunched c.plan.launch c.journal) :
    c'.workers = workersLaunched c'.plan.launch c'.journal := by
  cases move with
  | quiet env phase done entries silent =>
      have none : entries.countP (Entry.launchesWorker c.plan.launch) = 0 := by
        rw [List.countP_eq_zero]
        intro entry member
        simp [Entry.launchesWorker_of_silent (silent entry member)]
      change c.workers = workersLaunched c.plan.launch (entries ++ c.journal)
      rw [counted, workersLaunched, workersLaunched, List.countP_append, none, Nat.zero_add]
  | turn => exact counted
  | refuse => exact counted
  | plan env known round roster answer planned =>
      obtain ⟨_, _, _, _, rfl⟩ := Roster.nextRound_planned planned
      exact counted
  | requestWorker => exact counted
  | launchMaster env container closed =>
      have silent := c.plan.launch.startsWorker_forMaster
      change c.workers = _
      simpa [workersLaunched, Entry.launchesWorker, silent] using counted
  | failMaster => exact counted
  | releaseWorker => exact counted
  | launchWorker env container address =>
      have starts := c.plan.launch.startsWorker_forWorker address
      change c.workers + 1 = _
      simpa [workersLaunched, Entry.launchesWorker, starts] using counted
  | failWorker => exact counted

theorem Move.manned (move : Move clients c c')
    (manned : c.master.isSome = true → MasterLaunched c.plan.launch c.journal)
    (opened : c'.master.isSome = true) : MasterLaunched c'.plan.launch c'.journal := by
  have suffix := move.suffix
  rw [move.plan_eq]
  cases move with
  | launchMaster env container closed =>
      exact ⟨container, List.mem_cons_of_mem _ List.mem_cons_self⟩
  | _ => exact (manned opened).later suffix

theorem Tallied.moves (tallied : c.Tallied) (moves : Moves clients c c') : c'.Tallied := by
  refine moves.keeps ?_ tallied
  intro d d' move tallied
  exact ⟨tallied.accounted.move move, move.counted tallied.counted, move.manned tallied.manned⟩

theorem Tallied.enough_iff (tallied : c.Tallied) :
    c.plan.limits.target ≤ c.workers ↔ c.workers = c.plan.limits.target := by
  have bounded : c.workers ≤ c.plan.limits.target := tallied.accounted.sound.bounded
  omega

/-! ## What is shown -/

/-- The phases moved forward, and each was shown when what it tells of had happened. -/
structure Meaningful (c : Coordinator σ) : Prop where
  current : c.phase = c.phases.headD .created
  rising : (c.phases ++ [Phase.created]).Pairwise fun later earlier =>
    earlier.precedes later = true
  earned : ∀ phase before, .event (.phaseChanged phase) :: before <:+ c.journal →
    phase.Earned c.plan before
  asked : c.done.isOpen = true ↔ .event .shutdownRequested ∈ c.journal

theorem meaningful_init (plan : BringupPlan) (env : σ) : (init plan env).Meaningful where
  current := rfl
  rising := List.pairwise_singleton _ _
  earned _ _ suffix := by simp [init] at suffix
  asked := by simp [init]

theorem Meaningful.write (meaningful : c.Meaningful) (entries : List Entry)
    (plan : c'.plan = c.plan) (phase : c'.phase = c.phase)
    (done : c'.done.isOpen = true ↔ .event .shutdownRequested ∈ entries ∨ c.done.isOpen = true)
    (journal : c'.journal = entries ++ c.journal) (phases : entries.filterMap Entry.phase? = []) :
    c'.Meaningful := by
  have same : c'.phases = c.phases := by
    rw [Coordinator.phases, journal, List.filterMap_append, phases, List.nil_append,
      Coordinator.phases]
  constructor
  · rw [phase, same]
    exact meaningful.current
  · rw [same]
    exact meaningful.rising
  · intro shown before suffix
    rw [journal] at suffix
    rw [plan]
    refine meaningful.earned shown before (suffix_of_append suffix ?_)
    intro member
    have absent := List.filterMap_eq_nil_iff.mp phases _ member
    cases absent
  · rw [done, journal, List.mem_append, meaningful.asked]

theorem Meaningful.log (meaningful : c.Meaningful) {event : Event}
    (other : (Entry.event event).phase? = none) (unasked : event ≠ .shutdownRequested) :
    (c.log event).Meaningful :=
  meaningful.write [.event event] rfl rfl (by simp [Coordinator.log, unasked.symm]) rfl
    (by simp [other])

theorem Meaningful.turn (meaningful : c.Meaningful) (control : Control) :
    Meaningful { c with control } :=
  meaningful.write [] rfl rfl (by simp) rfl rfl

theorem Meaningful.withRoster (meaningful : c.Meaningful) (roster : Roster) :
    Meaningful { c with roster } :=
  meaningful.write [] rfl rfl (by simp) rfl rfl

theorem Meaningful.same (meaningful : c.Meaningful) (same : SameStage c c')
    (grown : c.journal <:+ c'.journal) : c'.Meaningful := by
  obtain ⟨entries, journal⟩ := grown
  have marked := same.milestones
  rw [milestones, milestones, ← journal, List.filter_append] at marked
  refine meaningful.write entries same.plan same.phase ?_ journal.symm ?_
  · have unasked : .event .shutdownRequested ∉ entries := by
      intro member
      have none := List.append_left_eq_self.mp marked
      exact absurd rfl (List.filter_eq_nil_iff.mp none _ member)
    simp [same.done, unasked]
  · have phases := same.phases
    rw [Coordinator.phases, Coordinator.phases, ← journal, List.filterMap_append] at phases
    exact List.append_left_eq_self.mp phases

theorem Meaningful.advance (meaningful : c.Meaningful) {next : Phase}
    (earned : next.Earned c.plan c.journal) : (c.advance next).Meaningful := by
  cases forward : c.phase.precedes next with
  | false =>
      have same : c.advance next = c := by simp [Coordinator.advance, forward]
      rw [same]
      exact meaningful
  | true =>
      rw [advance_forward forward]
      obtain ⟨current, rising, shown, asked⟩ := meaningful
      have phases : phases { c with
          phase := next
          journal := .event (.phaseChanged next) :: c.journal } = next :: c.phases :=
        rfl
      constructor
      · rw [phases]
        rfl
      · rw [phases, List.cons_append, List.pairwise_cons]
        refine ⟨?_, rising⟩
        -- The current phase is the last one, and comes after all others.
        intro earlier member
        rw [current] at forward
        cases list : c.phases with
        | nil =>
            rw [list] at member forward
            rw [List.mem_singleton.mp member]
            exact forward
        | cons last others =>
            rw [list] at member forward rising
            rcases List.mem_cons.mp member with rfl | before
            · exact forward
            · exact Phase.precedes_trans ((List.pairwise_cons.mp rising).1 earlier before) forward
      · intro phase before suffix
        rcases List.suffix_cons_iff.mp suffix with same | inside
        · cases same
          exact earned
        · exact shown phase before inside
      · simp [asked]

theorem SameStage.lastRounds (same : SameStage c c') :
    lastRounds c'.journal = lastRounds c.journal := by
  have milestones := congrArg Muster.lastRounds same.milestones
  rwa [Coordinator.milestones, Coordinator.milestones, lastRounds_milestones,
    lastRounds_milestones] at milestones

theorem lastRounds_advance (next : Phase) :
    lastRounds (c.advance next).journal = lastRounds c.journal := by
  unfold advance
  split <;> rfl

structure RoundsOver (c : Coordinator σ) : Prop where
  manned : c.master.isSome = true
  complete : c.workers = c.plan.limits.target ∨ lastRounds c.journal = maxRounds

/-- The place where the sequence waits, or where it ended, agrees with the journal. -/
def Placed (c : Coordinator σ) : Prop :=
  match c.control with
  | .awaitingMaster => lastRounds c.journal = 0
  | .awaitingRound round => c.master.isSome = true ∧ 1 ≤ round ∧ round ≤ maxRounds ∧
      lastRounds c.journal = round
  | .awaitingShutdown => c.RoundsOver
  | .finished (.ok _) => c.RoundsOver ∧ c.done.isOpen = true
  | _ => True

/-- A change that neither turns the sequence of a bring-up nor takes it to another round. -/
structure Calm (clients : Clients σ) (c c' : Coordinator σ) : Prop where
  moves : Moves clients c c'
  control : c'.control = c.control
  opened : c.done.isOpen = true → c'.done.isOpen = true
  rounds : lastRounds c'.journal = lastRounds c.journal
  meaningful : c.Meaningful → c'.Meaningful

theorem Calm.refl (c : Coordinator σ) : Calm clients c c :=
  ⟨.refl, rfl, id, rfl, id⟩

theorem Calm.trans (first : Calm clients c c') (second : Calm clients c' c'') :
    Calm clients c c'' :=
  ⟨first.moves.trans second.moves, second.control.trans first.control,
    fun opened => second.opened (first.opened opened), second.rounds.trans first.rounds,
    fun meaningful => second.meaningful (first.meaningful meaningful)⟩

theorem Calm.same (same : SameStage c c') (moves : Moves clients c c') : Calm clients c c' where
  moves := moves
  control := same.control
  opened opened := by rwa [same.done]
  rounds := same.lastRounds
  meaningful meaningful := meaningful.same same moves.suffix

theorem calm_log {event : Event} (silent : (Entry.event event).concernsWorkers = false)
    (other : (Entry.event event).isMilestone = false) : Calm clients c (c.log event) :=
  .same (sameStage_log other) (moves_log event silent)

theorem calm_ask {α : Type} (call : Call) (act : σ → Except String α × σ)
    (silent : ∀ failure, (Entry.call call failure).concernsWorkers = false) :
    Calm clients c (c.ask call act).2 :=
  .same ⟨rfl, rfl, rfl, rfl, rfl, rfl⟩ (moves_ask call act silent)

theorem calm_tell (call : Call) (act : σ → σ)
    (silent : (Entry.call call none).concernsWorkers = false) :
    Calm clients c (c.tell call act) :=
  .same ⟨rfl, rfl, rfl, rfl, rfl, rfl⟩ (moves_tell call act silent)

theorem calm_advance {next : Phase} (earned : next.Earned c.plan c.journal) :
    Calm clients c (c.advance next) where
  moves := moves_advance next
  control := by unfold advance; split <;> rfl
  opened opened := by rwa [advance_done]
  rounds := lastRounds_advance next
  meaningful meaningful := meaningful.advance earned

theorem calm_start : Calm clients c (c.start clients).2 :=
  start_related (fun first second => first.trans second)
    (fun _ _ _ asks => calm_ask _ _ asks.silent)
    (fun _ _ => (calm_advance (by trivial)).trans (calm_log rfl rfl))

theorem calm_foldl {α : Type} (f : Coordinator σ → α → Coordinator σ)
    (step : ∀ c x, Calm clients c (f c x)) (xs : List α) (c : Coordinator σ) :
    Calm clients c (xs.foldl f c) := by
  induction xs generalizing c with
  | nil => exact .refl c
  | cons x rest ih => exact (step c x).trans (ih (f c x))

theorem isOpen_onShutdown : c.onShutdown.done.isOpen = true := by
  unfold onShutdown Latch.countDown
  cases c.done.isOpen with
  | true => rfl
  | false => exact congrArg Latch.isOpen (advance_done _ _)

theorem calm_onShutdown : Calm clients c c.onShutdown := by
  cases opened : c.done.isOpen with
  | true =>
      have same : c.onShutdown = { c with done := ⟨true⟩ } := by
        simp [onShutdown, Latch.countDown, opened]
      rw [same]
      refine ⟨moves_entries c.env c.phase ⟨true⟩ [] (by simp), rfl, fun _ => rfl, rfl, ?_⟩
      exact fun meaningful => meaningful.write [] rfl rfl (by simp [opened]) rfl rfl
  | false =>
      have same : c.onShutdown =
          advance .shutdownRequested (log .shutdownRequested { c with done := ⟨true⟩ }) := by
        simp [onShutdown, Latch.countDown, opened]
      rw [same]
      have told : Calm clients c (log .shutdownRequested { c with done := ⟨true⟩ }) := by
        refine ⟨moves_entries c.env c.phase ⟨true⟩ [_] ?_, rfl, fun _ => rfl, rfl, ?_⟩
        · simp [Entry.concernsWorkers]
        · exact fun meaningful => meaningful.write [.event .shutdownRequested] rfl rfl
            (by simp [Coordinator.log]) rfl rfl
      exact told.trans (calm_advance List.mem_cons_self)

theorem calm_receive (delivery : Delivery) : Calm clients c (c.receive clients delivery) := by
  cases delivery with
  | allocated containers =>
      exact .same (sameStage_onAllocated containers) (moves_onAllocated containers)
  | completed statuses =>
      refine calm_foldl _ ?_ statuses c
      intro c status
      unfold onCompleted
      split
      · exact calm_log rfl rfl
      · exact calm_log rfl rfl
  | nodes reports => exact .refl c
  | shutdown => exact calm_onShutdown
  | error cause => exact calm_log rfl rfl

theorem calm_stop (status : FinalStatus) (diagnostics : String) :
    Calm clients c (c.stop clients status diagnostics) := by
  let Left (c : Coordinator σ) : Prop := ∃ status diagnostics trackingUrl failure,
    .call (.unregister status diagnostics trackingUrl) failure ∈ c.journal
  have stopped (c : Coordinator σ) (left : Left c) : Calm clients c
      (((((c.tell .stopResourceManager clients.stopResourceManager).tell .stopNodeManager
        clients.stopNodeManager).tell .stopInventory clients.stopInventory).advance
          .stopped).log (.stopped status)) := by
    refine (calm_tell .stopResourceManager clients.stopResourceManager rfl).trans ?_
    refine (calm_tell .stopNodeManager clients.stopNodeManager rfl).trans ?_
    refine (calm_tell .stopInventory clients.stopInventory rfl).trans ?_
    refine Calm.trans (calm_advance ?_) (calm_log rfl rfl)
    obtain ⟨status, diagnostics, trackingUrl, failure, member⟩ := left
    refine ⟨status, diagnostics, trackingUrl, failure, ?_⟩
    simpa [tell] using member
  simp only [stop, ask_eq]
  split
  · exact calm_log rfl rfl
  · have asked : Calm clients c _ :=
      calm_ask (.unregister status diagnostics "") (clients.unregister status diagnostics "")
        fun _ => rfl
    rw [ask_eq] at asked
    cases answer : (clients.unregister status diagnostics "" c.env).1 with
    | error cause =>
        rw [answer] at asked
        refine (asked.trans (calm_log rfl rfl)).trans (stopped _ ?_)
        exact ⟨_, _, _, _, List.mem_cons_of_mem _ List.mem_cons_self⟩
    | ok =>
        rw [answer] at asked
        exact asked.trans (stopped _ ⟨_, _, _, _, List.mem_cons_self⟩)

/-! ## The sequence of a bring-up -/

theorem RoundsOver.calm (roundsOver : c.RoundsOver) (tallied : c.Tallied)
    (calm : Calm clients c c') : c'.RoundsOver := by
  obtain ⟨manned, complete⟩ := roundsOver
  have later := tallied.moves calm.moves
  obtain ⟨address, opened⟩ := Option.isSome_iff_exists.mp manned
  constructor
  · rw [calm.moves.master_eq opened]
    rfl
  · rw [calm.rounds]
    refine complete.imp_left fun enough => ?_
    have more := workers_le_of_moves calm.moves
    rw [enough, ← calm.moves.plan_eq] at more
    exact later.enough_iff.mp more

theorem Placed.calm (placed : c.Placed) (tallied : c.Tallied) (calm : Calm clients c c') :
    c'.Placed := by
  unfold Placed at placed ⊢
  rw [calm.control]
  cases control : c.control with
  | idle => trivial
  | begun => trivial
  | awaitingMaster =>
      rw [control] at placed
      exact calm.rounds.trans placed
  | awaitingRound round =>
      rw [control] at placed
      obtain ⟨manned, least, most, rounds⟩ := placed
      obtain ⟨address, opened⟩ := Option.isSome_iff_exists.mp manned
      refine ⟨?_, least, most, calm.rounds.trans rounds⟩
      rw [calm.moves.master_eq opened]
      rfl
  | awaitingShutdown =>
      rw [control] at placed
      exact RoundsOver.calm placed tallied calm
  | finished outcome =>
      rw [control] at placed
      cases outcome with
      | ok done => exact ⟨placed.1.calm tallied calm, calm.opened placed.2⟩
      | error error => trivial

structure Orderly (c : Coordinator σ) : Prop where
  meaningful : c.Meaningful
  placed : c.Placed

theorem orderly_awaitShutdown (clients : Clients σ) (meaningful : c.Meaningful)
    (tallied : c.Tallied) (roundsOver : c.RoundsOver) : c.awaitShutdown.Orderly := by
  unfold awaitShutdown
  split
  · rename_i opened
    have moved : Calm clients c (c.advance .shutdownRequested) :=
      calm_advance (meaningful.asked.mp opened)
    obtain ⟨manned, complete⟩ := roundsOver.calm tallied moved
    constructor
    · exact (moved.meaningful meaningful).turn _
    · exact ⟨⟨manned, complete⟩, moved.opened opened⟩
  · exact ⟨meaningful.turn _, roundsOver.manned, roundsOver.complete⟩

theorem orderly_settle (clients : Clients σ) (meaningful : c.Meaningful) (tallied : c.Tallied)
    (roundsOver : c.RoundsOver) (rounds : Nat) : (c.settle rounds).Orderly := by
  have launched := tallied.manned roundsOver.manned
  have running (d : Coordinator σ) (calm : Calm clients c d) :
      ((d.log .launched).advance .running).awaitShutdown.Orderly := by
    have grown : c.journal <:+ (d.log .launched).journal :=
      calm.moves.suffix.trans (List.suffix_cons _ _)
    have earned : MasterLaunched (d.log .launched).plan.launch (d.log .launched).journal := by
      change MasterLaunched d.plan.launch _
      rw [calm.moves.plan_eq]
      exact launched.later grown
    have all : Calm clients c ((d.log .launched).advance .running) :=
      (calm.trans (calm_log rfl rfl)).trans (calm_advance earned)
    exact orderly_awaitShutdown clients (all.meaningful meaningful) (tallied.moves all.moves)
      (roundsOver.calm tallied all)
  simp only [settle]
  split
  · rename_i satisfied
    refine running _ (calm_advance ⟨launched, ?_⟩)
    rw [← tallied.counted]
    exact tallied.enough_iff.mp (of_decide_eq_true satisfied)
  · rename_i missed
    have missing : ¬c.plan.limits.target ≤ c.workers := by
      simpa [RoundsOutcome.satisfied] using missed
    have told : Calm clients c (c.log (.targetMissed c.plan.limits.target rounds c.workers)) :=
      calm_log rfl rfl
    refine running _ (told.trans (calm_advance ⟨launched.later (List.suffix_cons _ _), ?_, ?_⟩))
    · change workersLaunched c.plan.launch c.journal < c.plan.limits.target
      rw [← tallied.counted]
      exact Nat.not_le.mp missing
    · refine roundsOver.complete.resolve_left fun enough => missing ?_
      exact tallied.enough_iff.mpr enough

structure Rounding (left : Nat) (c : Coordinator σ) : Prop where
  meaningful : c.Meaningful
  tallied : c.Tallied
  manned : c.master.isSome = true
  rounds : lastRounds c.journal + left = maxRounds

theorem Rounding.submitRound {left : Nat} {planned : Round} (rounding : Rounding (left + 1) c)
    (needed : c.workers + planned.needed = c.plan.limits.target)
    (opened : 0 < c.roster.gate.rounds) :
    Rounding left (c.submitRound clients planned (maxRounds - left)) := by
  obtain ⟨meaningful, tallied, manned, rounds⟩ := rounding
  let request := c.plan.requests.forWorker planned.hosts
  let first := c.plan.limits.target - planned.needed
  let submitted := c.submitWorkers clients request (maxRounds - left) first planned.needed
  have same : SameStage c submitted := sameStage_submitWorkers _ _ _ _ _
  have grown : c.journal <:+ submitted.journal := covers_suffix.submitWorkers _ _ _ _ _
  have moves : Moves clients c (c.submitRound clients planned (maxRounds - left)) :=
    moves_submitRound planned _ (by omega) opened
  have launched : MasterLaunched submitted.plan.launch submitted.journal := by
    rw [same.plan]
    exact (tallied.manned manned).later grown
  have before := same.lastRounds
  obtain ⟨address, known⟩ := Option.isSome_iff_exists.mp manned
  constructor
  · refine Meaningful.log ?_ rfl (by simp)
    exact (meaningful.same same grown).advance ⟨launched, by omega, by omega⟩
  · exact tallied.moves moves
  · rw [moves.master_eq known]
    rfl
  · have after : lastRounds (c.submitRound clients planned (maxRounds - left)).journal =
        lastRounds (submitted.advance (.workersRequesting (maxRounds - left))).journal + 1 :=
      rfl
    rw [after, lastRounds_advance]
    omega

theorem Rounding.runRounds (left : Nat) : ∀ {c : Coordinator σ}, Rounding left c →
    (c.runRounds clients left).Orderly := by
  -- What is left counts down to zero while the rounds that the journal tells of count up.
  induction left with
  | zero =>
      intro c ⟨meaningful, tallied, manned, rounds⟩
      exact orderly_settle clients meaningful tallied ⟨manned, .inr rounds⟩ maxRounds
  | succ left ih =>
      intro c rounding
      obtain ⟨meaningful, tallied, manned, rounds⟩ := rounding
      have asked : Calm clients c (c.listed clients) := .same sameStage_listed moves_listed
      have listed := asked.meaningful meaningful
      obtain ⟨address, opened⟩ := Option.isSome_iff_exists.mp manned
      have still : (c.listed clients).master.isSome = true := by
        rw [asked.moves.master_eq opened]
        rfl
      refine runRounds_cases left c ?_ ?_ ?_ ?_ ?_
      · intro enough
        refine orderly_settle clients meaningful tallied ⟨manned, .inl ?_⟩ _
        exact tallied.enough_iff.mp (of_decide_eq_true enough)
      · exact fun _ _ _ => ⟨listed.turn _, trivial⟩
      · exact fun _ _ _ _ _ => ⟨listed.turn _, trivial⟩
      · intro known _ _ none
        have told := tallied.moves asked.moves
        refine orderly_settle clients listed told ⟨still, .inl ?_⟩ _
        exact told.enough_iff.mp (of_decide_eq_true (Roster.hasEnough_of_nextRound none))
      · intro known planned roster wanted answer next
        obtain ⟨needed, _, _, _, same⟩ := Roster.nextRound_planned next
        have moves : Moves clients c (c.withRound clients roster) :=
          asked.moves.tail (.plan c.env known planned roster answer next)
        have begun : Rounding (left + 1) (c.withRound clients roster) := by
          refine ⟨listed.withRoster roster, tallied.moves moves, still, ?_⟩
          exact (congrArg (· + (left + 1)) asked.rounds).trans rounds
        have submitted : Rounding left
            ((c.withRound clients roster).submitRound clients planned (maxRounds - left)) := by
          refine begun.submitRound ?_ ?_
          · subst same
            exact needed
          · simp [withRound, same]
        split
        · exact ih submitted
        · have total := submitted.rounds
          refine ⟨submitted.meaningful.turn _, submitted.manned, ?_, ?_, ?_⟩
          · omega
          · omega
          · rw [← Nat.sub_eq_of_eq_add total.symm]

theorem orderly_awaitMaster (meaningful : c.Meaningful) (tallied : c.Tallied)
    (rounds : lastRounds c.journal = 0) : (c.awaitMaster clients).Orderly := by
  unfold awaitMaster
  split
  · rename_i manned
    have moved : Calm clients c (c.advance .masterLaunched) :=
      calm_advance (tallied.manned manned)
    refine Rounding.runRounds maxRounds ⟨moved.meaningful meaningful, tallied.moves moved.moves,
      ?_, ?_⟩
    · rwa [advance_master]
    · rw [moved.rounds, rounds, Nat.zero_add]
  · exact ⟨meaningful.turn _, rounds⟩

theorem Meaningful.submitMaster (meaningful : c.Meaningful) :
    (c.submitMaster clients).Meaningful ∧ lastRounds (c.submitMaster clients).journal = 0 := by
  let request := c.plan.requests.forMaster
  let begun := c.log (.requestingMaster request c.plan.requests.masterHost)
  have same : SameStage begun (begun.addRequest clients request) := sameStage_addRequest request
  have first : begun.Meaningful := meaningful.log rfl (by simp)
  constructor
  · refine Meaningful.log ?_ rfl (by simp)
    exact (first.same same (suffix_addRequest request)).advance trivial
  · change lastRounds ((begun.addRequest clients request).advance .masterRequested).journal = 0
    rw [lastRounds_advance, same.lastRounds]
    rfl

theorem Orderly.resume (orderly : c.Orderly) (tallied : c.Tallied) :
    (c.resume clients).Orderly := by
  obtain ⟨meaningful, placed⟩ := orderly
  unfold Placed at placed
  unfold Coordinator.resume
  cases control : c.control with
  | idle => exact ⟨meaningful, by rw [Placed, control]; trivial⟩
  | begun =>
      obtain ⟨submitted, rounds⟩ := meaningful.submitMaster
      exact orderly_awaitMaster submitted (tallied.moves moves_submitMaster) rounds
  | awaitingMaster =>
      rw [control] at placed
      exact orderly_awaitMaster meaningful tallied placed
  | awaitingRound round =>
      rw [control] at placed
      obtain ⟨manned, least, most, rounds⟩ := placed
      simp only
      split
      · refine Rounding.runRounds _ ⟨meaningful, tallied, manned, ?_⟩
        omega
      · exact ⟨meaningful, by rw [Placed, control]; exact ⟨manned, least, most, rounds⟩⟩
  | awaitingShutdown =>
      rw [control] at placed
      exact orderly_awaitShutdown clients meaningful tallied placed
  | finished outcome =>
      rw [control] at placed
      exact ⟨meaningful, by rw [Placed, control]; exact placed⟩

theorem Orderly.calm (orderly : c.Orderly) (tallied : c.Tallied) (calm : Calm clients c c') :
    c'.Orderly :=
  ⟨calm.meaningful orderly.meaningful, orderly.placed.calm tallied calm⟩

theorem Orderly.step {allowed : Action → Prop} (orderly : c.Orderly) (tallied : c.Tallied)
    (step : Step clients allowed c c') : c'.Orderly := by
  cases step with
  | environment env =>
      have calm : Calm clients c { c with env } :=
        .same ⟨rfl, rfl, rfl, rfl, rfl, rfl⟩ (moves_entries env c.phase c.done [] (by simp))
      exact orderly.calm tallied calm
  | perform action =>
      cases action with
      | start =>
          rw [perform_start]
          exact orderly.calm tallied calm_start
      | request => exact ⟨orderly.meaningful.turn _, trivial⟩
      | cancel =>
          simp only [perform, cancel]
          split
          · exact orderly
          · exact ⟨orderly.meaningful.turn _, trivial⟩
      | resume => exact orderly.resume tallied
      | receive delivery => exact orderly.calm tallied (calm_receive delivery)
      | progress => exact orderly
      | stop status diagnostics => exact orderly.calm tallied (calm_stop status diagnostics)
      | stopAfter =>
          simp only [perform]
          split
          · rename_i outcome _
            cases outcome with
            | ok done => exact orderly.calm tallied (calm_stop _ _)
            | error error => exact orderly.calm tallied (calm_stop _ _)
          · exact orderly

theorem orderly_of_run {plan : BringupPlan} {env : σ} (run : Run clients (init plan env) c) :
    c.Orderly ∧ c.Tallied := by
  induction run with
  | refl => exact ⟨⟨meaningful_init plan env, trivial⟩, tallied_init plan env⟩
  | tail _ step ih => exact ⟨ih.1.step ih.2 step, ih.2.moves step.moves⟩

theorem Meaningful.phase_mem (meaningful : c.Meaningful) : c.phase ∈ c.phases ++ [.created] := by
  rw [meaningful.current]
  cases c.phases with
  | nil => exact List.mem_cons_self
  | cons last others => exact List.mem_cons_self

theorem Meaningful.forward (earlier : c.Meaningful) (later : c'.Meaningful)
    (grown : c.journal <:+ c'.journal) :
    c'.phase = c.phase ∨ c.phase.precedes c'.phase = true := by
  obtain ⟨entries, journal⟩ := grown
  have phases : c'.phases = entries.filterMap Entry.phase? ++ c.phases := by
    rw [Coordinator.phases, ← journal, List.filterMap_append, Coordinator.phases]
  have current := later.current
  have rising := later.rising
  rw [phases] at current rising
  cases moved : entries.filterMap Entry.phase? with
  | nil =>
      left
      rw [moved, List.nil_append] at current
      rw [current, earlier.current]
  | cons next others =>
      right
      rw [moved] at current rising
      rw [List.cons_append, List.cons_append, List.pairwise_cons, List.append_assoc] at rising
      rw [current]
      exact rising.1 c.phase (List.mem_append_right _ earlier.phase_mem)

theorem Meaningful.distinct (meaningful : c.Meaningful) {phase other : Phase}
    (shown : phase ∈ c.phases) (too : other ∈ c.phases) (different : phase ≠ other) :
    phase.rank ≠ other.rank := by
  have apart : c.phases.Pairwise fun later earlier => later.rank ≠ earlier.rank := by
    refine (List.pairwise_append.mp meaningful.rising).1.imp ?_
    intro later earlier forward same
    simp [Phase.precedes, same] at forward
  have _ : Std.Symm fun later earlier : Phase => later.rank ≠ earlier.rank := ⟨fun _ _ => Ne.symm⟩
  exact apart.forall shown too different

theorem not_precedes_of_stopped (next : Phase) : Phase.stopped.precedes next = false := by
  cases next <;> rfl

/-- Whatever happens to a coordinator, its phases only move forward and mean what they say. The wish
for an end is noted when a shutdown is delivered, and by no other step. A bring-up ends well only
after that, with a master and the workers that it could get. -/
theorem phases_mean_what_they_say {plan : BringupPlan} {env : σ}
    (run : Run clients (init plan env) c) :
    c.plan = plan ∧ c.Meaningful ∧
      (∀ later, Run clients c later →
        (later.phase = c.phase ∨ c.phase.precedes later.phase = true) ∧
          (c.phase = .stopped → later.phase = .stopped)) ∧
      .event .shutdownRequested ∈ (c.perform clients (.receive .shutdown)).2.journal ∧
      (∀ later, ReflTransGen (Step clients (· ≠ .receive .shutdown)) c later →
        .event .shutdownRequested ∈ later.journal → .event .shutdownRequested ∈ c.journal) ∧
      ¬(.workersSatisfied ∈ c.phases ∧ .workersExhausted ∈ c.phases) ∧
      c.workers = workersLaunched plan.launch c.journal ∧
      (c.control = .finished (.ok ()) → .event .shutdownRequested ∈ c.journal ∧
        MasterLaunched plan.launch c.journal ∧
          (c.workers = plan.limits.target ∨ lastRounds c.journal = maxRounds)) := by
  have same : c.plan = plan := (moves_of_steps run).plan_eq
  obtain ⟨⟨meaningful, placed⟩, tallied⟩ := orderly_of_run run
  refine ⟨same, meaningful, ?_, ?_, ?_, ?_, ?_, ?_⟩
  · intro later on
    have forward := meaningful.forward (orderly_of_run (run.trans on)).1.meaningful
      (moves_of_steps on).suffix
    refine ⟨forward, fun stopped => ?_⟩
    rw [stopped, not_precedes_of_stopped] at forward
    exact forward.resolve_right Bool.false_ne_true
  · have told := run.tail (.perform (.receive .shutdown) trivial)
    exact (orderly_of_run told).1.meaningful.asked.mp isOpen_onShutdown
  · intro later steps asked
    have on : Run clients (init plan env) later := run.trans (run_of_steps steps)
    have kept := done_of_steps steps (by simp)
    rw [← (orderly_of_run on).1.meaningful.asked, kept] at asked
    exact meaningful.asked.mp asked
  · rintro ⟨satisfied, exhausted⟩
    exact meaningful.distinct satisfied exhausted (by decide) rfl
  · rw [← same]
    exact tallied.counted
  · intro ended
    rw [Placed, ended] at placed
    obtain ⟨roundsOver, opened⟩ := placed
    rw [← same]
    exact ⟨meaningful.asked.mp opened, tallied.manned roundsOver.manned, roundsOver.complete⟩

def repeated : List Action :=
  [.start, .request, .resume, .receive (.allocated [Script.container 0 "am"]), .resume,
    .receive (.allocated [Script.container 1 "h1", Script.container 2 "h1",
      Script.container 3 "h2"]),
    .resume, .receive .shutdown, .resume, .stop .succeeded "", .request, .resume]

def bringupAgain : Coordinator Script :=
  performAll Script.clients repeated (init crowdedPlan { inventory := .ofList ["h1", "h2"] })

theorem phases_mean_what_they_say_repeated :
    bringupAgain.phases = [.stopped, .shutdownRequested, .running, .workersSatisfied,
        .workersRequesting 1, .masterLaunched, .masterRequested, .started] ∧
      bringupAgain.Meaningful ∧ bringupAgain.workers = 3 ∧
      bringupAgain.control = .finished (.ok ()) ∧
      MasterLaunched crowdedPlan.launch bringupAgain.journal ∧
      ∀ later, Run Script.clients bringupAgain later → later.phase = .stopped := by
  have run : Run Script.clients (init crowdedPlan { inventory := .ofList ["h1", "h2"] })
      bringupAgain := run_performAll repeated
  have ended : bringupAgain.control = .finished (.ok ()) := by rfl
  obtain ⟨_, meaningful, forward, _, _, _, _, returned⟩ := phases_mean_what_they_say run
  refine ⟨by decide +kernel, meaningful, by decide +kernel, ended, (returned ended).2.1, ?_⟩
  exact fun later on => (forward later on).2 (by decide +kernel)

end Coordinator

end Muster
