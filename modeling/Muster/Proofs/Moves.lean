import Muster.Proofs.Composition

/-!
Runs of a coordinator, and the moves that they consist of. Whatever is done to a coordinator or by
it comes down to ten kinds of moves, so that a property is kept by all runs once each move keeps it.
-/

namespace Muster

/-- Whether a bring-up ended because the hosts cannot hold the workers. -/
def Control.RefusesCapacity (control : Control) : Prop :=
  ∃ needed hosts perHost, control = .finished (.error (.capacityInsufficient needed hosts perHost))

namespace Coordinator

open Relation (ReflTransGen)

variable {σ : Type} {clients : Clients σ} {c : Coordinator σ}

/-- An action among those `allowed` happens, or the services change by themselves. -/
inductive Step (clients : Clients σ) (allowed : Action → Prop) (c : Coordinator σ) :
    Coordinator σ → Prop
  | perform (action : Action) (permitted : allowed action) :
      Step clients allowed c (c.perform clients action).2
  | environment (env : σ) : Step clients allowed c { c with env }

/-- Any actions, one after the other. -/
abbrev Run (clients : Clients σ) : Coordinator σ → Coordinator σ → Prop :=
  ReflTransGen (Step clients fun _ => True)

/-- The smallest changes of a coordinator that are observed from outside. -/
inductive Move (clients : Clients σ) (c : Coordinator σ) : Coordinator σ → Prop
  | quiet (env : σ) (phase : Phase) (done : Latch) (entries : List Entry)
      (silent : ∀ entry ∈ entries, entry.concernsWorkers = false) :
      Move clients c { c with env, phase, done, journal := entries ++ c.journal }
  | turn (control : Control) (capable : ¬control.RefusesCapacity) :
      Move clients c { c with control }
  | refuse (env : σ) (known : HostSet) (error : BringupError)
      (answer : (clients.nodeHosts env).1 = .ok known)
      (planned : c.roster.nextRound c.plan.limits known = .error error) :
      Move clients c { c with control := .finished (.error error) }
  | plan (env : σ) (known : HostSet) (round : Round) (roster : Roster)
      (answer : (clients.nodeHosts env).1 = .ok known)
      (planned : c.roster.nextRound c.plan.limits known = .ok (some (round, roster))) :
      Move clients c { c with roster }
  | requestWorker (env : σ) (worker round : Nat) (hosts : List Host)
      (numbered : worker < c.plan.limits.target) (planned : 0 < c.roster.gate.rounds) :
      Move clients c { c with
        env
        journal := .call (.addRequest (c.plan.requests.forWorker hosts)) none ::
          .event (.requestingWorker worker round (c.plan.requests.forWorker hosts)) ::
          c.journal }
  | launchMaster (env : σ) (container : Container) (closed : c.master = none) :
      Move clients c { c with
        env
        master := some container.netAddress
        journal := .event (.masterLaunched container.netAddress) ::
          .call (.startContainer container c.plan.launch.forMaster) none ::
          .event (.launchingMaster container c.plan.launch.forMaster) :: c.journal }
  | failMaster (env : σ) (container : Container) (cause : String) (closed : c.master = none) :
      Move clients c { c with
        env
        journal := .event (.masterLaunchFailed container.id cause) ::
          .call (.startContainer container c.plan.launch.forMaster) (some cause) ::
          .event (.launchingMaster container c.plan.launch.forMaster) :: c.journal }
  | releaseWorker (env : σ) (container : Container)
      (refused : c.roster.hasEnough c.plan.limits ||
        c.roster.isHostFull c.plan.limits container.host) :
      Move clients c { c with
        env
        roster := c.roster.answer
        journal := .event (.requestAnswered c.roster.answer.gate.outstanding) ::
          .call (.release container.id) none ::
          .event (.releasing container (c.roster.hasEnough c.plan.limits)
            (c.roster.isHostFull c.plan.limits container.host)) :: c.journal }
  | launchWorker (env : σ) (container : Container) (address : String)
      (opened : c.master = some address)
      (wanted : c.roster.hasEnough c.plan.limits = false)
      (room : c.roster.isHostFull c.plan.limits container.host = false) :
      Move clients c { c with
        env
        roster := (c.roster.record container.host).answer
        journal :=
          .event (.requestAnswered (c.roster.record container.host).answer.gate.outstanding) ::
          .event (.workerRecorded container.host
            ((c.roster.record container.host).placement.count container.host)
            (c.roster.record container.host).workers) ::
          .call (.startContainer container (c.plan.launch.forWorker address)) none ::
          .event (.launchingWorker container c.workers) :: c.journal }
  | failWorker (env : σ) (container : Container) (address cause : String)
      (opened : c.master = some address)
      (wanted : c.roster.hasEnough c.plan.limits = false)
      (room : c.roster.isHostFull c.plan.limits container.host = false) :
      Move clients c { c with
        env
        roster := c.roster.answer
        journal := .event (.requestAnswered c.roster.answer.gate.outstanding) ::
          .event (.workerLaunchFailed container.id cause) ::
          .call (.startContainer container (c.plan.launch.forWorker address)) (some cause) ::
          .event (.launchingWorker container c.workers) :: c.journal }

abbrev Moves (clients : Clients σ) : Coordinator σ → Coordinator σ → Prop :=
  ReflTransGen (Move clients)

theorem moves_entries (env : σ) (phase : Phase) (done : Latch) (entries : List Entry)
    (silent : ∀ entry ∈ entries, entry.concernsWorkers = false) :
    Moves clients c { c with env, phase, done, journal := entries ++ c.journal } :=
  .single (.quiet env phase done entries silent)

theorem moves_log (event : Event) (silent : (Entry.event event).concernsWorkers = false) :
    Moves clients c (c.log event) :=
  moves_entries c.env c.phase c.done [.event event] (by simpa using silent)

theorem moves_tell (call : Call) (act : σ → σ)
    (silent : (Entry.call call none).concernsWorkers = false) :
    Moves clients c (c.tell call act) :=
  moves_entries (act c.env) c.phase c.done [.call call none] (by simpa using silent)

theorem moves_ask {α : Type} (call : Call) (act : σ → Except String α × σ)
    (silent : ∀ failure, (Entry.call call failure).concernsWorkers = false) :
    Moves clients c (c.ask call act).2 :=
  moves_entries (act c.env).2 c.phase c.done [.call call (failure? (act c.env).1)]
    (by simpa using silent _)

theorem moves_advance (next : Phase) : Moves clients c (c.advance next) := by
  obtain ⟨phase, entries, logged, same⟩ := c.advance_eq next
  rw [same]
  refine moves_entries c.env phase c.done entries ?_
  intro entry member
  rw [logged entry member]
  rfl

theorem moves_foldl {α : Type} (f : Coordinator σ → α → Coordinator σ)
    (kept : Coordinator σ → Prop)
    (step : ∀ c x, kept c → Moves clients c (f c x) ∧ kept (f c x)) (xs : List α)
    (start : kept c) : Moves clients c (xs.foldl f c) := by
  induction xs generalizing c with
  | nil => exact .refl
  | cons x rest ih =>
      obtain ⟨first, still⟩ := step c x start
      exact first.trans (ih still)

/-! ## Deliveries -/

theorem launchMasterIn_launched (container : Container)
    (launched :
      (clients.startContainer container c.plan.launch.forMaster c.env).1 = .ok ()) :
    c.launchMasterIn clients container = { c with
      env := (clients.startContainer container c.plan.launch.forMaster c.env).2
      master := some container.netAddress
      journal := .event (.masterLaunched container.netAddress) ::
        .call (.startContainer container c.plan.launch.forMaster) none ::
        .event (.launchingMaster container c.plan.launch.forMaster) :: c.journal } := by
  simp only [launchMasterIn, startContainer, ask_eq, log, launched]
  rfl

theorem launchMasterIn_failed (container : Container) {cause : String}
    (failed :
      (clients.startContainer container c.plan.launch.forMaster c.env).1 = .error cause) :
    c.launchMasterIn clients container = { c with
      env := (clients.startContainer container c.plan.launch.forMaster c.env).2
      journal := .event (.masterLaunchFailed container.id cause) ::
        .call (.startContainer container c.plan.launch.forMaster) (some cause) ::
        .event (.launchingMaster container c.plan.launch.forMaster) :: c.journal } := by
  simp only [launchMasterIn, startContainer, ask_eq, log, failed]
  rfl

theorem moves_launchMasterIn (container : Container) (closed : c.master = none) :
    Moves clients c (c.launchMasterIn clients container) := by
  cases outcome : (clients.startContainer container c.plan.launch.forMaster c.env).1 with
  | ok =>
      rw [launchMasterIn_launched container outcome]
      exact .single (.launchMaster _ container closed)
  | error cause =>
      rw [launchMasterIn_failed container outcome]
      exact .single (.failMaster _ container cause closed)

theorem covers_moves : CoversCalls clients (Moves clients) where
  refl _ := .refl
  trans first second := first.trans second
  set c phase done := moves_entries c.env phase done [] (by simp)
  log _ event := moves_log event
  ask _ _ _ asks := moves_ask _ _ asks.silent
  tell _ _ _ tells := moves_tell _ _ tells.silent

theorem moves_placeMaster (containers : List Container) (closed : c.master = none) :
    Moves clients c (c.placeMaster clients containers) :=
  covers_moves.placeMaster (fun _ _ => moves_tell _ _ rfl) (fun _ => moves_launchMasterIn)
    containers closed

theorem placeWorker_refused (context : LaunchContext) (container : Container)
    (refused : (c.roster.hasEnough c.plan.limits ||
      c.roster.isHostFull c.plan.limits container.host) = true) :
    c.placeWorker clients context container = { c with
      env := clients.release container.id c.env
      roster := c.roster.answer
      journal := .event (.requestAnswered c.roster.answer.gate.outstanding) ::
        .call (.release container.id) none ::
        .event (.releasing container (c.roster.hasEnough c.plan.limits)
          (c.roster.isHostFull c.plan.limits container.host)) :: c.journal } := by
  simp only [placeWorker, refused, if_true]
  rfl

theorem placeWorker_launched (context : LaunchContext) (container : Container)
    (accepted : (c.roster.hasEnough c.plan.limits ||
      c.roster.isHostFull c.plan.limits container.host) = false)
    (launched : (clients.startContainer container context c.env).1 = .ok ()) :
    c.placeWorker clients context container = { c with
      env := (clients.startContainer container context c.env).2
      roster := (c.roster.record container.host).answer
      journal :=
        .event (.requestAnswered (c.roster.record container.host).answer.gate.outstanding) ::
        .event (.workerRecorded container.host
          ((c.roster.record container.host).placement.count container.host)
          (c.roster.record container.host).workers) ::
        .call (.startContainer container context) none ::
        .event (.launchingWorker container c.workers) :: c.journal } := by
  simp only [placeWorker, accepted, Bool.false_eq_true, if_false, launchWorkerIn, startContainer,
    ask_eq, log, launched]
  rfl

theorem placeWorker_failed (context : LaunchContext) (container : Container) {cause : String}
    (accepted : (c.roster.hasEnough c.plan.limits ||
      c.roster.isHostFull c.plan.limits container.host) = false)
    (failed : (clients.startContainer container context c.env).1 = .error cause) :
    c.placeWorker clients context container = { c with
      env := (clients.startContainer container context c.env).2
      roster := c.roster.answer
      journal := .event (.requestAnswered c.roster.answer.gate.outstanding) ::
        .event (.workerLaunchFailed container.id cause) ::
        .call (.startContainer container context) (some cause) ::
        .event (.launchingWorker container c.workers) :: c.journal } := by
  simp only [placeWorker, accepted, Bool.false_eq_true, if_false, launchWorkerIn, startContainer,
    ask_eq, log, failed]
  rfl

theorem moves_placeWorker {address : String} (container : Container)
    (opened : c.master = some address) :
    Moves clients c (c.placeWorker clients (c.plan.launch.forWorker address) container) := by
  cases decision : c.roster.hasEnough c.plan.limits ||
      c.roster.isHostFull c.plan.limits container.host with
  | true =>
      rw [placeWorker_refused _ _ decision]
      exact .single (.releaseWorker _ container decision)
  | false =>
      obtain ⟨wanted, room⟩ := Bool.or_eq_false_iff.mp decision
      cases outcome : (clients.startContainer container
          (c.plan.launch.forWorker address) c.env).1 with
      | ok =>
          rw [placeWorker_launched _ _ decision outcome]
          exact .single (.launchWorker _ container address opened wanted room)
      | error cause =>
          rw [placeWorker_failed _ _ decision outcome]
          exact .single (.failWorker _ container address cause opened wanted room)

theorem Move.plan_eq {c' : Coordinator σ} (move : Move clients c c') : c'.plan = c.plan := by
  cases move <;> rfl

theorem Move.master_eq {c' : Coordinator σ} (move : Move clients c c') {address : String}
    (opened : c.master = some address) : c'.master = some address := by
  cases move with
  | launchMaster _ _ closed => simp [closed] at opened
  | _ => exact opened

theorem Move.rounds_le {c' : Coordinator σ} (move : Move clients c c') :
    c.roster.gate.rounds ≤ c'.roster.gate.rounds := by
  cases move with
  | plan env known round roster answer planned =>
      obtain ⟨_, _, _, _, rfl⟩ := Roster.nextRound_planned planned
      exact Nat.le_succ _
  | _ => exact Nat.le_refl _

theorem Moves.plan_eq {c' : Coordinator σ} (moves : Moves clients c c') : c'.plan = c.plan := by
  induction moves with
  | refl => rfl
  | tail _ move ih => exact move.plan_eq.trans ih

theorem Moves.master_eq {c' : Coordinator σ} (moves : Moves clients c c') {address : String}
    (opened : c.master = some address) : c'.master = some address := by
  induction moves with
  | refl => exact opened
  | tail _ move ih => exact move.master_eq ih

theorem Moves.rounds_le {c' : Coordinator σ} (moves : Moves clients c c') :
    c.roster.gate.rounds ≤ c'.roster.gate.rounds := by
  induction moves with
  | refl => exact Nat.le_refl _
  | tail _ move ih => exact Nat.le_trans ih move.rounds_le

theorem moves_onAllocated (containers : List Container) :
    Moves clients c (c.onAllocated clients containers) := by
  unfold onAllocated
  cases master : c.master with
  | none => exact moves_placeMaster containers master
  | some address =>
      refine moves_foldl _ (fun d => d.master = some address ∧ d.plan = c.plan) ?_ containers
        ⟨master, rfl⟩
      intro d container ⟨opened, same⟩
      have moves : Moves clients d
          (d.placeWorker clients (d.plan.launch.forWorker address) container) :=
        moves_placeWorker container opened
      rw [same] at moves
      exact ⟨moves, moves.master_eq opened, moves.plan_eq.trans same⟩

theorem moves_receive (delivery : Delivery) : Moves clients c (c.receive clients delivery) := by
  cases delivery with
  | allocated containers => exact moves_onAllocated containers
  | _ => exact covers_moves.receive (by simp) c

/-! ## The sequence of a bring-up -/

theorem moves_finish (outcome : Except BringupError Unit)
    (capable : ¬(Control.finished outcome).RefusesCapacity) : Moves clients c (c.finish outcome) :=
  .single (.turn _ capable)

theorem moves_batches (batches : List (List Container)) :
    Moves clients c (batches.foldl (fun c containers => c.onAllocated clients containers) c) :=
  covers_moves.foldl _ (fun _ => moves_onAllocated) batches c

theorem moves_listed : Moves clients c (c.listed clients) :=
  (moves_entries _ c.phase c.done [.call .nodeHosts (failure? (clients.nodeHosts c.env).1)]
    (by simp [Entry.concernsWorkers])).trans (moves_batches _)

theorem moves_submitMaster : Moves clients c (c.submitMaster clients) := by
  have logged : Moves clients c
      (c.log (.requestingMaster c.plan.requests.forMaster c.plan.requests.masterHost)) :=
    moves_log _ rfl
  unfold submitMaster addRequest
  refine (((logged.trans ?_).trans (moves_batches _)).trans (moves_advance _)).trans
    (moves_log _ rfl)
  exact moves_entries _ _ _ [.call (.addRequest c.plan.requests.forMaster) none] (by
    intro entry member
    rw [List.mem_singleton.mp member]
    rfl)

theorem moves_submitWorkers {hosts : List Host} {round : Nat} (count : Nat) :
    ∀ (worker : Nat) {c : Coordinator σ}, worker + count ≤ c.plan.limits.target →
      0 < c.roster.gate.rounds →
      Moves clients c
        (c.submitWorkers clients (c.plan.requests.forWorker hosts) round worker count) := by
  induction count with
  | zero => exact fun _ _ _ _ => .refl
  | succ count ih =>
      intro worker c numbered planned
      have requested : Move clients c _ :=
        .requestWorker (clients.addRequest (c.plan.requests.forWorker hosts) c.env).2 worker round
          hosts (by omega) planned
      have moves : Moves clients c _ := (ReflTransGen.single requested).trans
        (moves_batches (clients.addRequest (c.plan.requests.forWorker hosts) c.env).1)
      have same := moves.plan_eq
      have rest := ih (worker + 1) (by rw [same]; omega)
        (Nat.lt_of_lt_of_le planned moves.rounds_le)
      rw [same] at rest
      exact moves.trans rest

theorem not_refusesCapacity {control : Control}
    (other : ∀ needed hosts perHost,
      control ≠ .finished (.error (.capacityInsufficient needed hosts perHost))) :
    ¬control.RefusesCapacity := by
  rintro ⟨needed, hosts, perHost, same⟩
  exact other needed hosts perHost same

theorem moves_awaitShutdown : Moves clients c c.awaitShutdown := by
  unfold awaitShutdown
  split
  · exact (moves_advance _).trans (moves_finish _ (not_refusesCapacity (by simp)))
  · exact .single (.turn _ (not_refusesCapacity (by simp)))

theorem moves_settle (rounds : Nat) : Moves clients c (c.settle rounds) := by
  simp only [settle]
  split
  · exact (((moves_advance _).trans (moves_log _ rfl)).trans (moves_advance _)).trans
      moves_awaitShutdown
  · exact (((((moves_log _ rfl).trans (moves_advance _)).trans (moves_log _ rfl)).trans
      (moves_advance _)).trans moves_awaitShutdown)

theorem moves_submitRound (planned : Round) (round : Nat)
    (fits : planned.needed ≤ c.plan.limits.target) (opened : 0 < c.roster.gate.rounds) :
    Moves clients c (c.submitRound clients planned round) :=
  ((moves_submitWorkers planned.needed _ (by omega) opened).trans (moves_advance _)).trans
    (moves_log _ rfl)

theorem moves_round {known : HostSet} {round : Round} {roster : Roster} (index : Nat)
    (answer : (clients.nodeHosts c.env).1 = .ok known)
    (next : (c.listed clients).roster.nextRound (c.listed clients).plan.limits known =
      .ok (some (round, roster))) :
    Moves clients (c.listed clients)
      ((c.withRound clients roster).submitRound clients round index) := by
  obtain ⟨total, _, _, _, same⟩ := Roster.nextRound_planned next
  have planned : Move clients (c.listed clients) (c.withRound clients roster) :=
    .plan c.env known round roster answer next
  exact (ReflTransGen.single planned).trans
    (moves_submitRound round index (by simp only [withRound]; omega) (by simp [withRound, same]))

theorem moves_runRounds (left : Nat) :
    ∀ {c : Coordinator σ}, Moves clients c (c.runRounds clients left) := by
  induction left with
  | zero => exact moves_settle _
  | succ left ih =>
      intro c
      have asked : Moves clients c (c.listed clients) := moves_listed
      refine runRounds_cases left c ?_ ?_ ?_ ?_ ?_
      · exact fun _ => moves_settle _
      · exact fun _ _ _ => asked.trans (moves_finish _ (not_refusesCapacity (by simp)))
      · exact fun known error _ answer next =>
          asked.tail (.refuse c.env known error answer next)
      · exact fun _ _ _ _ => asked.trans (moves_settle _)
      · intro known round roster _ answer next
        have submitted := asked.trans (moves_round (maxRounds - left) answer next)
        split
        · exact submitted.trans ih
        · exact submitted.tail (.turn _ (not_refusesCapacity (by simp)))

theorem moves_awaitMaster : Moves clients c (c.awaitMaster clients) := by
  unfold awaitMaster
  split
  · exact (moves_advance _).trans (moves_runRounds _)
  · exact .single (.turn _ (not_refusesCapacity (by simp)))

theorem moves_resume : Moves clients c (c.resume clients) := by
  unfold resume
  cases c.control with
  | idle => exact .refl
  | begun => exact moves_submitMaster.trans moves_awaitMaster
  | awaitingMaster => exact moves_awaitMaster
  | awaitingRound round =>
      simp only
      split
      · exact moves_runRounds _
      · exact .refl
  | awaitingShutdown => exact moves_awaitShutdown
  | finished outcome => exact .refl

theorem moves_request : Moves clients c c.request :=
  .single (.turn _ (not_refusesCapacity (by simp)))

theorem moves_cancel : Moves clients c c.cancel := by
  unfold cancel
  split
  · exact .refl
  · exact .single (.turn _ (not_refusesCapacity (by simp)))

theorem moves_perform (action : Action) : Moves clients c (c.perform clients action).2 := by
  cases action with
  | request => exact moves_request
  | cancel => exact moves_cancel
  | resume => exact moves_resume
  | receive delivery => exact moves_receive delivery
  | _ => exact covers_moves.perform (by simp) (by simp) c

theorem Step.moves {allowed : Action → Prop} {c' : Coordinator σ}
    (step : Step clients allowed c c') : Moves clients c c' := by
  cases step with
  | perform action => exact moves_perform action
  | environment env => exact moves_entries env c.phase c.done [] (by simp)

theorem moves_of_steps {allowed : Action → Prop} {c' : Coordinator σ}
    (steps : ReflTransGen (Step clients allowed) c c') : Moves clients c c' := by
  induction steps with
  | refl => exact .refl
  | tail _ step ih => exact ih.trans step.moves

theorem run_of_steps {allowed : Action → Prop} {c' : Coordinator σ}
    (steps : ReflTransGen (Step clients allowed) c c') : Run clients c c' := by
  induction steps with
  | refl => exact .refl
  | tail _ step ih =>
      cases step with
      | perform action _ => exact ih.tail (.perform action trivial)
      | environment env => exact ih.tail (.environment env)

/-- What every move keeps holds at every point of every run. -/
theorem Moves.keeps {kept : Coordinator σ → Prop}
    (step : ∀ c c', Move clients c c' → kept c → kept c') {c c' : Coordinator σ}
    (moves : Moves clients c c') (start : kept c) : kept c' := by
  induction moves with
  | refl => exact start
  | tail _ move ih => exact step _ _ move ih

def performAll (clients : Clients σ) (actions : List Action) (c : Coordinator σ) : Coordinator σ :=
  actions.foldl (fun c action => (c.perform clients action).2) c

theorem run_performAll (actions : List Action) : Run clients c (c.performAll clients actions) := by
  induction actions generalizing c with
  | nil => exact .refl
  | cons action rest ih => exact .head (.perform action trivial) ih

end Coordinator

end Muster
