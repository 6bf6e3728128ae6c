import Muster.Proofs.Inventory
import Muster.Proofs.WorkerLimits

/-!
When a bring-up ends because the hosts cannot hold the workers. With an inventory that always lists
the same hosts this never happens to hosts with room for all workers, and it happens to hosts
without it before any worker is requested.
-/

namespace Muster

def Entry.unregisters : Entry → Bool
  | .call (.unregister ..) _ => true
  | _ => false

namespace Coordinator

open Relation (ReflTransGen)

variable {σ : Type} {clients : Clients σ} {c c' d : Coordinator σ} {plan : BringupPlan} {env : σ}
  {known : HostSet} {asked : List (Coordinator σ)}

structure Unrequested (c : Coordinator σ) : Prop where
  rounds : c.workers = 0 → c.roster.gate.rounds = 0
  requests : c.workers = 0 → ∀ request failure,
    .call (.addRequest request) failure ∈ c.journal → request.role = .master

theorem unrequested_init : (init plan env).Unrequested := by
  constructor
  · intro none
    rfl
  · intro none request failure member
    simp [init] at member

theorem unrequested_of_pos (some : 0 < c.workers) : c.Unrequested := by
  constructor
  · intro none
    exact absurd none (Nat.ne_of_gt some)
  · intro none
    exact absurd none (Nat.ne_of_gt some)

theorem Unrequested.write (unrequested : c.Unrequested)
    (entries : List Entry) (workers : c.workers ≤ c'.workers)
    (rounds : c'.roster.gate.rounds = c.roster.gate.rounds)
    (journal : c'.journal = entries ++ c.journal)
    (other : ∀ request failure, .call (.addRequest request) failure ∈ entries →
      request.role = .master) : c'.Unrequested := by
  constructor
  · intro none
    rw [rounds]
    exact unrequested.rounds (by omega)
  · intro none request failure member
    rw [journal] at member
    rcases List.mem_append.mp member with recent | earlier
    · exact other request failure recent
    · exact unrequested.requests (by omega) request failure earlier

theorem role_of_silent {request : ContainerRequest} {failure : Option String}
    (silent : (Entry.call (.addRequest request) failure).concernsWorkers = false) :
    request.role = .master := by
  cases role : request.role with
  | master => rfl
  | worker => simp [Entry.concernsWorkers, role] at silent

theorem Unrequested.move (unrequested : c.Unrequested) (move : Move clients c c')
    (unplanned : c'.roster.gate.rounds = c.roster.gate.rounds) : c'.Unrequested := by
  cases move with
  | quiet env phase done entries silent =>
      refine unrequested.write entries (Nat.le_refl _) rfl rfl ?_
      intro request failure member
      exact role_of_silent (silent _ member)
  | turn => exact unrequested.write [] (Nat.le_refl _) rfl rfl (by simp)
  | refuse => exact unrequested.write [] (Nat.le_refl _) rfl rfl (by simp)
  | plan env hosts round roster answer planned =>
      obtain ⟨_, _, _, _, rfl⟩ := Roster.nextRound_planned planned
      exact absurd unplanned (Nat.succ_ne_self _)
  | requestWorker env worker round hosts numbered planned =>
      apply unrequested_of_pos
      by_contra none
      exact absurd (unrequested.rounds (Nat.eq_zero_of_not_pos none)) (Nat.ne_of_gt planned)
  | launchMaster => exact unrequested.write [_, _, _] (Nat.le_refl _) rfl rfl (by simp)
  | failMaster => exact unrequested.write [_, _, _] (Nat.le_refl _) rfl rfl (by simp)
  | releaseWorker => exact unrequested.write [_, _, _] (Nat.le_refl _) rfl rfl (by simp)
  | launchWorker => exact unrequested.write [_, _, _, _] (Nat.le_succ _) rfl rfl (by simp)
  | failWorker => exact unrequested.write [_, _, _, _] (Nat.le_refl _) rfl rfl (by simp)

theorem Unrequested.moves (unrequested : c.Unrequested) (moves : Moves clients c c')
    (unplanned : c'.roster.gate.rounds = c.roster.gate.rounds) : c'.Unrequested := by
  induction moves with
  | refl => exact unrequested
  | tail earlier move ih =>
      have before := Moves.rounds_le earlier
      have after := move.rounds_le
      exact (ih (by omega)).move move (by omega)

theorem pos_of_planned {round : Round} {roster : Roster}
    (short : known.size * c.plan.limits.maxPerHost < c.plan.limits.target)
    (next : c.roster.nextRound c.plan.limits known = .ok (some (round, roster))) :
    0 < c.workers := by
  obtain ⟨total, _, chosen, fits, _⟩ := Roster.nextRound_planned next
  have fewer : round.hosts.length ≤ known.size := by
    rw [chosen]
    exact List.length_filter_le _ _
  have bounded := Nat.mul_le_mul_right c.plan.limits.maxPerHost fewer
  simp only [workers]
  omega

/-! ## What the hosts can hold -/

/-- By the hosts that are known, capacity is neither refused without need nor granted without room:
there are no requests for workers on hosts that could not hold them. -/
structure Judged (known : HostSet) (c : Coordinator σ) : Prop where
  capable : c.plan.limits.target ≤ known.size * c.plan.limits.maxPerHost →
    ¬c.control.RefusesCapacity
  unrequested : known.size * c.plan.limits.maxPerHost < c.plan.limits.target → c.Unrequested

theorem judged_of_moves (moves : Moves clients c c')
    (unplanned : c'.roster.gate.rounds = c.roster.gate.rounds)
    (unrequested : known.size * c.plan.limits.maxPerHost < c.plan.limits.target → c.Unrequested)
    (capable : c.plan.limits.target ≤ known.size * c.plan.limits.maxPerHost →
      ¬c'.control.RefusesCapacity) : Judged known c' := by
  have plan := moves.plan_eq
  constructor
  · rwa [plan]
  · rw [plan]
    exact fun short => (unrequested short).moves moves unplanned

theorem capable_awaitShutdown : ¬c.awaitShutdown.control.RefusesCapacity := by
  unfold awaitShutdown
  split
  · exact not_refusesCapacity (by simp [finish])
  · exact not_refusesCapacity (by simp)

theorem judged_settle (clients : Clients σ) (rounds : Nat)
    (unrequested : known.size * c.plan.limits.maxPerHost < c.plan.limits.target → c.Unrequested) :
    Judged known (c.settle rounds) := by
  have moves : Moves clients c (c.settle rounds) := moves_settle rounds
  have covers : CoversTurns clients _ := covers_rounds
  exact judged_of_moves moves (covers.settle rounds c) unrequested fun _ => capable_awaitShutdown

theorem judged_runRounds (left : Nat) :
    ∀ {c : Coordinator σ}, c.Accounted →
      (known.size * c.plan.limits.maxPerHost < c.plan.limits.target → c.Unrequested) →
      (∀ d ∈ inquiries clients left c, (clients.nodeHosts d.env).1 = .ok known) →
      Judged known (c.runRounds clients left) := by
  induction left with
  | zero => exact fun _ unrequested _ => judged_settle clients _ unrequested
  | succ left ih =>
      intro c accounted unrequested fixed
      have asked : Moves clients c (c.listed clients) := moves_listed
      have unplanned : (c.listed clients).roster.gate.rounds = c.roster.gate.rounds :=
        sameStage_listed.rounds
      have plan : (c.listed clients).plan = c.plan := asked.plan_eq
      refine runRounds_cases left c ?_ ?_ ?_ ?_ ?_
      · exact fun _ => judged_settle clients _ unrequested
      · intro cause _ _
        exact judged_of_moves (asked.trans (moves_finish _ (not_refusesCapacity (by simp))))
          unplanned unrequested fun _ => not_refusesCapacity (by simp [finish])
      · intro other error wanted answer refused
        refine judged_of_moves (asked.tail (.refuse c.env other error answer refused)) unplanned
          unrequested fun room => ?_
        cases answer.symm.trans (fixed c (mem_inquiries_self wanted))
        have fits := (accounted.moves asked).sound.fits (by rwa [plan])
        have short := Roster.nextRound_refused refused
        omega
      · intro _ _ _ _
        refine judged_settle clients _ ?_
        rw [plan]
        exact fun short => (unrequested short).moves asked unplanned
      · intro other round roster wanted answer next
        cases answer.symm.trans (fixed c (mem_inquiries_self wanted))
        rw [inquiries_planned wanted answer next] at fixed
        let submitted := (c.withRound clients roster).submitRound clients round (maxRounds - left)
        have moves : Moves clients (c.listed clients) submitted :=
          moves_round (maxRounds - left) answer next
        have whole : submitted.plan = c.plan := moves.plan_eq.trans plan
        have launched (short : known.size * submitted.plan.limits.maxPerHost <
            submitted.plan.limits.target) : 0 < submitted.workers := by
          rw [whole, ← plan] at short
          exact Nat.lt_of_lt_of_le (pos_of_planned short next) (workers_le_of_moves moves)
        split
        · rename_i drained
          rw [if_pos drained] at fixed
          exact ih (accounted.moves (asked.trans moves))
            (fun short => unrequested_of_pos (launched short))
            fun d member => fixed d (List.mem_cons_of_mem _ member)
        · refine ⟨fun _ => not_refusesCapacity (by simp), fun short => ?_⟩
          exact unrequested_of_pos (launched short)

theorem judged_awaitMaster (accounted : c.Accounted)
    (unrequested : known.size * c.plan.limits.maxPerHost < c.plan.limits.target → c.Unrequested)
    (fixed : ∀ d ∈ firstInquiries clients c, (clients.nodeHosts d.env).1 = .ok known) :
    Judged known (c.awaitMaster clients) := by
  unfold awaitMaster
  unfold firstInquiries at fixed
  split
  · rename_i launched
    have advanced : Moves clients c (c.advance .masterLaunched) := moves_advance _
    rw [if_pos launched] at fixed
    refine judged_runRounds maxRounds (accounted.moves advanced) ?_ fixed
    rw [advance_plan]
    exact fun short => (unrequested short).moves advanced (by rw [advance_roster])
  · have turned : Moves clients c { c with control := .awaitingMaster } :=
      .single (.turn _ (not_refusesCapacity (by simp)))
    exact judged_of_moves turned rfl unrequested fun _ => not_refusesCapacity (by simp)

theorem rounds_submitMaster :
    (c.submitMaster clients).roster.gate.rounds = c.roster.gate.rounds := by
  simp only [submitMaster, log, advance_roster]
  exact (sameStage_addRequest _).rounds

theorem Judged.resume (judged : Judged known c) (accounted : c.Accounted)
    (fixed : ∀ d ∈ inquiriesOf clients .resume c, (clients.nodeHosts d.env).1 = .ok known) :
    Judged known (c.resume clients) := by
  unfold Coordinator.resume
  unfold inquiriesOf at fixed
  cases control : c.control with
  | begun =>
      simp only [control] at fixed
      have submitted : Moves clients c (c.submitMaster clients) := moves_submitMaster
      refine judged_awaitMaster (accounted.moves submitted) ?_ fixed
      rw [submitted.plan_eq]
      exact fun short => (judged.unrequested short).moves submitted rounds_submitMaster
  | awaitingMaster =>
      simp only [control] at fixed
      exact judged_awaitMaster accounted judged.unrequested fixed
  | awaitingRound round =>
      simp only [control] at fixed ⊢
      split
      · rename_i drained
        rw [if_pos drained] at fixed
        exact judged_runRounds _ accounted judged.unrequested fixed
      · exact judged
  | awaitingShutdown =>
      have moves : Moves clients c c.awaitShutdown := moves_awaitShutdown
      have covers : CoversTurns clients _ := covers_rounds
      exact judged_of_moves moves (covers.awaitShutdown c) judged.unrequested
        fun _ => capable_awaitShutdown
  | idle => exact judged
  | finished outcome => exact judged

theorem Judged.perform {action : Action} (judged : Judged known c) (accounted : c.Accounted)
    (fixed : ∀ d ∈ inquiriesOf clients action c, (clients.nodeHosts d.env).1 = .ok known) :
    Judged known (c.perform clients action).2 := by
  by_cases resumed : action = .resume
  · subst resumed
    exact judged.resume accounted fixed
  · refine judged_of_moves (moves_perform action) (rounds_perform resumed) judged.unrequested ?_
    intro room
    have capable := judged.capable room
    cases action with
    | resume => exact absurd rfl resumed
    | request => exact not_refusesCapacity (by simp [Coordinator.perform, request])
    | cancel =>
        simp only [Coordinator.perform, cancel]
        split
        · exact capable
        · exact not_refusesCapacity (by simp)
    | receive delivery => rwa [Coordinator.perform, control_receive]
    | _ => rwa [covers_control.perform (by simp) (by simp)]

theorem judged_of_survey (run : Survey clients (fun _ => True) (init plan env) asked c)
    (fixed : ∀ d ∈ asked, (clients.nodeHosts d.env).1 = .ok known) : Judged known c := by
  induction run with
  | refl => exact ⟨fun _ => not_refusesCapacity (by simp [init]), fun _ => unrequested_init⟩
  | perform action _ earlier ih =>
      have before := ih fun d member => fixed d (List.mem_append_left _ member)
      exact before.perform (accounted_of_moves (moves_of_steps earlier.steps))
        fun d member => fixed d (List.mem_append_right _ member)
  | environment env _ ih =>
      obtain ⟨capable, unrequested⟩ := ih fixed
      exact ⟨capable, fun short => (unrequested short).write [] (Nat.le_refl _) rfl rfl (by simp)⟩

/-! ## Hosts without room for all workers -/

/-- The sequence resumed at `c` comes to its first round at `d`. -/
inductive BeginsRounds (clients : Clients σ) (c : Coordinator σ) : Coordinator σ → Prop
  | requested (begun : c.control = .begun)
      (launched : (c.submitMaster clients).master.isSome = true) :
      BeginsRounds clients c ((c.submitMaster clients).advance .masterLaunched)
  | waited (waiting : c.control = .awaitingMaster) (launched : c.master.isSome = true) :
      BeginsRounds clients c (c.advance .masterLaunched)

theorem BeginsRounds.moves (begins : BeginsRounds clients c d) :
    Moves clients c d ∧ d.roster.gate.rounds = c.roster.gate.rounds := by
  cases begins with
  | requested =>
      rw [advance_roster]
      exact ⟨moves_submitMaster.trans (moves_advance _), rounds_submitMaster⟩
  | waited =>
      rw [advance_roster]
      exact ⟨moves_advance _, rfl⟩

theorem BeginsRounds.resume_eq (begins : BeginsRounds clients c d) :
    c.resume clients = d.runRounds clients maxRounds := by
  cases begins with
  | requested begun launched => simp only [resume, begun, awaitMaster, launched, if_true]
  | waited waiting launched => simp only [resume, waiting, awaitMaster, launched, if_true]

def shortage (limits : Limits) (known : HostSet) : BringupError :=
  .capacityInsufficient limits.target known.size limits.maxPerHost

theorem runRounds_short (left : Nat) (answer : (clients.nodeHosts c.env).1 = .ok known)
    (sound : (c.listed clients).roster.Sound c.plan.limits)
    (empty : (c.listed clients).workers = 0) (positive : 0 < c.plan.limits.maxPerHost)
    (short : known.size * c.plan.limits.maxPerHost < c.plan.limits.target) :
    c.runRounds clients (left + 1) =
      (c.listed clients).finish (.error (shortage c.plan.limits known)) := by
  have asked : Moves clients c (c.listed clients) := moves_listed
  have fewer := workers_le_of_moves asked
  have wanted : c.roster.hasEnough c.plan.limits = false := by
    rw [Roster.hasEnough_eq_false]
    have same : c.roster.workers = 0 := Nat.le_zero.mp (empty ▸ fewer)
    omega
  have refused := sound.nextRound_short empty positive short
  simp only [runRounds_wanted left wanted, answer, asked.plan_eq, refused]
  rfl

theorem stop_first (status : FinalStatus) (diagnostics : String) (running : c.phase ≠ .stopped) :
    (c.stop clients status diagnostics).phase = .stopped ∧
      ∃ failure after, (c.stop clients status diagnostics).journal =
          after ++ .call (.unregister status diagnostics "") failure :: c.journal ∧
        ∀ entry ∈ after, entry.unregisters = false := by
  have open_ : c.phase.isTerminal = false := by simpa [Phase.isTerminal] using running
  have last : ∀ c' : Coordinator σ, c'.phase = c.phase → c'.advance .stopped =
      { c' with phase := .stopped, journal := .event (.phaseChanged .stopped) :: c'.journal } := by
    intro c' same
    exact advance_forward (same ▸ Phase.precedes_stopped running)
  simp only [stop, open_, ask_eq, Bool.false_eq_true, if_false]
  cases (clients.unregister status diagnostics "" c.env).1 with
  | ok =>
      rw [last]
      · refine ⟨rfl, none, [.event (.stopped status), .event (.phaseChanged .stopped),
          .call .stopInventory none, .call .stopNodeManager none,
          .call .stopResourceManager none], rfl, ?_⟩
        simp [Entry.unregisters]
      · rfl
  | error cause =>
      rw [last]
      · refine ⟨rfl, some cause, [.event (.stopped status), .event (.phaseChanged .stopped),
          .call .stopInventory none, .call .stopNodeManager none,
          .call .stopResourceManager none, .event (.unregisterFailed cause)], rfl, ?_⟩
        simp [Entry.unregisters]
      · rfl

/-- A bring-up that came to its first round at `d` was refused for lack of capacity. -/
structure RefusedAt (clients : Clients σ) (error : BringupError) (d ended : Coordinator σ) :
    Prop where
  refused : ended.control = .finished (.error error)
  roster : ended.roster = d.roster
  unrequested : ∀ request failure,
    .call (.addRequest request) failure ∈ ended.journal → request.role = .master
  unregisters : ∀ later, ReflTransGen (Step clients (· ≠ .request)) ended later →
    later.phase ≠ .stopped →
      (later.perform clients .stopAfter).2.phase = .stopped ∧
        ∃ failure after, (later.perform clients .stopAfter).2.journal =
            after ++ .call (.unregister .failed error.message "") failure :: later.journal ∧
          ∀ entry ∈ after, entry.unregisters = false

theorem refusedAt_of_short (begins : BeginsRounds clients c d)
    (run : Survey clients (fun _ => True) (init plan env) asked c)
    (fixed : ∀ d ∈ asked, (clients.nodeHosts d.env).1 = .ok known)
    (answer : (clients.nodeHosts d.env).1 = .ok known) (empty : (d.listed clients).workers = 0)
    (positive : 0 < plan.limits.maxPerHost)
    (short : known.size * plan.limits.maxPerHost < plan.limits.target) :
    RefusedAt clients (shortage plan.limits known) (d.listed clients) (c.resume clients) := by
  have reached : Moves clients (init plan env) c := moves_of_steps run.steps
  have listed : Moves clients c (d.listed clients) := begins.moves.1.trans moves_listed
  have same : d.plan = plan := begins.moves.1.plan_eq.trans reached.plan_eq
  have sound := (accounted_of_moves (reached.trans listed)).sound
  rw [listed.plan_eq, reached.plan_eq] at sound
  have ended : c.resume clients = _ := begins.resume_eq.trans
    (runRounds_short 19 answer (by rwa [same]) empty (by rwa [same]) (by rwa [same]))
  rw [same] at ended
  have judged := judged_of_survey run fixed
  have unrequested := judged.unrequested (by rwa [reached.plan_eq])
  have requests := (unrequested.moves listed
    (sameStage_listed.rounds.trans begins.moves.2)).requests empty
  rw [ended]
  refine ⟨rfl, rfl, requests, ?_⟩
  intro later steps running
  have finished := finished_of_steps steps (by simp) rfl
  simp only [perform, outcome?, finished, stopAfter]
  exact stop_first .failed _ running

/-- When the inventory lists the same hosts each time in a run, hosts with room for all workers are
never refused for lack of capacity, and hosts without it are refused when the first round is planned
and there is no worker yet. -/
theorem capacity_refused_exactly {config : Config} {localHost : Host}
    (valid : BringupPlan.ofConfig config localHost = .ok plan)
    (run : Survey clients (fun _ => True) (init plan env) asked c)
    (fixed : ∀ d ∈ asked, (clients.nodeHosts d.env).1 = .ok known) :
    (plan.limits.target ≤ known.size * plan.limits.maxPerHost → ¬c.control.RefusesCapacity) ∧
      (known.size * plan.limits.maxPerHost < plan.limits.target →
        ∀ d, BeginsRounds clients c d → (clients.nodeHosts d.env).1 = .ok known →
          (d.listed clients).workers = 0 →
            RefusedAt clients
              (.capacityInsufficient plan.limits.target known.size plan.limits.maxPerHost)
              (d.listed clients) (c.resume clients)) := by
  have planned : c.plan = plan := (moves_of_steps run.steps).plan_eq
  constructor
  · rw [← planned]
    exact (judged_of_survey run fixed).capable
  · intro short d begins answer empty
    exact refusedAt_of_short begins run fixed answer empty (maxPerHost_pos_of_config valid) short

def crampedScript : Script where
  inventory := .ofList ["h1"]
  answers := [some "am"]

def cramped : Coordinator Script :=
  performAll Script.clients [.start, .request, .resume, .request] (init crowdedPlan crampedScript)

theorem capacity_refused_exactly_cramped : ∃ d,
    BeginsRounds Script.clients cramped d ∧
      RefusedAt Script.clients (.capacityInsufficient 3 1 2) (d.listed Script.clients)
        (cramped.resume Script.clients) := by
  have valid : BringupPlan.ofConfig crowdedConfig "am" = .ok crowdedPlan := by decide +kernel
  have fresh : Survey Script.clients (fun _ => True) (init crowdedPlan crampedScript) [] _ := .refl
  have first := (fresh.perform .start trivial).perform .request trivial
  have run := (first.perform .resume trivial).perform .request trivial
  have begins : BeginsRounds Script.clients cramped
      ((cramped.submitMaster Script.clients).advance .masterLaunched) :=
    .requested rfl (by decide +kernel)
  obtain ⟨_, refused⟩ := capacity_refused_exactly valid run
    (show ∀ d ∈ (_ : List (Coordinator Script)),
      (Script.clients.nodeHosts d.env).1 = .ok (.ofList ["h1"]) by decide +kernel)
  exact ⟨_, begins, refused (by decide) _ begins (by decide +kernel) (by decide +kernel)⟩

end Coordinator

end Muster
