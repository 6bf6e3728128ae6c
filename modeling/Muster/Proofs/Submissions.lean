import Muster.Proofs.Inventory
import Muster.Proofs.WorkerLimits

/-!
What a bring-up submits: one request for the master, and then rounds of equal requests for workers.
Each round asks for the workers that are missing when it is planned, on the known hosts with room
left then, and it is planned when all requests of the round before it are submitted and answered.
-/

namespace Muster

def Entry.request? : Entry → Option ContainerRequest
  | .call (.addRequest request) _ => some request
  | _ => none

namespace Coordinator

variable {σ : Type} {clients : Clients σ} {c c' c'' start : Coordinator σ}

def submitted (c : Coordinator σ) : List ContainerRequest :=
  (c.journal.filterMap Entry.request?).reverse

/-- Some requests were submitted between two states, and nothing else was. -/
structure Submits (requests : List ContainerRequest) (c c' : Coordinator σ) : Prop where
  plan : c'.plan = c.plan
  submitted : c'.submitted = c.submitted ++ requests
  workers : c.workers ≤ c'.workers

theorem Submits.trans {requests others : List ContainerRequest} (first : Submits requests c c')
    (second : Submits others c' c'') : Submits (requests ++ others) c c'' := by
  refine ⟨second.plan.trans first.plan, ?_, Nat.le_trans first.workers second.workers⟩
  rw [second.submitted, first.submitted, List.append_assoc]

theorem Submits.then_nothing {requests : List ContainerRequest} (first : Submits requests c c')
    (second : Submits [] c' c'') : Submits requests c c'' := by
  have both := first.trans second
  rwa [List.append_nil] at both

theorem submits_nothing (plan : c'.plan = c.plan) (submitted : c'.submitted = c.submitted)
    (workers : c.workers ≤ c'.workers) : Submits [] c c' :=
  ⟨plan, submitted.trans (List.append_nil _).symm, workers⟩

theorem covers_nothing (clients : Clients σ) : CoversTurns clients (Submits []) where
  refl _ := submits_nothing rfl rfl (Nat.le_refl _)
  trans first second := first.then_nothing second
  set _ _ _ := submits_nothing rfl rfl (Nat.le_refl _)
  log _ _ _ := submits_nothing rfl rfl (Nat.le_refl _)
  ask _ _ _ asks := by cases asks <;> exact submits_nothing rfl rfl (Nat.le_refl _)
  tell _ _ _ tells := by cases tells <;> exact submits_nothing rfl rfl (Nat.le_refl _)
  turn _ _ := submits_nothing rfl rfl (Nat.le_refl _)

theorem nothing_log (event : Event) : Submits [] c (c.log event) :=
  submits_nothing rfl rfl (Nat.le_refl _)

theorem nothing_advance (next : Phase) : Submits [] c (c.advance next) := by
  unfold advance
  split <;> exact submits_nothing rfl rfl (Nat.le_refl _)

theorem nothing_launchMasterIn (container : Container) :
    Submits [] c (c.launchMasterIn clients container) := by
  cases outcome : (clients.startContainer container c.plan.launch.forMaster c.env).1 with
  | ok =>
      rw [launchMasterIn_launched container outcome]
      exact submits_nothing rfl rfl (Nat.le_refl _)
  | error cause =>
      rw [launchMasterIn_failed container outcome]
      exact submits_nothing rfl rfl (Nat.le_refl _)

theorem nothing_placeWorker (context : LaunchContext) (container : Container) :
    Submits [] c (c.placeWorker clients context container) := by
  cases decision : c.roster.hasEnough c.plan.limits ||
      c.roster.isHostFull c.plan.limits container.host with
  | true =>
      rw [placeWorker_refused _ _ decision]
      exact submits_nothing rfl rfl (Nat.le_refl _)
  | false =>
      cases outcome : (clients.startContainer container context c.env).1 with
      | ok =>
          rw [placeWorker_launched _ _ decision outcome]
          exact submits_nothing rfl rfl (Nat.le_succ _)
      | error cause =>
          rw [placeWorker_failed _ _ decision outcome]
          exact submits_nothing rfl rfl (Nat.le_refl _)

theorem nothing_onAllocated (containers : List Container) :
    Submits [] c (c.onAllocated clients containers) := by
  unfold onAllocated
  split
  · rename_i closed
    exact (covers_nothing clients).placeMaster (fun _ _ => submits_nothing rfl rfl (Nat.le_refl _))
      (fun _ container _ => nothing_launchMasterIn container) containers closed
  · exact (covers_nothing clients).foldl _
      (fun _ container => nothing_placeWorker _ container) containers c

theorem nothing_batches (batches : List (List Container)) :
    Submits [] c (batches.foldl (fun c containers => c.onAllocated clients containers) c) :=
  (covers_nothing clients).foldl _ (fun _ containers => nothing_onAllocated containers) batches c

theorem nothing_listed : Submits [] c (c.listed clients) := by
  have asked : Submits [] c (c.inquiring clients) :=
    submits_nothing rfl rfl (Nat.le_refl _)
  exact asked.then_nothing (nothing_batches _)

theorem nothing_receive (delivery : Delivery) : Submits [] c (c.receive clients delivery) := by
  cases delivery with
  | allocated containers => exact nothing_onAllocated containers
  | _ => exact (covers_nothing clients).receive (by simp) c

theorem submits_addRequest (clients : Clients σ) (request : ContainerRequest) :
    Submits [request] c (c.addRequest clients request) := by
  have made : Submits [request] c (c.requesting clients request) :=
    ⟨rfl, List.reverse_cons, Nat.le_refl _⟩
  exact made.then_nothing (nothing_batches _)

theorem submits_submitMaster (clients : Clients σ) :
    Submits [c.plan.requests.forMaster] c (c.submitMaster clients) := by
  have announced : Submits [] c _ :=
    nothing_log (.requestingMaster c.plan.requests.forMaster c.plan.requests.masterHost)
  have requested := announced.trans (submits_addRequest clients c.plan.requests.forMaster)
  exact (requested.then_nothing (nothing_advance .masterRequested)).then_nothing
    (nothing_log .waitingForMaster)

theorem submits_submitWorkers (clients : Clients σ) (request : ContainerRequest) (round : Nat)
    (count : Nat) : ∀ (worker : Nat) (c : Coordinator σ), Submits (List.replicate count request) c
      (c.submitWorkers clients request round worker count) := by
  induction count with
  | zero => exact fun _ c => (covers_nothing clients).refl c
  | succ count ih =>
      intro worker c
      have announced : Submits [] c _ := nothing_log (.requestingWorker worker round request)
      exact (announced.trans (submits_addRequest clients request)).trans (ih (worker + 1) _)

/-- When a round is planned: the state that asks for the hosts, the state that the round is planned
from, with what came in between, and the hosts that are known. -/
structure Planning (σ : Type) where
  asked : Coordinator σ
  before : Coordinator σ
  known : HostSet

namespace Planning

def needed (planning : Planning σ) : Nat :=
  planning.before.plan.limits.target - planning.before.workers

def hosts (planning : Planning σ) : List Host :=
  planning.known.toList.filter fun host =>
    planning.before.roster.placement.count host < planning.before.plan.limits.maxPerHost

def requests (planning : Planning σ) : List ContainerRequest :=
  List.replicate planning.needed (planning.before.plan.requests.forWorker planning.hosts)

theorem hosts_sorted (planning : Planning σ) : planning.hosts.Pairwise (· < ·) :=
  planning.known.sorted.filter _

end Planning

theorem planning_of_nextRound {planning : Planning σ} {round : Round} {roster : Roster}
    (next : planning.before.roster.nextRound planning.before.plan.limits planning.known =
      .ok (some (round, roster))) :
    round = ⟨planning.needed, planning.hosts⟩ ∧ 0 < planning.needed ∧ planning.hosts ≠ [] := by
  obtain ⟨total, positive, chosen, fits, _⟩ := Roster.nextRound_planned next
  have needed : round.needed = planning.needed := by
    simp only [Planning.needed, Coordinator.workers]
    omega
  have hosts : round.hosts = planning.hosts := by
    rw [chosen, Placement.candidates, Planning.hosts]
    congr 1
    funext host
    simp [Placement.isFull, ← decide_not]
  refine ⟨by rw [← needed, ← hosts], needed ▸ positive, ?_⟩
  intro none
  rw [hosts, none, List.length_nil, Nat.zero_mul] at fits
  omega

theorem submits_submitRound (clients : Clients σ) (planned : Round) (number : Nat) :
    Submits (List.replicate planned.needed (c.plan.requests.forWorker planned.hosts)) c
      (c.submitRound clients planned number) := by
  have requested := submits_submitWorkers clients
    (c.plan.requests.forWorker planned.hosts) number planned.needed
    (c.plan.limits.target - planned.needed) c
  exact (requested.then_nothing (nothing_advance (.workersRequesting number))).then_nothing
    (nothing_log (.waitingForWorkers planned.needed number))

theorem submits_round (clients : Clients σ) {known : HostSet} {round : Round} {roster : Roster}
    (number : Nat)
    (next : (c.listed clients).roster.nextRound (c.listed clients).plan.limits known =
      .ok (some (round, roster))) :
    Submits (Planning.requests ⟨c, c.listed clients, known⟩) c
      ((c.withRound clients roster).submitRound clients round number) := by
  let planning : Planning σ := ⟨c, c.listed clients, known⟩
  have planned : Submits [] (c.listed clients) (c.withRound clients roster) := by
    obtain ⟨_, _, _, _, rfl⟩ := Roster.nextRound_planned next
    exact submits_nothing rfl rfl (Nat.le_refl _)
  have requested : Submits _ (c.withRound clients roster) _ :=
    submits_submitRound clients ⟨planning.needed, planning.hosts⟩ number
  have same : round = ⟨planning.needed, planning.hosts⟩ := (planning_of_nextRound next).1
  rw [same]
  exact (nothing_listed.then_nothing planned).trans requested

/-! ## Rounds -/

def planning? (clients : Clients σ) (c : Coordinator σ) : Option (Planning σ) :=
  match (clients.nodeHosts c.env).1 with
  | .error _ => none
  | .ok known => (c.plannedRound clients).map fun _ => ⟨c, c.listed clients, known⟩

def plannings (clients : Clients σ) (asked : List (Coordinator σ)) : List (Planning σ) :=
  asked.filterMap (planning? clients)

theorem planning?_planned {known : HostSet} {round : Round} {roster : Roster}
    (answer : (clients.nodeHosts c.env).1 = .ok known)
    (next : (c.listed clients).roster.nextRound (c.listed clients).plan.limits known =
      .ok (some (round, roster))) :
    c.planning? clients = some ⟨c, c.listed clients, known⟩ := by
  have planned := (plannedRound_eq_some_iff answer).mpr next
  simp only [planning?, answer, planned, Option.map_some]

theorem plannings_unplanned {left : Nat} (wanted : c.roster.hasEnough c.plan.limits = false)
    (none : c.plannedRound clients = none) :
    plannings clients (inquiries clients (left + 1) c) = [] := by
  rw [inquiries_unplanned wanted none, plannings, List.filterMap_eq_nil_iff]
  intro asked member
  rw [List.mem_singleton.mp member, planning?, none]
  split
  · rfl
  · rfl

/-- What holds of a round of a bring-up with the rounds before it. -/
structure Planned (clients : Clients σ) (start : Coordinator σ) (earlier : List (Planning σ))
    (planning : Planning σ) : Prop where
  plan : planning.before.plan = start.plan
  listed : planning.asked.listHosts clients = (.ok planning.known, planning.before)
  needed : 0 < planning.needed
  hosts : planning.hosts ≠ []
  sorted : planning.hosts.Pairwise (· < ·)
  submitted : planning.before.submitted =
    start.submitted ++ start.plan.requests.forMaster :: earlier.flatMap Planning.requests
  drained : earlier ≠ [] → planning.asked.roster.gate.outstanding = 0

/-- What was submitted since the request for the master, in some rounds. -/
structure Requested (clients : Clients σ) (start : Coordinator σ) (rounds : List (Planning σ))
    (c : Coordinator σ) : Prop where
  plan : c.plan = start.plan
  submitted : c.submitted =
    start.submitted ++ start.plan.requests.forMaster :: rounds.flatMap Planning.requests
  planned : ∀ earlier planning later, rounds = earlier ++ planning :: later →
    Planned clients start earlier planning
  falling : rounds.Pairwise fun earlier later => later.needed ≤ earlier.needed
  missing : ∀ planning ∈ rounds, start.plan.limits.target ≤ c.workers + planning.needed

variable {rounds : List (Planning σ)}

theorem Requested.then_nothing (requested : Requested clients start rounds c)
    (nothing : Submits [] c c') : Requested clients start rounds c' := by
  refine ⟨nothing.plan.trans requested.plan, ?_, requested.planned, requested.falling, ?_⟩
  · rw [nothing.submitted, List.append_nil, requested.submitted]
  · intro planning member
    exact Nat.le_trans (requested.missing planning member) (Nat.add_le_add_right nothing.workers _)

theorem eq_or_of_append_singleton {α : Type} {xs earlier later : List α} {x last : α}
    (split : xs ++ [last] = earlier ++ x :: later) :
    xs = earlier ∧ last = x ∨ ∃ others, xs = earlier ++ x :: others := by
  rcases List.eq_nil_or_concat later with rfl | ⟨others, final, rfl⟩
  · obtain ⟨before, same⟩ := List.append_inj' split rfl
    cases same
    exact .inl ⟨before, rfl⟩
  · rw [List.concat_eq_append, ← List.cons_append, ← List.append_assoc] at split
    exact .inr ⟨others, (List.append_inj' split rfl).1⟩

theorem Requested.round (requested : Requested clients start rounds c)
    (drained : rounds ≠ [] → c.roster.gate.outstanding = 0) {known : HostSet} {round : Round}
    {roster : Roster} (number : Nat) (answer : (clients.nodeHosts c.env).1 = .ok known)
    (next : (c.listed clients).roster.nextRound (c.listed clients).plan.limits known =
      .ok (some (round, roster))) :
    Requested clients start (rounds ++ [⟨c, c.listed clients, known⟩])
      ((c.withRound clients roster).submitRound clients round number) := by
  let planning : Planning σ := ⟨c, c.listed clients, known⟩
  obtain ⟨_, needed, hosts⟩ : round = ⟨planning.needed, planning.hosts⟩ ∧ 0 < planning.needed ∧
      planning.hosts ≠ [] := planning_of_nextRound next
  have made := submits_round clients number next
  have listed : Requested clients start rounds (c.listed clients) :=
    requested.then_nothing nothing_listed
  have total : start.plan.limits.target ≤ (c.listed clients).workers + planning.needed := by
    simp only [Planning.needed, planning, listed.plan]
    omega
  have grown : (c.listed clients).workers ≤
      ((c.withRound clients roster).submitRound clients round number).workers :=
    workers_le_of_moves (moves_round number answer next)
  refine ⟨made.plan.trans requested.plan, ?_, ?_, ?_, ?_⟩
  · rw [made.submitted, requested.submitted]
    simp
  · intro earlier planning later split
    rcases eq_or_of_append_singleton split with ⟨rfl, rfl⟩ | ⟨others, before⟩
    · exact ⟨listed.plan, Prod.ext answer rfl, needed, hosts, Planning.hosts_sorted _,
        listed.submitted, drained⟩
    · exact requested.planned earlier planning others before
  · rw [List.pairwise_append]
    refine ⟨requested.falling, List.pairwise_singleton _ _, ?_⟩
    intro earlier member last only
    cases List.mem_singleton.mp only
    have short := listed.missing earlier member
    simp only [Planning.needed, listed.plan] at short ⊢
    omega
  · intro other member
    rcases List.mem_append.mp member with old | new
    · have short := listed.missing other old
      omega
    · cases List.mem_singleton.mp new
      exact Nat.le_trans total (Nat.add_le_add_right grown _)

end Coordinator

def Control.IsAfter (rounds : Nat) : Control → Prop
  | .begun => False
  | .awaitingMaster => rounds = 0
  | .awaitingRound round => rounds = round
  | _ => True

namespace Coordinator

open Relation (ReflTransGen)

variable {σ : Type} {clients : Clients σ} {c c' start : Coordinator σ} {rounds : List (Planning σ)}

theorem isAfter_awaitShutdown (count : Nat) : c.awaitShutdown.control.IsAfter count := by
  unfold awaitShutdown
  split
  · trivial
  · trivial

inductive BringupStage (clients : Clients σ) (start : Coordinator σ) (rounds : List (Planning σ))
    (c : Coordinator σ) : Prop
  | fresh (none : rounds = []) (nothing : Submits [] start c)
      (still : c.control = .begun ∨ c.control = .idle)
  | running (requested : Requested clients start rounds c) (bound : rounds.length ≤ maxRounds)
      (after : c.control.IsAfter rounds.length)

theorem Requested.settle (requested : Requested clients start rounds c) (number : Nat) :
    Requested clients start rounds (c.settle number) :=
  requested.then_nothing ((covers_nothing clients).settle number c)

theorem Requested.finish (requested : Requested clients start rounds c)
    (outcome : Except BringupError Unit) :
    Requested clients start rounds ((c.listed clients).finish outcome) :=
  (requested.then_nothing nothing_listed).then_nothing (submits_nothing rfl rfl (Nat.le_refl _))

theorem Requested.runRounds (left : Nat) :
    ∀ {c : Coordinator σ} {rounds : List (Planning σ)}, Requested clients start rounds c →
      (rounds ≠ [] → c.roster.gate.outstanding = 0) → rounds.length + left = maxRounds →
        BringupStage clients start (rounds ++ plannings clients (inquiries clients left c))
          (c.runRounds clients left) := by
  induction left with
  | zero =>
      intro c rounds requested _ bound
      rw [inquiries, plannings, List.filterMap_nil, List.append_nil]
      exact .running (requested.settle _) (Nat.le_of_eq bound) (isAfter_awaitShutdown _)
  | succ left ih =>
      intro c rounds requested drained bound
      refine runRounds_cases left c ?_ ?_ ?_ ?_ ?_
      · intro enough
        simp only [inquiries, enough, if_true, plannings, List.filterMap_nil, List.append_nil]
        exact .running (requested.settle _) (by omega) (isAfter_awaitShutdown _)
      · intro cause wanted answer
        rw [plannings_unplanned wanted (by simp [plannedRound, answer]), List.append_nil]
        exact .running (requested.finish _) (by omega) trivial
      · intro known error wanted answer next
        rw [plannings_unplanned wanted (by simp [plannedRound, answer, next]), List.append_nil]
        exact .running (requested.finish _) (by omega) trivial
      · intro known wanted answer next
        rw [plannings_unplanned wanted (by simp [plannedRound, answer, next]), List.append_nil]
        exact .running ((requested.then_nothing nothing_listed).settle _) (by omega)
          (isAfter_awaitShutdown _)
      · intro known round roster wanted answer next
        have more := requested.round drained (maxRounds - left) answer next
        have longer : (rounds ++ [(⟨c, c.listed clients, known⟩ : Planning σ)]).length + left =
            maxRounds := by
          rw [List.length_append, List.length_singleton]
          omega
        rw [inquiries_planned wanted answer next, plannings,
          List.filterMap_cons_some (planning?_planned answer next)]
        split
        · rename_i empty
          have rest := ih more (fun _ => beq_iff_eq.mp empty) longer
          rwa [List.append_assoc] at rest
        · rw [List.filterMap_nil]
          refine .running (more.then_nothing (submits_nothing rfl rfl (Nat.le_refl _))) ?_ ?_
          · omega
          · simp only [Control.IsAfter]
            omega

/-! ## One bring-up -/

theorem BringupStage.then_nothing (stage : BringupStage clients start rounds c)
    (nothing : Submits [] c c') (control : c'.control = c.control) :
    BringupStage clients start rounds c' := by
  cases stage with
  | fresh none before still => exact .fresh none (before.then_nothing nothing) (control ▸ still)
  | running requested bound after =>
      exact .running (requested.then_nothing nothing) bound (control ▸ after)

theorem BringupStage.cancel (stage : BringupStage clients start rounds c) :
    BringupStage clients start rounds c.cancel := by
  unfold Coordinator.cancel
  split
  · exact stage
  · cases stage with
    | fresh none before still =>
        exact .fresh none (before.then_nothing (submits_nothing rfl rfl (Nat.le_refl _))) (.inr rfl)
    | running requested bound _ =>
        exact .running (requested.then_nothing (submits_nothing rfl rfl (Nat.le_refl _))) bound
          trivial

theorem Requested.awaitMaster (requested : Requested clients start [] c) :
    BringupStage clients start (plannings clients (firstInquiries clients c))
      (c.awaitMaster clients) := by
  unfold Coordinator.awaitMaster firstInquiries
  split
  · have advanced := requested.then_nothing (nothing_advance .masterLaunched)
    exact advanced.runRounds maxRounds (absurd rfl) rfl
  · exact .running (requested.then_nothing (submits_nothing rfl rfl (Nat.le_refl _)))
      (Nat.zero_le _) rfl

theorem requested_master (nothing : Submits [] start c) :
    Requested clients start [] (c.submitMaster clients) := by
  have made := nothing.trans (submits_submitMaster clients)
  rw [nothing.plan] at made
  refine ⟨made.plan, made.submitted, ?_, .nil, ?_⟩
  · intro earlier planning later split
    simp at split
  · intro planning member
    cases member

theorem BringupStage.resume (stage : BringupStage clients start rounds c) :
    BringupStage clients start (rounds ++ plannings clients (inquiriesOf clients .resume c))
      (c.resume clients) := by
  cases stage with
  | fresh none nothing still =>
      subst none
      rcases still with begun | idle
      · simp only [inquiriesOf, Coordinator.resume, begun]
        exact (requested_master nothing).awaitMaster
      · simp only [inquiriesOf, Coordinator.resume, idle]
        exact .fresh rfl nothing (.inr idle)
  | running requested bound after =>
      simp only [inquiriesOf, Coordinator.resume]
      cases control : c.control with
      | begun => simp [control, Control.IsAfter] at after
      | awaitingMaster =>
          have none : rounds = [] := by simpa [control, Control.IsAfter] using after
          subst none
          exact requested.awaitMaster
      | awaitingRound round =>
          have count : rounds.length = round := by simpa [control, Control.IsAfter] using after
          subst count
          simp only
          split
          · rename_i drained
            exact requested.runRounds (maxRounds - rounds.length)
              (fun _ => beq_iff_eq.mp drained) (by omega)
          · rw [plannings, List.filterMap_nil, List.append_nil]
            exact .running requested bound (by rw [control]; rfl)
      | awaitingShutdown =>
          rw [plannings, List.filterMap_nil, List.append_nil]
          exact .running (requested.then_nothing
            ((covers_nothing clients).awaitShutdown c)) bound (isAfter_awaitShutdown _)
      | idle =>
          rw [plannings, List.filterMap_nil, List.append_nil]
          exact .running requested bound (by rw [control]; trivial)
      | finished outcome =>
          rw [plannings, List.filterMap_nil, List.append_nil]
          exact .running requested bound (by rw [control]; trivial)

theorem Survey.stage {asked : List (Coordinator σ)}
    (survey : Survey clients (· ≠ .request) start.request asked c) :
    BringupStage clients start (plannings clients asked) c := by
  induction survey with
  | refl => exact .fresh rfl (submits_nothing rfl rfl (Nat.le_refl _)) (.inl rfl)
  | environment env _ ih => exact ih.then_nothing (submits_nothing rfl rfl (Nat.le_refl _)) rfl
  | perform action same _ ih =>
      rw [plannings, List.filterMap_append]
      cases action with
      | request => exact absurd rfl same
      | resume => exact ih.resume
      | cancel =>
          simp only [inquiriesOf, List.filterMap_nil, List.append_nil]
          exact ih.cancel
      | receive delivery =>
          simp only [inquiriesOf, List.filterMap_nil, List.append_nil]
          exact ih.then_nothing (nothing_receive delivery) (control_receive delivery)
      | _ =>
          simp only [inquiriesOf, List.filterMap_nil, List.append_nil]
          exact ih.then_nothing
            ((covers_nothing clients).toCoversCalls.perform (by simp) (by simp) _)
            (covers_control.perform (by simp) (by simp) _)

/-- What a bring-up submits under a configuration. -/
structure InRounds (config : Config) (clients : Clients σ) (start : Coordinator σ)
    (rounds : List (Planning σ)) (c : Coordinator σ) : Prop where
  submitted : c.submitted =
      start.submitted ++ start.plan.requests.forMaster :: rounds.flatMap Planning.requests ∨
    rounds = [] ∧ c.submitted = start.submitted ∧ (c.control = .begun ∨ c.control = .idle)
  master : start.plan.requests.forMaster.placement =
    ⟨[config.master.host], config.master.host == "localhost"⟩
  workers : ∀ planning ∈ rounds, ∃ request,
    planning.requests =
        List.replicate (config.worker.count.toNat - planning.before.workers) request ∧
      request.placement = ⟨planning.hosts, false⟩ ∧
      planning.hosts = planning.known.toList.filter (fun host =>
        planning.before.roster.placement.count host < config.worker.maxPerHost.toNat) ∧
      request.priority ≠ start.plan.requests.forMaster.priority
  planned : ∀ earlier planning later, rounds = earlier ++ planning :: later →
    Planned clients start earlier planning
  falling : rounds.Pairwise fun earlier later => later.needed ≤ earlier.needed
  few : rounds.length ≤ 20
  total : c.submitted.length ≤ start.submitted.length + (1 + 20 * config.worker.count.toNat)

theorem Planned.of_mem {planning : Planning σ}
    (planned : ∀ earlier planning later, rounds = earlier ++ planning :: later →
      Planned clients start earlier planning) (member : planning ∈ rounds) :
    ∃ earlier, Planned clients start earlier planning := by
  obtain ⟨earlier, later, split⟩ := List.append_of_mem member
  exact ⟨earlier, planned earlier planning later split⟩

theorem length_flatMap_requests_le {target : Nat}
    (bounded : ∀ planning ∈ rounds, planning.needed ≤ target) :
    (rounds.flatMap Planning.requests).length ≤ rounds.length * target := by
  rw [List.length_flatMap]
  have each : ∀ count ∈ rounds.map (fun planning => planning.requests.length), count ≤ target := by
    intro count member
    obtain ⟨planning, inside, rfl⟩ := List.mem_map.mp member
    rw [Planning.requests, List.length_replicate]
    exact bounded planning inside
  simpa using List.sum_le_card_nsmul _ target each

/-- Whatever happens around a bring-up, it requests the master once and then workers in rounds, each
for those that are missing, when the requests of the round before are all submitted and answered. -/
theorem bringup_submits {config : Config} {localHost : Host} {plan : BringupPlan} {env : σ}
    (valid : BringupPlan.ofConfig config localHost = .ok plan)
    (run : Run clients (init plan env) start) :
    (∀ c, ReflTransGen (Step clients (· ≠ .request)) start.request c →
        ∃ asked, Survey clients (· ≠ .request) start.request asked c) ∧
      ∀ asked c, Survey clients (· ≠ .request) start.request asked c →
        InRounds config clients start (plannings clients asked) c := by
  refine ⟨fun c steps => exists_survey steps, fun asked c survey => ?_⟩
  have stage := survey.stage
  generalize plannings clients asked = rounds at stage ⊢
  have same : start.plan = plan := (moves_of_steps run).plan_eq
  have limits := limits_of_config valid
  have master : start.plan.requests.forMaster.placement =
      ⟨[config.master.host], config.master.host == "localhost"⟩ := by
    rw [same]
    exact forMaster_of_config valid
  cases stage with
  | fresh none nothing still =>
      subst none
      have submitted : c.submitted = start.submitted := by
        rw [nothing.submitted, List.append_nil]
      refine ⟨.inr ⟨rfl, submitted, still⟩, master, by simp, ?_, .nil, Nat.zero_le _, ?_⟩
      · intro earlier planning later split
        simp at split
      · rw [submitted]
        exact Nat.le_add_right _ _
  | running requested bound _ =>
      have plans {planning : Planning σ} (member : planning ∈ rounds) :
          planning.before.plan = plan := by
        obtain ⟨_, planned⟩ := Planned.of_mem requested.planned member
        exact planned.plan.trans same
      have bounded : ∀ planning ∈ rounds, planning.needed ≤ config.worker.count.toNat := by
        intro planning member
        rw [Planning.needed, plans member, limits]
        exact Nat.sub_le _ _
      refine ⟨.inl requested.submitted, master, ?_, requested.planned, requested.falling, bound, ?_⟩
      · intro planning member
        refine ⟨planning.before.plan.requests.forWorker planning.hosts, ?_, rfl, ?_, ?_⟩
        · rw [Planning.requests, Planning.needed, plans member, limits]
        · rw [Planning.hosts, plans member, limits]
        · exact (by decide : Role.worker.priority ≠ Role.master.priority)
      · have workers := length_flatMap_requests_le bounded
        have most := Nat.mul_le_mul_right config.worker.count.toNat bound
        rw [requested.submitted, List.length_append, List.length_cons]
        simp only [maxRounds] at most
        omega

def promptScript : Script where
  inventory := .ofList ["h1", "h2"]
  answers := [none, some "h1", some "h1", some "h1"]

def prompt : Coordinator Script :=
  performAll Script.clients [.start] (init crowdedPlan promptScript)

def promptlyManned : Coordinator Script :=
  performAll Script.clients [.request, .resume, .receive (.allocated [Script.container 0 "am"])]
    prompt

theorem bringup_submits_prompt : ∃ asked,
    Survey Script.clients (· ≠ .request) prompt.request asked
        (promptlyManned.resume Script.clients) ∧
      (plannings Script.clients asked).map (fun planning => (planning.needed, planning.hosts)) =
        [(3, ["h1", "h2"]), (1, ["h2"])] ∧
      InRounds crowdedConfig Script.clients prompt (plannings Script.clients asked)
        (promptlyManned.resume Script.clients) := by
  have valid : BringupPlan.ofConfig crowdedConfig "am" = .ok crowdedPlan := by decide +kernel
  have run : Run Script.clients (init crowdedPlan promptScript) prompt := run_performAll [.start]
  have begun : Survey Script.clients (· ≠ .request) prompt.request [] prompt.request := .refl
  have requested := begun.perform .resume (by decide)
  have manned := requested.perform (.receive (.allocated [Script.container 0 "am"])) (by decide)
  have resumed := manned.perform .resume (by decide)
  exact ⟨_, resumed, by decide +kernel, (bringup_submits valid run).2 _ _ resumed⟩

def lateClients : Clients Script :=
  { Script.clients with
    nodeHosts := fun script =>
      (.ok script.inventory, [[Script.container 1 "h1", Script.container 2 "h1"],
        [Script.container 3 "h2"]], script) }

example :
    let manned := performAll lateClients [.start, .request, .resume] (init crowdedPlan promptScript)
    let late := performAll lateClients [.receive (.allocated [Script.container 0 "am"]), .resume]
      manned
    late.phase = .running ∧ late.workers = 3 ∧ late.submitted = manned.submitted := by
  decide +kernel

end Coordinator

end Muster
