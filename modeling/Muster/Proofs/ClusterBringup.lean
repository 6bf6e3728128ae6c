import Muster.Proofs.Heartbeats
import Muster.Proofs.Plan

/-!
Bring-ups on a simulated cluster never stall. Between its heartbeats a bring-up waits, whatever
happens to the cluster short of a shutdown, and so the number of heartbeats tells how far it is.
-/

namespace Muster

namespace Bringup

def Step.beats : Step → Nat
  | .tick beats => beats
  | _ => 0

def Step.failsOn? : Step → Option Host
  | .intervene (.failLaunchesOn host) => some host
  | _ => none

/-- Whether a step lets launches succeed on the master's host, leaves containers alone, and neither
begins or drops a bring-up nor ends the application. -/
def Step.isCalm (master : Option Host) : Step → Bool
  | .perform .start | .perform .resume | .perform .progress => true
  | .perform _ => false
  | .intervene .requestShutdown | .intervene (.finish ..) => false
  | .intervene (.failLaunchesOn host) => some host != master
  | .intervene _ => true
  | .tick _ => true

def takeAll (steps : List Step) (c : Coordinator Cluster) : Coordinator Cluster :=
  steps.foldl (fun c step => (take step c).2) c

end Bringup

namespace Coordinator

variable {c d start : Coordinator Cluster} {config : ClusterConfig} {host : Host} {trusted : Prop}
  {round : Nat} {requested : Bool}

structure Kept (host : Host) (before after : Cluster) : Prop where
  config : after.config = before.config
  started : before.started = true → after.started = true
  paired : before.inventoryStarted = before.started → after.inventoryStarted = after.started
  pending : after.pending = before.pending
  slots : after.slots = before.slots
  shutdown : after.shutdownPending = before.shutdownPending
  surplus : after.surplus = before.surplus
  willing : before.failingHosts.contains host = false → after.failingHosts.contains host = false

theorem Kept.refl (cluster : Cluster) : Kept host cluster cluster :=
  ⟨rfl, id, id, rfl, rfl, rfl, rfl, id⟩

theorem env_start (runtime : c.env.config.hasRuntime = true) :
    ∃ reports registration, (c.start Cluster.clients).2.env = { c.env with
      started := true
      inventoryStarted := if c.env.started then c.env.inventoryStarted else true
      reports
      registration } := by
  cases started : c.env.started with
  | true =>
      refine ⟨c.env.reports, c.env.registration, ?_⟩
      simp only [start, startService, ask_eq, Cluster.clients, Cluster.attempt, Cluster.start,
        started, if_true, Except.mapError]
      rw [← started]
  | false =>
      let reports := c.env.config.hosts.map fun host => (⟨host, true⟩ : NodeReport)
      cases refuses : c.env.refusesRegistration with
      | true =>
          refine ⟨reports, c.env.registration, ?_⟩
          simp only [start, startService, ask_eq, Cluster.clients, Cluster.attempt, Cluster.start,
            Cluster.startInventory, Cluster.register, started, runtime, refuses, Except.mapError,
            Bool.false_eq_true, if_false, if_true, Bool.not_true, reports]
      | false =>
          refine ⟨reports, some c.registration, ?_⟩
          simp only [start, startService, ask_eq, Cluster.clients, Cluster.attempt, Cluster.start,
            Cluster.startInventory, Cluster.register, started, runtime, refuses, Except.mapError,
            Bool.false_eq_true, if_false, Bool.not_true, advance_env, log, registration, reports]

theorem exists_aside_of_calm {step : Bringup.Step} (calm : step.isCalm (some host) = true)
    (untimed : ∀ beats, step ≠ .tick beats) (runtime : c.env.config.hasRuntime = true)
    (waits : c.resume Cluster.clients = c) :
    ∃ d : Coordinator Cluster, (Bringup.take step c).2 = d.resume Cluster.clients ∧ Aside c d ∧
      d.control = c.control ∧ Kept host c.env d.env ∧
      (step.failsOn? = none → d.env.failingHosts = c.env.failingHosts) ∧
      (step = .perform .start → d.env.started = true) := by
  cases step with
  | perform action =>
      cases action with
      | start =>
          obtain ⟨reports, registration, env⟩ := env_start runtime
          refine ⟨(c.start Cluster.clients).2, ?_, aside_start, covers_control.start _, ?_, ?_, ?_⟩
          · rw [← perform_start]
            rfl
          · rw [env]
            refine ⟨rfl, fun _ => rfl, ?_, rfl, rfl, rfl, rfl, id⟩
            intro paired
            cases started : c.env.started with
            | true => simpa [started] using paired
            | false => simp
          · intro _
            rw [env]
          · intro _
            rw [env]
      | resume =>
          refine ⟨c, ?_, .refl c, rfl, Kept.refl c.env, fun _ => rfl, fun other => nomatch other⟩
          exact congrArg (resume Cluster.clients) waits
      | progress =>
          exact ⟨c, rfl, .refl c, rfl, Kept.refl c.env, fun _ => rfl, fun other => nomatch other⟩
      | _ => simp [Bringup.Step.isCalm] at calm
  | intervene intervention =>
      refine ⟨{ c with env := (c.env.intervene intervention).2 }, rfl, aside_write _ [] (by simp),
        rfl, ?_, ?_, fun other => nomatch other⟩
      · cases intervention with
        | failLaunchesOn other =>
            have different : other ≠ host := by simpa [Bringup.Step.isCalm] using calm
            refine ⟨rfl, id, id, rfl, rfl, rfl, rfl, ?_⟩
            intro willing
            simp only [Cluster.intervene, Cluster.failLaunchesOn, List.contains_cons, willing,
              Bool.or_false, beq_eq_false_iff_ne]
            exact different.symm
        | requestShutdown => simp [Bringup.Step.isCalm] at calm
        | finish id status => simp [Bringup.Step.isCalm] at calm
        | _ => exact ⟨rfl, id, id, rfl, rfl, rfl, rfl, id⟩
      · intro willing
        cases intervention with
        | failLaunchesOn other => simp [Bringup.Step.failsOn?] at willing
        | requestShutdown => rfl
        | finish id status => simp [Bringup.Step.isCalm] at calm
        | _ => rfl
  | tick beats => exact absurd rfl (untimed beats)

theorem Steady.kept {before after : Cluster} (steady : Steady config host before)
    (kept : Kept host before after) : Steady config host after := by
  obtain ⟨same, started, inventory, shutdown, willing, unasked⟩ := steady
  have running := kept.started started
  refine ⟨kept.config.trans same, running, ?_, kept.shutdown.trans shutdown, kept.willing willing,
    ?_⟩
  · exact (kept.paired (inventory.trans started.symm)).trans running
  · rw [kept.surplus]
    exact unasked

theorem Kept.slotsUsed {before after : Cluster} (kept : Kept host before after) :
    after.slotsUsed = before.slotsUsed := by
  funext other
  rw [Cluster.slotsUsed, kept.slots]
  rfl

theorem Opening.aside (opening : Opening start config host trusted requested c) (aside : Aside c d)
    (control : d.control = c.control) (kept : Kept host c.env d.env)
    (failing : trusted → d.env.failingHosts = c.env.failingHosts) :
    Opening start config host trusted requested d := by
  obtain ⟨waits, pending, early, absent, roster, configured, empty, paired, shutdown, willing,
    unasked, trusting⟩ := opening
  refine ⟨control.trans waits, ?_, early.aside aside, aside.master.trans absent,
    aside.apart.roster.trans roster, kept.config.trans configured, kept.slots.trans empty,
    kept.paired paired, kept.shutdown.trans shutdown, kept.willing willing, ?_, ?_⟩
  · rw [kept.pending, aside.plan]
    exact pending
  · rw [kept.surplus]
    exact unasked
  · intro trust
    exact (failing trust).trans (trusting trust)

theorem Posted.aside (posted : Posted start config host trusted round c) (aside : Aside c d)
    (control : d.control = c.control) (kept : Kept host c.env d.env)
    (failing : trusted → d.env.failingHosts = c.env.failingHosts) :
    Posted start config host trusted round d := by
  obtain ⟨waits, within, early, launched, steady, slots, sound, covered, wanted, undrained,
    hosts, distinct, known, pending, free, reached⟩ := posted
  have roster := aside.apart.roster
  have used := Kept.slotsUsed kept
  refine ⟨control.trans waits, within, early.aside aside, ?_, Steady.kept steady kept, ?_, ?_, ?_,
    ?_, ?_, hosts, distinct, known, ?_, ?_, ?_⟩
  · rw [aside.master]
    exact launched
  · rw [used, roster]
    exact slots
  · rw [roster, aside.plan]
    exact sound
  · rw [roster]
    exact covered
  · rw [workers, roster, aside.plan]
    exact wanted
  · rw [roster]
    exact undrained
  · rw [roster, aside.plan, kept.pending]
    exact pending
  · rw [roster, Cluster.freeSlots, used, kept.config]
    exact free
  · intro trust
    rw [failing trust, roster, aside.plan]
    exact reached trust

theorem Launched.aside (launched : Launched start config host trusted c) (aside : Aside c d)
    (control : d.control = c.control) (kept : Kept host c.env d.env) :
    Launched start config host trusted d := by
  obtain ⟨waits, plan, closed, phase, opened, steady, idle, bounded, exact_⟩ := launched
  have same : d.workers = c.workers := congrArg Roster.workers aside.apart.roster
  refine ⟨control.trans waits, aside.plan.trans plan, ?_, aside.running phase,
    aside.master.trans opened, Steady.kept steady kept, kept.pending.trans idle, ?_, ?_⟩
  · rw [aside.done]
    exact closed
  · rw [same, aside.plan]
    exact bounded
  · rw [same, aside.plan]
    exact exact_

/-! ## Stages -/

/-- How far a bring-up has come after some heartbeats. -/
inductive Stage (start : Coordinator Cluster) (config : ClusterConfig) (host : Host)
    (trusted : Prop) (beats : Nat) (c : Coordinator Cluster) : Prop
  | opening (unheard : beats = 0) (started : c.env.started = true)
      (opening : Opening start config host trusted true c)
  | posted (posted : Posted start config host trusted beats c)
  | launched (launched : Launched start config host trusted c)

variable {beats : Nat}

theorem Opening.resume_eq (opening : Opening start config host trusted requested c) :
    c.resume Cluster.clients = c := by
  refine resume_of_resting ?_ opening.early.closed
  cases requested with
  | true => simp [Resting, opening.control, opening.absent]
  | false => simp [Resting, opening.control]

theorem Posted.resume_eq (posted : Posted start config host trusted round c) :
    c.resume Cluster.clients = c := by
  have undrained : c.roster.gate.outstanding ≠ 0 := Nat.ne_of_gt posted.undrained
  refine resume_of_resting ?_ posted.early.closed
  simp [Resting, posted.control, RoundGate.isDrained, undrained]

theorem Launched.resume_eq (launched : Launched start config host trusted c) :
    c.resume Cluster.clients = c := by
  refine resume_of_resting ?_ launched.closed
  simp [Resting, launched.control]

theorem Stage.heartbeat (stage : Stage start config host trusted beats c)
    (fits : Fits start config host) :
    Stage start config host trusted (beats + 1) (Bringup.heartbeat c) := by
  cases stage with
  | opening unheard started opening =>
      subst unheard
      exact (opening.heartbeat started fits).elim .posted .launched
  | posted posted => exact (posted.heartbeat fits).elim .posted .launched
  | launched launched => exact .launched (launched.heartbeat fits)

theorem Stage.tick (fits : Fits start config host) (more : Nat) :
    ∀ {beats : Nat} {c : Coordinator Cluster}, Stage start config host trusted beats c →
      Stage start config host trusted (beats + more) (Bringup.tick more c) := by
  induction more with
  | zero => exact fun stage => stage
  | succ more ih =>
      intro beats c stage
      have next := ih (stage.heartbeat fits)
      rwa [Nat.add_right_comm] at next

theorem Opening.take {step : Bringup.Step}
    (opening : Opening start config host trusted requested c) (fits : Fits start config host)
    (calm : step.isCalm (some host) = true) (untimed : step.beats = 0)
    (trusting : trusted → step.failsOn? = none) :
    Opening start config host trusted requested (Bringup.take step c).2 ∧
      (c.env.started = true ∨ step = .perform .start →
        (Bringup.take step c).2.env.started = true) := by
  by_cases timed : ∃ more, step = .tick more
  · obtain ⟨more, rfl⟩ := timed
    have none : more = 0 := untimed
    subst none
    refine ⟨opening, ?_⟩
    rintro (started | other)
    · exact started
    · cases other
  · have runtime : c.env.config.hasRuntime = true := by
      rw [opening.config]
      exact fits.runtime
    obtain ⟨d, taken, aside, control, kept, failing, started⟩ :=
      exists_aside_of_calm calm (fun more same => timed ⟨more, same⟩) runtime opening.resume_eq
    have still := opening.aside aside control kept fun trust => failing (trusting trust)
    rw [taken, still.resume_eq]
    refine ⟨still, ?_⟩
    rintro (before | now)
    · exact kept.started before
    · exact started now

theorem Stage.take {step : Bringup.Step} (stage : Stage start config host trusted beats c)
    (fits : Fits start config host) (calm : step.isCalm (some host) = true)
    (trusting : trusted → step.failsOn? = none) :
    Stage start config host trusted (beats + step.beats) (Bringup.take step c).2 := by
  by_cases timed : ∃ more, step = .tick more
  · obtain ⟨more, rfl⟩ := timed
    exact stage.tick fits more
  · have untimed : ∀ more, step ≠ .tick more := fun more same => timed ⟨more, same⟩
    have unheard : step.beats = 0 := by
      cases step with
      | tick more => exact absurd rfl (untimed more)
      | _ => rfl
    rw [unheard, Nat.add_zero]
    cases stage with
    | opening early started opening =>
        obtain ⟨still, kept⟩ := opening.take fits calm unheard trusting
        exact .opening early (kept (.inl started)) still
    | posted posted =>
        obtain ⟨d, taken, aside, control, kept, failing, _⟩ := exists_aside_of_calm calm untimed
          (by rw [posted.steady.config]; exact fits.runtime) posted.resume_eq
        have still := posted.aside aside control kept fun trust => failing (trusting trust)
        rw [taken, still.resume_eq]
        exact .posted still
    | launched launched =>
        obtain ⟨d, taken, aside, control, kept, _, _⟩ := exists_aside_of_calm calm untimed
          (by rw [launched.steady.config]; exact fits.runtime) launched.resume_eq
        have still := launched.aside aside control kept
        rw [taken, still.resume_eq]
        exact .launched still

/-! ## Whole bring-ups -/

theorem Opening.takeAll (fits : Fits start config host) (steps : List Bringup.Step) :
    ∀ {c : Coordinator Cluster}, Opening start config host trusted requested c →
      (∀ step ∈ steps, step.isCalm (some host) = true) → (∀ step ∈ steps, step.beats = 0) →
      (trusted → ∀ step ∈ steps, step.failsOn? = none) →
      Opening start config host trusted requested (Bringup.takeAll steps c) ∧
        (c.env.started = true ∨ .perform .start ∈ steps →
          (Bringup.takeAll steps c).env.started = true) := by
  induction steps with
  | nil =>
      intro c opening _ _ _
      refine ⟨opening, ?_⟩
      rintro (started | member)
      · exact started
      · cases member
  | cons step rest ih =>
      intro c opening calm untimed trusting
      obtain ⟨still, started⟩ := opening.take fits (calm _ List.mem_cons_self)
        (untimed _ List.mem_cons_self) fun trust => trusting trust _ List.mem_cons_self
      obtain ⟨last, running⟩ := ih still
        (fun other member => calm other (List.mem_cons_of_mem _ member))
        (fun other member => untimed other (List.mem_cons_of_mem _ member))
        (fun trust other member => trusting trust other (List.mem_cons_of_mem _ member))
      refine ⟨last, ?_⟩
      rintro (before | member)
      · exact running (.inl (started (.inl before)))
      · rcases List.mem_cons.mp member with now | later
        · exact running (.inl (started (.inr now.symm)))
        · exact running (.inr later)

theorem Stage.takeAll (fits : Fits start config host) (steps : List Bringup.Step) :
    ∀ {beats : Nat} {c : Coordinator Cluster}, Stage start config host trusted beats c →
      (∀ step ∈ steps, step.isCalm (some host) = true) →
      (trusted → ∀ step ∈ steps, step.failsOn? = none) →
      Stage start config host trusted (beats + (steps.map Bringup.Step.beats).sum)
        (Bringup.takeAll steps c) := by
  induction steps with
  | nil => exact fun stage _ _ => stage
  | cons step rest ih =>
      intro beats c stage calm trusting
      have next := stage.take fits (calm _ List.mem_cons_self) fun trust =>
        trusting trust _ List.mem_cons_self
      have last := ih next (fun other member => calm other (List.mem_cons_of_mem _ member))
        fun trust other member => trusting trust other (List.mem_cons_of_mem _ member)
      rwa [List.map_cons, List.sum_cons, ← Nat.add_assoc]

theorem Opening.request (opening : Opening start config host trusted false c) :
    Opening start config host trusted true (Bringup.take (.perform .request) c).2 ∧
      (Bringup.take (.perform .request) c).2.env.started = c.env.started := by
  obtain ⟨_, pending, early, absent, roster, configured, empty, paired, shutdown, willing,
    unasked, trusting⟩ := opening
  let d := c.request.submitMaster Cluster.clients
  have begun : Early start c.request := ⟨early.plan, early.closed, early.phase, early.climbed⟩
  have submitted : Early start d := begun.submitMaster
  have env : d.env = c.env.addRequest c.plan.requests.forMaster := advance_env _ _
  have still : d.master = none := (advance_master _ _).trans absent
  have same : d.roster = {} := (advance_roster _ _).trans roster
  have planned : d.plan = c.plan := submitted.plan.trans early.plan.symm
  have taken : (Bringup.take (.perform .request) c).2 = { d with control := .awaitingMaster } := by
    change d.awaitMaster Cluster.clients = _
    simp only [awaitMaster, still, Option.isSome_none, Bool.false_eq_true, if_false]
  rw [taken]
  refine ⟨⟨rfl, ?_, ⟨submitted.plan, submitted.closed, submitted.phase, submitted.climbed⟩, still,
    same, ?_, ?_, ?_, ?_, ?_, ?_, ?_⟩, ?_⟩ <;> simp only [env, planned]
  · simpa [Cluster.addRequest] using pending
  · exact configured
  · exact empty
  · exact paired
  · exact shutdown
  · exact willing
  · exact unasked
  · exact trusting
  · rfl

/-- The host of the container that the first heartbeat grants to the master. -/
def mastersHost (plan : BringupPlan) (config : ClusterConfig) : Option Host :=
  (Cluster.init config).chooseHost plan.requests.forMaster.placement

theorem exists_mastersHost {config : Config} {localHost : Host} {plan : BringupPlan}
    {cluster : ClusterConfig} (valid : BringupPlan.ofConfig config localHost = .ok plan)
    (placeable : config.master.host = bootstrapHost ∨ config.master.host ∈ cluster.hosts)
    (inhabited : cluster.hosts ≠ []) (slots : 0 < cluster.slotsPerHost) :
    ∃ host, mastersHost plan cluster = some host := by
  unfold mastersHost
  rw [forMaster_of_config valid]
  have free : ∀ other, (Cluster.init cluster).isFree other = true := by
    intro other
    exact decide_eq_true slots
  rcases placeable with bootstrap | listed
  · obtain ⟨first, member⟩ := List.exists_mem_of_ne_nil _ inhabited
    refine Cluster.exists_chooseHost_of_accepts member (free first) ?_
    simp [PlacementConstraint.accepts, Config.relaxesMaster, bootstrap]
  · refine Cluster.exists_chooseHost_of_accepts listed (free _) ?_
    simp [PlacementConstraint.accepts]

theorem opening_init {plan : BringupPlan} (asked : config.surplusMaster = 0)
    (others : config.surplusWorkers = 0) :
    Opening (Bringup.init plan config) config host trusted false (Bringup.init plan config) := by
  refine ⟨rfl, rfl, ⟨rfl, rfl, rfl, [], rfl, by simp⟩, rfl, rfl, rfl, rfl, rfl, rfl, rfl, ?_,
    fun _ => rfl⟩
  intro role
  cases role with
  | master => exact asked
  | worker => exact others

/-- A bring-up on a simulated cluster never stalls. That there is a host for the master is only
assumed where no workers are wanted, since room for workers tells nothing then. -/
theorem bringup_running {config : Config} {localHost : Host} {plan : BringupPlan}
    {cluster : ClusterConfig} {before after later : List Bringup.Step}
    (valid : BringupPlan.ofConfig config localHost = .ok plan)
    (delivers : cluster.heartbeatMs ≠ 0) (runtime : cluster.hasRuntime = true)
    (noMasters : cluster.surplusMaster = 0) (noWorkers : cluster.surplusWorkers = 0)
    (above : plan.limits.maxPerHost < cluster.slotsPerHost)
    (room : plan.limits.target ≤
      (HostSet.ofList cluster.hosts).size * plan.limits.maxPerHost)
    (placeable : config.master.host = bootstrapHost ∨ config.master.host ∈ cluster.hosts)
    (hosted : plan.limits.target = 0 → mastersHost plan cluster ≠ none)
    (started : .perform .start ∈ before ++ after)
    (unheard : ∀ step ∈ before ++ after, step.beats = 0)
    (calm : ∀ step ∈ before ++ after ++ later, step.isCalm (mastersHost plan cluster) = true)
    (enough : 1 + maxRounds * plan.limits.target ≤ (later.map Bringup.Step.beats).sum)
    (final : c = Bringup.takeAll (before ++ .perform .request :: after ++ later)
      (Bringup.init plan cluster)) :
    c.phase = .running ∧ c.master = (mastersHost plan cluster).map Cluster.netAddress ∧
      c.workers ≤ plan.limits.target ∧
      ((∀ step ∈ before ++ after ++ later, step.failsOn? = none) →
        plan.limits.target ≤ maxRounds * plan.limits.maxPerHost →
          c.workers = plan.limits.target) := by
  obtain ⟨host, granted⟩ : ∃ host, mastersHost plan cluster = some host := by
    by_cases unwanted : plan.limits.target = 0
    · exact Option.ne_none_iff_exists'.mp (hosted unwanted)
    · refine exists_mastersHost valid placeable ?_ (Nat.lt_of_le_of_lt (Nat.zero_le _) above)
      rintro none
      have size : (HostSet.ofList []).size = 0 := rfl
      rw [none, size, Nat.zero_mul] at room
      exact unwanted (Nat.le_zero.mp room)
  rw [granted] at calm ⊢
  let start := Bringup.init plan cluster
  let trusted := ∀ step ∈ before ++ after ++ later, step.failsOn? = none
  have fits : Fits start cluster host := ⟨granted, delivers, runtime, room, above⟩
  have opening : Opening start cluster host trusted false start := opening_init noMasters noWorkers
  simp only [List.forall_mem_append] at calm unheard
  obtain ⟨first, earlier⟩ := opening.takeAll fits before calm.1.1 unheard.1
    fun trust step member => trust step (by simp [member])
  obtain ⟨requested, same⟩ := first.request
  obtain ⟨last, now⟩ := requested.takeAll fits after calm.1.2 unheard.2
    fun trust step member => trust step (by simp [member])
  have running : (Bringup.takeAll after
      (Bringup.take (.perform .request) (Bringup.takeAll before start)).2).env.started = true := by
    rcases List.mem_append.mp started with soon | late
    · exact now (.inl (same.trans (earlier (.inr soon))))
    · exact now (.inr late)
  have stage := (Stage.opening rfl running last).takeAll fits later calm.2
    fun trust step member => trust step (by simp [member])
  have whole : c = Bringup.takeAll later (Bringup.takeAll after
      (Bringup.take (.perform .request) (Bringup.takeAll before start)).2) := by
    rw [final]
    simp only [Bringup.takeAll, List.foldl_append, List.foldl_cons, start]
  rw [← whole, Nat.zero_add] at stage
  -- A round is only posted up to the last round's heartbeat, which is earlier.
  cases stage with
  | opening unheard => omega
  | posted posted =>
      have within := posted.within
      have wanted := posted.wanted
      rw [posted.early.plan] at wanted
      have positive : 0 < plan.limits.target := Nat.lt_of_le_of_lt (Nat.zero_le _) wanted
      have most := Nat.mul_le_mul_left maxRounds positive
      omega
  | launched launched =>
      have planned : c.plan = plan := launched.plan
      have bounded := launched.bounded
      have exact_ := launched.exact
      rw [planned] at bounded exact_
      exact ⟨launched.phase, launched.launched, bounded, exact_⟩

def packed : ClusterConfig where
  hosts := ["h2", "h1"]
  policy := .firstFit

def patient (beats : Nat) : Coordinator Cluster :=
  Bringup.takeAll [.perform .start, .perform .request, .intervene (.slotsUsed "h2"), .tick beats]
    (Bringup.init crowdedPlan packed)

theorem bringup_running_packed :
    (patient 2).workerHosts = [("h2", 2)] ∧ (patient 2).phase = .workersRequesting 2 ∧
      (patient 61).phase = .running ∧ (patient 61).workers = 3 := by
  have valid : BringupPlan.ofConfig crowdedConfig "am" = .ok crowdedPlan := by decide +kernel
  have final : patient 61 = Bringup.takeAll
      ([.perform .start] ++ .perform .request :: [.intervene (.slotsUsed "h2")] ++ [.tick 61])
      (Bringup.init crowdedPlan packed) := rfl
  obtain ⟨running, _, _, satisfied⟩ := bringup_running valid (by decide) rfl rfl rfl (by decide)
    (by decide +kernel) (.inl rfl) (by simp [crowdedPlan]) (by decide) (by decide) (by decide +kernel)
    (by decide) final
  exact ⟨by decide +kernel, by decide +kernel, running, satisfied (by decide) (by decide)⟩

end Coordinator

end Muster
