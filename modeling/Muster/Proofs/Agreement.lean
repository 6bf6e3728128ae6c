import Muster.Proofs.ClusterBringup
import Muster.Proofs.MasterFirst
import Muster.Proofs.Slots

/-!
The accounts of a coordinator and of the simulated cluster that it runs on. Each keeps its own: the
workers recorded and the master launched on a host here, the slots in use on it there. Between
heartbeats they agree, whatever is granted unasked, refused, handed back or ended.
-/

namespace Muster

def Entry.masterHost? (template : LaunchTemplate) : Entry → Option Host
  | .call (.startContainer container context) none =>
    if context = template.forMaster then some container.host else none
  | _ => none

/-- The containers that an intervention ends from outside. -/
def Cluster.endedBy (intervention : Cluster.Intervention) (cluster : Cluster) : List Container :=
  match intervention with
  | .finish id status =>
    match cluster.finish id status, cluster.live.get? id.name with
    | .ok _, some occupant => [occupant.container]
    | _, _ => []
  | _ => []

namespace Bringup

def beat (c : Coordinator Cluster) : Coordinator Cluster :=
  c.env.heartbeat.1.foldl (fun c delivery => c.receive Cluster.clients delivery)
    { c with env := c.env.heartbeat.2 }

theorem heartbeat_eq_resume (c : Coordinator Cluster) :
    heartbeat c = (beat c).resume Cluster.clients :=
  rfl

def endedAlong : List Step → Coordinator Cluster → List Container
  | [], _ => []
  | .intervene intervention :: rest, c =>
    c.env.endedBy intervention ++ endedAlong rest (take (.intervene intervention) c).2
  | step :: rest, c => endedAlong rest (take step c).2

def Step.isOwn : Step → Bool
  | .perform (.receive (.allocated _)) => false
  | _ => true

end Bringup

namespace Coordinator

open Cluster (SameBooks Freed Started)

variable {c d : Coordinator Cluster} {container : Container} {ended rest : List Container}

def masterHost? {σ : Type} (c : Coordinator σ) : Option Host :=
  c.journal.findSome? (Entry.masterHost? c.plan.launch)

/-- A coordinator to which nothing but its cluster brings containers, and the containers that were
ended from outside. -/
inductive Driven (plan : BringupPlan) (config : ClusterConfig) :
    List Container → Coordinator Cluster → Prop
  | init : Driven plan config [] (Bringup.init plan config)
  | perform {ended : List Container} {c : Coordinator Cluster} (action : Action)
      (own : ∀ containers, action ≠ .receive (.allocated containers))
      (driven : Driven plan config ended c) :
      Driven plan config ended (c.perform Cluster.clients action).2
  | intervene {ended : List Container} {c : Coordinator Cluster}
      (intervention : Cluster.Intervention) (driven : Driven plan config ended c) :
      Driven plan config (ended ++ c.env.endedBy intervention)
        { c with env := (c.env.intervene intervention).2 }
  | beat {ended : List Container} {c : Coordinator Cluster} (driven : Driven plan config ended c) :
      Driven plan config ended (Bringup.beat c)

structure SameMaster (c d : Coordinator Cluster) : Prop where
  address : d.master = c.master
  host : d.masterHost? = c.masterHost?

theorem sameMaster_of_append (entries : List Entry) (plan : d.plan = c.plan)
    (address : d.master = c.master) (journal : d.journal = entries ++ c.journal)
    (others : ∀ entry ∈ entries, entry.masterHost? c.plan.launch = none) : SameMaster c d := by
  have nothing : entries.findSome? (Entry.masterHost? c.plan.launch) = none :=
    List.findSome?_eq_none_iff.mpr others
  refine ⟨address, ?_⟩
  rw [masterHost?, plan, journal, List.findSome?_append, nothing, Option.none_or]
  rfl

/-- The accounts agree but for some containers that are still to be handled. -/
structure Agree (ended rest : List Container) (c : Coordinator Cluster) : Prop where
  settled : c.env.Settled ended rest
  absent : c.master = none → c.masterHost? = none
  balanced : ∀ host, c.env.slotsUsed host + ended.countP (·.host == host) =
    c.roster.placement.count host + (if c.masterHost? = some host then 1 else 0) +
      rest.countP (·.host == host)

theorem agree_init (plan : BringupPlan) (config : ClusterConfig) :
    Agree [] [] (Bringup.init plan config) :=
  ⟨Cluster.settled_init config, fun _ => rfl, fun _ => rfl⟩

theorem Agree.same (agree : Agree ended rest c) (books : SameBooks c.env d.env)
    (master : SameMaster c d) (placement : d.roster.placement = c.roster.placement) :
    Agree ended rest d := by
  obtain ⟨settled, absent, balanced⟩ := agree
  refine ⟨settled.same books, ?_, ?_⟩
  · rw [master.address, master.host]
    exact absent
  · rw [master.host, placement]
    intro host
    have slots : d.env.slotsUsed host = c.env.slotsUsed host := by
      simp only [Cluster.slotsUsed, books.slots]
    rw [slots]
    exact balanced host

theorem Agree.freed (agree : Agree ended (container :: rest) c)
    (freed : Freed c.env d.env container) (master : SameMaster c d)
    (placement : d.roster.placement = c.roster.placement) : Agree ended rest d := by
  obtain ⟨settled, absent, balanced⟩ := agree
  refine ⟨settled.freed freed, ?_, ?_⟩
  · rw [master.address, master.host]
    exact absent
  · rw [master.host, placement]
    intro host
    have before := balanced host
    have slots := freed.slots host
    simp only [List.countP_cons, beq_iff_eq] at before
    omega

theorem Agree.started (agree : Agree ended (container :: rest) c)
    (started : Started c.env d.env container)
    (absent : d.master = none → d.masterHost? = none)
    (recorded : ∀ host, d.roster.placement.count host +
        (if d.masterHost? = some host then 1 else 0) =
      c.roster.placement.count host + (if c.masterHost? = some host then 1 else 0) +
        if container.host = host then 1 else 0) : Agree ended rest d := by
  obtain ⟨settled, _, balanced⟩ := agree
  refine ⟨settled.started started, absent, ?_⟩
  intro host
  have before := balanced host
  have slots := started.slots host
  have more := recorded host
  simp only [List.countP_cons, beq_iff_eq] at before
  omega

theorem Agree.write (agree : Agree ended rest c) {env : Cluster} (books : SameBooks c.env env)
    (entries : List Entry) (others : ∀ entry ∈ entries, entry.masterHost? c.plan.launch = none)
    (phase : Phase) (done : Latch) (control : Control) :
    Agree ended rest { c with env, phase, done, control, journal := entries ++ c.journal } :=
  agree.same books (sameMaster_of_append entries rfl rfl rfl others) rfl

theorem Agree.entry (agree : Agree ended rest c) {env : Cluster} (books : SameBooks c.env env)
    (entry : Entry) (other : entry.masterHost? c.plan.launch = none) :
    Agree ended rest { c with env, journal := entry :: c.journal } :=
  agree.write books [entry] (by simpa using other) c.phase c.done c.control

theorem sameBooks_asks {call : Call} {act : Cluster → Except String Unit × Cluster}
    (asks : Asks Cluster.clients call act) (cluster : Cluster) :
    SameBooks cluster (act cluster).2 := by
  cases asks with
  | startNodeManager => exact ⟨rfl, rfl, rfl, rfl⟩
  | startInventory => exact ⟨rfl, rfl, rfl, rfl⟩
  | startResourceManager =>
      simp only [Cluster.clients]
      rcases cluster.start_cases with ⟨error, outcome⟩ | ⟨_, outcome⟩ <;>
        rw [outcome] <;> exact ⟨rfl, rfl, rfl, rfl⟩
  | register registration =>
      simp only [Cluster.clients]
      rcases cluster.register_cases registration with ⟨error, outcome⟩ | outcome <;>
        rw [outcome] <;> exact ⟨rfl, rfl, rfl, rfl⟩
  | unregister status diagnostics trackingUrl =>
      simp only [Cluster.clients]
      rcases cluster.unregister_cases status diagnostics with ⟨error, outcome⟩ | outcome <;>
        rw [outcome] <;> exact ⟨rfl, rfl, rfl, rfl⟩

theorem sameBooks_tells {call : Call} {act : Cluster → Cluster}
    (tells : Tells Cluster.clients call act) (cluster : Cluster) :
    SameBooks cluster (act cluster) := by
  cases tells <;> exact ⟨rfl, rfl, rfl, rfl⟩

theorem Agree.log (agree : Agree ended rest c) (event : Event) : Agree ended rest (c.log event) :=
  agree.entry ⟨rfl, rfl, rfl, rfl⟩ _ rfl

theorem covers_agree : CoversSequence Cluster.clients (Keeps (Agree ended rest)) where
  refl _ := id
  trans first second agree := second (first agree)
  set c phase done agree :=
    agree.write ⟨rfl, rfl, rfl, rfl⟩ [] (by simp) phase done c.control
  log _ event _ agree := agree.log event
  ask c _ _ asks agree := agree.entry (sameBooks_asks asks c.env) _ (by cases asks <;> rfl)
  tell c _ _ tells agree := agree.entry (sameBooks_tells tells c.env) _ (by cases tells <;> rfl)
  turn c control agree :=
    agree.write ⟨rfl, rfl, rfl, rfl⟩ [] (by simp) c.phase c.done control
  list _ agree := agree.entry ⟨rfl, rfl, rfl, rfl⟩ _ rfl
  plan _ _ _ _ planned agree := by
    obtain ⟨_, _, _, _, rfl⟩ := Roster.nextRound_planned planned
    exact agree.same ⟨rfl, rfl, rfl, rfl⟩ (sameMaster_of_append [] rfl rfl rfl (by simp)) rfl
  announce _ _ _ _ agree := agree.log _
  request c request agree := by
    have books : SameBooks c.env (c.env.addRequest request) := ⟨rfl, rfl, rfl, rfl⟩
    exact agree.entry books (.call (.addRequest request) none) rfl

theorem Agree.release (agree : Agree ended (container :: rest) c) :
    Agree ended rest (c.release Cluster.clients container.id) := by
  have live := agree.settled.waiting container List.mem_cons_self
  have master : SameMaster c (c.release Cluster.clients container.id) :=
    sameMaster_of_append [_] rfl rfl rfl (by simp [Entry.masterHost?])
  exact agree.freed (agree.settled.booked.freed live (Cluster.ends_release live)) master rfl

theorem Agree.startContainer (agree : Agree ended (container :: rest) c)
    (context : LaunchContext) :
    (∃ cause, (Cluster.clients.startContainer container context c.env).1 = .error cause ∧
        Freed c.env (Cluster.clients.startContainer container context c.env).2 container) ∨
      (Cluster.clients.startContainer container context c.env).1 = .ok () ∧
        Started c.env (Cluster.clients.startContainer container context c.env).2 container := by
  have live := agree.settled.waiting container List.mem_cons_self
  rcases agree.settled.booked.startContainer context live with
    ⟨error, refused, freed⟩ | ⟨launched, started⟩
  · refine .inl ⟨error.message, ?_, freed⟩
    simp only [Cluster.clients, refused, Except.mapError]
  · refine .inr ⟨?_, started⟩
    simp only [Cluster.clients, launched, Except.mapError]

theorem Agree.launchMasterIn (agree : Agree ended (container :: rest) c)
    (closed : c.master = none) :
    Agree ended rest (c.launchMasterIn Cluster.clients container) := by
  rcases agree.startContainer c.plan.launch.forMaster with
    ⟨cause, refused, freed⟩ | ⟨launched, started⟩
  · rw [launchMasterIn_failed container refused]
    exact agree.freed freed
      (sameMaster_of_append [_, _, _] rfl rfl rfl (by simp [Entry.masterHost?])) rfl
  · rw [launchMasterIn_launched container launched]
    apply agree.started started
    · intro absent
      cases absent
    · intro host
      have before : c.masterHost? = none := agree.absent closed
      rw [before]
      simp [masterHost?, List.findSome?_cons, Entry.masterHost?]

theorem Agree.launchLast (others : List Container) : ∀ {c : Coordinator Cluster},
    Agree ended (others ++ [container]) c → c.master = none →
      Agree ended [] (Coordinator.launchMasterIn Cluster.clients container
        (others.foldl (fun c other => c.release Cluster.clients other.id) c)) := by
  induction others with
  | nil => exact fun agree closed => agree.launchMasterIn closed
  | cons other others ih => exact fun agree closed => ih agree.release closed

theorem Agree.perm {others : List Container} (agree : Agree ended rest c)
    (perm : rest.Perm others) : Agree ended others c := by
  obtain ⟨settled, absent, balanced⟩ := agree
  refine ⟨settled.perm perm, absent, ?_⟩
  intro host
  rw [← perm.countP_eq]
  exact balanced host

theorem Agree.placeMaster {containers : List Container} (agree : Agree ended containers c)
    (closed : c.master = none) : Agree ended [] (c.placeMaster Cluster.clients containers) := by
  match containers with
  | [] => exact agree.log .noMasterContainer
  | [container] => exact agree.launchMasterIn closed
  | container :: second :: others =>
      -- The container for the master comes first, and is handled after all others.
      have noted := agree.log (.surplusMasters (container :: second :: others).length)
      exact (noted.perm (List.perm_append_singleton _ _).symm).launchLast (second :: others) closed

theorem Agree.placeWorker (agree : Agree ended (container :: rest) c) (address : String) :
    Agree ended rest
      (c.placeWorker Cluster.clients (c.plan.launch.forWorker address) container) := by
  let context := c.plan.launch.forWorker address
  have others : context ≠ c.plan.launch.forMaster :=
    c.plan.launch.forWorker_ne_forMaster address
  cases decision : c.roster.hasEnough c.plan.limits ||
      c.roster.isHostFull c.plan.limits container.host with
  | true =>
      have live := agree.settled.waiting container List.mem_cons_self
      rw [placeWorker_refused _ _ decision]
      exact agree.freed (agree.settled.booked.freed live (Cluster.ends_release live))
        (sameMaster_of_append [_, _, _] rfl rfl rfl (by simp [Entry.masterHost?])) rfl
  | false =>
      rcases agree.startContainer context with ⟨cause, refused, freed⟩ | ⟨launched, started⟩
      · rw [placeWorker_failed _ _ decision refused]
        exact agree.freed freed
          (sameMaster_of_append [_, _, _, _] rfl rfl rfl (by simp [Entry.masterHost?])) rfl
      · have master : SameMaster c (c.placeWorker Cluster.clients context container) := by
          rw [placeWorker_launched _ _ decision launched]
          exact sameMaster_of_append [_, _, _, _] rfl rfl rfl (by simp [Entry.masterHost?, others])
        have roster : (c.placeWorker Cluster.clients context container).roster =
            (c.roster.record container.host).answer := by
          rw [placeWorker_launched _ _ decision launched]
        refine agree.started ?_ ?_ ?_
        · rw [placeWorker_launched _ _ decision launched]
          exact started
        · rw [master.address, master.host]
          exact agree.absent
        · intro host
          rw [master.host, roster, Roster.placement_answer, Roster.record, Placement.count_add]
          split <;> omega

theorem Agree.placeWorkers (address : String) (containers : List Container) :
    ∀ {c : Coordinator Cluster}, Agree ended containers c →
      Agree ended [] (containers.foldl (fun d container =>
        d.placeWorker Cluster.clients (c.plan.launch.forWorker address) container) c) := by
  induction containers with
  | nil => exact id
  | cons container rest ih =>
      intro c agree
      have plan : (c.placeWorker Cluster.clients (c.plan.launch.forWorker address) container).plan =
          c.plan := (sameStage_placeWorker _ container).plan
      have placed := ih (agree.placeWorker address)
      rw [plan] at placed
      exact placed

theorem Agree.onAllocated {containers : List Container} (agree : Agree ended containers c) :
    Agree ended [] (c.onAllocated Cluster.clients containers) := by
  cases master : c.master with
  | none =>
      simp only [Coordinator.onAllocated, master]
      exact agree.placeMaster master
  | some address =>
      simp only [Coordinator.onAllocated, master]
      exact agree.placeWorkers address containers

/-! ## What drives a coordinator -/

theorem Agree.receive (agree : Agree ended rest c) {delivery : Delivery}
    (other : ∀ containers, delivery ≠ .allocated containers) :
    Agree ended rest (c.receive Cluster.clients delivery) :=
  covers_agree.toCoversCalls.receive other c agree

theorem Agree.deliver {α : Type} (agree : Agree ended rest c) (delivery : List α → Delivery)
    (other : ∀ items containers, delivery items ≠ .allocated containers) (items : List α) :
    Agree ended rest ((Cluster.deliver delivery items).foldl
      (fun c delivery => c.receive Cluster.clients delivery) c) := by
  cases items with
  | nil => exact agree
  | cons item items => exact agree.receive (other _)

theorem Agree.deliverContainers {containers : List Container} (agree : Agree ended containers c) :
    Agree ended [] ((Cluster.deliver .allocated containers).foldl
      (fun c delivery => c.receive Cluster.clients delivery) c) := by
  cases containers with
  | nil => exact agree
  | cons container rest => exact agree.onAllocated

theorem Agree.beat (agree : Agree ended [] c) : Agree ended [] (Bringup.beat c) := by
  cases running : c.env.isRunning with
  | false =>
      simp only [Bringup.beat, Cluster.heartbeat, running, Bool.false_eq_true, if_false,
        List.foldl_nil]
      exact agree
  | true =>
      obtain ⟨settled, absent, balanced⟩ := agree
      let containers := (Cluster.grantAll c.env.pending c.env).1
      let after := (Cluster.grantAll c.env.pending c.env).2.2
      have allotted : Cluster.Allotted c.env after containers := Cluster.allotted_grantAll _ _
      let env : Cluster := { after with
        pending := (Cluster.grantAll c.env.pending c.env).2.1
        reports := []
        completed := []
        shutdownPending := false }
      have granted : Agree ended containers { c with env } := by
        refine ⟨(settled.allotted allotted).same ⟨rfl, rfl, rfl, rfl⟩, absent, ?_⟩
        intro host
        have before := balanced host
        have slots : env.slotsUsed host = c.env.slotsUsed host + containers.countP (·.host == host) :=
          allotted.granted.slots host
        rw [List.countP_nil, Nat.add_zero] at before
        change env.slotsUsed host + _ = c.roster.placement.count host +
          (if c.masterHost? = some host then 1 else 0) + _
        omega
      -- The reports come while the new containers are still to be handled, and the shutdown after.
      have reported := granted.deliver .nodes (by simp) c.env.reports
      have completed := reported.deliver .completed (by simp) c.env.completed
      have delivered := completed.deliverContainers
      simp only [Bringup.beat, Cluster.heartbeat, running, Cluster.allocate, if_true,
        List.foldl_append]
      split
      · have other : ∀ containers, Delivery.shutdown ≠ .allocated containers := by simp
        exact delivered.receive other
      · exact delivered

theorem Agree.intervene (agree : Agree ended [] c) (intervention : Cluster.Intervention) :
    Agree (ended ++ c.env.endedBy intervention) []
      { c with env := (c.env.intervene intervention).2 } := by
  cases intervention with
  | finish id status =>
      cases outcome : c.env.finish id status with
      | error error =>
          simp only [Cluster.intervene, Cluster.settle, Cluster.endedBy, outcome, List.append_nil]
          exact agree
      | ok after =>
          obtain ⟨settled, absent, balanced⟩ := agree
          obtain ⟨container, rfl, live, freed⟩ := settled.booked.finish outcome
          simp only [Cluster.intervene, Cluster.settle, Cluster.endedBy, outcome, live]
          refine ⟨settled.finished live freed, absent, ?_⟩
          intro host
          have before := balanced host
          have slots := freed.slots host
          change after.slotsUsed host + _ = c.roster.placement.count host +
            (if c.masterHost? = some host then 1 else 0) + _
          simp only [List.countP_append, List.countP_singleton, beq_iff_eq]
          omega
  | _ =>
      simp only [Cluster.endedBy, List.append_nil]
      exact agree.same ⟨rfl, rfl, rfl, rfl⟩ (sameMaster_of_append [] rfl rfl rfl (by simp)) rfl

theorem Driven.agree {plan : BringupPlan} {config : ClusterConfig}
    (driven : Driven plan config ended c) : Agree ended [] c := by
  induction driven with
  | init => exact agree_init plan config
  | perform action own _ ih => exact covers_agree.perform own _ ih
  | intervene intervention _ ih => exact ih.intervene intervention
  | beat _ ih => exact ih.beat

variable {plan : BringupPlan} {config : ClusterConfig}

theorem Driven.resume (driven : Driven plan config ended c) :
    Driven plan config ended (c.resume Cluster.clients) :=
  driven.perform .resume (by simp)

theorem Driven.tick (beats : Nat) : ∀ {c : Coordinator Cluster}, Driven plan config ended c →
    Driven plan config ended (Bringup.tick beats c) := by
  induction beats with
  | zero => exact id
  | succ beats ih =>
      intro c driven
      rw [Bringup.tick, Bringup.heartbeat_eq_resume]
      exact ih driven.beat.resume

theorem Driven.takeAll (steps : List Bringup.Step) :
    ∀ {ended : List Container} {c : Coordinator Cluster}, Driven plan config ended c →
      (∀ step ∈ steps, step.isOwn = true) →
      Driven plan config (ended ++ Bringup.endedAlong steps c) (Bringup.takeAll steps c) := by
  induction steps with
  | nil =>
      intro ended c driven _
      rw [Bringup.endedAlong, List.append_nil]
      exact driven
  | cons step rest ih =>
      intro ended c driven own
      have later : ∀ step ∈ rest, step.isOwn = true :=
        fun step member => own step (List.mem_cons_of_mem _ member)
      cases step with
      | perform action =>
          apply ih (Driven.resume (driven.perform action ?_)) later
          rintro containers rfl
          have isOwn := own _ List.mem_cons_self
          cases isOwn
      | intervene intervention =>
          rw [Bringup.endedAlong, ← List.append_assoc]
          exact ih (driven.intervene intervention).resume later
      | tick beats => exact ih (driven.tick beats) later

theorem driven_takeAll (steps : List Bringup.Step) (own : ∀ step ∈ steps, step.isOwn = true) :
    Driven plan config (Bringup.endedAlong steps (Bringup.init plan config))
      (Bringup.takeAll steps (Bringup.init plan config)) := by
  have driven : Driven plan config ([] ++ _) _ := Driven.init.takeAll steps own
  rw [List.nil_append] at driven
  exact driven

/-! ## The law -/

/-- Between heartbeats the containers that live are those that were launched and not ended from
outside, and each slot in use is that of a recorded worker or of the master. -/
theorem slots_agree (driven : Driven plan config ended c) :
    (∀ name occupant, c.env.live.get? name = some occupant → occupant.launched = true) ∧
      (∀ container, c.env.live.get? container.id.name = some ⟨container, true⟩ ↔
        (∃ context, (container, context) ∈ c.env.launches) ∧ container ∉ ended) ∧
      ∀ host, c.env.slotsUsed host + ended.countP (·.host == host) =
        c.roster.placement.count host + if c.masterHost? = some host then 1 else 0 := by
  obtain ⟨settled, _, balanced⟩ := driven.agree
  refine ⟨?_, ?_, ?_⟩
  · intro name ⟨container, launched⟩ live
    cases launched with
    | true => rfl
    | false => exact absurd (settled.handled name container live) List.not_mem_nil
  · intro container
    constructor
    · intro live
      refine ⟨settled.running _ container live, ?_⟩
      intro past
      rw [(settled.past container past).1] at live
      cases live
    · rintro ⟨⟨context, launched⟩, alive⟩
      exact settled.launched _ launched alive
  · intro host
    have balance := balanced host
    rw [List.countP_nil, Nat.add_zero] at balance
    exact balance

def generous : ClusterConfig where
  hosts := ["h1", "h2"]
  policy := .firstFit
  surplusMaster := 1
  surplusWorkers := 2

def strain : List Bringup.Step :=
  [.perform .start, .perform .request, .intervene (.failLaunchesOn "h2"), .tick 2,
    .intervene (.finish ⟨"container_sim_000004"⟩ ⟨0⟩), .intervene .requestShutdown, .tick 1,
    .perform (.stop .killed "")]

def strained : Coordinator Cluster :=
  Bringup.takeAll strain (Bringup.init crowdedPlan generous)

theorem slots_agree_strained : ∃ ended,
    Driven crowdedPlan generous ended strained ∧
      ended.map (·.id.name) = ["container_sim_000004"] ∧ strained.phase = .stopped ∧
      strained.workerHosts = [("h1", 2)] ∧ strained.masterHost? = some "h1" ∧
      (∀ name occupant, strained.env.live.get? name = some occupant → occupant.launched = true) ∧
      ∀ host, strained.env.slotsUsed host + ended.countP (·.host == host) =
        strained.roster.placement.count host + if strained.masterHost? = some host then 1 else 0 := by
  have driven : Driven crowdedPlan generous
      (Bringup.endedAlong strain (Bringup.init crowdedPlan generous)) strained :=
    driven_takeAll strain (by decide)
  have outcome : (Bringup.endedAlong strain (Bringup.init crowdedPlan generous)).map (·.id.name) =
      ["container_sim_000004"] ∧ strained.phase = .stopped ∧
      strained.workerHosts = [("h1", 2)] ∧ strained.masterHost? = some "h1" := by decide +kernel
  obtain ⟨names, phase, workers, master⟩ := outcome
  obtain ⟨launched, _, slots⟩ := slots_agree driven
  exact ⟨_, driven, names, phase, workers, master, launched, slots⟩

end Coordinator

end Muster
