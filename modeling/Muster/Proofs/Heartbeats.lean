import Muster.Bringup
import Muster.Proofs.ClusterRounds

/-!
The heartbeats of a bring-up on a simulated cluster. The first one grants the master's container,
and each later one answers a whole round, until the rounds are over.
-/

namespace Muster

def Cluster.flushed (cluster : Cluster) : Cluster :=
  { cluster with reports := [], completed := [], shutdownPending := false }

namespace Coordinator

variable {c : Coordinator Cluster}

theorem heartbeat_eq {containers : List Container} {allocated : Cluster}
    (running : c.env.isRunning = true) (calm : c.env.shutdownPending = false)
    (granted : c.env.allocate = (containers, allocated)) :
    ∃ entries : List Entry,
      (∀ entry ∈ entries, entry.concernsWorkers = false ∧ entry.phase? = none) ∧
      Bringup.heartbeat c = ((Cluster.deliver .allocated containers).foldl
        (fun (c : Coordinator Cluster) delivery => c.receive Cluster.clients delivery)
        { c with env := allocated.flushed, journal := entries ++ c.journal }).resume
          Cluster.clients := by
  let d := { c with env := allocated.flushed }
  obtain ⟨entries, silent, noted⟩ := completed_eq c.env.completed d
  have nodes : (Cluster.deliver .nodes c.env.reports).foldl
      (fun c delivery => c.receive Cluster.clients delivery) d = d := by
    cases c.env.reports <;> rfl
  have completed : (Cluster.deliver .completed c.env.completed).foldl
      (fun c delivery => c.receive Cluster.clients delivery) d =
        { d with journal := entries ++ d.journal } := by
    rw [← noted]
    cases c.env.completed <;> rfl
  refine ⟨entries, silent, ?_⟩
  simp only [Bringup.heartbeat, Cluster.heartbeat, running, granted, calm, if_true,
    Bool.false_eq_true, if_false, List.append_nil, List.foldl_append]
  rw [show { c with env := { allocated with
    reports := [], completed := [], shutdownPending := false } } = d from rfl, nodes, completed]

theorem isRunning_of_started {config : ClusterConfig} (same : c.env.config = config)
    (delivers : config.heartbeatMs ≠ 0) (started : c.env.started = true) :
    c.env.isRunning = true := by
  simp only [Cluster.isRunning, started, same, Bool.true_and, bne_iff_ne, ne_eq]
  exact delivers

theorem resume_of_resting (resting : c.Resting) (closed : c.done.isOpen = false) :
    c.resume Cluster.clients = c := by
  obtain ⟨plan, env, phase, master, done, roster, control, journal⟩ := c
  cases control with
  | idle => rfl
  | begun => exact resting.elim
  | awaitingMaster =>
      have absent : master.isSome = false := resting
      simp [resume, awaitMaster, absent]
  | awaitingRound round =>
      have undrained : roster.gate.isDrained = false := resting
      simp [resume, undrained]
  | awaitingShutdown =>
      have unopened : done.isOpen = false := closed
      simp [resume, awaitShutdown, unopened]
  | finished outcome => rfl

variable {start : Coordinator Cluster} {config : ClusterConfig} {host : Host} {trusted : Prop}
  {round : Nat}

/-- The cluster grants the master on `host`, and has room for all workers besides. -/
structure Fits (start : Coordinator Cluster) (config : ClusterConfig) (host : Host) : Prop where
  granted : (Cluster.init config).chooseHost start.plan.requests.forMaster.placement = some host
  delivers : config.heartbeatMs ≠ 0
  runtime : config.hasRuntime = true
  room : start.plan.limits.target ≤
    (HostSet.ofList config.hosts).size * start.plan.limits.maxPerHost
  above : start.plan.limits.maxPerHost < config.slotsPerHost

/-! ## A heartbeat that answers a round -/

theorem Steady.flushed {cluster : Cluster} (steady : Steady config host cluster) :
    Steady config host { cluster with pending := [] }.flushed :=
  ⟨steady.config, steady.started, steady.inventory, rfl, steady.willing, steady.unasked⟩

theorem Working.cleared {hosts : List Host}
    (working : Working (.ofList config.hosts) host hosts round trusted [] c)
    (early : Early start c) (launched : c.master = some (Cluster.netAddress host))
    (steady : Steady config host c.env) (idle : c.env.pending = []) :
    Cleared start config host trusted round c ∧ c.roster.gate.isDrained = true := by
  have drained : c.roster.gate.isDrained = true := by
    simp [RoundGate.isDrained, working.owed]
  refine ⟨⟨early, launched, steady, idle, ?_, working.sound, working.covered, ?_⟩, drained⟩
  · intro other
    have used := working.slots other
    rwa [List.countP_nil, Nat.add_zero] at used
  · intro trust
    obtain ⟨willing, underway⟩ := working.reached trust
    exact ⟨willing, underway.drained drained⟩

theorem Working.onAllocated {hosts : List Host} {containers : List Container}
    (working : Working (.ofList config.hosts) host hosts round trusted containers c)
    (early : Early start c) (launched : c.master = some (Cluster.netAddress host))
    (steady : Steady config host c.env) (idle : c.env.pending = []) :
    Cleared start config host trusted round (c.onAllocated Cluster.clients containers) ∧
      (c.onAllocated Cluster.clients containers).roster.gate.isDrained = true := by
  let context := c.plan.launch.forWorker (Cluster.netAddress host)
  have taken : c.onAllocated Cluster.clients containers =
      containers.foldl (fun c container => c.placeWorker Cluster.clients context container) c := by
    simp only [Coordinator.onAllocated, launched, context]
  obtain ⟨last, setup⟩ := working.placeWorkers context containers
  have same : SameStage c (c.onAllocated Cluster.clients containers) :=
    sameStage_onAllocated containers
  have still : (c.onAllocated Cluster.clients containers).master =
      some (Cluster.netAddress host) := (moves_onAllocated containers).master_eq launched
  rw [← taken] at last setup
  exact Working.cleared last (early.same same) still (steady.same setup)
    (setup.pending.trans idle)

theorem Posted.granted (posted : Posted start config host trusted round c)
    (fits : Fits start config host) :
    ∃ (hosts : List Host) (containers : List Container) (d : Coordinator Cluster),
      Aside c d ∧ d.control = c.control ∧ Steady config host d.env ∧ d.env.pending = [] ∧
        Working (.ofList config.hosts) host hosts round trusted containers d ∧
        Bringup.heartbeat c =
          (d.onAllocated Cluster.clients containers).resume Cluster.clients := by
  obtain ⟨_, _, _, _, steady, slots, sound, covered, _, undrained, hosts, distinct, known, pending,
    free, reached⟩ := posted
  have listed : ∀ other ∈ hosts, other ∈ c.env.config.hosts := by
    intro other member
    rw [steady.config]
    exact HostSet.mem_of_mem_ofList (known other member)
  obtain ⟨containers, after, allocated, granted, length, among⟩ :=
    Cluster.allocate_replicate pending distinct listed steady.unasked free
  obtain ⟨entries, silent, same⟩ := heartbeat_eq
    (isRunning_of_started steady.config fits.delivers steady.started) steady.shutdown allocated
  obtain ⟨first, rest, rfl⟩ := List.exists_cons_of_length_pos (by omega : 0 < containers.length)
  refine ⟨hosts, first :: rest, _, aside_write _ entries silent, rfl,
    Steady.flushed (steady.same granted.setup), rfl, ?_, same⟩
  refine ⟨granted.live, granted.distinct, among, known, ?_, sound, covered, length.symm, ?_⟩
  · intro other
    have before := slots other
    have used := granted.slots other
    exact used ▸ Nat.add_le_add_right before _
  · intro trust
    obtain ⟨willing, underway⟩ := reached trust
    exact ⟨granted.setup.failing.trans willing, underway⟩

theorem Posted.heartbeat (posted : Posted start config host trusted round c)
    (fits : Fits start config host) :
    Posted start config host trusted (round + 1) (Bringup.heartbeat c) ∨
      Launched start config host trusted (Bringup.heartbeat c) := by
  obtain ⟨hosts, containers, d, aside, control, steady, idle, working, same⟩ := posted.granted fits
  have launched : d.master = some (Cluster.netAddress host) := aside.master.trans posted.launched
  obtain ⟨cleared, drained⟩ :=
    Working.onAllocated working (posted.early.aside aside) launched steady idle
  have waits : (d.onAllocated Cluster.clients containers).control = .awaitingRound round :=
    ((sameStage_onAllocated containers).control.trans control).trans posted.control
  have within := posted.within
  rw [same]
  simp only [resume, waits, drained, if_true]
  exact cleared.runRounds (by omega) fits.room fits.above

/-! ## The heartbeat that grants the master's container -/

/-- No heartbeat has delivered yet. The master is `requested`, or the bring-up is not begun. -/
structure Opening (start : Coordinator Cluster) (config : ClusterConfig) (host : Host)
    (trusted : Prop) (requested : Bool) (c : Coordinator Cluster) : Prop where
  control : c.control = if requested then .awaitingMaster else .idle
  pending : c.env.pending = if requested then [c.plan.requests.forMaster] else []
  early : Early start c
  absent : c.master = none
  roster : c.roster = {}
  config : c.env.config = config
  empty : c.env.slots = .empty
  paired : c.env.inventoryStarted = c.env.started
  shutdown : c.env.shutdownPending = false
  willing : c.env.failingHosts.contains host = false
  unasked : ∀ role, c.env.surplus role = 0
  trusting : trusted → c.env.failingHosts = []

theorem cleared_launchMasterIn {container : Container} (early : Early start c)
    (steady : Steady config host c.env) (idle : c.env.pending = []) (roster : c.roster = {})
    (live : c.env.live.get? container.id.name = some ⟨container, false⟩)
    (placed : container.host = host) (address : container.netAddress = Cluster.netAddress host)
    (slots : ∀ other, c.env.slotsUsed other = if other = host then 1 else 0)
    (trusting : trusted → c.env.failingHosts = []) :
    Cleared start config host trusted 0 (c.launchMasterIn Cluster.clients container) := by
  have willing : c.env.failingHosts.contains container.host = false := by
    rw [placed]
    exact steady.willing
  obtain ⟨started, runs⟩ := Cluster.startContainer_launched c.plan.launch.forMaster live willing
  have stage : SameStage c (c.launchMasterIn Cluster.clients container) :=
    sameStage_launchMasterIn container
  have still : Early start (c.launchMasterIn Cluster.clients container) := early.same stage
  have answer :
      (Cluster.clients.startContainer container c.plan.launch.forMaster c.env).1 = .ok () := by
    simp only [Cluster.clients, started, Except.mapError]
  rw [launchMasterIn_launched container answer] at still ⊢
  refine ⟨still, congrArg some address, steady.same runs.setup, runs.setup.pending.trans idle,
    ?_, ?_, ?_, ?_⟩
  · intro other
    have kept := runs.slotsUsed other
    rw [slots] at kept
    change (c.env.startContainer container c.plan.launch.forMaster).2.slotsUsed other ≤ _
    rw [kept]
    exact Nat.le_add_left _ _
  · simp only [roster]
    exact Roster.sound_empty _
  · intro entry member
    rw [show c.roster = {} from roster] at member
    exact absurd member (List.not_mem_nil)
  · intro trust
    exact ⟨runs.setup.failing.trans (trusting trust), fun _ => Nat.zero_le _⟩

theorem Opening.heartbeat (opening : Opening start config host trusted true c)
    (started : c.env.started = true) (fits : Fits start config host) :
    Posted start config host trusted 1 (Bringup.heartbeat c) ∨
      Launched start config host trusted (Bringup.heartbeat c) := by
  obtain ⟨control, pending, early, absent, roster, configured, empty, paired, shutdown, willing,
    unasked, trusting⟩ := opening
  have unused : ∀ other, c.env.slotsUsed other = 0 := by
    intro other
    rw [Cluster.slotsUsed, empty]
    rfl
  have chosen : c.env.chooseHost c.plan.requests.forMaster.placement = some host := by
    rw [early.plan, ← fits.granted]
    exact Cluster.chooseHost_congr configured (fun other => (unused other).trans rfl) _
  obtain ⟨container, after, allocated, given, placed, address⟩ :=
    Cluster.allocate_singleton pending chosen unasked
  obtain ⟨entries, silent, same⟩ := heartbeat_eq
    (isRunning_of_started configured fits.delivers started) shutdown allocated
  let d := { c with
    env := { after with pending := [] }.flushed
    journal := entries ++ c.journal }
  have aside : Aside c d := aside_write _ entries silent
  have steady : Steady config host c.env :=
    ⟨configured, started, paired.trans started, shutdown, willing, unasked⟩
  have taken : d.onAllocated Cluster.clients [container] =
      d.launchMasterIn Cluster.clients container := by
    simp only [onAllocated, show d.master = none from absent, placeMaster]
  have next : Bringup.heartbeat c =
      (d.launchMasterIn Cluster.clients container).resume Cluster.clients :=
    same.trans (congrArg (resume Cluster.clients) taken)
  have cleared : Cleared start config host trusted 0
      (d.launchMasterIn Cluster.clients container) := by
    refine cleared_launchMasterIn (early.aside aside) (Steady.flushed (steady.same given.setup)) rfl
      roster (given.live _ List.mem_cons_self) placed address ?_ ?_
    · intro other
      have used : d.env.slotsUsed other = c.env.slotsUsed other + _ := given.slots other
      rw [used, unused, List.countP_singleton, placed, Nat.zero_add]
      by_cases equal : other = host
      · simp [equal]
      · simp [equal, Ne.symm equal]
    · intro trust
      exact given.setup.failing.trans (trusting trust)
  have waits : (d.launchMasterIn Cluster.clients container).control = .awaitingMaster :=
    (sameStage_launchMasterIn container).control.trans control
  rw [next]
  simp only [resume, waits, awaitMaster, cleared.launched, Option.isSome_some, if_true]
  exact (cleared.aside (aside_advance rfl) (advance_env _ _)).runRounds rfl fits.room fits.above

theorem Launched.heartbeat (launched : Launched start config host trusted c)
    (fits : Fits start config host) : Launched start config host trusted (Bringup.heartbeat c) := by
  obtain ⟨control, plan, closed, phase, opened, steady, idle, bounded, exact_⟩ := launched
  have allocated : c.env.allocate = ([], { c.env with pending := [] }) := by
    simp only [Cluster.allocate, idle, Cluster.grantAll]
  obtain ⟨entries, _, same⟩ := heartbeat_eq
    (isRunning_of_started steady.config fits.delivers steady.started) steady.shutdown allocated
  let d := { c with
    env := { c.env with pending := [] }.flushed
    journal := entries ++ c.journal }
  have resting : d.Resting := by simp [d, Resting, control]
  rw [same, show (Cluster.deliver .allocated []).foldl _ _ = d from rfl,
    resume_of_resting resting closed]
  exact ⟨control, plan, closed, phase, opened, Steady.flushed steady, rfl, bounded, exact_⟩

end Coordinator

end Muster
