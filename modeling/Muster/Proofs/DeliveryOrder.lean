import Muster.Proofs.Consumption
import Muster.Proofs.ServedRounds

/-!
Which workers some containers lead to does not depend on the order in which the containers come.
Each host takes what fits below its cap, and they all stop at the target. The decision about a
container depends on those before it, but what the hosts have taken in the end only depends on how
many came on each.
-/

namespace Muster

def Entry.launchesUnless (refuses : Host → Bool) : Entry → Bool
  | .call (.startContainer container _) failure => failure.isSome == refuses container.host
  | _ => true

/-- By a trace, the launches that failed are those on the hosts that refuse them. -/
def FailsOn (refuses : Host → Bool) (trace : List Entry) : Prop :=
  ∀ entry ∈ trace, entry.launchesUnless refuses = true

instance (refuses : Host → Bool) : DecidablePred (FailsOn refuses) :=
  fun trace => inferInstanceAs (Decidable (∀ entry ∈ trace, entry.launchesUnless refuses = true))

theorem FailsOn.split {refuses : Host → Bool} {first second third : List Entry}
    (fails : FailsOn refuses (since first third)) (before : first <:+ second)
    (after : second <:+ third) :
    FailsOn refuses (since first second) ∧ FailsOn refuses (since second third) :=
  (forall_since_trans before after).mp fails

def arrivals (containers : List Container) (host : Host) : Nat :=
  containers.countP (·.host == host)

@[simp] theorem arrivals_nil (host : Host) : arrivals [] host = 0 := rfl

theorem arrivals_append_singleton (containers : List Container) (last : Container) (host : Host) :
    arrivals (containers ++ [last]) host =
      arrivals containers host + if last.host = host then 1 else 0 := by
  simp [arrivals, List.countP_append, List.countP_cons]

theorem arrivals_perm {containers others : List Container} (same : containers.Perm others) :
    arrivals containers = arrivals others :=
  funext fun _ => same.countP_eq _

def Call.starts : Call → Bool
  | startContainer .. => true
  | _ => false

def startsOn (host : Host) (uses : List (Container × Call)) : Nat :=
  uses.countP fun use => use.1.host == host && use.2.starts

def releasesOn (host : Host) (uses : List (Container × Call)) : Nat :=
  uses.countP fun use => use.1.host == host && !use.2.starts

def accepting (refuses : Host → Bool) (containers : List Container) : Finset Host :=
  (containers.map (·.host)).toFinset.filter fun host => refuses host = false

theorem accepting_perm {refuses : Host → Bool} {containers others : List Container}
    (same : containers.Perm others) : accepting refuses containers = accepting refuses others := by
  rw [accepting, List.toFinset_eq_of_perm _ _ (same.map _), accepting]

namespace Roster

variable {limits : Limits} {roster : Roster}

/-- What a host takes of some containers as long as workers are wanted. -/
def taken (limits : Limits) (containers : List Container) (roster : Roster) (host : Host) : Nat :=
  min (arrivals containers host) (limits.maxPerHost - roster.placement.count host)

theorem taken_append_singleton (containers : List Container) (last : Container) (host : Host) :
    roster.taken limits (containers ++ [last]) host = roster.taken limits containers host +
      if last.host = host ∧
          roster.placement.count last.host + arrivals containers last.host < limits.maxPerHost
        then 1 else 0 := by
  simp only [taken, arrivals_append_singleton]
  by_cases same : last.host = host
  · subst same
    simp only [true_and, if_true]
    split <;> omega
  · simp [same]

theorem sum_taken_append_singleton {hosts : Finset Host} (containers : List Container)
    {last : Container} (member : last.host ∈ hosts) :
    ∑ host ∈ hosts, roster.taken limits (containers ++ [last]) host =
      ∑ host ∈ hosts, roster.taken limits containers host +
        if roster.placement.count last.host + arrivals containers last.host < limits.maxPerHost
          then 1 else 0 := by
  simp only [taken_append_singleton, Finset.sum_add_distrib]
  congr 1
  split
  · rename_i room
    simp [room, member]
  · rename_i full
    simp [full]

theorem sum_taken_of_not_mem {hosts : Finset Host} (containers : List Container)
    {last : Container} (other : last.host ∉ hosts) :
    ∑ host ∈ hosts, roster.taken limits (containers ++ [last]) host =
      ∑ host ∈ hosts, roster.taken limits containers host := by
  refine Finset.sum_congr rfl fun host member => ?_
  have different : last.host ≠ host := fun same => other (same ▸ member)
  simp [taken_append_singleton, different]

theorem sum_taken_le (limits : Limits) (hosts : Finset Host) (containers : List Container)
    (last : Container) :
    ∑ host ∈ hosts, roster.taken limits containers host ≤
      ∑ host ∈ hosts, roster.taken limits (containers ++ [last]) host := by
  refine Finset.sum_le_sum fun host _ => ?_
  rw [taken_append_singleton]
  exact Nat.le_add_right _ _

def wants (limits : Limits) (host : Host) (roster : Roster) : Bool :=
  !(roster.hasEnough limits || roster.isHostFull limits host)

theorem wants_iff {host : Host} : roster.wants limits host = true ↔
    roster.workers < limits.target ∧ roster.placement.count host < limits.maxPerHost := by
  simp [wants, hasEnough_eq_false, isHostFull_eq_false]

def placeUnless (limits : Limits) (refuses : Host → Bool) (host : Host) (roster : Roster) :
    Roster :=
  if refuses host then roster.answer else roster.place limits host

theorem place_eq (host : Host) :
    roster.place limits host =
      if roster.wants limits host then (roster.record host).answer else roster.answer := by
  unfold place wants
  cases roster.hasEnough limits || roster.isHostFull limits host <;> rfl

theorem workers_placeUnless (refuses : Host → Bool) (host : Host) :
    (roster.placeUnless limits refuses host).workers =
      roster.workers + if refuses host = false ∧ roster.wants limits host = true then 1 else 0 := by
  rw [placeUnless, place_eq]
  cases refuses host with
  | true => simp
  | false => cases roster.wants limits host <;> simp

theorem count_placeUnless (refuses : Host → Bool) (host other : Host) :
    (roster.placeUnless limits refuses host).placement.count other =
      roster.placement.count other +
        if host = other ∧ refuses host = false ∧ roster.wants limits host = true then 1 else 0 := by
  rw [placeUnless, place_eq]
  cases refuses host with
  | true => simp
  | false =>
      cases wanted : roster.wants limits host with
      | true =>
          simp only [Bool.false_eq_true, if_false, if_true, placement_answer, record,
            Placement.count_add, and_true]
          split <;> rfl
      | false => simp

end Roster

namespace Coordinator

variable {σ : Type} {clients : Clients σ} {c d : Coordinator σ} {refuses : Host → Bool}

theorem roster_placeWorker_of_failsOn {context : LaunchContext} {container : Container}
    (fails : FailsOn refuses
      (since c.journal (c.placeWorker clients context container).journal)) :
    (c.placeWorker clients context container).roster =
      c.roster.placeUnless c.plan.limits refuses container.host := by
  have launch (failure : Option String) (entries before : List Entry)
      (made : FailsOn refuses (since c.journal
        (entries ++ .call (.startContainer container context) failure :: before ++ c.journal))) :
      refuses container.host = failure.isSome := by
    rw [since_append List.suffix_rfl, since_self] at made
    have entry := made (.call (.startContainer container context) failure) (by simp)
    simpa [Entry.launchesUnless] using (beq_iff_eq.mp entry).symm
  cases decision : c.roster.hasEnough c.plan.limits ||
      c.roster.isHostFull c.plan.limits container.host with
  | true =>
      rw [placeWorker_refused _ _ decision]
      simp only [Roster.placeUnless, Roster.place, decision, if_true, ite_self]
  | false =>
      cases outcome : (clients.startContainer container context c.env).1 with
      | ok =>
          rw [placeWorker_launched _ _ decision outcome] at fails ⊢
          have accepted := launch none [_, _] [_] fails
          simp [Roster.placeUnless, Roster.place, decision, accepted]
      | error cause =>
          rw [placeWorker_failed _ _ decision outcome] at fails ⊢
          have refused := launch (some cause) [_, _] [_] fails
          simp [Roster.placeUnless, refused]

theorem starts_workerCall (address : String) (container : Container) :
    (c.workerCall address container).starts = c.roster.wants c.plan.limits container.host := by
  rw [Bool.eq_iff_iff, Roster.wants_iff]
  unfold workerCall
  split
  · rename_i refused
    simp only [Call.starts, Bool.false_eq_true, false_iff]
    intro wanted
    rcases refused with enough | full
    · exact absurd wanted.1 (Nat.not_lt.mpr enough)
    · exact absurd wanted.2 (Nat.not_lt.mpr full)
  · rename_i accepted
    simp only [Call.starts, true_iff]
    obtain ⟨wanted, room⟩ := not_or.mp accepted
    exact ⟨Nat.not_le.mp wanted, Nat.not_le.mp room⟩

def workerUses (clients : Clients σ) (address : String) (containers : List Container)
    (c : Coordinator σ) : List (Container × Call) :=
  containers.zip (c.workerCalls clients address containers)

theorem workerUses_append (address : String) (containers : List Container) (last : Container) :
    c.workerUses clients address (containers ++ [last]) =
      c.workerUses clients address containers ++
        [(last, (c.onAllocated clients containers).workerCall address last)] := by
  have length : containers.length = (c.workerCalls clients address containers).length := by
    simp [workerCalls]
  rw [workerUses, workerCalls_append, List.zip_append length]
  rfl

/-- What has become of the workers when some containers have come. The hosts are those that launches
succeed on, or some of them with all that the containers are on. -/
structure Absorbed (refuses : Host → Bool) (hosts : Finset Host) (containers : List Container)
    (uses : List (Container × Call)) (c d : Coordinator σ) : Prop where
  plan : d.plan = c.plan
  workers : d.workers = min c.plan.limits.target
    (c.workers + ∑ host ∈ hosts, c.roster.taken c.plan.limits containers host)
  counts : d.workers < c.plan.limits.target → ∀ host,
    d.roster.placement.count host =
      if refuses host then c.roster.placement.count host
      else min c.plan.limits.maxPerHost
        (c.roster.placement.count host + arrivals containers host)
  starts : d.workers < c.plan.limits.target → ∀ host,
    startsOn host uses =
      if refuses host then
        if c.roster.placement.count host < c.plan.limits.maxPerHost then arrivals containers host
        else 0
      else c.roster.taken c.plan.limits containers host

theorem absorbed_refl (hosts : Finset Host) (bounded : c.workers ≤ c.plan.limits.target)
    (capped : ∀ host, c.roster.placement.count host ≤ c.plan.limits.maxPerHost) :
    Absorbed refuses hosts [] [] c c := by
  refine ⟨rfl, ?_, ?_, ?_⟩
  · simp [Roster.taken, bounded]
  · intro _ host
    simp [capped host]
  · simp [startsOn, Roster.taken]

theorem startsOn_append_singleton (host : Host) (uses : List (Container × Call)) (last : Container)
    (call : Call) :
    startsOn host (uses ++ [(last, call)]) =
      startsOn host uses + if last.host = host ∧ call.starts = true then 1 else 0 := by
  simp [startsOn, List.countP_append, List.countP_cons]

variable {hosts : Finset Host} {containers : List Container} {uses : List (Container × Call)}
  {last : Container}

theorem Absorbed.wants_iff (absorbed : Absorbed refuses hosts containers uses c d)
    (short : d.workers < c.plan.limits.target) (host : Host) :
    d.roster.wants c.plan.limits host = true ↔
      if refuses host then c.roster.placement.count host < c.plan.limits.maxPerHost
      else c.roster.placement.count host + arrivals containers host <
        c.plan.limits.maxPerHost := by
  rw [Roster.wants_iff, absorbed.counts short]
  have wanted : d.roster.workers < c.plan.limits.target := short
  split <;> omega

theorem Absorbed.workers_placeUnless (absorbed : Absorbed refuses hosts containers uses c d)
    (accepted : ∀ host ∈ hosts, refuses host = false)
    (listed : refuses last.host = false → last.host ∈ hosts) :
    (d.roster.placeUnless c.plan.limits refuses last.host).workers = min c.plan.limits.target
      (c.workers + ∑ host ∈ hosts, c.roster.taken c.plan.limits (containers ++ [last]) host) := by
  have total : d.roster.workers = _ := absorbed.workers
  rw [Roster.workers_placeUnless]
  by_cases short : d.workers < c.plan.limits.target
  · have wants := absorbed.wants_iff short last.host
    cases refused : refuses last.host with
    | true =>
        have other : last.host ∉ hosts := fun member => by simp [accepted _ member] at refused
        simp only [Bool.true_eq_false, false_and, if_false, Nat.add_zero]
        rw [Roster.sum_taken_of_not_mem _ other, total]
    | false =>
        simp only [refused, Bool.false_eq_true, if_false] at wants
        simp only [wants, true_and]
        rw [Roster.sum_taken_append_singleton _ (listed refused)]
        have below : d.roster.workers < c.plan.limits.target := short
        split <;> omega
  · have enough : d.roster.wants c.plan.limits last.host = false := by
      rw [← Bool.not_eq_true, Roster.wants_iff]
      exact fun wanted => short wanted.1
    have reached : c.plan.limits.target ≤ d.roster.workers := Nat.not_lt.mp short
    have more := c.roster.sum_taken_le c.plan.limits hosts containers last
    simp only [enough, Bool.false_eq_true, and_false, if_false, Nat.add_zero]
    omega

theorem Absorbed.count_placeUnless (absorbed : Absorbed refuses hosts containers uses c d)
    (short : d.workers < c.plan.limits.target) (last : Container) (host : Host) :
    (d.roster.placeUnless c.plan.limits refuses last.host).placement.count host =
      if refuses host then c.roster.placement.count host
      else min c.plan.limits.maxPerHost
        (c.roster.placement.count host + arrivals (containers ++ [last]) host) := by
  have wants := absorbed.wants_iff short last.host
  rw [Roster.count_placeUnless, absorbed.counts short, arrivals_append_singleton]
  by_cases same : last.host = host
  · subst same
    cases refused : refuses last.host with
    | true => simp
    | false =>
        simp only [refused, Bool.false_eq_true, if_false, true_and] at wants ⊢
        simp only [wants, if_true]
        split <;> omega
  · simp [same]

theorem Absorbed.startsOn_append (absorbed : Absorbed refuses hosts containers uses c d)
    (short : d.workers < c.plan.limits.target) {call : Call}
    (started : call.starts = d.roster.wants c.plan.limits last.host) (host : Host) :
    startsOn host (uses ++ [(last, call)]) =
      if refuses host then
        if c.roster.placement.count host < c.plan.limits.maxPerHost then
          arrivals (containers ++ [last]) host
        else 0
      else c.roster.taken c.plan.limits (containers ++ [last]) host := by
  have wants := absorbed.wants_iff short last.host
  rw [startsOn_append_singleton, absorbed.starts short, arrivals_append_singleton, started,
    Roster.taken_append_singleton]
  by_cases same : last.host = host
  · subst same
    cases refused : refuses last.host with
    | true =>
        simp only [refused, if_true, true_and] at wants ⊢
        simp only [wants]
        split <;> rfl
    | false =>
        simp only [refused, Bool.false_eq_true, if_false, true_and] at wants ⊢
        simp only [wants]
  · simp [same]

theorem Absorbed.place (absorbed : Absorbed refuses hosts containers uses c d)
    (accepted : ∀ host ∈ hosts, refuses host = false)
    (listed : refuses last.host = false → last.host ∈ hosts) {e : Coordinator σ} {call : Call}
    (plan : e.plan = d.plan)
    (settled : e.roster = d.roster.placeUnless d.plan.limits refuses last.host)
    (started : call.starts = d.roster.wants d.plan.limits last.host) :
    Absorbed refuses hosts (containers ++ [last]) (uses ++ [(last, call)]) c e := by
  rw [absorbed.plan] at settled started
  have short (still : e.workers < c.plan.limits.target) : d.workers < c.plan.limits.target := by
    rw [Coordinator.workers, settled, Roster.workers_placeUnless] at still
    exact Nat.lt_of_le_of_lt (Nat.le_add_right _ _) still
  refine ⟨plan.trans absorbed.plan, ?_, ?_, ?_⟩
  · rw [Coordinator.workers, settled]
    exact absorbed.workers_placeUnless accepted listed
  · intro still host
    rw [settled]
    exact absorbed.count_placeUnless (short still) last host
  · intro still host
    exact absorbed.startsOn_append (short still) started host

theorem absorbed_onAllocated {address : String} (opened : c.master = some address)
    (sound : c.roster.Sound c.plan.limits) (accepted : ∀ host ∈ hosts, refuses host = false)
    (containers : List Container) :
    (∀ container ∈ containers, refuses container.host = false → container.host ∈ hosts) →
      FailsOn refuses (since c.journal (c.onAllocated clients containers).journal) →
      Absorbed refuses hosts containers (c.workerUses clients address containers) c
        (c.onAllocated clients containers) := by
  induction containers using List.reverseRecOn with
  | nil =>
      intro _ _
      have same : c.onAllocated clients [] = c := by simp only [onAllocated, opened, List.foldl_nil]
      rw [same]
      exact absorbed_refl hosts sound.bounded sound.capped
  | append_singleton containers last ih =>
      intro listed fails
      have grown : c.journal <:+ (c.onAllocated clients containers).journal := by
        simp only [onAllocated, opened]
        exact suffix_placeWorkers _ _ _
      rw [onAllocated_append opened] at fails ⊢
      obtain ⟨earlier, now⟩ := fails.split grown (suffix_placeWorker _ last)
      have absorbed := ih (fun other member => listed other (by simp [member])) earlier
      rw [workerUses_append]
      exact absorbed.place accepted (listed last (by simp)) (sameStage_placeWorker _ last).plan
        (roster_placeWorker_of_failsOn now) (starts_workerCall address last)

theorem startsOn_add_releasesOn (host : Host) (uses : List (Container × Call)) :
    startsOn host uses + releasesOn host uses = arrivals (uses.map Prod.fst) host := by
  induction uses with
  | nil => rfl
  | cons use rest ih =>
      simp only [startsOn, releasesOn, arrivals, List.map_cons, List.countP_cons] at ih ⊢
      cases use.1.host == host <;> cases use.2.starts <;>
        simp only [Bool.and_true, Bool.and_false, Bool.not_true, Bool.not_false, Bool.false_eq_true,
          if_true, if_false] <;> omega

theorem receiveBatches_eq_onAllocated {address : String} (opened : c.master = some address)
    (batches : List (List Container)) :
    c.receiveBatches clients batches = c.onAllocated clients batches.flatten := by
  rw [receiveBatches_eq batches opened]
  simp only [onAllocated, opened]

/-- Once the master is launched, the number of workers that some containers lead to is the same in
whatever order and batches they come, when launches fail on the same hosts. If it stays below the
target, so is the number of workers on each host, and how many containers there are used and handed
back. -/
theorem workers_of_deliveries {plan : BringupPlan} {env : σ} {address : String}
    (run : Run clients (init plan env) c) (opened : c.master = some address)
    (refuses : Host → Bool) (containers : List Container) (batches : List (List Container))
    (same : batches.flatten.Perm containers)
    (fails : FailsOn refuses (since c.journal (c.receiveBatches clients batches).journal)) :
    let limits := c.plan.limits
    let d := c.receiveBatches clients batches
    d.workers = min limits.target (c.workers + ∑ host ∈ accepting refuses containers,
        min (arrivals containers host) (limits.maxPerHost - c.roster.placement.count host)) ∧
      ∃ made, d.calls = c.calls ++ made ∧ List.Forall₂ Call.Uses batches.flatten made ∧
        ∀ host,
          startsOn host (batches.flatten.zip made) + releasesOn host (batches.flatten.zip made) =
              arrivals containers host ∧
            (d.workers < limits.target →
              d.roster.placement.count host =
                  (if refuses host then c.roster.placement.count host
                  else min limits.maxPerHost
                    (c.roster.placement.count host + arrivals containers host)) ∧
                startsOn host (batches.flatten.zip made) =
                  if refuses host then
                    if c.roster.placement.count host < limits.maxPerHost then
                      arrivals containers host
                    else 0
                  else min (arrivals containers host)
                    (limits.maxPerHost - c.roster.placement.count host)) := by
  intro limits d
  have sound := (accounted_of_moves (moves_of_steps run)).sound
  have whole : d = c.onAllocated clients batches.flatten :=
    receiveBatches_eq_onAllocated opened batches
  rw [← arrivals_perm same, ← accepting_perm same]
  have absorbed : Absorbed refuses (accepting refuses batches.flatten) batches.flatten
      (c.workerUses clients address batches.flatten) c d := by
    rw [whole]
    refine absorbed_onAllocated opened sound ?_ _ ?_ (whole ▸ fails)
    · intro host member
      exact (Finset.mem_filter.mp member).2
    · intro container member launched
      refine Finset.mem_filter.mpr ⟨?_, launched⟩
      exact List.mem_toFinset.mpr (List.mem_map_of_mem member)
  have matched : List.Forall₂ Call.Uses batches.flatten
      (c.workerCalls clients address batches.flatten) := forall₂_workerCalls address _
  refine ⟨absorbed.workers, c.workerCalls clients address batches.flatten, ?_, matched, ?_⟩
  · rw [whole]
    exact calls_placeWorkers opened _
  · intro host
    refine ⟨?_, fun short => ⟨absorbed.counts short host, absorbed.starts short host⟩⟩
    rw [startsOn_add_releasesOn, List.map_fst_zip (Nat.le_of_eq matched.length_eq)]

def mixedContainers : List Container :=
  [Script.container 4 "h1", Script.container 5 "h1", Script.container 6 "h2",
    Script.container 7 "h1"]

theorem workers_of_deliveries_manned :
    (manned.receiveBatches Script.clients [mixedContainers]).workers = 2 ∧
      (manned.receiveBatches Script.clients [[Script.container 7 "h1"], [],
        [Script.container 6 "h2", Script.container 5 "h1",
          Script.container 4 "h1"]]).workers = 2 := by
  have run : Run Script.clients
      (init crowdedPlan { inventory := .ofList ["h1", "h2"], failHosts := ["h2"] }) manned :=
    (run_performAll _).trans (run_performAll _)
  have opened : manned.master = some "am" := by decide +kernel
  have total : min manned.plan.limits.target (manned.workers +
      ∑ host ∈ accepting (· == "h2") mixedContainers, min (arrivals mixedContainers host)
        (manned.plan.limits.maxPerHost - manned.roster.placement.count host)) = 2 := by
    decide +kernel
  have first := workers_of_deliveries run opened (· == "h2") mixedContainers [mixedContainers]
    (by decide +kernel) (by decide +kernel)
  have second := workers_of_deliveries run opened (· == "h2") mixedContainers
    [[Script.container 7 "h1"], [],
      [Script.container 6 "h2", Script.container 5 "h1", Script.container 4 "h1"]]
    (by decide +kernel) (by decide +kernel)
  exact ⟨first.1.trans total, second.1.trans total⟩

end Coordinator

end Muster
