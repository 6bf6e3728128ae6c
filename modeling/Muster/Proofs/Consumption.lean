import Muster.Proofs.Course
import Muster.Proofs.WorkerLimits

/-!
What becomes of the containers that are delivered. Each is used by exactly one call: a process is
launched in it or it is handed back.
-/

namespace Muster

inductive Call.Uses (container : Container) : Call → Prop
  | startContainer (context : LaunchContext) : Uses container (.startContainer container context)
  | release : Uses container (.release container.id)

/-- Each of some containers is used by one of some calls, and each call uses one of them. -/
def UsedOnce (containers : List Container) (calls : List Call) : Prop :=
  ∃ order : List Container, order.Perm containers ∧ List.Forall₂ Call.Uses order calls

theorem usedOnce_nil : UsedOnce [] [] :=
  ⟨[], .refl [], .nil⟩

theorem usedOnce_singleton {container : Container} {call : Call} (uses : call.Uses container) :
    UsedOnce [container] [call] :=
  ⟨[container], .refl _, .cons uses .nil⟩

theorem UsedOnce.append {containers others : List Container} {calls more : List Call}
    (first : UsedOnce containers calls) (second : UsedOnce others more) :
    UsedOnce (containers ++ others) (calls ++ more) := by
  obtain ⟨order, rearranged, used⟩ := first
  obtain ⟨later, rearrangedLater, usedLater⟩ := second
  exact ⟨order ++ later, rearranged.append rearrangedLater, List.rel_append used usedLater⟩

theorem UsedOnce.perm {containers others : List Container} {calls : List Call}
    (used : UsedOnce containers calls) (same : containers.Perm others) : UsedOnce others calls := by
  obtain ⟨order, rearranged, matching⟩ := used
  exact ⟨order, rearranged.trans same, matching⟩

theorem UsedOnce.filter {containers : List Container} {calls : List Call}
    (used : UsedOnce containers calls) : calls.filter Call.usesContainer = calls := by
  obtain ⟨order, same, matching⟩ := used
  clear same
  induction matching with
  | nil => rfl
  | cons uses _ ih =>
      cases uses with
      | startContainer context => exact congrArg (_ :: ·) ih
      | release => exact congrArg (_ :: ·) ih

def LaunchTemplate.masterCalls (template : LaunchTemplate) : List Container → List Call
  | [] => []
  | first :: others =>
    others.map (fun other => .release other.id) ++ [.startContainer first template.forMaster]

namespace Coordinator

variable {σ : Type} {clients : Clients σ} {c c' : Coordinator σ} {trace : List Happening}

def calls (c : Coordinator σ) : List Call :=
  (c.journal.filterMap Entry.call?).reverse

def uses (c : Coordinator σ) : List Call :=
  c.calls.filter Call.usesContainer

def workerCall (address : String) (container : Container) (c : Coordinator σ) : Call :=
  if c.plan.limits.target ≤ c.workers ∨
      c.plan.limits.maxPerHost ≤ c.roster.placement.count container.host then
    .release container.id
  else .startContainer container (c.plan.launch.forWorker address)

theorem usedOnce_masterCalls (template : LaunchTemplate) (containers : List Container) :
    UsedOnce containers (template.masterCalls containers) := by
  cases containers with
  | nil => exact usedOnce_nil
  | cons first others =>
      have released : UsedOnce others (others.map fun other => .release other.id) := by
        refine ⟨others, .refl _, ?_⟩
        rw [List.forall₂_map_right_iff, List.forall₂_same]
        exact fun _ _ => .release
      have launched : UsedOnce [first] [.startContainer first template.forMaster] :=
        usedOnce_singleton (.startContainer template.forMaster)
      exact (released.append launched).perm (List.perm_append_singleton first others)

theorem calls_launchMasterIn (container : Container) :
    (c.launchMasterIn clients container).calls =
      c.calls ++ [.startContainer container c.plan.launch.forMaster] := by
  cases outcome : (clients.startContainer container c.plan.launch.forMaster c.env).1 with
  | ok =>
      rw [launchMasterIn_launched container outcome]
      exact List.reverse_cons
  | error cause =>
      rw [launchMasterIn_failed container outcome]
      exact List.reverse_cons

theorem calls_placeMaster (containers : List Container) :
    (c.placeMaster clients containers).calls =
      c.calls ++ c.plan.launch.masterCalls containers := by
  have launched (first : Container) (others : List Container) : ∀ c : Coordinator σ,
      (Coordinator.launchMasterIn clients first
          (others.foldl (fun c other => c.release clients other.id) c)).calls =
        c.calls ++ c.plan.launch.masterCalls (first :: others) := by
    induction others with
    | nil => exact fun c => calls_launchMasterIn first
    | cons other others ih =>
        intro c
        have released : (c.release clients other.id).calls = c.calls ++ [.release other.id] :=
          List.reverse_cons
        rw [List.foldl_cons, ih, released]
        simp [LaunchTemplate.masterCalls, release, tell]
  match containers with
  | [] => exact (List.append_nil _).symm
  | [container] => exact launched container [] c
  | container :: second :: rest =>
      exact launched container (second :: rest) (c.log (.surplusMasters (rest.length + 2)))

theorem uses_workerCall (address : String) (container : Container) :
    (c.workerCall address container).Uses container := by
  unfold workerCall
  split
  · exact .release
  · exact .startContainer _

theorem calls_placeWorker (address : String) (container : Container) :
    (c.placeWorker clients (c.plan.launch.forWorker address) container).calls =
      c.calls ++ [c.workerCall address container] := by
  cases decision : c.roster.hasEnough c.plan.limits ||
      c.roster.isHostFull c.plan.limits container.host with
  | true =>
      have refused : c.plan.limits.target ≤ c.workers ∨
          c.plan.limits.maxPerHost ≤ c.roster.placement.count container.host := by
        simpa [workers, Roster.hasEnough, Roster.isHostFull, Placement.isFull] using decision
      have call : c.workerCall address container = .release container.id := if_pos refused
      rw [placeWorker_refused _ _ decision, call]
      exact List.reverse_cons
  | false =>
      have accepted : ¬(c.plan.limits.target ≤ c.workers ∨
          c.plan.limits.maxPerHost ≤ c.roster.placement.count container.host) := by
        simpa [workers, Roster.hasEnough, Roster.isHostFull, Placement.isFull] using decision
      have call : c.workerCall address container =
          .startContainer container (c.plan.launch.forWorker address) := if_neg accepted
      cases outcome : (clients.startContainer container
          (c.plan.launch.forWorker address) c.env).1 with
      | ok =>
          rw [placeWorker_launched _ _ decision outcome, call]
          exact List.reverse_cons
      | error cause =>
          rw [placeWorker_failed _ _ decision outcome, call]
          exact List.reverse_cons

def workerCalls (clients : Clients σ) (address : String) (containers : List Container)
    (c : Coordinator σ) : List Call :=
  containers.mapIdx fun index container =>
    (c.onAllocated clients (containers.take index)).workerCall address container

theorem workerCalls_append (address : String) (containers : List Container) (last : Container) :
    c.workerCalls clients address (containers ++ [last]) = c.workerCalls clients address containers ++
      [(c.onAllocated clients containers).workerCall address last] := by
  have earlier : containers.mapIdx (fun index container =>
      (c.onAllocated clients ((containers ++ [last]).take index)).workerCall address container) =
        c.workerCalls clients address containers := by
    apply List.ext_getElem
    · simp [workerCalls]
    · intro index bound _
      have inside : index ≤ containers.length := by
        rw [List.length_mapIdx] at bound
        omega
      simp [workerCalls, List.take_append_of_le_length inside]
  rw [workerCalls, List.mapIdx_append_one, earlier, List.take_left]

theorem calls_placeWorkers {address : String} (opened : c.master = some address)
    (containers : List Container) :
    (c.onAllocated clients containers).calls =
      c.calls ++ c.workerCalls clients address containers := by
  induction containers using List.reverseRecOn with
  | nil => simp [onAllocated, opened, workerCalls]
  | append_singleton containers last ih =>
      rw [onAllocated_append opened, calls_placeWorker, ih, workerCalls_append, List.append_assoc]

theorem forall₂_workerCalls (address : String) (containers : List Container) :
    List.Forall₂ Call.Uses containers (c.workerCalls clients address containers) := by
  induction containers using List.reverseRecOn with
  | nil => exact .nil
  | append_singleton containers last ih =>
      rw [workerCalls_append]
      exact List.rel_append ih (.cons (uses_workerCall address last) .nil)

theorem usedOnce_workerCalls (address : String) (containers : List Container) :
    UsedOnce containers (c.workerCalls clients address containers) :=
  ⟨containers, .refl _, forall₂_workerCalls address containers⟩

/-! ## Whole courses -/

theorem Course.usedOnce {plan : BringupPlan} {env : σ}
    (course : Course clients (init plan env) trace c) : UsedOnce (deliveredIn trace) c.uses := by
  induction course with
  | refl => exact usedOnce_nil
  | @tail trace _ d _ _ act ih =>
      cases act with
      | aside env phase done control entries elsewhere =>
          have unused : (entries.filterMap Entry.call?).reverse.filter Call.usesContainer = [] := by
            rw [List.filter_eq_nil_iff]
            intro call member
            rw [List.mem_reverse, List.mem_filterMap] at member
            obtain ⟨entry, inside, recorded⟩ := member
            simp [(elsewhere entry inside).unused call recorded]
          simpa [uses, calls, unused] using ih
      | plan known round roster planned => exact ih
      | offer containers closed =>
          have made : UsedOnce containers (d.plan.launch.masterCalls containers) :=
            usedOnce_masterCalls d.plan.launch containers
          rw [uses, calls_placeMaster, List.filter_append, made.filter]
          exact ih.append made
      | answer container address opened =>
          have made : UsedOnce [container] [d.workerCall address container] :=
            usedOnce_singleton (uses_workerCall address container)
          rw [uses, calls_placeWorker, List.filter_append, made.filter]
          exact ih.append made

/-- What is done with a batch of containers. -/
structure Routes (clients : Clients σ) (containers : List Container) (c : Coordinator σ)
    (made : List Call) : Prop where
  calls : (c.onAllocated clients containers).calls = c.calls ++ made
  once : UsedOnce containers made
  course : ∃ trace, Course clients c trace (c.onAllocated clients containers) ∧
    deliveredIn trace = containers
  closed : c.master = none → made = c.plan.launch.masterCalls containers
  opened : ∀ address, c.master = some address → made = c.workerCalls clients address containers

theorem exists_routes (containers : List Container) :
    ∃ made, Routes clients containers c made := by
  cases master : c.master with
  | none =>
      refine ⟨c.plan.launch.masterCalls containers, ?_, usedOnce_masterCalls _ _,
        course_onAllocated containers, ?_, ?_⟩
      · simp only [onAllocated, master]
        exact calls_placeMaster containers
      · exact fun _ => rfl
      · intro address opened
        simp [opened] at master
  | some address =>
      refine ⟨c.workerCalls clients address containers, calls_placeWorkers master containers,
        usedOnce_workerCalls _ _, course_onAllocated containers, ?_, ?_⟩
      · intro closed
        simp [closed] at master
      · intro other opened
        rw [master] at opened
        rw [Option.some.inj opened]

/-- Each container that is delivered is used by exactly one call: in every batch, whatever the state
that it finds, and over every course, which every run is. -/
theorem containers_used_once (clients : Clients σ) :
    (∀ (c : Coordinator σ) (containers : List Container),
        ∃ made, Routes clients containers c made) ∧
      ∀ (plan : BringupPlan) (env : σ),
        (∀ c, Run clients (init plan env) c → ∃ trace, Course clients (init plan env) trace c) ∧
        ∀ trace c, Course clients (init plan env) trace c → UsedOnce (deliveredIn trace) c.uses := by
  refine ⟨fun c containers => exists_routes containers, fun plan env => ⟨?_, ?_⟩⟩
  · exact fun c run => run.leads
  · exact fun trace c course => course.usedOnce

def waiting : Coordinator Script :=
  performAll Script.clients [.start, .request, .resume]
    (init crowdedPlan { inventory := .ofList ["h1", "h2"], failHosts := ["h2"] })

def manned : Coordinator Script :=
  performAll Script.clients
    [.receive (.allocated [Script.container 1 "h2", Script.container 2 "am"]),
      .receive (.allocated []), .receive (.allocated [Script.container 3 "am"]), .resume] waiting

theorem containers_used_once_manned :
    (waiting.onAllocated Script.clients [Script.container 1 "h2", Script.container 2 "am"]).calls =
        waiting.calls ++ [.release (Script.container 2 "am").id,
          .startContainer (Script.container 1 "h2") crowdedPlan.launch.forMaster] ∧
      (manned.onAllocated Script.clients [Script.container 4 "h1", Script.container 5 "h1",
          Script.container 6 "h1", Script.container 7 "h2"]).calls =
        manned.calls ++
          [.startContainer (Script.container 4 "h1") (crowdedPlan.launch.forWorker "am"),
            .startContainer (Script.container 5 "h1") (crowdedPlan.launch.forWorker "am"),
            .release (Script.container 6 "h1").id,
            .startContainer (Script.container 7 "h2") (crowdedPlan.launch.forWorker "am")] ∧
      ∃ trace, UsedOnce (deliveredIn trace) manned.uses ∧ manned.uses.length = 3 := by
  obtain ⟨routes, runs⟩ := containers_used_once Script.clients
  refine ⟨?_, ?_, ?_⟩
  · obtain ⟨made, routed⟩ :=
      routes waiting [Script.container 1 "h2", Script.container 2 "am"]
    have closed : waiting.master = none := by decide +kernel
    rw [routed.calls, routed.closed closed]
    rfl
  · obtain ⟨made, routed⟩ := routes manned [Script.container 4 "h1", Script.container 5 "h1",
      Script.container 6 "h1", Script.container 7 "h2"]
    have opened : manned.master = some "am" := by decide +kernel
    rw [routed.calls, routed.opened "am" opened]
    decide +kernel
  · obtain ⟨followed, used⟩ := runs crowdedPlan
      { inventory := .ofList ["h1", "h2"], failHosts := ["h2"] }
    obtain ⟨trace, course⟩ :=
      followed manned ((run_performAll _).trans (run_performAll _))
    exact ⟨trace, used trace manned course, by decide +kernel⟩

end Coordinator

end Muster
