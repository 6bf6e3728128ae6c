import Muster.Proofs.Agreement
import Muster.Proofs.Consumption

/-!
The address that workers are told. A cluster joins a host and a port with a colon, and the master's
address is what stands before the first colon. That is the host unless the host has a colon itself.
-/

namespace Muster

def Container.OnPort (container : Container) : Prop :=
  container.nodeHttpAddress = container.host ++ ":8042"

def Call.OnPort : Call → Prop
  | startContainer container _ => container.OnPort
  | _ => True

theorem Call.Uses.onPort {container : Container} {call : Call} (uses : call.Uses container)
    (onPort : container.OnPort) : call.OnPort := by
  cases uses with
  | startContainer => exact onPort
  | release => trivial

theorem UsedOnce.onPort {containers : List Container} {calls : List Call}
    (used : UsedOnce containers calls) (onPort : ∀ container ∈ containers, container.OnPort) :
    ∀ call ∈ calls, call.OnPort := by
  obtain ⟨order, same, matching⟩ := used
  have all : ∀ container ∈ order, container.OnPort :=
    fun container member => onPort container (same.subset member)
  clear same
  induction matching with
  | nil => simp
  | cons uses _ ih =>
      obtain ⟨first, rest⟩ := List.forall_mem_cons.mp all
      exact List.forall_mem_cons.mpr ⟨uses.onPort first, ih rest⟩

theorem Container.OnPort.netAddress {container : Container} (onPort : container.OnPort) :
    container.netAddress = String.ofList (container.host.toList.takeWhile (· != ':')) := by
  have port : (":8042" : String).toList.takeWhile (· != ':') = [] := by decide
  rw [Container.netAddress, onPort, String.toList_append, List.takeWhile_append, port,
    List.append_nil]
  split
  · rename_i whole
    rw [(List.takeWhile_prefix _).eq_of_length whole]
  · rfl

theorem Container.OnPort.netAddress_eq_host {container : Container} (onPort : container.OnPort) :
    container.netAddress = container.host ↔ ':' ∉ container.host.toList := by
  rw [onPort.netAddress]
  constructor
  · intro same member
    rw [← same, String.toList_ofList] at member
    simpa using List.mem_takeWhile_imp member
  · intro none
    have all : container.host.toList.takeWhile (· != ':') = container.host.toList := by
      rw [List.takeWhile_eq_self_iff]
      intro letter member
      have other : letter ≠ ':' := fun same => none (same ▸ member)
      simpa using other
    rw [all, String.ofList_toList]

/-! ## The containers of a cluster -/

namespace Cluster

open Coordinator (Delivery)

theorem onPort_grantExtra (request : ContainerRequest) (extra : Nat) (cluster : Cluster) :
    ∀ container ∈ (grantExtra request extra cluster).1, container.OnPort := by
  induction extra generalizing cluster with
  | zero => simp [grantExtra]
  | succ extra ih =>
      simp only [grantExtra]
      split
      · simp
      · rename_i host _
        exact List.forall_mem_cons.mpr ⟨rfl, ih _⟩

theorem onPort_grantAll (requests : List ContainerRequest) (cluster : Cluster) :
    ∀ container ∈ (grantAll requests cluster).1, container.OnPort := by
  induction requests generalizing cluster with
  | nil => simp [grantAll]
  | cons request rest ih =>
      simp only [grantAll]
      split
      · exact ih cluster
      · rename_i host _
        intro container member
        rcases List.mem_append.mp member with first | later
        · rcases List.mem_cons.mp first with rfl | extra
          · rfl
          · exact onPort_grantExtra _ _ _ container extra
        · exact ih _ container later

theorem onPort_heartbeat (cluster : Cluster) (containers : List Container)
    (delivered : .allocated containers ∈ cluster.heartbeat.1) :
    ∀ container ∈ containers, container.OnPort := by
  have deliver_mem {α : Type} {make : List α → Delivery} {items : List α} {delivery : Delivery}
      (member : delivery ∈ deliver make items) : delivery = make items := by
    cases items with
    | nil => simp [deliver] at member
    | cons item items => simpa [deliver] using member
  simp only [heartbeat] at delivered
  split at delivered
  · simp only [List.mem_append] at delivered
    rcases delivered with ((nodes | completed) | allocated) | shutdown
    · cases deliver_mem nodes
    · cases deliver_mem completed
    · cases deliver_mem allocated
      exact onPort_grantAll _ _
    · split at shutdown
      · simp at shutdown
      · simp at shutdown
  · simp at delivered

end Cluster

namespace Coordinator

open Relation (ReflTransGen)

variable {c : Coordinator Cluster} {plan : BringupPlan} {config : ClusterConfig}
  {ended : List Container}

/-- All containers in which something was started have the addresses of their hosts. -/
def OnPort (c : Coordinator Cluster) : Prop :=
  ∀ call ∈ c.calls, call.OnPort

theorem OnPort.call (onPort : c.OnPort) (env : Cluster) (failure : Option String) {call : Call}
    (other : call.OnPort) : OnPort { c with env, journal := .call call failure :: c.journal } := by
  have calls : Coordinator.calls { c with env, journal := .call call failure :: c.journal } =
      c.calls ++ [call] := List.reverse_cons
  intro made member
  rw [calls, List.mem_append, List.mem_singleton] at member
  rcases member with earlier | rfl
  · exact onPort made earlier
  · exact other

theorem covers_onPort : CoversSequence Cluster.clients (Keeps OnPort) where
  refl _ := id
  trans first second start := second (first start)
  set _ _ _ := id
  log _ _ _ := id
  ask c _ act asks onPort := onPort.call (act c.env).2 _ (by cases asks <;> trivial)
  tell c _ act tells onPort := onPort.call (act c.env) _ (by cases tells <;> trivial)
  turn _ _ := id
  list c onPort := onPort.call (Cluster.clients.nodeHosts c.env).2.2 _ trivial
  plan _ _ _ _ _ := id
  announce _ _ _ _ := id
  request c request onPort := onPort.call (c.env.addRequest request) none trivial

theorem OnPort.onAllocated (onPort : c.OnPort) {containers : List Container}
    (granted : ∀ container ∈ containers, container.OnPort) :
    (c.onAllocated Cluster.clients containers).OnPort := by
  have ⟨made, routes⟩ : ∃ made, Routes Cluster.clients containers c made :=
    exists_routes containers
  intro call member
  rw [routes.calls, List.mem_append] at member
  rcases member with earlier | now
  · exact onPort call earlier
  · exact routes.once.onPort granted call now

theorem OnPort.receiveAll (deliveries : List Delivery) :
    ∀ {c : Coordinator Cluster}, c.OnPort →
      (∀ containers, .allocated containers ∈ deliveries →
        ∀ container ∈ containers, container.OnPort) →
      (deliveries.foldl (fun c delivery => c.receive Cluster.clients delivery) c).OnPort := by
  induction deliveries with
  | nil => exact fun onPort _ => onPort
  | cons delivery rest ih =>
      intro c onPort granted
      refine ih ?_ fun containers member => granted containers (List.mem_cons_of_mem _ member)
      cases delivery with
      | allocated containers =>
          exact onPort.onAllocated (granted containers List.mem_cons_self)
      | _ => exact covers_onPort.toCoversCalls.receive (by simp) c onPort

theorem Driven.onPort (driven : Driven plan config ended c) : c.OnPort := by
  induction driven with
  | init => exact fun _ member => absurd member List.not_mem_nil
  | perform action own _ ih => exact covers_onPort.perform own _ ih
  | intervene intervention _ ih => exact ih
  | @beat ended c _ ih =>
      exact OnPort.receiveAll _ ih fun containers => Cluster.onPort_heartbeat c.env containers

theorem run_receiveAll (deliveries : List Delivery) : ∀ c : Coordinator Cluster,
    Run Cluster.clients c
      (deliveries.foldl (fun c delivery => c.receive Cluster.clients delivery) c) := by
  induction deliveries with
  | nil => exact fun _ => .refl
  | cons delivery rest ih => exact fun c => .head (.perform (.receive delivery) trivial) (ih _)

theorem Driven.run (driven : Driven plan config ended c) :
    Run Cluster.clients (Bringup.init plan config) c := by
  induction driven with
  | init => exact .refl
  | perform action _ _ ih => exact ih.tail (.perform action trivial)
  | intervene intervention _ ih => exact ih.tail (.environment _)
  | beat _ ih => exact (ih.tail (.environment _)).trans (run_receiveAll _ _)

/-! ## The law -/

/-- On a simulated cluster the master's address, which every worker is told, is the part of the
master's host before the first colon. It is the host if and only if the host has no colon. -/
theorem master_address {address : String} (driven : Driven plan config ended c)
    (known : c.master = some address) :
    ∃ container before after, LaunchedIn container before after c ∧ container.OnPort ∧
      address = String.ofList (container.host.toList.takeWhile (· != ':')) ∧
      (address = container.host ↔ ':' ∉ container.host.toList) ∧
      ∀ worker context failure, .call (.startContainer worker context) failure ∈ after →
        context = c.plan.launch.forWorker address ∧
          (c.plan.launch.variableName "MASTER_HOSTNAME", address) ∈ context.environment.entries := by
  obtain ⟨container, before, after, launched⟩ :=
    (masterFirst_of_run driven.run).manned (Option.isSome_iff_exists.mpr ⟨address, known⟩)
  have same : container.netAddress = address := by
    rw [launched.opened] at known
    exact Option.some.inj known
  have onPort : container.OnPort := by
    refine driven.onPort (.startContainer container c.plan.launch.forMaster) ?_
    rw [calls, List.mem_reverse, List.mem_filterMap, launched.journal]
    exact ⟨_, List.mem_append_right _ List.mem_cons_self, rfl⟩
  refine ⟨container, before, after, launched, onPort, ?_, ?_, ?_⟩
  · rw [← same]
    exact onPort.netAddress
  · rw [← same]
    exact onPort.netAddress_eq_host
  · intro worker context failure member
    have informed : context = c.plan.launch.forWorker container.netAddress :=
      launched.later _ member
    rw [same] at informed
    refine ⟨informed, ?_⟩
    rw [informed, LaunchTemplate.entries_forWorker]
    simp

def broughtUp (hosts : List Host) : Coordinator Cluster :=
  Bringup.takeAll [.perform .start, .perform .request, .tick 2]
    (Bringup.init crowdedPlan { hosts })

theorem master_address_h1 :
    (broughtUp ["h1", "h2"]).master = some "h1" ∧ (broughtUp ["h1", "h2"]).workers = 3 ∧
      ∃ container before after, LaunchedIn container before after (broughtUp ["h1", "h2"]) ∧
        container.nodeHttpAddress = container.host ++ ":8042" ∧
        "h1" = String.ofList (container.host.toList.takeWhile (· != ':')) ∧
        ("h1" = container.host ↔ ':' ∉ container.host.toList) := by
  have driven : Driven crowdedPlan { hosts := ["h1", "h2"] } _ (broughtUp ["h1", "h2"]) :=
    driven_takeAll _ (by decide)
  have known : (broughtUp ["h1", "h2"]).master = some "h1" := by decide +kernel
  obtain ⟨container, before, after, launched, onPort, part, whole, _⟩ :=
    master_address driven known
  exact ⟨known, by decide +kernel, container, before, after, launched, onPort, part, whole⟩

theorem master_address_colons :
    (broughtUp ["fe80::7", "fe80::8"]).master = some "fe80" ∧
      (broughtUp ["fe80::7", "fe80::8"]).env.launches.map (fun launch =>
        (launch.1.host, launch.2.environment.get? "APP_MASTER_HOSTNAME")) =
        [("fe80::7", none), ("fe80::8", some "fe80"), ("fe80::7", some "fe80"),
          ("fe80::8", some "fe80")] := by
  constructor
  · decide +kernel
  · decide +kernel

end Coordinator

end Muster
