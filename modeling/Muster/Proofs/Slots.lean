import Muster.Cluster.Action
import Muster.Proofs.Granting

/-!
The books of a simulated cluster. The slots in use on a host are the live containers on it, whatever
is granted, launched, handed back or ended. Once all granted containers are handled, those that live
are those that were launched and not ended.
-/

namespace Muster.Cluster

variable {cluster before after : Cluster} {container : Container} {ended rest : List Container}

structure Ends (before after : Cluster) (container : Container) : Prop where
  setup : SameSetup before after
  granted : after.granted = before.granted
  launches : after.launches = before.launches
  live : after.live = before.live.erase container.id.name
  slots : after.slots =
    before.slots.insert container.host (before.slotsUsed container.host - 1)

structure Runs (before after : Cluster) (container : Container) (context : LaunchContext) :
    Prop where
  setup : SameSetup before after
  granted : after.granted = before.granted
  launches : after.launches = before.launches ++ [(container, context)]
  live : after.live = before.live.insert container.id.name ⟨container, true⟩
  slots : after.slots = before.slots

theorem exists_complete {launched : Bool} (status : ExitStatus) (diagnostics : String)
    (live : cluster.live.get? container.id.name = some ⟨container, launched⟩) :
    ∃ ended, cluster.complete container.id status diagnostics = some ended ∧
      Ends cluster ended container := by
  refine ⟨_, by simp only [complete, live]; rfl, ?_⟩
  exact ⟨⟨rfl, rfl, rfl, rfl, rfl, rfl, id⟩, rfl, rfl, rfl, rfl⟩

theorem ends_release {launched : Bool}
    (live : cluster.live.get? container.id.name = some ⟨container, launched⟩) :
    Ends cluster (cluster.release container.id) container := by
  obtain ⟨ended, completed, ends⟩ :=
    exists_complete .aborted "Container released by application" live
  obtain ⟨⟨config, started, inventory, shutdown, failing, pending, surplus⟩, granted, launches,
    erased, slots⟩ := ends
  simp only [release, completed]
  exact ⟨⟨config, started, inventory, shutdown, failing, pending, surplus⟩, granted, launches,
    erased, slots⟩

theorem startContainer_refused (context : LaunchContext)
    (live : cluster.live.get? container.id.name = some ⟨container, false⟩)
    (failing : cluster.failingHosts.contains container.host = true) :
    ∃ error, (cluster.startContainer container context).1 = .error error ∧
      Ends cluster (cluster.startContainer container context).2 container := by
  obtain ⟨ended, completed, ends⟩ := exists_complete .invalid "launch failed" live
  refine ⟨.launchRefused container.host, ?_, ?_⟩
  · simp only [startContainer, live, failing, Bool.false_eq_true, if_false, if_true]
  · simpa only [startContainer, live, failing, completed, Bool.false_eq_true, if_false, if_true,
      Option.getD_some] using ends

theorem startContainer_launched (context : LaunchContext)
    (live : cluster.live.get? container.id.name = some ⟨container, false⟩)
    (willing : cluster.failingHosts.contains container.host = false) :
    (cluster.startContainer container context).1 = .ok () ∧
      Runs cluster (cluster.startContainer container context).2 container context := by
  simp only [startContainer, live, willing, Bool.false_eq_true, if_false]
  exact ⟨trivial, ⟨rfl, rfl, rfl, rfl, rfl, rfl, id⟩, rfl, rfl, rfl, rfl⟩

theorem Ends.get? (ends : Ends before after container) (name : String) :
    after.live.get? name =
      if container.id.name = name then none else before.live.get? name := by
  rw [ends.live, Dict.get?_erase]

theorem Ends.slotsUsed (ends : Ends before after container) (host : Host) :
    after.slotsUsed host =
      if container.host = host then before.slotsUsed container.host - 1
      else before.slotsUsed host := by
  rw [Cluster.slotsUsed, ends.slots]
  exact slotsUsed_insert _ _ _ _

theorem Runs.get? {context : LaunchContext} (runs : Runs before after container context)
    (name : String) : after.live.get? name =
      if container.id.name = name then some ⟨container, true⟩ else before.live.get? name := by
  rw [runs.live, Dict.get?_insert]

theorem Runs.slotsUsed {context : LaunchContext} (runs : Runs before after container context)
    (host : Host) : after.slotsUsed host = before.slotsUsed host := by
  rw [Cluster.slotsUsed, runs.slots]
  rfl

theorem start_cases (cluster : Cluster) :
    (∃ error, cluster.start = .error error) ∨
      cluster.started = false ∧ cluster.start = .ok { cluster with
        started := true
        reports := cluster.config.hosts.map fun host => ⟨host, true⟩ } := by
  simp only [start]
  split
  · exact .inl ⟨_, rfl⟩
  · rename_i stopped
    split
    · exact .inl ⟨_, rfl⟩
    · exact .inr ⟨Bool.eq_false_iff.mpr stopped, rfl⟩

theorem register_cases (cluster : Cluster) (registration : Registration) :
    (∃ error, cluster.register registration = .error error) ∨
      cluster.register registration = .ok { cluster with registration := some registration } := by
  simp only [register]
  split
  · exact .inl ⟨_, rfl⟩
  · split
    · exact .inl ⟨_, rfl⟩
    · exact .inr rfl

theorem unregister_cases (cluster : Cluster) (status : FinalStatus) (diagnostics : String) :
    (∃ error, cluster.unregister status diagnostics = .error error) ∨
      cluster.unregister status diagnostics =
        .ok { cluster with finalStatus := some (status, diagnostics) } := by
  simp only [unregister]
  split
  · exact .inl ⟨_, rfl⟩
  · exact .inr rfl

/-! ## The books -/

def occupied (cluster : Cluster) (host : Host) : Nat :=
  cluster.live.sumBy fun occupant => if occupant.container.host = host then 1 else 0

/-- The slots in use on each host are those of the live containers, and a container is listed under
the name that it was granted with. -/
structure Booked (cluster : Cluster) : Prop where
  slots : ∀ host, cluster.slotsUsed host = cluster.occupied host
  named : ∀ name occupant, cluster.live.get? name = some occupant →
    occupant.container.id.name = name ∧ ∃ index ≤ cluster.granted, name = containerName index

structure SameBooks (before after : Cluster) : Prop where
  live : after.live = before.live
  slots : after.slots = before.slots
  granted : after.granted = before.granted
  launches : after.launches = before.launches

/-- A container ended: its slot is free again, and no other container is touched. -/
structure Freed (before after : Cluster) (container : Container) : Prop where
  booked : after.Booked
  granted : after.granted = before.granted
  launches : after.launches = before.launches
  gone : after.live.get? container.id.name = none
  kept : ∀ name, name ≠ container.id.name → after.live.get? name = before.live.get? name
  slots : ∀ host, after.slotsUsed host + (if container.host = host then 1 else 0) =
    before.slotsUsed host

structure Started (before after : Cluster) (container : Container) : Prop where
  booked : after.Booked
  granted : after.granted = before.granted
  launches : ∃ context, after.launches = before.launches ++ [(container, context)]
  runs : after.live.get? container.id.name = some ⟨container, true⟩
  kept : ∀ name, name ≠ container.id.name → after.live.get? name = before.live.get? name
  slots : ∀ host, after.slotsUsed host = before.slotsUsed host

theorem booked_init (config : ClusterConfig) : (init config).Booked where
  slots _ := rfl
  named _ _ live := by simp [init] at live

theorem Booked.same (booked : before.Booked) (same : SameBooks before after) : after.Booked := by
  obtain ⟨used, named⟩ := booked
  obtain ⟨live, slots, granted, _⟩ := same
  refine ⟨?_, ?_⟩
  · intro host
    rw [slotsUsed, occupied, slots, live]
    exact used host
  · rw [live, granted]
    exact named

theorem occupied_insert (live : Dict Occupant) (name : String) (occupant : Occupant)
    (host : Host) :
    (live.insert name occupant).sumBy (fun other => if other.container.host = host then 1 else 0) +
        ((live.get? name).map fun other => if other.container.host = host then 1 else 0).getD 0 =
      live.sumBy (fun other => if other.container.host = host then 1 else 0) +
        if occupant.container.host = host then 1 else 0 :=
  Dict.sumBy_insert _ live name occupant

theorem Booked.freed {launched : Bool} (booked : before.Booked)
    (live : before.live.get? container.id.name = some ⟨container, launched⟩)
    (ends : Ends before after container) : Freed before after container := by
  obtain ⟨slots, named⟩ := booked
  have left (host : Host) :
      after.occupied host + (if container.host = host then 1 else 0) = before.occupied host := by
    have weights := Dict.sumBy_erase
      (fun one : Occupant => if one.container.host = host then 1 else 0) before.live
      container.id.name
    rw [live] at weights
    rw [occupied, ends.live]
    exact weights
  -- The container itself is counted, so that the subtraction is exact.
  have freed (host : Host) :
      after.slotsUsed host + (if container.host = host then 1 else 0) = before.slotsUsed host := by
    have less := left host
    have full := slots host
    rw [ends.slotsUsed]
    by_cases same : container.host = host
    · subst same
      simp only [if_true] at less ⊢
      omega
    · simp only [same, if_false, Nat.add_zero]
  refine ⟨⟨?_, ?_⟩, ends.granted, ends.launches, ?_, ?_, freed⟩
  · intro host
    have less := left host
    have used := freed host
    have full := slots host
    omega
  · intro name occupant found
    rw [ends.get?] at found
    split at found
    · cases found
    · rw [ends.granted]
      exact named name occupant found
  · rw [ends.get?, if_pos rfl]
  · intro name other
    rw [ends.get?, if_neg other.symm]

theorem Booked.started {context : LaunchContext} (booked : before.Booked)
    (live : before.live.get? container.id.name = some ⟨container, false⟩)
    (runs : Runs before after container context) : Started before after container := by
  refine ⟨⟨?_, ?_⟩, runs.granted, ⟨context, runs.launches⟩, ?_, ?_, runs.slotsUsed⟩
  · intro host
    have weights := occupied_insert before.live container.id.name ⟨container, true⟩ host
    rw [live] at weights
    have full := booked.slots host
    rw [runs.slotsUsed, full, occupied, occupied, runs.live]
    simp only [Option.map_some, Option.getD_some] at weights
    omega
  · intro name occupant found
    rw [runs.get?] at found
    rw [runs.granted]
    split at found
    · rename_i same
      rw [← Option.some.inj found, ← same]
      exact ⟨rfl, (booked.named _ _ live).2⟩
    · exact booked.named name occupant found
  · rw [runs.get?, if_pos rfl]
  · intro name other
    rw [runs.get?, if_neg other.symm]

theorem Booked.startContainer (booked : cluster.Booked) (context : LaunchContext)
    (live : cluster.live.get? container.id.name = some ⟨container, false⟩) :
    (∃ error, (cluster.startContainer container context).1 = .error error ∧
        Freed cluster (cluster.startContainer container context).2 container) ∨
      (cluster.startContainer container context).1 = .ok () ∧
        Started cluster (cluster.startContainer container context).2 container := by
  cases failing : cluster.failingHosts.contains container.host with
  | true =>
      obtain ⟨error, refused, ends⟩ := startContainer_refused context live failing
      exact .inl ⟨error, refused, booked.freed live ends⟩
  | false =>
      obtain ⟨launched, runs⟩ := startContainer_launched context live failing
      exact .inr ⟨launched, booked.started live runs⟩

theorem Booked.finish {id : ContainerId} {status : ExitStatus} {ended : Cluster}
    (booked : cluster.Booked) (finished : cluster.finish id status = .ok ended) :
    ∃ container, container.id = id ∧
      cluster.live.get? container.id.name = some ⟨container, true⟩ ∧
      Freed cluster ended container := by
  simp only [Cluster.finish] at finished
  split at finished
  · rename_i container live
    have named : container.id = id := by
      have name := (booked.named _ _ live).1
      cases id
      exact congrArg ContainerId.mk name
    subst named
    obtain ⟨after, completed, ends⟩ := exists_complete status "container exited" live
    rw [completed] at finished
    rw [← Except.ok.inj finished]
    exact ⟨container, rfl, live, booked.freed live ends⟩
  · cases finished

/-! ## Grants -/

/-- Some containers were granted, each with a slot of its own, and nothing else holds a slot that held
none before. -/
structure Allotted (before after : Cluster) (containers : List Container) : Prop where
  granted : Granted before after containers
  booked : before.Booked → after.Booked
  launches : after.launches = before.launches
  only : ∀ name occupant, after.live.get? name = some occupant →
    before.live.get? name = some occupant ∨ occupant.container ∈ containers

theorem Allotted.trans {third : Cluster} {containers others : List Container}
    (first : Allotted before after containers) (second : Allotted after third others) :
    Allotted before third (containers ++ others) := by
  refine ⟨first.granted.trans second.granted, fun booked => second.booked (first.booked booked),
    second.launches.trans first.launches, ?_⟩
  intro name occupant live
  rcases second.only name occupant live with earlier | given
  · rcases first.only name occupant earlier with old | given
    · exact .inl old
    · exact .inr (List.mem_append_left _ given)
  · exact .inr (List.mem_append_right _ given)

theorem allotted_nil (cluster : Cluster) : Allotted cluster cluster [] :=
  ⟨granted_nil cluster, id, rfl, fun _ _ live => .inl live⟩

theorem get?_grant (host : Host) (request : ContainerRequest) (name : String) :
    (cluster.grant host request).2.live.get? name =
      if containerName (cluster.granted + 1) = name
      then some ⟨(cluster.grant host request).1, false⟩ else cluster.live.get? name :=
  Dict.get?_insert _ _ _ _

theorem Booked.grant (booked : cluster.Booked) (host : Host) (request : ContainerRequest) :
    (cluster.grant host request).2.Booked := by
  let given := (cluster.grant host request).1
  have fresh : cluster.live.get? (containerName (cluster.granted + 1)) = none := by
    rw [Option.eq_none_iff_forall_ne_some]
    intro occupant live
    obtain ⟨_, index, within, same⟩ := booked.named _ _ live
    have equal := containerName_injective same
    omega
  refine ⟨?_, ?_⟩
  · intro other
    have weights := occupied_insert cluster.live (containerName (cluster.granted + 1))
      ⟨given, false⟩ other
    rw [fresh, Option.map_none, Option.getD_none, Nat.add_zero] at weights
    have used : (cluster.grant host request).2.slotsUsed other =
        cluster.slotsUsed other + [given].countP (·.host == other) :=
      (granted_grant host request).slots other
    rw [used, booked.slots, List.countP_singleton]
    simp only [beq_iff_eq]
    exact weights.symm
  · intro name occupant live
    rw [get?_grant] at live
    split at live
    · rename_i same
      rw [← Option.some.inj live, ← same]
      exact ⟨rfl, cluster.granted + 1, Nat.le_refl _, rfl⟩
    · obtain ⟨named, index, within, numbered⟩ := booked.named name occupant live
      exact ⟨named, index, Nat.le_succ_of_le within, numbered⟩

theorem allotted_grant (host : Host) (request : ContainerRequest) :
    Allotted cluster (cluster.grant host request).2 [(cluster.grant host request).1] := by
  refine ⟨granted_grant host request, fun booked => booked.grant host request, rfl, ?_⟩
  intro name occupant live
  rw [get?_grant] at live
  split at live
  · rw [← Option.some.inj live]
    exact .inr List.mem_cons_self
  · exact .inl live

theorem allotted_grantExtra (request : ContainerRequest) (extra : Nat) :
    ∀ cluster : Cluster,
      Allotted cluster (grantExtra request extra cluster).2 (grantExtra request extra cluster).1 := by
  induction extra with
  | zero => exact allotted_nil
  | succ extra ih =>
      intro cluster
      simp only [grantExtra]
      split
      · exact allotted_nil cluster
      · exact (allotted_grant _ request).trans (ih _)

theorem allotted_grantSurplus (request : ContainerRequest) :
    Allotted cluster (cluster.grantSurplus request).2 (cluster.grantSurplus request).1 := by
  let surplus := fun role => if role = request.role then 0 else cluster.surplus role
  have noted : Allotted cluster { cluster with surplus } [] := by
    refine ⟨⟨⟨rfl, rfl, rfl, rfl, rfl, rfl, ?_⟩, Nat.le_refl _, by simp, by simp, by simp,
      fun _ _ => rfl, fun _ => rfl⟩, fun booked => booked.same ⟨rfl, rfl, rfl, rfl⟩, rfl,
      fun _ _ => .inl⟩
    intro none role
    simp only [surplus]
    split
    · rfl
    · exact none role
  exact noted.trans (allotted_grantExtra request (cluster.surplus request.role) _)

theorem allotted_grantAll (requests : List ContainerRequest) :
    ∀ cluster : Cluster,
      Allotted cluster (grantAll requests cluster).2.2 (grantAll requests cluster).1 := by
  induction requests with
  | nil => exact allotted_nil
  | cons request rest ih =>
      intro cluster
      simp only [grantAll]
      split
      · exact ih cluster
      · exact ((allotted_grant _ request).trans (allotted_grantSurplus request)).trans (ih _)

/-- All live containers apart from `rest` were launched, and all containers that were launched are
live apart from those that `ended`. -/
structure Settled (ended rest : List Container) (cluster : Cluster) : Prop where
  booked : cluster.Booked
  waiting : ∀ container ∈ rest,
    cluster.live.get? container.id.name = some ⟨container, false⟩
  distinct : (rest.map (·.id.name)).Nodup
  handled : ∀ name container, cluster.live.get? name = some ⟨container, false⟩ → container ∈ rest
  launched : ∀ launch ∈ cluster.launches, launch.1 ∉ ended →
    cluster.live.get? launch.1.id.name = some ⟨launch.1, true⟩
  running : ∀ name container, cluster.live.get? name = some ⟨container, true⟩ →
    ∃ context, (container, context) ∈ cluster.launches
  past : ∀ container ∈ ended, cluster.live.get? container.id.name = none ∧
    ∃ index ≤ cluster.granted, container.id.name = containerName index

theorem settled_init (config : ClusterConfig) : Settled [] [] (init config) where
  booked := booked_init config
  waiting := by simp
  distinct := by simp
  handled _ _ live := by simp [init] at live
  launched := by simp [init]
  running _ _ live := by simp [init] at live
  past := by simp

theorem Settled.same (settled : Settled ended rest before) (same : SameBooks before after) :
    Settled ended rest after := by
  obtain ⟨booked, waiting, distinct, handled, launched, running, past⟩ := settled
  have still := booked.same same
  obtain ⟨live, _, granted, launches⟩ := same
  rw [← live] at waiting handled running
  rw [← live, ← launches] at launched
  rw [← live, ← granted] at past
  rw [← launches] at running
  exact ⟨still, waiting, distinct, handled, launched, running, past⟩

theorem Settled.perm {others : List Container} (settled : Settled ended rest cluster)
    (perm : rest.Perm others) : Settled ended others cluster := by
  obtain ⟨booked, waiting, distinct, handled, launched, running, past⟩ := settled
  refine ⟨booked, ?_, ?_, ?_, launched, running, past⟩
  · exact fun container member => waiting container (perm.mem_iff.mpr member)
  · exact (perm.map _).nodup_iff.mp distinct
  · exact fun name container live => perm.mem_iff.mp (handled name container live)

theorem Freed.earlier {name : String} {occupant : Occupant} (freed : Freed before after container)
    (live : after.live.get? name = some occupant) :
    name ≠ container.id.name ∧ before.live.get? name = some occupant := by
  have other : name ≠ container.id.name := by
    rintro rfl
    rw [freed.gone] at live
    cases live
  exact ⟨other, (freed.kept name other).symm.trans live⟩

theorem Freed.dead {name : String} (freed : Freed before after container)
    (dead : before.live.get? name = none) : after.live.get? name = none := by
  rw [Option.eq_none_iff_forall_ne_some]
  intro occupant live
  rw [(freed.earlier live).2] at dead
  cases dead

theorem Settled.name_ne {other : Container} {name : String}
    (settled : Settled ended (container :: rest) cluster)
    (live : cluster.live.get? name = some ⟨other, true⟩) : name ≠ container.id.name := by
  rintro rfl
  rw [settled.waiting container List.mem_cons_self] at live
  cases live

theorem Settled.freed (settled : Settled ended (container :: rest) before)
    (freed : Freed before after container) : Settled ended rest after := by
  have apart {name : String} {other : Container}
      (live : before.live.get? name = some ⟨other, true⟩) : name ≠ container.id.name :=
    settled.name_ne live
  obtain ⟨booked, waiting, distinct, handled, launched, running, past⟩ := settled
  rw [List.map_cons, List.nodup_cons] at distinct
  refine ⟨freed.booked, ?_, distinct.2, ?_, ?_, ?_, ?_⟩
  · intro other member
    rw [freed.kept _ fun same => distinct.1 (same ▸ List.mem_map_of_mem member)]
    exact waiting other (List.mem_cons_of_mem _ member)
  · intro name other live
    obtain ⟨different, earlier⟩ := freed.earlier live
    rcases List.mem_cons.mp (handled name other earlier) with rfl | later
    · exact absurd (booked.named _ _ earlier).1.symm different
    · exact later
  · intro launch member alive
    rw [freed.launches] at member
    have earlier := launched launch member alive
    rw [freed.kept _ (apart earlier)]
    exact earlier
  · intro name other live
    rw [freed.launches]
    exact running name other (freed.earlier live).2
  · intro other member
    rw [freed.granted]
    exact ⟨freed.dead (past other member).1, (past other member).2⟩

theorem Settled.started (settled : Settled ended (container :: rest) before)
    (started : Started before after container) : Settled ended rest after := by
  have apart {name : String} {other : Container}
      (live : before.live.get? name = some ⟨other, true⟩) : name ≠ container.id.name :=
    settled.name_ne live
  obtain ⟨booked, waiting, distinct, handled, launched, running, past⟩ := settled
  obtain ⟨still, granted, ⟨context, launches⟩, runs, kept, _⟩ := started
  rw [List.map_cons, List.nodup_cons] at distinct
  refine ⟨still, ?_, distinct.2, ?_, ?_, ?_, ?_⟩
  · intro other member
    rw [kept _ fun same => distinct.1 (same ▸ List.mem_map_of_mem member)]
    exact waiting other (List.mem_cons_of_mem _ member)
  · intro name other live
    by_cases same : name = container.id.name
    · rw [same, runs] at live
      cases live
    · rw [kept name same] at live
      rcases List.mem_cons.mp (handled name other live) with rfl | later
      · exact absurd (booked.named _ _ live).1.symm same
      · exact later
  · intro launch member alive
    rw [launches] at member
    rcases List.mem_append.mp member with earlier | last
    · have live := launched launch earlier alive
      rw [kept _ (apart live)]
      exact live
    · rw [List.mem_singleton.mp last]
      exact runs
  · intro name other live
    rw [launches]
    by_cases same : name = container.id.name
    · rw [same, runs] at live
      cases live
      exact ⟨context, by simp⟩
    · rw [kept name same] at live
      obtain ⟨earlier, member⟩ := running name other live
      exact ⟨earlier, List.mem_append_left _ member⟩
  · intro other member
    obtain ⟨dead, named⟩ := past other member
    rw [granted]
    refine ⟨?_, named⟩
    rw [kept, dead]
    intro same
    rw [same, waiting container List.mem_cons_self] at dead
    cases dead

theorem Settled.allotted {containers : List Container} (settled : Settled ended [] before)
    (allotted : Allotted before after containers) : Settled ended containers after := by
  obtain ⟨booked, _, _, handled, launched, running, past⟩ := settled
  obtain ⟨granted, still, launches, only⟩ := allotted
  have kept {index : Nat} (within : index ≤ before.granted) :
      after.live.get? (containerName index) = before.live.get? (containerName index) := by
    apply granted.kept
    intro fresh above same
    have equal := containerName_injective same
    omega
  refine ⟨still booked, granted.live, granted.distinct, ?_, ?_, ?_, ?_⟩
  · intro name container live
    rcases only name _ live with earlier | given
    · exact absurd (handled name container earlier) List.not_mem_nil
    · exact given
  · intro launch member alive
    rw [launches] at member
    have live := launched launch member alive
    obtain ⟨_, index, within, named⟩ := booked.named _ _ live
    rw [named] at live ⊢
    exact (kept within).trans live
  · intro name container live
    rw [launches]
    rcases only name _ live with earlier | given
    · exact running name container earlier
    · have idle := granted.live container given
      rw [((still booked).named _ _ live).1, live] at idle
      cases idle
  · intro container member
    obtain ⟨dead, index, within, named⟩ := past container member
    refine ⟨?_, index, Nat.le_trans within granted.later, named⟩
    rw [named] at dead ⊢
    exact (kept within).trans dead

theorem Settled.finished (settled : Settled ended rest before)
    (live : before.live.get? container.id.name = some ⟨container, true⟩)
    (freed : Freed before after container) : Settled (ended ++ [container]) rest after := by
  obtain ⟨booked, waiting, distinct, handled, launched, running, past⟩ := settled
  refine ⟨freed.booked, ?_, distinct, ?_, ?_, ?_, ?_⟩
  · intro other member
    have idle := waiting other member
    rw [freed.kept _ ?_]
    · exact idle
    · intro same
      rw [same, live] at idle
      cases idle
  · intro name other after
    exact handled name other (freed.earlier after).2
  · intro launch member alive
    simp only [List.mem_append, List.mem_singleton, not_or] at alive
    rw [freed.launches] at member
    have earlier := launched launch member alive.1
    rw [freed.kept _ ?_]
    · exact earlier
    · intro same
      rw [same, live] at earlier
      cases earlier
      exact alive.2 rfl
  · intro name other after
    rw [freed.launches]
    exact running name other (freed.earlier after).2
  · intro other member
    rw [freed.granted]
    rcases List.mem_append.mp member with earlier | last
    · exact ⟨freed.dead (past other earlier).1, (past other earlier).2⟩
    · rw [List.mem_singleton.mp last]
      exact ⟨freed.gone, (booked.named _ _ live).2⟩

end Muster.Cluster
