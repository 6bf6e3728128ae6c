import Muster.Proofs.History

/-!
What the records of a simulated cluster say about its containers, along with what it delivered.
Every container is granted under a name of its own, and ends once at most. It is listed among the
launches at most once, and so it is among those handed back.
-/

namespace Muster.Cluster

open Coordinator (Delivery)

variable {cluster before after : Cluster} {config : ClusterConfig} {trace : List Occurrence}
  {deliveries : List Delivery}

/-- The ends of containers, delivered or not. -/
def endsOf (deliveries : List Delivery) (cluster : Cluster) : List ContainerStatus :=
  endsIn deliveries ++ cluster.completed

theorem handedBack_ne_refusal (id other : ContainerId) : handedBack id ≠ refusal other := by
  simp [handedBack, refusal]

theorem exited_ne_refusal (id : ContainerId) (status : ExitStatus) (other : ContainerId) :
    exited id status ≠ refusal other := by
  simp [exited, refusal]

/-- What was granted, launched, handed back and ended agrees with what was delivered. -/
structure Traced (deliveries : List Delivery) (cluster : Cluster) : Prop where
  booked : cluster.Booked
  within : cluster.WithinSlots
  names : (containersIn deliveries).map (·.id.name) =
    (List.range' 1 cluster.granted).map containerName
  known : ∀ name occupant, cluster.live.get? name = some occupant →
    name ∈ (containersIn deliveries).map (·.id.name)
  ended : ((endsOf deliveries cluster).map (·.id.name)).Nodup
  gone : ∀ name, name ∈ (endsOf deliveries cluster).map (·.id.name) ↔
    name ∈ (containersIn deliveries).map (·.id.name) ∧ cluster.live.get? name = none
  launched : (cluster.launches.map (·.1.id.name)).Nodup
  given : ∀ launch ∈ cluster.launches,
    launch.1.id.name ∈ (containersIn deliveries).map (·.id.name)
  running : ∀ name occupant, cluster.live.get? name = some occupant →
    (occupant.launched = true ↔ name ∈ cluster.launches.map (·.1.id.name))
  released : cluster.released.Nodup
  handedBack : ∀ id ∈ cluster.released, handedBack id ∈ endsOf deliveries cluster
  refused : ∀ id, refusal id ∈ endsOf deliveries cluster →
    id.name ∉ cluster.launches.map (·.1.id.name)

theorem traced_init (config : ClusterConfig) : Traced [] (init config) where
  booked := booked_init config
  within _ := Nat.zero_le _
  names := rfl
  known _ _ live := by simp [init] at live
  ended := .nil
  gone _ := by simp [endsOf, endsIn, containersIn, init]
  launched := .nil
  given := by simp [init]
  running _ _ live := by simp [init] at live
  released := .nil
  handedBack := by simp [init]
  refused := by simp [endsOf, endsIn, init]

theorem Traced.ended_dead {status : ContainerStatus} (traced : Traced deliveries cluster)
    (member : status ∈ endsOf deliveries cluster) : cluster.live.get? status.id.name = none :=
  ((traced.gone _).mp (List.mem_map_of_mem member)).2

theorem Traced.live_unended {name : String} {occupant : Occupant}
    (traced : Traced deliveries cluster) (live : cluster.live.get? name = some occupant) :
    name ∉ (endsOf deliveries cluster).map (·.id.name) := by
  intro member
  rw [((traced.gone name).mp member).2] at live
  cases live

theorem Traced.same (traced : Traced deliveries before) (same : SameWork before after) :
    Traced deliveries after := by
  have ends : endsOf deliveries after = endsOf deliveries before := by
    rw [endsOf, same.completed, endsOf]
  refine ⟨traced.booked.same ⟨same.live, same.slots, same.granted, same.launches⟩, ?_, ?_, ?_, ?_,
    ?_, ?_, ?_, ?_, ?_, ?_, ?_⟩
  · intro host
    rw [slotsUsed, same.slots, same.config]
    exact traced.within host
  · rw [same.granted]
    exact traced.names
  · rw [same.live]
    exact traced.known
  · rw [ends]
    exact traced.ended
  · rw [ends, same.live]
    exact traced.gone
  · rw [same.launches]
    exact traced.launched
  · rw [same.launches]
    exact traced.given
  · rw [same.live, same.launches]
    exact traced.running
  · rw [same.released]
    exact traced.released
  · rw [same.released, ends]
    exact traced.handedBack
  · rw [ends, same.launches]
    exact traced.refused

/-! ## Ends -/

theorem get?_ending (occupant : Occupant) (status : ContainerStatus) (name : String) :
    (cluster.ending occupant status).live.get? name =
      if status.id.name = name then none else cluster.live.get? name :=
  Dict.get?_erase _ _ _

theorem Booked.freed_ending (booked : cluster.Booked) {occupant : Occupant}
    {status : ContainerStatus} (live : cluster.live.get? status.id.name = some occupant) :
    Freed cluster (cluster.ending occupant status) occupant.container := by
  have named := (booked.named _ _ live).1
  have held : cluster.live.get? occupant.container.id.name =
      some ⟨occupant.container, occupant.launched⟩ := by
    rw [named]
    exact live
  refine booked.freed held ⟨⟨rfl, rfl, rfl, rfl, rfl, rfl, id⟩, rfl, rfl, ?_, rfl⟩
  rw [named]
  rfl

theorem Traced.ending (traced : Traced deliveries cluster) {occupant : Occupant}
    {status : ContainerStatus} (live : cluster.live.get? status.id.name = some occupant)
    (idle : ∀ id, status = refusal id → occupant.launched = false) :
    Traced deliveries (cluster.ending occupant status) := by
  have freed := traced.booked.freed_ending live
  have ends : endsOf deliveries (cluster.ending occupant status) =
      endsOf deliveries cluster ++ [status] :=
    (List.append_assoc _ _ _).symm
  have earlier {name : String} {other : Occupant}
      (left : (cluster.ending occupant status).live.get? name = some other) :
      cluster.live.get? name = some other := by
    rw [get?_ending] at left
    split at left
    · cases left
    · exact left
  refine ⟨freed.booked, ?_, traced.names, ?_, ?_, ?_, traced.launched, traced.given, ?_,
    traced.released, ?_, ?_⟩
  · intro host
    have before := traced.within host
    have slots := freed.slots host
    change _ ≤ cluster.config.slotsPerHost
    omega
  · exact fun name other left => traced.known name other (earlier left)
  · rw [ends, List.map_append, List.map_singleton, ← List.concat_eq_append]
    exact traced.ended.concat (traced.live_unended live)
  · intro name
    rw [ends, List.map_append, List.mem_append, traced.gone, get?_ending, List.map_singleton,
      List.mem_singleton]
    by_cases same : status.id.name = name
    · subst same
      simp [traced.known _ _ live]
    · simp [same, Ne.symm same]
  · exact fun name other left => traced.running name other (earlier left)
  · intro id member
    rw [ends]
    exact List.mem_append_left _ (traced.handedBack id member)
  · intro id member
    rw [ends] at member
    rcases List.mem_append.mp member with old | last
    · exact traced.refused id old
    · -- What is refused now has never run.
      have same : refusal id = status := List.mem_singleton.mp last
      have unlaunched := idle id same.symm
      have name : status.id.name = id.name := by rw [← same]; rfl
      rw [name] at live
      intro launched
      rw [(traced.running _ _ live).mpr launched] at unlaunched
      cases unlaunched

theorem Traced.release (traced : Traced deliveries cluster) {occupant : Occupant}
    {id : ContainerId} (live : cluster.live.get? id.name = some occupant) :
    Traced deliveries { cluster.ending occupant (Cluster.handedBack id) with
      released := cluster.released ++ [id] } := by
  have fresh : id ∉ cluster.released := by
    intro member
    have dead := traced.ended_dead (traced.handedBack id member)
    rw [Cluster.handedBack, live] at dead
    cases dead
  have report : Cluster.handedBack id ∈
      endsOf deliveries (cluster.ending occupant (Cluster.handedBack id)) := by
    simp [endsOf, Cluster.ending]
  obtain ⟨booked, within, names, known, ended, gone, launched, given, running, released, back,
      refused⟩ : Traced deliveries (cluster.ending occupant (Cluster.handedBack id)) :=
    traced.ending live fun other same => absurd same (handedBack_ne_refusal id other)
  refine ⟨booked.same ⟨rfl, rfl, rfl, rfl⟩, within, names, known, ended, gone, launched, given,
    running, ?_, ?_, refused⟩
  · rw [← List.concat_eq_append]
    exact released.concat fresh
  · intro other member
    rcases List.mem_append.mp member with old | last
    · exact back other old
    · rw [List.mem_singleton.mp last]
      exact report

/-! ## Launches and heartbeats -/

theorem get?_launching (cluster : Cluster) (occupant : Occupant) (started name : String) :
    (cluster.live.insert started { occupant with launched := true }).get? name =
      if started = name then some { occupant with launched := true }
      else cluster.live.get? name :=
  Dict.get?_insert _ _ _ _

theorem Booked.launching (booked : cluster.Booked) {occupant : Occupant} {name : String}
    (live : cluster.live.get? name = some occupant) (launches : List (Container × LaunchContext)) :
    Booked { cluster with
      live := cluster.live.insert name { occupant with launched := true }
      launches } := by
  constructor
  · intro host
    have weights := occupied_insert cluster.live name { occupant with launched := true } host
    have slots := booked.slots host
    rw [live, Option.map_some, Option.getD_some] at weights
    simp only [occupied] at slots ⊢
    change cluster.slotsUsed host = _
    rw [slots]
    exact (Nat.add_right_cancel weights).symm
  · intro other found
    rw [get?_launching]
    split
    · rename_i same
      intro equal
      rw [← Option.some.inj equal, ← same]
      exact booked.named name occupant live
    · exact booked.named other found

theorem Traced.launch (traced : Traced deliveries cluster) {container : Container}
    (context : LaunchContext) {occupant : Occupant}
    (live : cluster.live.get? container.id.name = some occupant)
    (idle : occupant.launched = false) :
    Traced deliveries { cluster with
      live := cluster.live.insert container.id.name { occupant with launched := true }
      launches := cluster.launches ++ [(container, context)] } := by
  have unlaunched : container.id.name ∉ cluster.launches.map (·.1.id.name) := by
    rw [← traced.running _ _ live, idle]
    exact Bool.false_ne_true
  obtain ⟨booked, within, names, known, ended, gone, launched, given, running, released, back,
    refused⟩ := traced
  refine ⟨booked.launching live _, within, names, ?_, ended, ?_, ?_, ?_, ?_, released, back, ?_⟩
  · intro name other
    rw [get?_launching]
    split
    · rename_i same
      exact fun _ => same ▸ known _ _ live
    · exact known name other
  · intro name
    change name ∈ (endsOf deliveries cluster).map _ ↔ _
    rw [gone, get?_launching]
    split
    · rename_i same
      simp [← same, live]
    · exact Iff.rfl
  · rw [List.map_append, List.map_singleton, ← List.concat_eq_append]
    exact launched.concat unlaunched
  · intro launch member
    rcases List.mem_append.mp member with old | last
    · exact given launch old
    · rw [List.mem_singleton.mp last]
      exact known _ _ live
  · intro name other
    rw [get?_launching, List.map_append, List.mem_append, List.map_singleton, List.mem_singleton]
    split
    · rename_i same
      intro equal
      rw [← Option.some.inj equal]
      simp [same]
    · rename_i different
      intro earlier
      rw [running name other earlier]
      simp [Ne.symm different]
  · intro id member
    rw [List.map_append, List.mem_append, List.map_singleton, List.mem_singleton, not_or]
    refine ⟨refused id member, ?_⟩
    intro same
    have dead := ((gone id.name).mp (List.mem_map_of_mem (f := (·.id.name)) member)).2
    rw [same, live] at dead
    cases dead

theorem Traced.change (traced : Traced deliveries before) (change : Change before after) :
    Traced deliveries after := by
  cases change with
  | adjust same => exact traced.same same
  | launch container context occupant live idle => exact traced.launch context live idle
  | release id occupant live => exact traced.release live
  | refuse id occupant live idle => exact traced.ending live fun _ _ => idle
  | finish id status occupant live running =>
      exact traced.ending live fun other same => absurd same (exited_ne_refusal id status other)

theorem Traced.addRequest (traced : Traced deliveries cluster) (request : ContainerRequest) :
    Traced deliveries (cluster.addRequest request) := by
  obtain ⟨booked, within, names, known, ended, gone, launched, given, running, released, back,
    refused⟩ := traced
  exact ⟨booked.same ⟨rfl, rfl, rfl, rfl⟩, within, names, known, ended, gone, launched, given,
    running, released, back, refused⟩

theorem Granted.kept_earlier {containers : List Container} {index : Nat}
    (granted : Granted before after containers) (within : index ≤ before.granted) :
    after.live.get? (containerName index) = before.live.get? (containerName index) := by
  apply granted.kept
  intro fresh above same
  have equal := containerName_injective same
  omega

theorem Traced.index {name : String} (traced : Traced deliveries cluster)
    (member : name ∈ (containersIn deliveries).map (·.id.name)) :
    ∃ index ≤ cluster.granted, containerName index = name := by
  rw [traced.names] at member
  obtain ⟨index, among, named⟩ := List.mem_map.mp member
  have bounds := List.mem_range'_1.mp among
  exact ⟨index, by omega, named⟩

theorem endsOf_heartbeat (cluster : Cluster) (deliveries : List Delivery) :
    endsOf (deliveries ++ cluster.heartbeat.1) cluster.heartbeat.2 =
      endsOf deliveries cluster := by
  cases running : cluster.isRunning with
  | false => rw [heartbeat_stopped running, List.append_nil]
  | true =>
      rw [endsOf, endsIn, List.flatMap_append, (heartbeat_running running).2]
      exact (List.append_nil _).trans (congrArg _ (endsIn_heartbeat running))

theorem launches_heartbeat (cluster : Cluster) :
    cluster.heartbeat.2.launches = cluster.launches := by
  cases running : cluster.isRunning with
  | false => rw [heartbeat_stopped running]
  | true =>
      rw [(heartbeat_running running).2]
      exact (grants_grantAll _ _).records.launches

theorem Traced.get?_heartbeat {name : String} (traced : Traced deliveries cluster)
    (old : name ∈ (containersIn deliveries).map (·.id.name)) :
    cluster.heartbeat.2.live.get? name = cluster.live.get? name := by
  cases running : cluster.isRunning with
  | false => rw [heartbeat_stopped running]
  | true =>
      obtain ⟨index, within, rfl⟩ := traced.index old
      rw [(heartbeat_running running).2]
      exact (allotted_grantAll _ _).granted.kept_earlier within

theorem containersIn_beat (running : cluster.isRunning = true) :
    containersIn (deliveries ++ cluster.heartbeat.1) =
      containersIn deliveries ++ (grantAll cluster.pending cluster).1 := by
  rw [containersIn, List.flatMap_append]
  exact congrArg _ (containersIn_heartbeat running)

theorem Traced.unknown (traced : Traced deliveries cluster) {containers : List Container}
    (granted : Granted cluster after containers) {container : Container}
    (member : container ∈ containers) :
    container.id.name ∉ (containersIn deliveries).map (·.id.name) := by
  intro old
  obtain ⟨index, within, named⟩ := traced.index old
  obtain ⟨other, above, _, same⟩ := granted.named container member
  have equal := containerName_injective (named.trans same)
  omega

theorem Traced.unlaunched (traced : Traced deliveries cluster) {containers : List Container}
    (granted : Granted cluster after containers) {container : Container}
    (member : container ∈ containers) :
    container.id.name ∉ cluster.launches.map (·.1.id.name) := by
  intro old
  obtain ⟨launch, launched, same⟩ := List.mem_map.mp old
  exact traced.unknown granted member (same ▸ traced.given launch launched)

theorem Allotted.live_cases {containers : List Container}
    (allotted : Allotted before after containers) (booked : before.Booked) {name : String}
    {occupant : Occupant} (live : after.live.get? name = some occupant) :
    before.live.get? name = some occupant ∨
      ∃ container ∈ containers, container.id.name = name ∧ occupant.launched = false := by
  refine (allotted.only name occupant live).imp_right fun new => ?_
  have named := ((allotted.booked booked).named name occupant live).1
  have idle := allotted.granted.live occupant.container new
  rw [named, live] at idle
  refine ⟨occupant.container, new, named, ?_⟩
  rw [Option.some.inj idle]

theorem Traced.beat (traced : Traced deliveries cluster) :
    Traced (deliveries ++ cluster.heartbeat.1) cluster.heartbeat.2 := by
  have ends := endsOf_heartbeat cluster deliveries
  have launches := launches_heartbeat cluster
  have kept {name : String} (old : name ∈ (containersIn deliveries).map (·.id.name)) :=
    traced.get?_heartbeat old
  cases running : cluster.isRunning with
  | false =>
      rw [heartbeat_stopped running, List.append_nil]
      exact traced
  | true =>
      let containers := (grantAll cluster.pending cluster).1
      let granted := (grantAll cluster.pending cluster).2.2
      have grants : Grants cluster containers granted := grants_grantAll _ _
      have allotted : Allotted cluster granted containers := allotted_grantAll _ _
      have known : (containersIn (deliveries ++ cluster.heartbeat.1)).map (·.id.name) =
          (containersIn deliveries).map (·.id.name) ++ containers.map (·.id.name) := by
        rw [containersIn_beat running, List.map_append]
      -- The containers of the pass bear the next names, and are live and idle.
      obtain ⟨total, fresh⟩ := grants.numbered
      have released : granted.released = cluster.released := grants.records.released
      rw [(heartbeat_running running).2] at ends launches kept ⊢
      refine ⟨(allotted.booked traced.booked).same ⟨rfl, rfl, rfl, rfl⟩,
        grants.withinSlots traced.within, ?_, ?_, ?_, ?_, ?_, ?_, ?_, ?_, ?_, ?_⟩
      · rw [known, traced.names, fresh, ← List.map_append, Nat.add_comm cluster.granted 1,
          List.range'_append_1]
        change _ = (List.range' 1 granted.granted).map containerName
        rw [total]
      · intro name occupant live
        rw [known, List.mem_append]
        rcases allotted.live_cases traced.booked live with old | ⟨container, member, rfl, _⟩
        · exact .inl (traced.known name occupant old)
        · exact .inr (List.mem_map.mpr ⟨container, member, rfl⟩)
      · rw [ends]
        exact traced.ended
      · intro name
        rw [ends, traced.gone, known, List.mem_append]
        change _ ↔ _ ∧ granted.live.get? name = none
        constructor
        · rintro ⟨old, dead⟩
          exact ⟨.inl old, (kept old).trans dead⟩
        · rintro ⟨old | new, dead⟩
          · exact ⟨old, (kept old).symm.trans dead⟩
          · obtain ⟨container, member, rfl⟩ := List.mem_map.mp new
            rw [allotted.granted.live container member] at dead
            cases dead
      · rw [launches]
        exact traced.launched
      · intro launch member
        rw [launches] at member
        rw [known, List.mem_append]
        exact .inl (traced.given launch member)
      · intro name occupant live
        rw [launches]
        rcases allotted.live_cases traced.booked live with old | ⟨container, member, rfl, idle⟩
        · exact traced.running name occupant old
        · rw [idle]
          exact iff_of_false Bool.false_ne_true (traced.unlaunched allotted.granted member)
      · change granted.released.Nodup
        rw [released]
        exact traced.released
      · intro id member
        change id ∈ granted.released at member
        rw [released] at member
        rw [ends]
        exact traced.handedBack id member
      · intro id member
        rw [ends] at member
        rw [launches]
        exact traced.refused id member

theorem History.traced (history : History config trace cluster) :
    Traced (deliveredIn trace) cluster :=
  history.keeps (fun deliveries _ cluster => Traced deliveries cluster) (traced_init config)
    (fun _ _ _ _ change traced => traced.change change)
    (fun _ _ _ request traced => traced.addRequest request) fun _ _ _ traced => traced.beat

end Muster.Cluster
