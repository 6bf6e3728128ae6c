import Muster.Proofs.Slots
import Muster.Proofs.Stages

/-!
What a coordinator does with the containers that a simulated cluster granted it. Each of them is
either launched and recorded, or it ends and its slot is free again. So the slots in use on a host
are at most those of its workers, of the master and of the containers still to be handled.
-/

namespace Muster

namespace Cluster

structure Handled (before after : Cluster) (container : Container) (freed : Bool) : Prop where
  setup : SameSetup before after
  kept : ∀ name, name ≠ container.id.name → after.live.get? name = before.live.get? name
  slots : ∀ host, after.slotsUsed host =
    before.slotsUsed host - if freed && container.host == host then 1 else 0

variable {before after : Cluster} {container : Container}

theorem Ends.handled (ends : Ends before after container) : Handled before after container true := by
  refine ⟨ends.setup, ?_, ?_⟩
  · intro name other
    rw [ends.get?, if_neg other.symm]
  · intro host
    rw [ends.slotsUsed]
    by_cases same : container.host = host
    · simp [same]
    · simp [same]

theorem Runs.handled {context : LaunchContext} (runs : Runs before after container context) :
    Handled before after container false := by
  refine ⟨runs.setup, ?_, ?_⟩
  · intro name other
    rw [runs.get?, if_neg other.symm]
  · intro host
    rw [runs.slotsUsed]
    simp

end Cluster

namespace Coordinator

open Cluster (Handled)

variable {c : Coordinator Cluster} {container : Container}

theorem placeWorker_handled (context : LaunchContext)
    (live : c.env.live.get? container.id.name = some ⟨container, false⟩) :
    (Handled c.env (c.placeWorker Cluster.clients context container).env container true ∧
        (c.placeWorker Cluster.clients context container).roster = c.roster.answer ∨
      Handled c.env (c.placeWorker Cluster.clients context container).env container false ∧
        c.roster.hasEnough c.plan.limits = false ∧
        c.roster.isHostFull c.plan.limits container.host = false ∧
        (c.placeWorker Cluster.clients context container).roster =
          (c.roster.record container.host).answer) ∧
      (c.env.failingHosts = [] → (c.placeWorker Cluster.clients context container).roster =
        c.roster.place c.plan.limits container.host) := by
  cases decision : c.roster.hasEnough c.plan.limits ||
      c.roster.isHostFull c.plan.limits container.host with
  | true =>
      rw [placeWorker_refused _ _ decision]
      refine ⟨.inl ⟨(Cluster.ends_release live).handled, rfl⟩, ?_⟩
      intro _
      simp only [Roster.place, decision, if_true]
  | false =>
      obtain ⟨wanted, room⟩ := Bool.or_eq_false_iff.mp decision
      cases failing : c.env.failingHosts.contains container.host with
      | true =>
          obtain ⟨error, refused, ends⟩ := Cluster.startContainer_refused context live failing
          have failed : (Cluster.clients.startContainer container context c.env).1 =
              .error error.message := by
            simp only [Cluster.clients, refused, Except.mapError]
          rw [placeWorker_failed _ _ decision failed]
          refine ⟨.inl ⟨ends.handled, rfl⟩, ?_⟩
          intro none
          simp [none] at failing
      | false =>
          obtain ⟨started, runs⟩ := Cluster.startContainer_launched context live failing
          have launched : (Cluster.clients.startContainer container context c.env).1 = .ok () := by
            simp only [Cluster.clients, started, Except.mapError]
          rw [placeWorker_launched _ _ decision launched]
          refine ⟨.inr ⟨runs.handled, wanted, room, rfl⟩, ?_⟩
          intro _
          simp only [Roster.place, decision, Bool.false_eq_true, if_false]

/-- Some containers of a round are still to be handled. When all hosts can be `trusted` to launch,
the round is being answered on its hosts. -/
structure Working (known : HostSet) (host : Host) (hosts : List Host) (round : Nat) (trusted : Prop)
    (rest : List Container) (c : Coordinator Cluster) : Prop where
  live : ∀ container ∈ rest,
    c.env.live.get? container.id.name = some ⟨container, false⟩
  distinct : (rest.map (·.id.name)).Nodup
  listed : ∀ container ∈ rest, container.host ∈ hosts
  within : ∀ other ∈ hosts, other ∈ known.toList
  slots : ∀ other, c.env.slotsUsed other ≤ c.roster.placement.count other +
    (if other = host then 1 else 0) + rest.countP (·.host == other)
  sound : c.roster.Sound c.plan.limits
  covered : ∀ entry ∈ c.roster.placement.hosts, entry.1 ∈ known.toList
  owed : c.roster.gate.outstanding = rest.length
  reached : trusted → c.env.failingHosts = [] ∧
    c.roster.Underway c.plan.limits known hosts round

variable {known : HostSet} {host : Host} {hosts : List Host} {round : Nat} {trusted : Prop}
  {rest : List Container}

theorem Working.placeWorker (context : LaunchContext)
    (working : Working known host hosts round trusted (container :: rest) c) :
    Working known host hosts round trusted rest
        (c.placeWorker Cluster.clients context container) ∧
      Cluster.SameSetup c.env (c.placeWorker Cluster.clients context container).env := by
  obtain ⟨live, distinct, listed, within, slots, sound, covered, owed, reached⟩ := working
  obtain ⟨outcome, placed⟩ := placeWorker_handled context (live container List.mem_cons_self)
  have plan : (c.placeWorker Cluster.clients context container).plan = c.plan :=
    (sameStage_placeWorker context container).plan
  rw [List.map_cons] at distinct
  obtain ⟨absent, others⟩ := List.nodup_cons.mp distinct
  have still (kept : ∀ name, name ≠ container.id.name →
      (c.placeWorker Cluster.clients context container).env.live.get? name =
        c.env.live.get? name) : ∀ other ∈ rest,
      (c.placeWorker Cluster.clients context container).env.live.get? other.id.name =
        some ⟨other, false⟩ := by
    intro other member
    rw [kept _ ?_]
    · exact live other (List.mem_cons_of_mem _ member)
    · intro same
      exact absent (same ▸ List.mem_map_of_mem member)
  have remaining : ∀ other ∈ rest, other.host ∈ hosts :=
    fun other member => listed other (List.mem_cons_of_mem _ member)
  have pending : 0 < c.roster.gate.outstanding := by simp [owed]
  have followed : Cluster.SameSetup c.env (c.placeWorker Cluster.clients context container).env →
      trusted → (c.placeWorker Cluster.clients context container).env.failingHosts = [] ∧
        (c.placeWorker Cluster.clients context container).roster.Underway
          (c.placeWorker Cluster.clients context container).plan.limits known hosts round := by
    intro setup trust
    obtain ⟨willing, underway⟩ := reached trust
    refine ⟨setup.failing.trans willing, ?_⟩
    rw [plan, placed willing]
    exact underway.place (listed container List.mem_cons_self) pending
  -- Either the slot is free again or the worker that it goes to is counted.
  rcases outcome with ⟨handled, roster⟩ | ⟨handled, wanted, room, roster⟩
  · refine ⟨⟨still handled.kept, others, remaining, within, ?_, ?_, ?_, ?_,
      followed handled.setup⟩, handled.setup⟩
    · intro other
      have before := slots other
      rw [handled.slots, roster, Roster.placement_answer]
      simp only [List.countP_cons, Bool.true_and] at before ⊢
      omega
    · rw [plan, roster]
      exact sound.answer
    · rw [roster]
      exact covered
    · rw [roster, Roster.outstanding_answer, owed, List.length_cons, Nat.add_sub_cancel]
  · refine ⟨⟨still handled.kept, others, remaining, within, ?_, ?_, ?_, ?_,
      followed handled.setup⟩, handled.setup⟩
    · intro other
      have before := slots other
      rw [handled.slots, roster, Roster.placement_answer]
      simp only [Roster.record, Placement.count_add, List.countP_cons, beq_iff_eq, Bool.false_and,
        Bool.false_eq_true, if_false, Nat.sub_zero] at before ⊢
      by_cases same : container.host = other
      · simp only [same, if_true] at before ⊢
        omega
      · simp only [same, if_false] at before ⊢
        omega
    · rw [plan, roster]
      exact (sound.record wanted room).answer
    · rw [roster]
      intro entry member
      rcases Dict.mem_insertEntry member with rfl | earlier
      · exact within _ (listed container List.mem_cons_self)
      · exact covered entry earlier
    · rw [roster, Roster.outstanding_answer, Roster.gate_record, owed, List.length_cons,
        Nat.add_sub_cancel]

theorem Working.placeWorkers (context : LaunchContext) (rest : List Container) :
    ∀ {c : Coordinator Cluster}, Working known host hosts round trusted rest c →
      Working known host hosts round trusted []
          (rest.foldl (fun c container => c.placeWorker Cluster.clients context container) c) ∧
        Cluster.SameSetup c.env (rest.foldl
          (fun c container => c.placeWorker Cluster.clients context container) c).env := by
  induction rest with
  | nil => exact fun working => ⟨working, .refl _⟩
  | cons container rest ih =>
      intro c working
      obtain ⟨next, setup⟩ := working.placeWorker context
      obtain ⟨last, others⟩ := ih next
      exact ⟨last, setup.trans others⟩

end Coordinator

end Muster
