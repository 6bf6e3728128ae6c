import Muster.Proofs.WorkerLimits

/-!
What the planning of a round knows about the room on the hosts. It counts the full cap of every host
that has room left, and so counts the workers that such hosts already have as if they were room. Its
answer is exact as long as each known host is either empty or full.
-/

namespace Muster

namespace Placement

variable {placement : Placement} {known : List Host} {cap : Nat}

def spareRoom (placement : Placement) (hosts : List Host) (cap : Nat) : Nat :=
  (hosts.map fun host => cap - placement.count host).sum

/-- How many workers there are on those of the known hosts that have room left. -/
def partialLoad (placement : Placement) (known : List Host) (cap : Nat) : Nat :=
  ((placement.candidates known cap).map placement.count).sum

theorem spareRoom_candidates :
    placement.spareRoom (placement.candidates known cap) cap = placement.spareRoom known cap := by
  induction known with
  | nil => rfl
  | cons host rest ih =>
      simp only [spareRoom, candidates] at ih ⊢
      cases full : placement.isFull host cap with
      | true =>
          have none : cap - placement.count host = 0 :=
            Nat.sub_eq_zero_of_le (by simpa [isFull] using full)
          simp [full, none, ih]
      | false => simp [full, ih]

theorem length_candidates_mul :
    (placement.candidates known cap).length * cap =
      placement.spareRoom known cap + placement.partialLoad known cap := by
  rw [← spareRoom_candidates, spareRoom, partialLoad, ← List.sum_map_add]
  have each : ∀ host ∈ placement.candidates known cap,
      cap - placement.count host + placement.count host = cap := by
    intro host member
    exact Nat.sub_add_cancel (Nat.le_of_lt (mem_candidates.mp member).2)
  rw [List.map_congr_left each]
  simp

theorem Balanced.partialLoad_le (balanced : placement.Balanced) (distinct : known.Nodup) :
    placement.partialLoad known cap ≤ placement.total :=
  balanced.sum_count_le (distinct.filter _)

theorem partialLoad_eq_zero
    (settled : ∀ host ∈ known, placement.count host = 0 ∨ cap ≤ placement.count host) :
    placement.partialLoad known cap = 0 := by
  rw [partialLoad, List.sum_eq_zero_iff]
  intro count member
  obtain ⟨host, candidate, rfl⟩ := List.mem_map.mp member
  obtain ⟨listed, room⟩ := mem_candidates.mp candidate
  exact (settled host listed).resolve_right (Nat.not_le.mpr room)

end Placement

namespace Roster

variable {limits : Limits} {roster : Roster} {known : HostSet}

def missing (limits : Limits) (roster : Roster) : Nat :=
  limits.target - roster.workers

def spareRoom (limits : Limits) (known : HostSet) (roster : Roster) : Nat :=
  roster.placement.spareRoom known.toList limits.maxPerHost

def partialLoad (limits : Limits) (known : HostSet) (roster : Roster) : Nat :=
  roster.placement.partialLoad known.toList limits.maxPerHost

/-- What a round that is planned over the known hosts, or refused, tells about their room. -/
structure PlansByRoom (limits : Limits) (known : HostSet) (roster : Roster) : Prop where
  refuses : (∃ error, roster.nextRound limits known = .error error) ↔
    roster.spareRoom limits known + roster.partialLoad limits known < roster.missing limits
  refused : ∀ error, roster.nextRound limits known = .error error →
    error = .capacityInsufficient (roster.missing limits)
        (roster.placement.candidates known.toList limits.maxPerHost).length limits.maxPerHost ∧
      roster.spareRoom limits known < roster.missing limits
  planned : ∀ round next, roster.nextRound limits known = .ok (some (round, next)) →
    round.needed = roster.missing limits ∧
      roster.placement.spareRoom round.hosts limits.maxPerHost = roster.spareRoom limits known ∧
      round.needed ≤ roster.spareRoom limits known + roster.partialLoad limits known
  planned_or_refused : roster.nextRound limits known ≠ .ok none
  partialLoad_le : roster.partialLoad limits known ≤ roster.workers
  settled : (∀ host ∈ known.toList, roster.placement.count host = 0 ∨
      limits.maxPerHost ≤ roster.placement.count host) →
    ((∃ error, roster.nextRound limits known = .error error) ↔
      roster.spareRoom limits known < roster.missing limits)

theorem nextRound_of_wanted (known : HostSet) (wanted : roster.workers < limits.target) :
    roster.nextRound limits known =
      if roster.spareRoom limits known + roster.partialLoad limits known <
          roster.missing limits then
        .error (.capacityInsufficient (roster.missing limits)
          (roster.placement.candidates known.toList limits.maxPerHost).length limits.maxPerHost)
      else .ok (some
        (⟨roster.missing limits, roster.placement.candidates known.toList limits.maxPerHost⟩,
          { roster with gate := (roster.gate.reset (roster.missing limits)).2 })) := by
  simp only [nextRound, hasEnough_eq_false.mpr wanted, Bool.false_eq_true, if_false,
    Placement.length_candidates_mul]
  rfl

theorem Sound.plansByRoom (sound : roster.Sound limits) (wanted : roster.workers < limits.target) :
    roster.PlansByRoom limits known := by
  have decided := nextRound_of_wanted known wanted
  have refuses : (∃ error, roster.nextRound limits known = .error error) ↔
      roster.spareRoom limits known + roster.partialLoad limits known <
        roster.missing limits := by
    rw [decided]
    split
    · rename_i short
      simp [short]
    · rename_i fits
      simp [fits]
  refine ⟨refuses, ?_, ?_, nextRound_ne_none (hasEnough_eq_false.mpr wanted),
    sound.balanced.partialLoad_le known.nodup, ?_⟩
  · intro error refused
    have short := refuses.mp ⟨error, refused⟩
    rw [decided, if_pos short] at refused
    exact ⟨(Except.error.inj refused).symm, by omega⟩
  · intro round next planned
    have fits : ¬roster.spareRoom limits known + roster.partialLoad limits known <
        roster.missing limits := fun short => by simp [decided, short] at planned
    rw [decided, if_neg fits] at planned
    cases planned
    exact ⟨rfl, Placement.spareRoom_candidates, Nat.not_lt.mp fits⟩
  · intro settled
    have none : roster.partialLoad limits known = 0 := Placement.partialLoad_eq_zero settled
    rw [refuses, none, Nat.add_zero]

end Roster

namespace Coordinator

variable {σ : Type} {clients : Clients σ} {c : Coordinator σ}

/-- Whatever happened to a coordinator with a valid configuration, and whichever hosts are known
then, a round is refused by what the known hosts with room left could hold if they were empty. -/
theorem planned_by_room {config : Config} {localHost : Host} {plan : BringupPlan} {env : σ}
    (valid : BringupPlan.ofConfig config localHost = .ok plan)
    (run : Run clients (init plan env) c)
    (wanted : c.workers < config.worker.count.toNat) (known : HostSet) :
    c.roster.PlansByRoom ⟨config.worker.count.toNat, config.worker.maxPerHost.toNat⟩ known := by
  have same : c.plan = plan := (moves_of_steps run).plan_eq
  have sound := (accounted_of_moves (moves_of_steps run)).sound
  rw [same, limits_of_config valid] at sound
  exact sound.plansByRoom wanted

def halfFilled : List Action :=
  [.start, .request, .resume, .receive (.allocated [Script.container 0 "am"]), .resume,
    .receive (.allocated
      [Script.container 1 "h1", Script.container 2 "h2", Script.container 3 "h2"])]

def halfFilledScript : Script where
  inventory := .ofList ["h1", "h2"]
  failHosts := ["h2"]

theorem planned_by_room_halfFilled : ∃ c,
    BringupPlan.ofConfig crowdedConfig "am" = .ok crowdedPlan ∧
      Run Script.clients (init crowdedPlan halfFilledScript) c ∧ c.workers < 3 ∧
      c.roster.PlansByRoom ⟨3, 2⟩ (.ofList ["h1", "h2"]) := by
  have valid : BringupPlan.ofConfig crowdedConfig "am" = .ok crowdedPlan := by decide +kernel
  have run : Run Script.clients (init crowdedPlan halfFilledScript) _ :=
    run_performAll halfFilled
  have wanted : (performAll Script.clients halfFilled (init crowdedPlan halfFilledScript)).workers <
      crowdedConfig.worker.count.toNat := by decide +kernel
  exact ⟨_, valid, run, wanted, planned_by_room valid run wanted _⟩

theorem planned_beyond_room : ∃ c,
    BringupPlan.ofConfig crowdedConfig "am" = .ok crowdedPlan ∧
      Run Script.clients (init crowdedPlan halfFilledScript) c ∧
      c.workers < c.plan.limits.target ∧
      c.roster.spareRoom c.plan.limits (.ofList ["h1"]) < c.roster.missing c.plan.limits ∧
      ∃ next,
        c.roster.nextRound c.plan.limits (.ofList ["h1"]) = .ok (some (⟨2, ["h1"]⟩, next)) := by
  have valid : BringupPlan.ofConfig crowdedConfig "am" = .ok crowdedPlan := by decide +kernel
  have run : Run Script.clients (init crowdedPlan halfFilledScript) _ :=
    run_performAll halfFilled
  exact ⟨_, valid, run, by decide +kernel, by decide +kernel, _, by rfl⟩

end Coordinator

end Muster
