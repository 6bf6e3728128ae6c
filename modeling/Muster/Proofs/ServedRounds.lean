import Muster.Proofs.Answers
import Muster.Proofs.WorkerLimits

/-!
How many rounds it takes to reach the target when every request is answered. Whoever answers chooses
the hosts, but each round that falls short of the target fills a host, and full hosts are never
asked again.
-/

namespace Muster

theorem since_trans {first second third : List Entry} (before : first <:+ second)
    (after : second <:+ third) : since first third = since second third ++ since first second := by
  obtain ⟨entries, rfl⟩ := after
  rw [since_append before, since_append List.suffix_rfl, since_self, List.append_nil]

theorem forall_since_trans {p : Entry → Prop} {first second third : List Entry}
    (before : first <:+ second) (after : second <:+ third) :
    (∀ entry ∈ since first third, p entry) ↔
      (∀ entry ∈ since first second, p entry) ∧ ∀ entry ∈ since second third, p entry := by
  rw [since_trans before after, List.forall_mem_append, and_comm]

def AllLaunched (trace : List Entry) : Prop :=
  ∀ entry ∈ trace, entry.failsLaunch = false

instance : DecidablePred AllLaunched :=
  fun trace => inferInstanceAs (Decidable (∀ entry ∈ trace, entry.failsLaunch = false))

theorem AllLaunched.split {first second third : List Entry}
    (launched : AllLaunched (since first third)) (before : first <:+ second)
    (after : second <:+ third) :
    AllLaunched (since first second) ∧ AllLaunched (since second third) :=
  (forall_since_trans before after).mp launched

theorem AllLaunched.written {base journal : List Entry}
    (launched : AllLaunched (since base journal)) (entries : List Entry)
    (written : journal = entries ++ base) : AllLaunched entries := by
  rwa [written, since_append List.suffix_rfl, since_self, List.append_nil] at launched

theorem Roster.exists_filled {limits : Limits} {known : HostSet} {before after : Roster}
    (more : (before.fullHosts limits known).length < (after.fullHosts limits known).length) :
    ∃ host ∈ known.toList, before.placement.count host < limits.maxPerHost ∧
      limits.maxPerHost ≤ after.placement.count host := by
  by_contra none
  have inside : after.fullHosts limits known ⊆ before.fullHosts limits known := by
    intro host full
    obtain ⟨listed, reached⟩ := Placement.mem_fullHosts.mp full
    refine Placement.mem_fullHosts.mpr ⟨listed, ?_⟩
    by_contra room
    exact none ⟨host, listed, Nat.not_le.mp room, reached⟩
  have distinct : (after.fullHosts limits known).Nodup := known.nodup.filter _
  have fewer := (distinct.subperm inside).length_le
  omega

namespace Coordinator

variable {σ : Type} {clients : Clients σ} {c d start : Coordinator σ} {known : HostSet}
  {hosts : List Host} {index rounds : Nat}

theorem roster_placeWorker {context : LaunchContext} {container : Container}
    (launched : AllLaunched
      (since c.journal (c.placeWorker clients context container).journal)) :
    (c.placeWorker clients context container).roster =
      c.roster.place c.plan.limits container.host := by
  cases decision : c.roster.hasEnough c.plan.limits ||
      c.roster.isHostFull c.plan.limits container.host with
  | true =>
      rw [placeWorker_refused _ _ decision]
      simp only [Roster.place, decision, if_true]
  | false =>
      cases outcome : (clients.startContainer container context c.env).1 with
      | ok =>
          rw [placeWorker_launched _ _ decision outcome]
          simp only [Roster.place, decision, Bool.false_eq_true, if_false]
      | error cause =>
          rw [placeWorker_failed _ _ decision outcome] at launched
          have failed := launched.written [_, _, _, _] rfl
            (.event (.workerLaunchFailed container.id cause)) (by simp)
          cases failed

theorem suffix_placeWorkers (context : LaunchContext) (containers : List Container) :
    ∀ c : Coordinator σ, c.journal <:+
      (containers.foldl (fun c container => c.placeWorker clients context container) c).journal := by
  induction containers with
  | nil => exact fun _ => List.suffix_rfl
  | cons container rest ih => exact fun c => (suffix_placeWorker context container).trans (ih _)

structure Filling (known : HostSet) (hosts : List Host) (index : Nat)
    (containers : List Container) (c : Coordinator σ) : Prop where
  underway : c.roster.Underway c.plan.limits known hosts index
  outstanding : c.roster.gate.outstanding = containers.length
  listed : ∀ container ∈ containers, container.host ∈ hosts

theorem Filling.placeWorkers (context : LaunchContext) (containers : List Container) :
    ∀ {c : Coordinator σ}, c.Filling known hosts index containers →
      AllLaunched (since c.journal (containers.foldl
        (fun c container => c.placeWorker clients context container) c).journal) →
      (containers.foldl (fun c container => c.placeWorker clients context container) c).Filling
        known hosts index [] := by
  -- Each container answers a request, so that none is left open after the last one.
  induction containers with
  | nil => exact fun filling _ => filling
  | cons container rest ih =>
      intro c filling launched
      obtain ⟨underway, outstanding, listed⟩ := filling
      obtain ⟨first, later⟩ := launched.split (suffix_placeWorker context container)
        (suffix_placeWorkers context rest _)
      have placed := roster_placeWorker first
      have plan : (c.placeWorker clients context container).plan = c.plan :=
        (sameStage_placeWorker context container).plan
      rw [List.length_cons] at outstanding
      refine ih ⟨?_, ?_, ?_⟩ later
      · rw [plan, placed]
        exact underway.place (listed container List.mem_cons_self) (by omega)
      · rw [placed, Roster.outstanding_place]
        omega
      · exact fun other member => listed other (List.mem_cons_of_mem _ member)

def receiveBatches (clients : Clients σ) (batches : List (List Container)) (c : Coordinator σ) :
    Coordinator σ :=
  batches.foldl (fun c containers => c.receive clients (.allocated containers)) c

theorem moves_receiveBatches (batches : List (List Container)) :
    Moves clients c (c.receiveBatches clients batches) :=
  moves_batches batches

theorem receiveBatches_eq {address : String} (batches : List (List Container)) :
    ∀ {c : Coordinator σ}, c.master = some address →
      c.receiveBatches clients batches =
        batches.flatten.foldl (fun d container =>
          d.placeWorker clients (c.plan.launch.forWorker address) container) c := by
  induction batches with
  | nil => exact fun _ => rfl
  | cons containers rest ih =>
      intro c opened
      have moves : Moves clients c (c.onAllocated clients containers) :=
        moves_onAllocated containers
      have next := ih (moves.master_eq opened)
      rw [moves.plan_eq] at next
      change (c.onAllocated clients containers).receiveBatches clients rest = _
      rw [List.flatten_cons, List.foldl_append, next]
      simp only [onAllocated, opened]

/-! ## One round -/

/-- A round was planned over the `known` hosts and answered: as many containers as were requested came
in some batches, each on one of the round's hosts, and every launch succeeded. -/
inductive ServedRound (clients : Clients σ) (known : HostSet) (c : Coordinator σ) :
    Coordinator σ → Prop
  | serve (round : Round) (roster : Roster) (batches : List (List Container))
      (planned : c.roster.nextRound c.plan.limits known = .ok (some (round, roster)))
      (all : batches.flatten.length = round.needed)
      (listed : ∀ container ∈ batches.flatten, container.host ∈ round.hosts)
      (launched : AllLaunched
        (since c.journal (receiveBatches clients batches { c with roster }).journal)) :
      ServedRound clients known c (receiveBatches clients batches { c with roster })

theorem ServedRound.moves (served : ServedRound clients known c d) :
    d.plan = c.plan ∧ ∀ address, c.master = some address → d.master = some address := by
  cases served with
  | serve round roster batches =>
      have moves : Moves clients { c with roster } _ := moves_receiveBatches batches
      exact ⟨moves.plan_eq, fun address opened => moves.master_eq opened⟩

theorem ServedRound.missing (served : ServedRound clients known c d) :
    c.workers < c.plan.limits.target := by
  cases served with
  | serve round roster batches planned =>
      obtain ⟨total, positive, _⟩ := Roster.nextRound_planned planned
      change c.roster.workers < _
      omega

theorem ServedRound.fills (served : ServedRound clients known c d)
    (sound : c.roster.Sound c.plan.limits) (manned : c.master.isSome = true) :
    d.roster.Sound d.plan.limits ∧ (d.workers < d.plan.limits.target →
      (c.roster.fullHosts c.plan.limits known).length <
        (d.roster.fullHosts d.plan.limits known).length) := by
  obtain ⟨address, opened⟩ := Option.isSome_iff_exists.mp manned
  cases served with
  | serve round roster batches planned all listed launched =>
      have underway := Roster.underway_planned sound planned (Nat.le_refl _)
      have filling : Filling known round.hosts
          ((c.roster.fullHosts c.plan.limits known).length + 1) batches.flatten
            { c with roster } := by
        obtain ⟨_, _, _, _, rfl⟩ := Roster.nextRound_planned planned
        exact ⟨underway, all.symm, listed⟩
      have same : receiveBatches clients batches { c with roster } = _ :=
        receiveBatches_eq batches opened
      rw [same] at launched ⊢
      obtain ⟨after, outstanding, _⟩ := filling.placeWorkers _ _ launched
      refine ⟨after.sound, fun missing => after.drained ?_ ?_⟩
      · simpa [RoundGate.isDrained] using outstanding
      · exact Roster.hasEnough_eq_false.mpr missing

/-! ## All rounds -/

/-- Rounds that were planned and answered, one after the other. -/
inductive ServedRounds (clients : Clients σ) (known : HostSet) (start : Coordinator σ) :
    Nat → Coordinator σ → Prop
  | none : ServedRounds clients known start 0 start
  | next {rounds : Nat} {c d : Coordinator σ} (earlier : ServedRounds clients known start rounds c)
      (last : ServedRound clients known c d) : ServedRounds clients known start (rounds + 1) d

/-- What holds after some rounds: each of them has filled a host, unless the last one has reached the
target. -/
structure Filled (known : HostSet) (start : Coordinator σ) (rounds : Nat) (c : Coordinator σ) :
    Prop where
  plan : c.plan = start.plan
  manned : c.master.isSome = true
  sound : c.roster.Sound c.plan.limits
  full : c.workers < c.plan.limits.target → rounds ≤ (c.roster.fullHosts c.plan.limits known).length
  spent : rounds * c.plan.limits.maxPerHost < c.plan.limits.target + c.plan.limits.maxPerHost

theorem Filled.used (filled : Filled known start rounds c)
    (missing : c.workers < c.plan.limits.target) : rounds * c.plan.limits.maxPerHost ≤ c.workers :=
  filled.sound.mul_le_workers (filled.full missing)

theorem Filled.next (filled : Filled known start rounds c) (last : ServedRound clients known c d) :
    Filled known start (rounds + 1) d := by
  obtain ⟨plan, opened⟩ := last.moves
  obtain ⟨sound, fills⟩ := last.fills filled.sound filled.manned
  have missing := last.missing
  have used := filled.used missing
  have full := filled.full missing
  refine ⟨plan.trans filled.plan, ?_, sound, ?_, ?_⟩
  · obtain ⟨address, known⟩ := Option.isSome_iff_exists.mp filled.manned
    rw [opened address known]
    rfl
  · intro still
    have more := fills still
    omega
  · rw [plan, Nat.succ_mul]
    omega

theorem ServedRounds.filled (served : ServedRounds clients known start rounds c)
    (positive : 0 < start.plan.limits.maxPerHost) (manned : start.master.isSome = true)
    (empty : start.roster.placement = {}) : Filled known start rounds c := by
  induction served with
  | none =>
      refine ⟨rfl, manned, ?_, fun _ => Nat.zero_le _, ?_⟩
      · exact (Roster.sound_empty _).of_placement empty
      · omega
  | next earlier last ih => exact ih.next last

/-- When every request is answered on a host of its round and every launch succeeds, no round is
refused, and the target is reached after at most as many rounds as it takes hosts to hold all
workers. Each round before that fills a host that had room. -/
theorem rounds_needed {known : HostSet} {start c : Coordinator σ} {rounds : Nat}
    (positive : 0 < start.plan.limits.maxPerHost) (manned : start.master.isSome = true)
    (empty : start.roster.placement = {})
    (room : start.plan.limits.target ≤ known.size * start.plan.limits.maxPerHost)
    (served : ServedRounds clients known start rounds c) :
    let limits := start.plan.limits
    c.plan = start.plan ∧
      rounds ≤ (limits.target + limits.maxPerHost - 1) / limits.maxPerHost ∧
      (c.workers = limits.target ∧ c.roster.nextRound limits known = .ok none ∨
        c.workers < limits.target ∧ rounds * limits.maxPerHost ≤ c.workers ∧
          ∃ round roster, c.roster.nextRound limits known = .ok (some (round, roster)) ∧
            c.workers + round.needed = limits.target ∧ round.hosts ≠ []) ∧
      ∀ d, ServedRound clients known c d → d.workers < limits.target →
        ∃ host ∈ known.toList, c.roster.placement.count host < limits.maxPerHost ∧
          d.roster.placement.count host = limits.maxPerHost := by
  intro limits
  have filled := served.filled positive manned empty
  have plan := filled.plan
  have sound := filled.sound
  have spent := filled.spent
  have same : c.plan.limits = limits := congrArg BringupPlan.limits plan
  rw [same] at sound spent
  refine ⟨plan, ?_, ?_, ?_⟩
  · rw [Nat.le_div_iff_mul_le positive]
    exact Nat.le_sub_one_of_lt spent
  · have bounded : c.workers ≤ limits.target := sound.bounded
    rcases Nat.lt_or_eq_of_le bounded with missing | reached
    · have wanted : c.roster.hasEnough limits = false := Roster.hasEnough_eq_false.mpr missing
      obtain ⟨round, roster, next⟩ := Roster.nextRound_isSome wanted (sound.fits room)
      obtain ⟨total, needed, _, fits, _⟩ := Roster.nextRound_planned next
      refine .inr ⟨missing, ?_, round, roster, next, total, ?_⟩
      · rw [← same] at missing ⊢
        exact filled.used missing
      · intro nowhere
        rw [nowhere, List.length_nil, Nat.zero_mul] at fits
        omega
    · have enough : c.roster.hasEnough limits = true := decide_eq_true (Nat.le_of_eq reached.symm)
      exact .inl ⟨reached, by simp only [Roster.nextRound, enough, if_true]⟩
  · intro d last missing
    obtain ⟨still, fills⟩ := last.fills filled.sound filled.manned
    rw [last.moves.1, same] at still fills
    obtain ⟨host, listed, before, reached⟩ := Roster.exists_filled (fills missing)
    exact ⟨host, listed, before, Nat.le_antisymm (still.capped host) reached⟩

def staffed : Coordinator Script :=
  performAll Script.clients
    [.start, .request, .resume, .receive (.allocated [Script.container 0 "am"])]
    (init crowdedPlan { inventory := .ofList ["h1", "h2"] })

def halfStaffed : Coordinator Script :=
  receiveBatches Script.clients
    [[Script.container 1 "h1"], [Script.container 2 "h1", Script.container 3 "h1"]]
    { staffed with roster.gate := ⟨3, 1⟩ }

def fullyStaffed : Coordinator Script :=
  receiveBatches Script.clients [[Script.container 4 "h2"]]
    { halfStaffed with roster.gate := ⟨1, 2⟩ }

theorem rounds_needed_staffed :
    ServedRounds Script.clients (.ofList ["h1", "h2"]) staffed 2 fullyStaffed ∧
      halfStaffed.workerHosts = [("h1", 2)] ∧ fullyStaffed.workerHosts = [("h1", 2), ("h2", 1)] ∧
      2 ≤ (3 + 2 - 1) / 2 ∧
      fullyStaffed.roster.nextRound ⟨3, 2⟩ (.ofList ["h1", "h2"]) = .ok none := by
  have first : ServedRound Script.clients (.ofList ["h1", "h2"]) staffed halfStaffed :=
    .serve ⟨3, ["h1", "h2"]⟩ _ _ (by rfl) rfl (by decide) (by decide +kernel)
  have second : ServedRound Script.clients (.ofList ["h1", "h2"]) halfStaffed fullyStaffed :=
    .serve ⟨1, ["h2"]⟩ _ _ (by rfl) rfl (by decide) (by decide +kernel)
  have served := ServedRounds.next (.next .none first) second
  obtain ⟨_, bound, outcome, _⟩ := rounds_needed (by decide) (by decide +kernel)
    (by decide +kernel) (by decide +kernel) served
  refine ⟨served, by decide +kernel, by decide +kernel, bound, ?_⟩
  rcases outcome with ⟨_, ended⟩ | ⟨missing, _⟩
  · exact ended
  · exact absurd missing (by decide +kernel)

end Coordinator

end Muster
