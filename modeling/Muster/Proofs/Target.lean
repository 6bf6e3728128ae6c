import Muster.Proofs.Answers
import Muster.Proofs.Inventory
import Muster.Proofs.WorkerLimits

/-!
When a bring-up reaches its target. When each request is answered on one of its hosts, a round that
leaves workers missing fills a host, so that the last round is only missed by a target that needs
more full hosts than there are rounds.
-/

namespace Muster.Coordinator

open Relation (ReflTransGen)

variable {σ : Type} {clients : Clients σ} {c c' c'' : Coordinator σ}

/-- A step aside from the workers, which moves the phase to one before the rounds are over, if at
all. -/
structure Aside (c c' : Coordinator σ) : Prop where
  plan : c'.plan = c.plan
  master : c'.master = c.master
  done : c'.done = c.done
  apart : Apart c c'
  phase : c'.phase = c.phase ∨
    c.phase.precedes c'.phase = true ∧ c'.phase.precedes .workersSatisfied = true
  phases : ∃ steps, c'.phases = steps ++ c.phases ∧ .workersExhausted ∉ steps

theorem Aside.refl (c : Coordinator σ) : Aside c c :=
  ⟨rfl, rfl, rfl, .refl c, .inl rfl, [], rfl, by simp⟩

theorem Aside.trans (first : Aside c c') (second : Aside c' c'') : Aside c c'' := by
  obtain ⟨steps, climbed, absent⟩ := first.phases
  obtain ⟨more, climbedMore, moreAbsent⟩ := second.phases
  refine ⟨second.plan.trans first.plan, second.master.trans first.master,
    second.done.trans first.done, first.apart.trans second.apart, ?_, more ++ steps, ?_, ?_⟩
  · rcases second.phase with same | ⟨forward, early⟩
    · rw [same]
      exact first.phase
    · refine .inr ⟨?_, early⟩
      rcases first.phase with same | ⟨before, _⟩
      · rwa [← same]
      · exact Phase.precedes_trans before forward
  · rw [climbedMore, climbed, List.append_assoc]
  · simp [absent, moreAbsent]

theorem Aside.running (aside : Aside c c') (running : c.phase = .running) :
    c'.phase = .running := by
  rcases aside.phase with same | ⟨forward, early⟩
  · exact same.trans running
  · rw [running] at forward
    exact absurd (Phase.precedes_trans forward early) (by decide)

theorem aside_write (env : σ) (entries : List Entry)
    (silent : ∀ entry ∈ entries, entry.concernsWorkers = false ∧ entry.phase? = none) :
    Aside c { c with env, journal := entries ++ c.journal } := by
  refine ⟨rfl, rfl, rfl, ⟨rfl, entries, rfl, ?_⟩, .inl rfl, [], ?_, by simp⟩
  · intro entry member
    exact Entry.apart_of_silent (silent entry member).1
  · have none : entries.filterMap Entry.phase? = [] := by
      rw [List.filterMap_eq_nil_iff]
      exact fun entry member => (silent entry member).2
    simp [phases, none]

theorem aside_log {event : Event} (silent : (Entry.event event).concernsWorkers = false)
    (other : (Entry.event event).phase? = none) : Aside c (c.log event) :=
  aside_write c.env [.event event] (by simpa using ⟨silent, other⟩)

theorem aside_ask {α : Type} (call : Call) (act : σ → Except String α × σ)
    (silent : ∀ failure, (Entry.call call failure).concernsWorkers = false) :
    Aside c (c.ask call act).2 :=
  aside_write (act c.env).2 [.call call (failure? (act c.env).1)]
    (by simpa using ⟨silent _, rfl⟩)

theorem aside_advance {next : Phase} (early : next.precedes .workersSatisfied = true) :
    Aside c (c.advance next) := by
  cases forward : c.phase.precedes next with
  | false =>
      have same : c.advance next = c := by simp [advance, forward]
      rw [same]
      exact .refl c
  | true =>
      rw [advance_forward forward]
      refine ⟨rfl, rfl, rfl, ⟨rfl, [_], rfl, ?_⟩, .inr ⟨forward, early⟩, [next], rfl, ?_⟩
      · simp [Entry.asked?, Entry.taken?]
      · rw [List.mem_singleton]
        rintro rfl
        simp [Phase.precedes, Phase.rank] at early

theorem aside_start : Aside c (c.start clients).2 :=
  start_related (fun first second => first.trans second)
    (fun _ _ _ asks => aside_ask _ _ asks.silent)
    (fun _ _ => (aside_advance rfl).trans (aside_log rfl rfl))

structure Early (start c : Coordinator σ) : Prop where
  plan : c.plan = start.plan
  closed : c.done.isOpen = false
  phase : c.phase.precedes .workersSatisfied = true
  climbed : ∃ steps, c.phases = steps ++ start.phases ∧ .workersExhausted ∉ steps

variable {start : Coordinator σ}

theorem Early.aside (early : Early start c) (aside : Aside c c') : Early start c' := by
  obtain ⟨steps, climbed, absent⟩ := early.climbed
  obtain ⟨more, climbedMore, moreAbsent⟩ := aside.phases
  refine ⟨aside.plan.trans early.plan, by rw [aside.done]; exact early.closed, ?_,
    more ++ steps, ?_, ?_⟩
  · rcases aside.phase with same | ⟨_, before⟩
    · rw [same]
      exact early.phase
    · exact before
  · rw [climbedMore, climbed, List.append_assoc]
  · simp [absent, moreAbsent]

theorem Early.same (early : Early start c) (same : SameStage c c') : Early start c' := by
  refine ⟨same.plan.trans early.plan, ?_, ?_, ?_⟩
  · rw [same.done]
    exact early.closed
  · rw [same.phase]
    exact early.phase
  · rw [same.phases]
    exact early.climbed

structure Over (start c : Coordinator σ) : Prop where
  control : c.control = .awaitingShutdown
  plan : c.plan = start.plan
  closed : c.done.isOpen = false
  phase : c.phase = .running
  sound : c.roster.Sound c.plan.limits
  enough : min c.plan.limits.target (maxRounds * c.plan.limits.maxPerHost) ≤ c.workers
  rounds : c.roster.gate.rounds ≤ start.roster.gate.rounds + maxRounds
  unasked : c.Unasked start.journal c.roster (maxRounds * c.plan.limits.target)
  climbed : ∃ steps, c.phases = steps ++ start.phases ∧
    (c.plan.limits.target ≤ c.workers →
      .workersSatisfied ∈ steps ∧ .workersExhausted ∉ steps)

theorem settle_satisfied {rounds : Nat} (early : c.phase.precedes .workersSatisfied = true)
    (closed : c.done.isOpen = false) (enough : c.plan.limits.target ≤ c.workers) :
    c.settle rounds = { c with
      phase := .running
      control := .awaitingShutdown
      journal := .event (.phaseChanged .running) :: .event .launched ::
        .event (.phaseChanged .workersSatisfied) :: c.journal } := by
  have running : Phase.precedes .workersSatisfied .running = true := rfl
  simp only [settle, RoundsOutcome.satisfied, enough, decide_true, if_true, log, advance, early,
    running, awaitShutdown, closed, Bool.false_eq_true, if_false]

theorem settle_exhausted {rounds : Nat} (early : c.phase.precedes .workersSatisfied = true)
    (closed : c.done.isOpen = false) (missing : c.workers < c.plan.limits.target) :
    c.settle rounds = { c with
      phase := .running
      control := .awaitingShutdown
      journal := .event (.phaseChanged .running) :: .event .launched ::
        .event (.phaseChanged .workersExhausted) ::
        .event (.targetMissed c.plan.limits.target rounds c.workers) :: c.journal } := by
  have exhausted : c.phase.precedes .workersExhausted = true := early
  have running : Phase.precedes .workersExhausted .running = true := rfl
  simp only [settle, RoundsOutcome.satisfied, Nat.not_le.mpr missing, decide_false,
    Bool.false_eq_true, if_false, log, advance, exhausted, if_true, running, awaitShutdown, closed]

/-- The rounds before the `round`th are over, and all their requests are answered. -/
structure Ready (start : Coordinator σ) (known : HostSet) (round : Nat) (c : Coordinator σ) :
    Prop where
  early : Early start c
  launched : c.master.isSome = true
  sound : c.roster.Sound c.plan.limits
  filled : c.roster.hasEnough c.plan.limits = false →
    round ≤ (c.roster.fullHosts c.plan.limits known).length
  rounds : c.roster.gate.rounds = start.roster.gate.rounds + round
  unasked : c.Unasked start.journal c.roster (round * c.plan.limits.target)

variable {known : HostSet} {round : Nat}

theorem Ready.aside (ready : Ready start known round c) (aside : Aside c c') :
    Ready start known round c' := by
  obtain ⟨early, launched, sound, filled, rounds, unasked⟩ := ready
  have roster := aside.apart.roster
  refine ⟨early.aside aside, ?_, ?_, ?_, ?_, ?_⟩
  · rw [aside.master]
    exact launched
  · rw [aside.plan, roster]
    exact sound
  · rw [aside.plan, roster]
    exact filled
  · rw [roster]
    exact rounds
  · rw [aside.plan, roster]
    exact unasked.apart aside.apart

theorem Ready.settle {rounds : Nat} (ready : Ready start known round c) (within : round ≤ maxRounds)
    (last : c.roster.hasEnough c.plan.limits = false → round = maxRounds) :
    Over start (c.settle rounds) := by
  obtain ⟨early, launched, sound, filled, opened, unasked⟩ := ready
  obtain ⟨steps, climbed, absent⟩ := early.climbed
  have fewer : round * c.plan.limits.target ≤ maxRounds * c.plan.limits.target :=
    Nat.mul_le_mul_right _ within
  have kept : ∀ c', Apart c c' → c'.plan = c.plan →
      c'.Unasked start.journal c'.roster (maxRounds * c'.plan.limits.target) := by
    intro c' apart plan
    have still := unasked.apart apart
    rw [plan, apart.roster]
    exact ⟨still.grown, still.answered, Nat.le_trans still.submitted fewer, apart.roster⟩
  by_cases enough : c.plan.limits.target ≤ c.workers
  · rw [settle_satisfied early.phase early.closed enough]
    refine ⟨rfl, early.plan, early.closed, rfl, sound, ?_, ?_, ?_, ?_⟩
    · exact Nat.le_trans (Nat.min_le_left _ _) enough
    · simp only [opened]
      omega
    · exact kept _ ⟨rfl, [_, _, _], rfl, by simp [Entry.asked?, Entry.taken?]⟩ rfl
    · refine ⟨.running :: .workersSatisfied :: steps, ?_, ?_⟩
      · exact congrArg ([.running, .workersSatisfied] ++ ·) climbed
      · intro _
        simp [absent]
  · have missing := Nat.not_le.mp enough
    have wanted : c.roster.hasEnough c.plan.limits = false :=
      Roster.hasEnough_eq_false.mpr missing
    have full := filled wanted
    rw [last wanted] at full
    rw [settle_exhausted early.phase early.closed missing]
    refine ⟨rfl, early.plan, early.closed, rfl, sound, ?_, ?_, ?_, ?_⟩
    · exact Nat.le_trans (Nat.min_le_right _ _) (sound.mul_le_workers full)
    · simp only [opened]
      omega
    · exact kept _ ⟨rfl, [_, _, _, _], rfl, by simp [Entry.asked?, Entry.taken?]⟩ rfl
    · refine ⟨.running :: .workersExhausted :: steps, ?_, ?_⟩
      · exact congrArg ([.running, .workersExhausted] ++ ·) climbed
      · intro reached
        exact absurd reached enough

/-! ## Rounds -/

structure Awaiting (start : Coordinator σ) (known : HostSet) (hosts : List Host) (round : Nat)
    (c : Coordinator σ) : Prop where
  early : Early start c
  launched : c.master.isSome = true
  rounds : c.roster.gate.rounds = start.roster.gate.rounds + round
  serving : c.Serving known start.journal hosts round 0

theorem Awaiting.aside {hosts : List Host} (awaiting : Awaiting start known hosts round c)
    (aside : Aside c c') : Awaiting start known hosts round c' := by
  obtain ⟨early, launched, rounds, serving⟩ := awaiting
  refine ⟨early.aside aside, ?_, ?_, serving.apart aside.plan aside.apart⟩
  · rw [aside.master]
    exact launched
  · rw [aside.apart.roster]
    exact rounds

theorem Awaiting.ready {hosts : List Host} (awaiting : Awaiting start known hosts round c)
    (drained : c.roster.gate.isDrained = true) : Ready start known round c := by
  obtain ⟨early, launched, rounds, serving⟩ := awaiting
  have none : c.roster.gate.outstanding = 0 := by simpa [RoundGate.isDrained] using drained
  have owed := serving.owed
  exact ⟨early, launched, serving.underway.sound, serving.underway.drained drained, rounds,
    serving.grown, by omega, serving.submitted, rfl⟩

theorem aside_submitRound (c : Coordinator σ) (planned : Round) (index : Nat) :
    Aside (c.submitWorkers clients (c.plan.requests.forWorker planned.hosts) index
      (c.plan.limits.target - planned.needed) planned.needed)
      (c.submitRound clients planned index) :=
  (aside_advance rfl).trans (aside_log rfl rfl)

theorem Early.submitRound {planned : Round} {roster : Roster} {index : Nat}
    (early : Early start (c.listed clients)) :
    Early start ((c.withRound clients roster).submitRound clients planned index) := by
  have unmoved : Early start (c.withRound clients roster) :=
    ⟨early.plan, early.closed, early.phase, early.climbed⟩
  exact (unmoved.same (sameStage_submitWorkers _ _ _ _ _)).aside (aside_submitRound _ _ _)

theorem master_submitRound {planned : Round} {roster : Roster} {index : Nat} {address : String}
    (opened : (c.listed clients).master = some address) :
    ((c.withRound clients roster).submitRound clients planned index).master = some address := by
  let d := c.withRound clients roster
  rw [(aside_submitRound d planned index).master]
  exact master_submitWorkers _ _ _ _ d opened

theorem Ready.listed (ready : Ready start known round c)
    (later : (c.listed clients).Cooperates start.journal) :
    Ready start known round (c.listed clients) := by
  have same : SameStage c (c.listed clients) := sameStage_listed
  have kept := ready.unasked.listed later
  obtain ⟨early, launched, sound, filled, rounds, _⟩ := ready
  obtain ⟨address, opened⟩ := Option.isSome_iff_exists.mp launched
  refine ⟨early.same same, ?_, ?_, ?_, ?_, ?_⟩
  · rw [moves_listed.master_eq opened]
    rfl
  · rw [same.plan, kept.same]
    exact sound
  · rw [same.plan, kept.same]
    exact filled
  · rw [kept.same]
    exact rounds
  · rw [same.plan, kept.same]
    exact kept

theorem Ready.submitRound {planned : Round} {roster : Roster} (index : Nat)
    (ready : Ready start known round (c.listed clients))
    (next : (c.listed clients).roster.nextRound (c.listed clients).plan.limits known =
      .ok (some (planned, roster)))
    (later : ((c.withRound clients roster).submitRound clients planned index).Cooperates
      start.journal) :
    Awaiting start known planned.hosts (round + 1)
      ((c.withRound clients roster).submitRound clients planned index) := by
  have unasked := ready.unasked
  obtain ⟨total, positive, _, _, written⟩ := Roster.nextRound_planned next
  obtain ⟨address, opened⟩ := Option.isSome_iff_exists.mp ready.launched
  let d := c.withRound clients roster
  let request := d.plan.requests.forWorker planned.hosts
  let first := d.plan.limits.target - planned.needed
  let submitted := d.submitWorkers clients request index first planned.needed
  have wanted : (c.listed clients).roster.hasEnough (c.listed clients).plan.limits = false :=
    Roster.hasEnough_eq_false.mpr (by omega)
  have serving : d.Serving known start.journal planned.hosts (round + 1) planned.needed := by
    refine ⟨unasked.grown, Roster.underway_planned ready.sound next (ready.filled wanted), ?_, ?_,
      ?_⟩
    · have none : openRequests (since start.journal d.journal) = 0 := unasked.answered
      rw [none, Nat.zero_add, show d.roster = roster from rfl, written]
    · intro pending
      exact absurd unasked.answered (Nat.ne_of_gt pending)
    · have before := unasked.submitted
      have fewer : planned.needed ≤ (c.listed clients).plan.limits.target := by omega
      rw [Nat.add_mul, Nat.one_mul]
      exact Nat.add_le_add before fewer
  have after : Aside submitted (d.submitRound clients planned index) :=
    aside_submitRound d planned index
  have same : SameStage d submitted := sameStage_submitWorkers _ _ _ _ _
  have grown : start.journal <:+ submitted.journal :=
    unasked.grown.trans (covers_suffix.submitWorkers request index planned.needed first d)
  have served : submitted.Serving known start.journal planned.hosts (round + 1) 0 :=
    serving.submitWorkers planned.needed first d opened (later.before grown after.apart.suffix)
  refine ⟨ready.early.submitRound, by rw [master_submitRound opened]; rfl, ?_,
    served.apart after.plan after.apart⟩
  have counted : d.roster.gate.rounds = (c.listed clients).roster.gate.rounds + 1 := by
    rw [show d.roster = roster from rfl, written]
  have before := ready.rounds
  rw [after.apart.roster, same.rounds]
  omega

/-- How far the bring-up that began at `start` has come, between two steps. -/
inductive Progress (start : Coordinator σ) (known : HostSet) (c : Coordinator σ) : Prop
  | waiting (control : c.control = .begun ∨ c.control = .awaitingMaster) (early : Early start c)
      (unasked : c.Unasked start.journal start.roster 0)
  | awaiting (round : Nat) (hosts : List Host) (control : c.control = .awaitingRound round)
      (within : round ≤ maxRounds) (awaiting : Awaiting start known hosts round c)
  | ended (ended : Over start c)

theorem suffix_listed_runRounds (left : Nat) (wanted : c.roster.hasEnough c.plan.limits = false) :
    (c.listed clients).journal <:+ (c.runRounds clients (left + 1)).journal := by
  have covers : CoversSequence clients fun c c' : Coordinator σ => c.journal <:+ c'.journal :=
    covers_suffix
  refine runRounds_cases left c ?_ ?_ ?_ ?_ ?_
  · intro enough
    simp [wanted] at enough
  · exact fun _ _ _ => List.suffix_rfl
  · exact fun _ _ _ _ _ => List.suffix_rfl
  · exact fun _ _ _ _ => covers.settle _ _
  · intro known planned roster _ _ _
    have submitted := covers.submitRound planned (maxRounds - left) (c.withRound clients roster)
    split
    · exact submitted.trans (moves_runRounds left).suffix
    · exact submitted

theorem Ready.runRounds
    (room : start.plan.limits.target ≤ known.size * start.plan.limits.maxPerHost) (left : Nat) :
    ∀ {round : Nat} {c : Coordinator σ}, left + round = maxRounds → Ready start known round c →
      (∀ d ∈ inquiries clients left c, (clients.nodeHosts d.env).1 = .ok known) →
      (c.runRounds clients left).Cooperates start.journal →
        Progress start known (c.runRounds clients left) := by
  induction left with
  | zero =>
      intro round c remaining ready _ later
      exact .ended (ready.settle (by omega) fun _ => by omega)
  | succ left ih =>
      intro round c remaining ready fixed later
      cases wanted : c.roster.hasEnough c.plan.limits with
      | true =>
          simp only [Coordinator.runRounds, wanted, if_true]
          exact .ended (ready.settle (by omega) fun missing => by simp [wanted] at missing)
      | false =>
          have answer := fixed c (mem_inquiries_self wanted)
          have heard : start.journal <:+ (c.listed clients).journal :=
            ready.unasked.grown.trans moves_listed.suffix
          have after := later.before heard (suffix_listed_runRounds left wanted)
          have short : (c.listed clients).roster.hasEnough (c.listed clients).plan.limits = false := by
            have planned : (c.listed clients).plan = c.plan := moves_listed.plan_eq
            rwa [planned, (ready.unasked.listed after).same]
          have ready := ready.listed after
          obtain ⟨planned, roster, next⟩ := Roster.nextRound_isSome short
            (ready.sound.fits (by rw [ready.early.plan]; exact room))
          rw [runRounds_planned left wanted answer next] at later ⊢
          rw [inquiries_planned wanted answer next] at fixed
          let submitted := (c.withRound clients roster).submitRound clients planned
            (maxRounds - left)
          have grown : start.journal <:+ submitted.journal :=
            heard.trans
              (covers_suffix.submitRound planned (maxRounds - left) (c.withRound clients roster))
          -- A round that is answered while it is submitted is followed by the next at once.
          cases drained : submitted.roster.gate.isDrained with
          | true =>
              rw [if_pos drained] at later fixed
              rw [if_pos rfl]
              have awaiting := ready.submitRound (maxRounds - left) next
                (later.before grown (moves_runRounds left).suffix)
              exact ih (by omega) (awaiting.ready drained)
                (fun d member => fixed d (List.mem_cons_of_mem _ member)) later
          | false =>
              rw [if_neg (Bool.eq_false_iff.mp drained)] at later
              rw [if_neg Bool.false_ne_true]
              have awaiting := ready.submitRound (maxRounds - left) next
                ⟨later.grown, later.cooperative⟩
              obtain ⟨early, launched, rounds, serving⟩ := awaiting
              have index : maxRounds - left = round + 1 := by omega
              refine .awaiting (round + 1) planned.hosts (by rw [index]) (by omega) ⟨?_, ?_, ?_, ?_⟩
              · exact ⟨early.plan, early.closed, early.phase, early.climbed⟩
              · exact launched
              · exact rounds
              · obtain ⟨grown, underway, owed, asked, submitted⟩ := serving
                exact ⟨grown, underway, owed, asked, submitted⟩

theorem Over.aside (ended : Over start c) (aside : Aside c c') (control : c'.control = c.control) :
    Over start c' := by
  obtain ⟨awaiting, plan, closed, phase, sound, enough, rounds, unasked, steps, climbed, reached⟩ :=
    ended
  obtain ⟨more, climbedMore, absent⟩ := aside.phases
  have roster := aside.apart.roster
  have workers : c'.workers = c.workers := congrArg Roster.workers roster
  refine ⟨control.trans awaiting, aside.plan.trans plan, ?_, ?_, ?_, ?_, ?_, ?_, more ++ steps,
    ?_, ?_⟩
  · rw [aside.done]
    exact closed
  · exact aside.running phase
  · rw [aside.plan, roster]
    exact sound
  · rw [aside.plan, workers]
    exact enough
  · rw [roster]
    exact rounds
  · rw [aside.plan, roster]
    exact unasked.apart aside.apart
  · rw [climbedMore, climbed, List.append_assoc]
  · rw [aside.plan, workers]
    intro satisfied
    obtain ⟨present, missing⟩ := reached satisfied
    exact ⟨List.mem_append_right _ present, by simp [absent, missing]⟩

theorem Progress.aside (progress : Progress start known c) (aside : Aside c c')
    (control : c'.control = c.control) : Progress start known c' := by
  cases progress with
  | waiting waits early unasked =>
      refine .waiting ?_ (early.aside aside) (unasked.apart aside.apart)
      rw [control]
      exact waits
  | awaiting round hosts waits within awaiting =>
      exact .awaiting round hosts (control.trans waits) within (awaiting.aside aside)
  | ended ended => exact .ended (ended.aside aside control)

theorem Progress.onAllocated {containers : List Container} (progress : Progress start known c)
    (later : (c.onAllocated clients containers).Cooperates start.journal) :
    Progress start known (c.onAllocated clients containers) := by
  have same : SameStage c (c.onAllocated clients containers) := sameStage_onAllocated containers
  cases progress with
  | waiting waits early unasked =>
      refine .waiting ?_ (early.same same) (unasked.onAllocated later)
      rw [same.control]
      exact waits
  | awaiting round hosts waits within awaiting =>
      obtain ⟨early, launched, rounds, serving⟩ := awaiting
      obtain ⟨address, opened⟩ := Option.isSome_iff_exists.mp launched
      refine .awaiting round hosts (same.control.trans waits) within
        ⟨early.same same, ?_, same.rounds.trans rounds, serving.onAllocated opened later⟩
      rw [(moves_onAllocated containers).master_eq opened]
      rfl
  | ended ended =>
      obtain ⟨waits, plan, closed, phase, sound, enough, rounds, unasked, steps, climbed,
        reached⟩ := ended
      have kept := unasked.onAllocated later
      have workers : (c.onAllocated clients containers).workers = c.workers :=
        congrArg Roster.workers kept.same
      refine .ended ⟨same.control.trans waits, same.plan.trans plan, ?_, same.phase.trans phase, ?_,
        ?_, ?_, ?_, steps, same.phases.trans climbed, ?_⟩
      · rw [same.done]
        exact closed
      · rw [same.plan, kept.same]
        exact sound
      · rw [same.plan, workers]
        exact enough
      · rw [kept.same]
        exact rounds
      · rw [same.plan, kept.same]
        exact kept
      · rw [same.plan, workers]
        exact reached

theorem Progress.awaitMaster
    (fixed : ∀ d ∈ firstInquiries clients c, (clients.nodeHosts d.env).1 = .ok known)
    (room : start.plan.limits.target ≤ known.size * start.plan.limits.maxPerHost)
    (sound : start.roster.Sound start.plan.limits) (early : Early start c)
    (unasked : c.Unasked start.journal start.roster 0)
    (later : (c.awaitMaster clients).Cooperates start.journal) :
    Progress start known (c.awaitMaster clients) := by
  unfold Coordinator.awaitMaster at later ⊢
  unfold firstInquiries at fixed
  cases launched : c.master.isSome with
  | true =>
      rw [if_pos launched] at later fixed
      rw [if_pos rfl]
      have ready : Ready start known 0 c := by
        refine ⟨early, launched, ?_, fun _ => Nat.zero_le _, ?_, ?_⟩
        · rw [early.plan, unasked.same]
          exact sound
        · rw [unasked.same]
          rfl
        · rw [unasked.same, Nat.zero_mul]
          exact unasked
      exact (ready.aside (aside_advance rfl)).runRounds room maxRounds rfl fixed later
  | false =>
      rw [if_neg Bool.false_ne_true]
      exact .waiting (.inr rfl) ⟨early.plan, early.closed, early.phase, early.climbed⟩
        ⟨unasked.grown, unasked.answered, unasked.submitted, unasked.same⟩

theorem Early.submitMaster (early : Early start c) : Early start (c.submitMaster clients) := by
  let request := c.plan.requests.forMaster
  let logged := c.log (.requestingMaster request c.plan.requests.masterHost)
  have before : Aside c logged := aside_log rfl rfl
  have same : SameStage logged (logged.addRequest clients request) := sameStage_addRequest request
  exact ((early.aside before).same same).aside ((aside_advance rfl).trans (aside_log rfl rfl))

theorem Unasked.submitMaster (unasked : c.Unasked start.journal start.roster 0)
    (later : (c.submitMaster clients).Cooperates start.journal) :
    (c.submitMaster clients).Unasked start.journal start.roster 0 := by
  let request := c.plan.requests.forMaster
  let logged := c.log (.requestingMaster request c.plan.requests.masterHost)
  let submitted := logged.addRequest clients request
  have before : Aside c logged := aside_log rfl rfl
  have after : Aside submitted (c.submitMaster clients) :=
    (aside_advance rfl).trans (aside_log rfl rfl)
  have grown : start.journal <:+ submitted.journal :=
    (unasked.grown.trans before.apart.suffix).trans (suffix_addRequest request)
  have answered : submitted.Unasked start.journal start.roster 0 :=
    (unasked.apart before.apart).addRequest rfl (later.before grown after.apart.suffix)
  exact answered.apart after.apart

theorem Progress.resume (progress : Progress start known c)
    (fixed : ∀ d ∈ inquiriesOf clients .resume c, (clients.nodeHosts d.env).1 = .ok known)
    (room : start.plan.limits.target ≤ known.size * start.plan.limits.maxPerHost)
    (sound : start.roster.Sound start.plan.limits)
    (later : (c.resume clients).Cooperates start.journal) :
    Progress start known (c.resume clients) := by
  cases progress with
  | waiting waits early unasked =>
      rcases waits with begun | waiting
      · simp only [inquiriesOf, begun] at fixed
        simp only [Coordinator.resume, begun] at later ⊢
        have grown : start.journal <:+ (c.submitMaster clients).journal :=
          unasked.grown.trans moves_submitMaster.suffix
        have still := unasked.submitMaster (later.before grown moves_awaitMaster.suffix)
        exact .awaitMaster fixed room sound early.submitMaster still later
      · simp only [inquiriesOf, waiting] at fixed
        simp only [Coordinator.resume, waiting] at later ⊢
        exact .awaitMaster fixed room sound early unasked later
  | awaiting round hosts waits within awaiting =>
      simp only [inquiriesOf, waits] at fixed
      simp only [Coordinator.resume, waits] at later ⊢
      split at later
      · rename_i drained
        simp only [drained, if_true] at fixed ⊢
        exact (awaiting.ready drained).runRounds room _ (by omega) fixed later
      · rename_i undrained
        simp only [undrained, Bool.false_eq_true, if_false]
        exact .awaiting round hosts waits within awaiting
  | ended ended =>
      obtain ⟨waits, plan, closed, phase, sound, enough, rounds, unasked, climbed⟩ := ended
      simp only [Coordinator.resume, waits, Coordinator.awaitShutdown, closed, Bool.false_eq_true,
        if_false]
      exact .ended ⟨rfl, plan, closed, phase, sound, enough, rounds,
        ⟨unasked.grown, unasked.answered, unasked.submitted, rfl⟩, climbed⟩

/-! ## Runs -/

/-- The actions that neither drop a bring-up nor end the application. -/
def Undisturbed : Action → Prop
  | .start | .resume | .progress => True
  | .receive delivery => delivery ≠ .shutdown
  | .request | .cancel | .stop .. | .stopAfter => False

theorem completed_eq (statuses : List ContainerStatus) :
    ∀ (c : Coordinator σ), ∃ entries,
      (∀ entry ∈ entries, entry.concernsWorkers = false ∧ entry.phase? = none) ∧
        statuses.foldl (fun c status => c.onCompleted status) c =
          { c with journal := entries ++ c.journal } := by
  induction statuses with
  | nil => exact fun c => ⟨[], by simp, rfl⟩
  | cons status rest ih =>
      intro c
      obtain ⟨event, silent, noted⟩ : ∃ event : Event,
          ((Entry.event event).concernsWorkers = false ∧ (Entry.event event).phase? = none) ∧
            c.onCompleted status = c.log event := by
        unfold onCompleted
        split
        · exact ⟨_, ⟨rfl, rfl⟩, rfl⟩
        · exact ⟨_, ⟨rfl, rfl⟩, rfl⟩
      obtain ⟨entries, others, same⟩ := ih (c.log event)
      refine ⟨entries ++ [.event event], ?_, ?_⟩
      · intro entry member
        rcases List.mem_append.mp member with later | first
        · exact others entry later
        · rw [List.mem_singleton.mp first]
          exact silent
      · rw [List.foldl_cons, noted, same, List.append_assoc]
        rfl

theorem aside_completed (statuses : List ContainerStatus) :
    Aside c (statuses.foldl (fun c status => c.onCompleted status) c) := by
  obtain ⟨entries, silent, same⟩ := completed_eq statuses c
  rw [same]
  exact aside_write c.env entries silent

theorem Progress.perform {action : Action} (progress : Progress start known c)
    (permitted : Undisturbed action)
    (fixed : ∀ d ∈ inquiriesOf clients action c, (clients.nodeHosts d.env).1 = .ok known)
    (room : start.plan.limits.target ≤ known.size * start.plan.limits.maxPerHost)
    (sound : start.roster.Sound start.plan.limits)
    (later : (c.perform clients action).2.Cooperates start.journal) :
    Progress start known (c.perform clients action).2 := by
  cases action with
  | start =>
      rw [perform_start]
      exact progress.aside aside_start (covers_control.start _)
  | request => exact permitted.elim
  | cancel => exact permitted.elim
  | resume => exact progress.resume fixed room sound later
  | receive delivery =>
      have control : (c.receive clients delivery).control = c.control :=
        control_receive delivery
      cases delivery with
      | allocated containers => exact progress.onAllocated later
      | completed statuses => exact progress.aside (aside_completed statuses) control
      | nodes reports => exact progress
      | shutdown => exact absurd rfl permitted
      | error cause => exact progress.aside (aside_log rfl rfl) rfl
  | progress => exact progress
  | stop status diagnostics => exact permitted.elim
  | stopAfter => exact permitted.elim

theorem Progress.survey {asked : List (Coordinator σ)}
    (run : Survey clients Undisturbed start asked c)
    (fixed : ∀ d ∈ asked, (clients.nodeHosts d.env).1 = .ok known)
    (room : start.plan.limits.target ≤ known.size * start.plan.limits.maxPerHost)
    (sound : start.roster.Sound start.plan.limits) (begins : Progress start known start)
    (later : c.Cooperates start.journal) : Progress start known c := by
  induction run with
  | refl => exact begins
  | environment env earlier ih =>
      have before := ih fixed ⟨later.grown, later.cooperative⟩
      exact before.aside (aside_write env [] (by simp)) rfl
  | perform action permitted earlier ih =>
      have grown := (moves_of_steps earlier.steps).suffix
      have before := ih (fun d member => fixed d (List.mem_append_left _ member))
        (later.before grown (moves_perform action).suffix)
      exact before.perform permitted (fun d member => fixed d (List.mem_append_right _ member)) room
        sound later

theorem since_of_append {base trace journal : List Entry} (written : journal = trace ++ base) :
    since base journal = trace := by
  rw [written, since_append List.suffix_rfl, since_self, List.append_nil]

theorem mem_trace_iff {trace : List Entry} {steps : List Phase}
    (written : c.journal = trace ++ start.journal) (climbed : c.phases = steps ++ start.phases)
    (phase : Phase) : .event (.phaseChanged phase) ∈ trace ↔ phase ∈ steps := by
  have both : trace.filterMap Entry.phase? ++ start.phases = steps ++ start.phases := by
    rw [← climbed, phases, phases, written, List.filterMap_append]
  rw [← List.append_cancel_right both, List.mem_filterMap]
  constructor
  · intro member
    exact ⟨_, member, rfl⟩
  · rintro ⟨entry, member, moved⟩
    unfold Entry.phase? at moved
    split at moved
    · rw [← Option.some.inj moved]
      exact member
    · simp at moved

/-- The rounds of a bring-up that began at `start`, of which `trace` is the part of the journal. -/
structure RoundsServed (start : Coordinator σ) (trace : List Entry) (c : Coordinator σ) : Prop where
  unfailed : ∀ outcome, c.control ≠ .finished outcome
  rounds : c.roster.gate.rounds ≤ start.roster.gate.rounds + maxRounds
  submitted : submittedRequests trace ≤ maxRounds * c.plan.limits.target
  unmissed : c.plan.limits.target ≤ maxRounds * c.plan.limits.maxPerHost →
    .event (.phaseChanged .workersExhausted) ∉ trace
  ended : c.master.isSome = true → openRequests trace = 0 →
    c.control = .awaitingShutdown ∧ c.phase = .running ∧ c.workers ≤ c.plan.limits.target ∧
      min c.plan.limits.target (maxRounds * c.plan.limits.maxPerHost) ≤ c.workers ∧
      (c.plan.limits.target ≤ maxRounds * c.plan.limits.maxPerHost →
        c.workers = c.plan.limits.target ∧ .event (.phaseChanged .workersSatisfied) ∈ trace)

theorem Over.served {trace : List Entry} (ended : Over start c)
    (written : c.journal = trace ++ start.journal) : RoundsServed start trace c := by
  obtain ⟨waits, plan, closed, phase, sound, enough, rounds, unasked, steps, climbed, reached⟩ :=
    ended
  have submitted := unasked.submitted
  rw [since_of_append written] at submitted
  have satisfied (few : c.plan.limits.target ≤ maxRounds * c.plan.limits.maxPerHost) :
      c.plan.limits.target ≤ c.workers := by
    rwa [Nat.min_eq_left few] at enough
  refine ⟨by simp [waits], rounds, submitted, ?_, ?_⟩
  · intro few
    rw [mem_trace_iff written climbed]
    exact (reached (satisfied few)).2
  · intro launched answered
    refine ⟨waits, phase, sound.bounded, enough, ?_⟩
    intro few
    rw [mem_trace_iff written climbed]
    exact ⟨Nat.le_antisymm sound.bounded (satisfied few), (reached (satisfied few)).1⟩

theorem Progress.served {trace : List Entry} (progress : Progress start known c)
    (resting : c.Resting) (written : c.journal = trace ++ start.journal) :
    RoundsServed start trace c := by
  have traced := since_of_append written
  cases progress with
  | waiting waits early unasked =>
      obtain ⟨steps, climbed, absent⟩ := early.climbed
      have submitted := unasked.submitted
      rw [traced] at submitted
      refine ⟨?_, ?_, by omega, ?_, ?_⟩
      · rintro outcome finished
        simp [finished] at waits
      · rw [unasked.same]
        exact Nat.le_add_right _ _
      · intro _
        rwa [mem_trace_iff written climbed]
      · intro launched _
        rcases waits with begun | waiting
        · simp [Resting, begun] at resting
        · simp [Resting, waiting, launched] at resting
  | awaiting round hosts waits within awaiting =>
      obtain ⟨early, launched, rounds, serving⟩ := awaiting
      obtain ⟨steps, climbed, absent⟩ := early.climbed
      have submitted := serving.submitted
      have most := Nat.mul_le_mul_right c.plan.limits.target within
      rw [traced] at submitted
      refine ⟨by simp [waits], by omega, by omega, ?_, ?_⟩
      · intro _
        rwa [mem_trace_iff written climbed]
      · intro _ answered
        have owed := serving.owed
        rw [traced, answered] at owed
        simp [Resting, waits, RoundGate.isDrained, owed] at resting
  | ended ended => exact ended.served written

/-- When the hosts have room for all workers and each request of a bring-up is answered on one of
its hosts, the bring-up is over as soon as all its requests are answered, and then it has reached
its target, as far as the rounds can fill hosts. -/
theorem target_reached {plan : BringupPlan} {env : σ} {asked : List (Coordinator σ)}
    {trace : List Entry}
    (room : plan.limits.target ≤ known.size * plan.limits.maxPerHost)
    (reached : Run clients (init plan env) start) (begun : start.control = .begun)
    (closed : start.done.isOpen = false) (early : start.phase.precedes .workersSatisfied = true)
    (run : Survey clients Undisturbed start asked c)
    (fixed : ∀ d ∈ asked ++ inquiriesOf clients .resume c,
      (clients.nodeHosts d.env).1 = .ok known)
    (written : (c.resume clients).journal = trace ++ start.journal)
    (cooperative : Cooperative trace) : RoundsServed start trace (c.resume clients) := by
  have moves := moves_of_steps reached
  have same : start.plan = plan := moves.plan_eq
  rw [← same] at room
  have sound := (accounted_of_moves moves).sound
  have begins : Progress start known start :=
    .waiting (.inl begun) ⟨rfl, closed, early, [], rfl, by simp⟩
      ⟨List.suffix_rfl, by simp [openRequests], by simp [submittedRequests], rfl⟩
  have resumed : Survey clients Undisturbed start _ (c.resume clients) :=
    run.perform .resume trivial
  have traced := since_of_append written
  have later : (c.resume clients).Cooperates start.journal :=
    ⟨⟨trace, written.symm⟩, by rwa [traced]⟩
  have progress := Progress.survey resumed fixed room sound begins later
  exact progress.served resting_resume written

def lettered (count : Nat) : HostSet :=
  .ofList ((List.range count).map fun index => String.ofList [Char.ofNat (97 + index)])

def stubborn (count : Nat) : Coordinator Script :=
  init { crowdedPlan with limits := ⟨count, 1⟩ } {
    inventory := lettered count
    connected := true
    answers := some "am" :: (lettered count).toList.zipIdx.flatMap fun (host, round) =>
      List.replicate (count - round) (some host) }

theorem target_reached_stubborn :
    (((stubborn 3).request.resume Script.clients).journal.filterMap Entry.taken?).map
        (·.host) = ["c", "b", "b", "a", "a", "a"] ∧
      RoundsServed (stubborn 3).request
        ((stubborn 3).request.resume Script.clients).journal
        ((stubborn 3).request.resume Script.clients) := by
  have reached : Run Script.clients (stubborn 3) (stubborn 3).request :=
    run_performAll [.request]
  refine ⟨by decide +kernel, ?_⟩
  have fixed : ∀ d ∈ [] ++ inquiriesOf Script.clients .resume (stubborn 3).request,
      (Script.clients.nodeHosts d.env).1 = .ok (lettered 3) := by
    decide +kernel
  exact target_reached (by decide +kernel) reached rfl rfl rfl .refl fixed
    (List.append_nil _).symm (by decide +kernel)

theorem target_missed_stubborn :
    (stubborn 21).plan.limits.target ≤ (lettered 21).size * (stubborn 21).plan.limits.maxPerHost ∧
      (∀ d ∈ inquiriesOf Script.clients .resume (stubborn 21).request,
        (Script.clients.nodeHosts d.env).1 = .ok (lettered 21)) ∧
      Cooperative ((stubborn 21).request.resume Script.clients).journal ∧
      openRequests ((stubborn 21).request.resume Script.clients).journal = 0 ∧
      .event (.phaseChanged .workersExhausted) ∈
        ((stubborn 21).request.resume Script.clients).journal ∧
      ((stubborn 21).request.resume Script.clients).workers = 20 := by
  decide +kernel

end Muster.Coordinator
