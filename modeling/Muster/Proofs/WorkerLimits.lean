import Muster.Proofs.Moves
import Muster.Proofs.Plan
import Muster.Rehearsal

/-!
No run of a coordinator launches more workers than its limits allow, on a host or in all, and what
the coordinator records about its workers is what it launched.
-/

namespace Muster

def LaunchTemplate.startsWorker (template : LaunchTemplate) (context : LaunchContext) : Bool :=
  context.commands == [template.command .worker]

def Entry.launchesWorkerOn (template : LaunchTemplate) (host : Host) : Entry → Bool
  | .call (.startContainer container context) none =>
    container.host == host && template.startsWorker context
  | _ => false

def workersLaunchedOn (template : LaunchTemplate) (host : Host) (journal : List Entry) : Nat :=
  journal.countP (Entry.launchesWorkerOn template host)

theorem LaunchTemplate.command_ne (template : LaunchTemplate) :
    template.command .master ≠ template.command .worker := by
  intro same
  have letters := congrArg String.toList same
  simp [command, Role.word, toString] at letters

theorem LaunchTemplate.startsWorker_forWorker (template : LaunchTemplate) (address : String) :
    template.startsWorker (template.forWorker address) = true := by
  simp [startsWorker, forWorker]

theorem LaunchTemplate.startsWorker_forMaster (template : LaunchTemplate) :
    template.startsWorker template.forMaster = false := by
  simp [startsWorker, forMaster, template.command_ne]

theorem Entry.launchesWorkerOn_of_silent {template : LaunchTemplate} {host : Host} {entry : Entry}
    (silent : entry.concernsWorkers = false) : entry.launchesWorkerOn template host = false := by
  unfold launchesWorkerOn
  split
  · simp [concernsWorkers] at silent
  · rfl

theorem suffix_of_append {α : Type} {entry : α} {before entries journal : List α}
    (suffix : entry :: before <:+ entries ++ journal) (absent : entry ∉ entries) :
    entry :: before <:+ journal := by
  induction entries with
  | nil => exact suffix
  | cons head rest ih =>
      rw [List.mem_cons, not_or] at absent
      rcases List.suffix_cons_iff.mp suffix with same | inside
      · exact absurd (List.cons.inj same).1 absent.1
      · exact ih inside absent.2

namespace Coordinator

variable {σ : Type} {clients : Clients σ} {c : Coordinator σ}

/-- What a coordinator knows of its workers agrees with its journal and with its limits. -/
structure Accounted (c : Coordinator σ) : Prop where
  sound : c.roster.Sound c.plan.limits
  counted : ∀ host, c.roster.placement.count host =
    workersLaunchedOn c.plan.launch host c.journal
  recorded : ∀ host count total before,
    .event (.workerRecorded host count total) :: before <:+ c.journal →
      count = workersLaunchedOn c.plan.launch host before ∧
        count ≤ c.plan.limits.maxPerHost ∧ total ≤ c.plan.limits.target
  numbered : ∀ worker round request, .event (.requestingWorker worker round request) ∈ c.journal →
    worker < c.plan.limits.target

theorem accounted_init (plan : BringupPlan) (env : σ) : (init plan env).Accounted where
  sound := Roster.sound_empty _
  counted _ := rfl
  recorded _ _ _ _ suffix := by simp [init] at suffix
  numbered _ _ _ member := by simp [init] at member

theorem Accounted.write {c' : Coordinator σ} (accounted : c.Accounted) (entries : List Entry)
    (plan : c'.plan = c.plan) (placement : c'.roster.placement = c.roster.placement)
    (journal : c'.journal = entries ++ c.journal)
    (idle : ∀ entry ∈ entries, (∀ host, entry.launchesWorkerOn c.plan.launch host = false) ∧
      (∀ host count total, entry ≠ .event (.workerRecorded host count total)) ∧
      ∀ worker round request, entry = .event (.requestingWorker worker round request) →
        worker < c.plan.limits.target) :
    c'.Accounted := by
  obtain ⟨sound, counted, recorded, numbered⟩ := accounted
  constructor
  · rw [plan]
    exact sound.of_placement placement
  · intro host
    have none : entries.countP (Entry.launchesWorkerOn c.plan.launch host) = 0 := by
      rw [List.countP_eq_zero]
      intro entry member
      simp [(idle entry member).1 host]
    rw [plan, placement, journal, workersLaunchedOn, List.countP_append, none, Nat.zero_add]
    exact counted host
  · intro host count total before suffix
    rw [journal] at suffix
    rw [plan]
    refine recorded host count total before (suffix_of_append suffix fun member => ?_)
    exact (idle _ member).2.1 host count total rfl
  · intro worker round request member
    rw [journal] at member
    rw [plan]
    rcases List.mem_append.mp member with recent | earlier
    · exact (idle _ recent).2.2 worker round request rfl
    · exact numbered worker round request earlier

theorem Accounted.launch (accounted : c.Accounted) (env : σ) {container : Container}
    (address : String) (wanted : c.roster.hasEnough c.plan.limits = false)
    (room : c.roster.isHostFull c.plan.limits container.host = false) :
    Accounted { c with
      env
      roster := c.roster.record container.host
      journal := .event (.workerRecorded container.host
          ((c.roster.record container.host).placement.count container.host)
          (c.roster.record container.host).workers) ::
        .call (.startContainer container (c.plan.launch.forWorker address)) none ::
        .event (.launchingWorker container c.workers) :: c.journal } := by
  obtain ⟨sound, counted, recorded, numbered⟩ := accounted
  have grown := sound.record wanted room
  have more : ∀ host, (c.roster.record container.host).placement.count host =
      workersLaunchedOn c.plan.launch host
        (.call (.startContainer container (c.plan.launch.forWorker address)) none ::
          .event (.launchingWorker container c.workers) :: c.journal) := by
    intro host
    have before := counted host
    simp only [workersLaunchedOn] at before
    simp only [Roster.record, Placement.count_add, workersLaunchedOn, List.countP_cons,
      Entry.launchesWorkerOn, LaunchTemplate.startsWorker_forWorker, Bool.and_true, before]
    by_cases same : container.host = host <;> simp [same]
  refine ⟨grown, ?_, ?_, ?_⟩
  · intro host
    simpa [workersLaunchedOn, Entry.launchesWorkerOn] using more host
  · intro host count total before suffix
    simp only [List.suffix_cons_iff, List.cons.injEq, Entry.event.injEq, reduceCtorEq,
      Event.workerRecorded.injEq, false_and, false_or] at suffix
    rcases suffix with ⟨⟨rfl, rfl, rfl⟩, rfl⟩ | earlier
    · exact ⟨more _, grown.capped _, grown.bounded⟩
    · exact recorded host count total before earlier
  · intro worker round request member
    exact numbered worker round request (by simpa using member)

theorem Accounted.move {c' : Coordinator σ} (accounted : c.Accounted)
    (move : Move clients c c') : c'.Accounted := by
  cases move with
  | quiet env phase done entries silent =>
      refine accounted.write entries rfl rfl rfl fun entry member => ?_
      have nothing := silent entry member
      refine ⟨fun host => Entry.launchesWorkerOn_of_silent nothing, ?_, ?_⟩
      · rintro host count total rfl
        simp [Entry.concernsWorkers] at nothing
      · rintro worker round request rfl
        simp [Entry.concernsWorkers] at nothing
  | turn => exact accounted.write [] rfl rfl rfl (by simp)
  | refuse => exact accounted.write [] rfl rfl rfl (by simp)
  | plan env known round roster answer planned =>
      obtain ⟨_, _, _, _, rfl⟩ := Roster.nextRound_planned planned
      exact accounted.write [] rfl rfl rfl (by simp)
  | requestWorker env worker round hosts below planned =>
      exact accounted.write [_, _] rfl rfl rfl
        (by simpa [Entry.launchesWorkerOn] using below)
  | launchMaster env container closed =>
      exact accounted.write [_, _, _] rfl rfl rfl
        (by simp [Entry.launchesWorkerOn, LaunchTemplate.startsWorker_forMaster])
  | failMaster env container cause closed =>
      exact accounted.write [_, _, _] rfl rfl rfl
        (by simp [Entry.launchesWorkerOn])
  | releaseWorker env container refused =>
      exact accounted.write [_, _, _] rfl rfl rfl
        (by simp [Entry.launchesWorkerOn])
  | launchWorker env container address opened wanted room =>
      have launched := accounted.launch env address wanted room
      exact launched.write [_] rfl rfl rfl (by simp [Entry.launchesWorkerOn])
  | failWorker env container address cause opened wanted room =>
      exact accounted.write [_, _, _, _] rfl rfl rfl
        (by simp [Entry.launchesWorkerOn])

theorem Accounted.moves {c' : Coordinator σ} (accounted : c.Accounted)
    (moves : Moves clients c c') : c'.Accounted :=
  Moves.keeps (fun _ _ move accounted => accounted.move move) moves accounted

theorem accounted_of_moves {plan : BringupPlan} {env : σ}
    (moves : Moves clients (init plan env) c) :
    c.Accounted :=
  (accounted_init plan env).moves moves

theorem Move.workers_le {c' : Coordinator σ} (move : Move clients c c') :
    c.workers ≤ c'.workers := by
  cases move with
  | plan env known round roster answer planned =>
      obtain ⟨_, _, _, _, rfl⟩ := Roster.nextRound_planned planned
      exact Nat.le_refl _
  | launchWorker => exact Nat.le_succ _
  | _ => exact Nat.le_refl _

theorem workers_le_of_moves {later : Coordinator σ} (moves : Moves clients c later) :
    c.workers ≤ later.workers :=
  moves.keeps (fun _ _ move less => Nat.le_trans less move.workers_le) (Nat.le_refl _)

theorem mem_workerHosts_iff (balanced : c.roster.placement.Balanced) (host : Host) (count : Nat) :
    (host, count) ∈ c.workerHosts ↔ c.roster.placement.count host = count ∧ 1 ≤ count := by
  unfold workerHosts Placement.hosts Placement.count
  rw [Dict.mem_entries_iff]
  constructor
  · intro bound
    exact ⟨by rw [bound]; rfl, balanced.positive _ (Dict.mem_entries_iff.mpr bound)⟩
  · rintro ⟨same, positive⟩
    cases bound : c.roster.placement.counts.get? host with
    | none =>
        rw [bound] at same
        simp only [Option.getD_none] at same
        omega
    | some other =>
        rw [bound] at same
        exact congrArg some same

/-- A coordinator keeps its limits when `target` workers are wanted and a host may have `cap`. -/
structure WithinLimits (target cap : Nat) (c : Coordinator σ) : Prop where
  launched : ∀ host,
    c.roster.placement.count host = workersLaunchedOn c.plan.launch host c.journal ∧
      c.roster.placement.count host ≤ cap
  total : c.workers = (c.workerHosts.map (·.2)).sum ∧ c.workers ≤ target
  sorted : c.workerHosts.Pairwise (·.1 < ·.1)
  listed : ∀ host count, (host, count) ∈ c.workerHosts ↔
    c.roster.placement.count host = count ∧ 1 ≤ count
  sums : ∀ host count total before,
    .event (.workerRecorded host count total) :: before <:+ c.journal →
      count = workersLaunchedOn c.plan.launch host before ∧ count ≤ cap ∧ count < UInt32.size ∧
        total ≤ target ∧ total < UInt32.size
  missing : ∀ known round roster,
    c.roster.nextRound c.plan.limits known = .ok (some (round, roster)) →
      c.workers + round.needed = target
  numbers : ∀ worker round request, .event (.requestingWorker worker round request) ∈ c.journal →
    worker < target

/-- Whatever happens to a coordinator with a valid configuration, in any order, with any services
around it, it keeps its limits, and it never loses a worker. -/
theorem run_within_limits {config : Config} {localHost : Host} {plan : BringupPlan} {env : σ}
    (valid : BringupPlan.ofConfig config localHost = .ok plan)
    (run : Run clients (init plan env) c) :
    WithinLimits config.worker.count.toNat config.worker.maxPerHost.toNat c ∧
      ∀ later, Run clients c later → c.workers ≤ later.workers := by
  have same : c.plan = plan := (moves_of_steps run).plan_eq
  obtain ⟨sound, counted, recorded, numbered⟩ := accounted_of_moves (moves_of_steps run)
  rw [same, limits_of_config valid] at sound recorded numbered
  have targetFits := config.worker.count.toNat_lt
  have capFits := config.worker.maxPerHost.toNat_lt
  refine ⟨⟨?_, ?_, c.roster.placement.counts.sorted, mem_workerHosts_iff sound.balanced, ?_, ?_,
    numbered⟩, fun _ run => workers_le_of_moves (moves_of_steps run)⟩
  · intro host
    exact ⟨counted host, sound.capped host⟩
  · exact ⟨sound.balanced.total.symm, sound.bounded⟩
  · intro host count total before suffix
    obtain ⟨exact_, capped, bounded⟩ := recorded host count total before suffix
    rw [same]
    exact ⟨exact_, capped, Nat.lt_of_le_of_lt capped capFits, bounded,
      Nat.lt_of_le_of_lt bounded targetFits⟩
  · intro known round roster planned
    have total := (Roster.nextRound_planned planned).1
    rw [same, limits_of_config valid] at total
    exact total

def crowdedConfig : Config where
  worker := { count := 3, maxPerHost := 2 }
  resources := { path := "/srv/app" }

def crowdedPlan : BringupPlan where
  limits := ⟨3, 2⟩
  requests := ⟨⟨1024, 1⟩, ⟨2048, 1⟩, "localhost", true⟩
  launch := ⟨"/srv/app", "app.tar.gz", "app-yarn-setup.sh", "APP", "<LOG_DIR>", 1073741824⟩
  localHost := "am"

def crowded : List Action :=
  [.start, .request, .resume, .receive (.allocated [Script.container 0 "am"]), .resume,
    .receive (.allocated [Script.container 1 "h1", Script.container 2 "h1"]),
    .receive (.allocated [Script.container 3 "h1"])]

theorem run_within_limits_crowded : ∃ c,
    BringupPlan.ofConfig crowdedConfig "am" = .ok crowdedPlan ∧
      Run Script.clients (init crowdedPlan { inventory := .ofList ["h1", "h2"] }) c ∧
      c.workerHosts = [("h1", 2)] ∧ WithinLimits 3 2 c := by
  have valid : BringupPlan.ofConfig crowdedConfig "am" = .ok crowdedPlan := by decide +kernel
  have run : Run Script.clients (init crowdedPlan { inventory := .ofList ["h1", "h2"] }) _ :=
    run_performAll crowded
  refine ⟨_, valid, run, by decide +kernel, ?_⟩
  exact (run_within_limits valid run).1

end Coordinator

end Muster
