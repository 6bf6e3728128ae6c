import Muster.Proofs.WorkerLimits

/-!
One master comes first, and then workers that know it. Until a launch of the master succeeds nothing
is asked for but the master's container, and from then on every launch is a worker's, in a context
with the master's address.
-/

namespace Muster

/-- Whether a text is what another holds before its first colon. -/
def IsBeforeColon (part text : String) : Prop :=
  ∃ rest, text.toList = part.toList ++ rest ∧ ':' ∉ part.toList ∧
    (rest = [] ∨ rest.head? = some ':')

theorem Container.isBeforeColon_netAddress (container : Container) :
    IsBeforeColon container.netAddress container.nodeHttpAddress := by
  let letters := container.nodeHttpAddress.toList
  have address : container.netAddress.toList = letters.takeWhile (· != ':') := by
    simp [netAddress, letters]
  refine ⟨letters.dropWhile (· != ':'), ?_, ?_, ?_⟩
  · rw [address, List.takeWhile_append_dropWhile]
  · rw [address]
    intro member
    simpa using List.mem_takeWhile_imp member
  · cases ends : letters.dropWhile (· != ':') with
    | nil => exact .inl rfl
    | cons head tail =>
        have stopped := List.head_dropWhile_not (· != ':') (show letters.dropWhile (· != ':') ≠ [] by simp [ends])
        simp only [ends, List.head_cons] at stopped
        exact .inr (by simpa using stopped)

theorem Dict.insertEntry_of_above {α : Type} {key : String} (value : α)
    {entries : List (String × α)} (above : ∀ entry ∈ entries, entry.1 < key) :
    insertEntry key value entries = entries ++ [(key, value)] := by
  induction entries with
  | nil => rfl
  | cons head rest ih =>
      have less : head.1 < key := above head List.mem_cons_self
      have notLess : ¬key < head.1 := String.lt_asymm less
      have different : key ≠ head.1 := fun same => String.lt_irrefl key (by rwa [← same] at less)
      rw [insertEntry, if_neg notLess, if_neg different, List.cons_append]
      exact congrArg _ (ih fun entry member => above entry (List.mem_cons_of_mem _ member))

namespace LaunchTemplate

variable (template : LaunchTemplate)

theorem variableName_lt {name other : String} (less : name < other) :
    template.variableName name < template.variableName other := by
  rw [String.lt_iff_toList_lt] at less ⊢
  simp only [variableName, String.toList_append]
  exact List.append_left_lt less

theorem entries_forMaster :
    template.forMaster.environment.entries = [(template.variableName "HOME", "$PWD")] :=
  rfl

theorem entries_forWorker (address : String) :
    (template.forWorker address).environment.entries =
      [(template.variableName "HOME", "$PWD"),
        (template.variableName "MASTER_HOSTNAME", address),
        (template.variableName "WORKER_MEMORY_SIZE", Size.format template.ramdiskBytes)] := by
  have first : template.variableName "HOME" < template.variableName "MASTER_HOSTNAME" :=
    template.variableName_lt (by decide)
  have second :
      template.variableName "MASTER_HOSTNAME" < template.variableName "WORKER_MEMORY_SIZE" :=
    template.variableName_lt (by decide)
  have named : (template.baseEnvironment.insert (template.variableName "MASTER_HOSTNAME")
      address).entries = [(template.variableName "HOME", "$PWD"),
        (template.variableName "MASTER_HOSTNAME", address)] := by
    apply Dict.insertEntry_of_above address
    intro entry member
    rw [List.mem_singleton.mp member]
    exact first
  have sized : ∀ entry ∈ (template.baseEnvironment.insert
      (template.variableName "MASTER_HOSTNAME") address).entries,
        entry.1 < template.variableName "WORKER_MEMORY_SIZE" := by
    rw [named]
    intro entry member
    rcases List.mem_pair.mp member with rfl | rfl
    · exact String.lt_trans first second
    · exact second
  refine (Dict.insertEntry_of_above (Size.format template.ramdiskBytes) sized).trans ?_
  rw [named]
  rfl

theorem forWorker_ne_forMaster (address : String) :
    template.forWorker address ≠ template.forMaster := by
  intro same
  have starts := template.startsWorker_forWorker address
  rw [same, startsWorker_forMaster] at starts
  exact Bool.false_ne_true starts

end LaunchTemplate

/-! ## Before and after the launch -/

def Entry.Preparatory (template : LaunchTemplate) : Entry → Prop
  | .call (.startContainer _ context) failure => context = template.forMaster ∧ failure ≠ none
  | .call (.addRequest request) _ => request.role = .master
  | .call .nodeHosts _ => False
  | .event (.requestingWorker ..) => False
  | _ => True

def Entry.Informed (template : LaunchTemplate) (address : String) : Entry → Prop
  | .call (.startContainer _ context) _ => context = template.forWorker address
  | _ => True

def Entry.launchesMaster (template : LaunchTemplate) : Entry → Bool
  | .call (.startContainer _ context) none => context == template.forMaster
  | _ => false

variable {template : LaunchTemplate}

theorem Entry.informed_of_silent {entry : Entry} (silent : entry.concernsWorkers = false)
    (address : String) : entry.Informed template address := by
  unfold Informed
  split
  · simp [concernsWorkers] at silent
  · trivial

theorem Entry.preparatory_event {event : Event}
    (silent : (Entry.event event).concernsWorkers = false) :
    (Entry.event event).Preparatory template := by
  cases event <;> trivial

theorem Entry.Preparatory.launches_nothing {entry : Entry}
    (preparatory : entry.Preparatory template) : entry.launchesMaster template = false := by
  unfold launchesMaster
  split
  · exact absurd rfl preparatory.2
  · rfl

theorem Entry.Informed.launches_nothing {entry : Entry} {address : String}
    (informed : entry.Informed template address) : entry.launchesMaster template = false := by
  unfold launchesMaster
  split
  · rename_i container context
    have worker : context = template.forWorker address := informed
    rw [worker]
    simpa using template.forWorker_ne_forMaster address
  · rfl

namespace Coordinator

open Relation (ReflTransGen)

variable {σ : Type} {clients : Clients σ} {c c' : Coordinator σ}

/-- No master is launched yet, and the bring-up has not come to its rounds. -/
structure Preparing (c : Coordinator σ) : Prop where
  closed : c.master = none
  control : c.control = .idle ∨ c.control = .begun ∨ c.control = .awaitingMaster
  rounds : c.roster.gate.rounds = 0
  journal : ∀ entry ∈ c.journal, entry.Preparatory c.plan.launch

/-- The master was launched in a container, after some entries of the journal and before others. -/
structure LaunchedIn (container : Container) (before after : List Entry) (c : Coordinator σ) :
    Prop where
  journal : c.journal =
    after ++ .call (.startContainer container c.plan.launch.forMaster) none :: before
  opened : c.master = some container.netAddress
  earlier : ∀ entry ∈ before, entry.Preparatory c.plan.launch
  later : ∀ entry ∈ after, entry.Informed c.plan.launch container.netAddress

def Manned (c : Coordinator σ) : Prop :=
  ∃ container before after, LaunchedIn container before after c

def MasterFirst (c : Coordinator σ) : Prop :=
  c.Preparing ∨ c.Manned

theorem preparing_init (plan : BringupPlan) (env : σ) : (init plan env).Preparing :=
  ⟨rfl, .inl rfl, rfl, by simp [init]⟩

theorem Preparing.write (preparing : c.Preparing) (env : σ) (entries : List Entry)
    (preparatory : ∀ entry ∈ entries, entry.Preparatory c.plan.launch) :
    Preparing { c with env, journal := entries ++ c.journal } := by
  obtain ⟨closed, control, rounds, journal⟩ := preparing
  refine ⟨closed, control, rounds, ?_⟩
  intro entry member
  rcases List.mem_append.mp member with recent | earlier
  · exact preparatory entry recent
  · exact journal entry earlier

theorem Preparing.entry (preparing : c.Preparing) (env : σ) (entry : Entry)
    (preparatory : entry.Preparatory c.plan.launch) :
    Preparing { c with env, journal := entry :: c.journal } :=
  preparing.write env [entry] (by simpa using preparatory)

theorem covers_preparing :
    CoversCalls clients (Keeps Preparing) where
  refl _ preparing := preparing
  trans first second preparing := second (first preparing)
  set _ _ _ := fun ⟨closed, control, rounds, journal⟩ => ⟨closed, control, rounds, journal⟩
  log c _ silent preparing := preparing.entry c.env _ (Entry.preparatory_event silent)
  ask c _ act asks preparing := preparing.entry (act c.env).2 _ (by cases asks <;> trivial)
  tell c _ act tells preparing := preparing.entry (act c.env) _ (by cases tells <;> trivial)

theorem LaunchedIn.write {container : Container} {before after : List Entry}
    (launched : LaunchedIn container before after c) (entries : List Entry)
    (plan : c'.plan = c.plan) (master : c'.master = c.master)
    (journal : c'.journal = entries ++ c.journal)
    (informed : ∀ entry ∈ entries, entry.Informed c.plan.launch container.netAddress) :
    c'.Manned := by
  obtain ⟨same, opened, earlier, later⟩ := launched
  refine ⟨container, before, entries ++ after, ?_, master.trans opened, ?_, ?_⟩
  · rw [journal, same, plan, List.append_assoc]
  · rw [plan]
    exact earlier
  · rw [plan]
    intro entry member
    rcases List.mem_append.mp member with recent | old
    · exact informed entry recent
    · exact later entry old

theorem Manned.move (manned : c.Manned) (move : Move clients c c') : c'.Manned := by
  obtain ⟨container, before, after, launched⟩ := manned
  have opened := launched.opened
  have context {address : String} (known : c.master = some address) :
      c.plan.launch.forWorker address = c.plan.launch.forWorker container.netAddress := by
    rw [opened] at known
    rw [Option.some.inj known]
  cases move with
  | quiet env phase done entries silent =>
      exact launched.write entries rfl rfl rfl fun entry member =>
        Entry.informed_of_silent (silent entry member) _
  | turn => exact launched.write [] rfl rfl rfl (by simp)
  | refuse => exact launched.write [] rfl rfl rfl (by simp)
  | plan => exact launched.write [] rfl rfl rfl (by simp)
  | requestWorker => exact launched.write [_, _] rfl rfl rfl (by simp [Entry.Informed])
  | launchMaster _ _ closed => simp [closed] at opened
  | failMaster _ _ _ closed => simp [closed] at opened
  | releaseWorker => exact launched.write [_, _, _] rfl rfl rfl (by simp [Entry.Informed])
  | launchWorker _ _ _ known =>
      exact launched.write [_, _, _, _] rfl rfl rfl (by simp [Entry.Informed, context known])
  | failWorker _ _ _ _ known =>
      exact launched.write [_, _, _, _] rfl rfl rfl (by simp [Entry.Informed, context known])

theorem Manned.moves (manned : c.Manned) (moves : Moves clients c c') : c'.Manned :=
  moves.keeps (fun _ _ move manned => manned.move move) manned

theorem Manned.isSome (manned : c.Manned) : c.master.isSome = true := by
  obtain ⟨container, _, _, launched⟩ := manned
  simp [launched.opened]

theorem MasterFirst.manned (first : c.MasterFirst) (opened : c.master.isSome = true) :
    c.Manned := by
  rcases first with preparing | manned
  · simp [preparing.closed] at opened
  · exact manned

theorem MasterFirst.preparing (first : c.MasterFirst) (closed : c.master = none) :
    c.Preparing := by
  rcases first with preparing | manned
  · exact preparing
  · have opened := manned.isSome
    simp [closed] at opened

theorem covers_manned : CoversCalls clients (Keeps Manned) :=
  covers_moves.keeps fun moves manned => manned.moves moves

theorem covers_masterFirst : CoversCalls clients (Keeps MasterFirst) :=
  covers_preparing.or covers_manned

theorem MasterFirst.entry (first : c.MasterFirst) (env : σ) (entry : Entry)
    (preparatory : entry.Preparatory c.plan.launch)
    (informed : ∀ address, entry.Informed c.plan.launch address) :
    MasterFirst { c with env, journal := entry :: c.journal } := by
  rcases first with preparing | ⟨container, before, after, launched⟩
  · exact .inl (preparing.entry env entry preparatory)
  · exact .inr (launched.write [entry] rfl rfl rfl (by simpa using informed _))

theorem MasterFirst.launchMasterIn (first : c.MasterFirst) (container : Container)
    (closed : c.master = none) : (c.launchMasterIn clients container).MasterFirst := by
  have preparing := first.preparing closed
  cases outcome : (clients.startContainer container c.plan.launch.forMaster c.env).1 with
  | ok =>
      have announced := preparing.entry c.env
        (.event (.launchingMaster container c.plan.launch.forMaster)) trivial
      rw [launchMasterIn_launched container outcome]
      exact .inr ⟨container, .event (.launchingMaster container c.plan.launch.forMaster) ::
        c.journal, [.event (.masterLaunched container.netAddress)], rfl, rfl, announced.journal,
        by simp [Entry.Informed]⟩
  | error cause =>
      rw [launchMasterIn_failed container outcome]
      exact .inl (preparing.write _ [_, _, _] (by simp [Entry.Preparatory]))

theorem MasterFirst.onAllocated (first : c.MasterFirst) (containers : List Container) :
    (c.onAllocated clients containers).MasterFirst := by
  cases master : c.master with
  | some address =>
      have manned := first.manned (by simp [master])
      exact .inr (manned.moves (moves_onAllocated containers))
  | none =>
      have offered : Keeps MasterFirst c (c.placeMaster clients containers) := by
        refine covers_masterFirst.placeMaster ?_ ?_ containers master
        · intro c id first
          exact first.entry (clients.release id c.env) (.call (.release id) none) trivial
            fun _ => trivial
        · intro c container closed first
          exact first.launchMasterIn container closed
      simpa only [Coordinator.onAllocated, master] using offered first

theorem MasterFirst.submitMaster (first : c.MasterFirst) : (c.submitMaster clients).MasterFirst := by
  have covers : CoversCalls clients (Keeps MasterFirst) := covers_masterFirst
  let request := c.plan.requests.forMaster
  let d := c.log (.requestingMaster request c.plan.requests.masterHost)
  have logged : d.MasterFirst := covers.log c _ rfl first
  have requested := logged.entry (clients.addRequest request d.env).2
    (.call (.addRequest request) none) rfl fun _ => trivial
  have taken : (d.addRequest clients request).MasterFirst :=
    covers.foldl _ (fun _ containers first => first.onAllocated containers) _ _ requested
  exact covers.log _ .waitingForMaster rfl (covers.advance .masterRequested _ taken)

theorem MasterFirst.awaitMaster (first : c.MasterFirst) : (c.awaitMaster clients).MasterFirst := by
  unfold Coordinator.awaitMaster
  split
  · rename_i opened
    exact .inr ((first.manned opened).moves ((moves_advance _).trans (moves_runRounds _)))
  · rename_i absent
    have closed : c.master = none := by simpa using absent
    obtain ⟨_, _, rounds, journal⟩ := first.preparing closed
    exact .inl ⟨closed, .inr (.inr rfl), rounds, journal⟩

theorem MasterFirst.step {allowed : Action → Prop} (first : c.MasterFirst)
    (step : Step clients allowed c c') : c'.MasterFirst := by
  cases opened : c.master.isSome with
  | true => exact .inr ((first.manned opened).moves step.moves)
  | false =>
      have closed : c.master = none := by simpa using opened
      have preparing := first.preparing closed
      obtain ⟨_, control, rounds, journal⟩ := preparing
      cases step with
      | environment env => exact .inl ⟨closed, control, rounds, journal⟩
      | perform action =>
          by_cases allocated : ∃ containers, action = .receive (.allocated containers)
          · obtain ⟨containers, rfl⟩ := allocated
            exact first.onAllocated containers
          have other := not_exists.mp allocated
          cases action with
          | request => exact .inl ⟨closed, .inr (.inl rfl), rounds, journal⟩
          | cancel =>
              simp only [perform, cancel]
              split
              · exact first
              · exact .inl ⟨closed, .inl rfl, rounds, journal⟩
          | resume =>
              rcases control with idle | begun | waiting
              · simpa [perform, resume, idle] using first
              · simp only [perform, resume, begun]
                exact first.submitMaster.awaitMaster
              · simp only [perform, resume, waiting]
                exact first.awaitMaster
          | _ => exact covers_masterFirst.perform (by simp) other c first

theorem masterFirst_of_run {plan : BringupPlan} {env : σ} (run : Run clients (init plan env) c) :
    c.MasterFirst := by
  induction run with
  | refl => exact .inl (preparing_init plan env)
  | tail _ step ih => exact ih.step step

/-! ## The law -/

theorem LaunchedIn.launches {container : Container} {before after : List Entry}
    (launched : LaunchedIn container before after c) :
    c.journal.countP (Entry.launchesMaster c.plan.launch) = 1 := by
  have none (entries : List Entry)
      (nothing : ∀ entry ∈ entries, entry.launchesMaster c.plan.launch = false) :
      entries.countP (Entry.launchesMaster c.plan.launch) = 0 := by
    rw [List.countP_eq_zero]
    intro entry member
    simp [nothing entry member]
  have earlier := none before fun entry member => (launched.earlier entry member).launches_nothing
  have later := none after fun entry member => (launched.later entry member).launches_nothing
  rw [launched.journal, List.countP_append, List.countP_cons, earlier, later]
  simp [Entry.launchesMaster]

theorem Preparing.launches (preparing : c.Preparing) :
    c.journal.countP (Entry.launchesMaster c.plan.launch) = 0 := by
  rw [List.countP_eq_zero]
  intro entry member
  simp [(preparing.journal entry member).launches_nothing]

/-- The environment of the master, and that of the workers of a master with some address. -/
structure Environments (config : Config) (launch : LaunchTemplate) : Prop where
  master : launch.forMaster.environment.entries = [(config.launch.envPrefix ++ "_HOME", "$PWD")]
  worker : ∃ ramdiskMb, config.ramdiskMb = .ok ramdiskMb ∧ ∀ address,
    (launch.forWorker address).environment.entries =
      [(config.launch.envPrefix ++ "_HOME", "$PWD"),
        (config.launch.envPrefix ++ "_MASTER_HOSTNAME", address),
        (config.launch.envPrefix ++ "_WORKER_MEMORY_SIZE",
          Size.format (ramdiskMb * Size.megabyte))]

theorem environments_of_config {config : Config} {localHost : Host} {plan : BringupPlan}
    (valid : BringupPlan.ofConfig config localHost = .ok plan) :
    Environments config plan.launch := by
  obtain ⟨_, ramdiskMb, ramdisk, bytes⟩ := launch_of_config valid
  have named := variableName_of_config valid
  refine ⟨?_, ramdiskMb, ramdisk, ?_⟩
  · rw [LaunchTemplate.entries_forMaster, named]
    rfl
  · intro address
    rw [LaunchTemplate.entries_forWorker, named, named, named, bytes]
    rfl

/-- Whatever happens to a coordinator with a valid configuration, one launch of a master succeeds at
most. Before it nothing is planned or requested for workers and every launch is a master's; after it
every launch is that of a worker which is told the master's address, and that never changes. -/
theorem master_comes_first {config : Config} {localHost : Host} {plan : BringupPlan} {env : σ}
    (valid : BringupPlan.ofConfig config localHost = .ok plan)
    (run : Run clients (init plan env) c) :
    c.plan = plan ∧ Environments config plan.launch ∧
      (c.Preparing ∨ ∃ container before after, LaunchedIn container before after c ∧
        IsBeforeColon container.netAddress container.nodeHttpAddress) ∧
      c.journal.countP (Entry.launchesMaster plan.launch) ≤ 1 ∧
      ∀ address, c.master = some address → ∀ later, Run clients c later →
        later.master = some address := by
  have same : c.plan = plan := (moves_of_steps run).plan_eq
  have first := masterFirst_of_run run
  refine ⟨same, environments_of_config valid, ?_, ?_, ?_⟩
  · rcases first with preparing | ⟨container, before, after, launched⟩
    · exact .inl preparing
    · exact .inr ⟨container, before, after, launched, container.isBeforeColon_netAddress⟩
  · rw [← same]
    rcases first with preparing | ⟨container, before, after, launched⟩
    · exact Nat.le_of_lt_succ (by rw [preparing.launches]; omega)
    · exact Nat.le_of_eq launched.launches
  · intro address opened later run
    exact (moves_of_steps run).master_eq opened

def restarted : Coordinator Script :=
  performAll Script.clients
    [.start, .request, .resume,
      .receive (.allocated [Script.container 1 "h2", Script.container 2 "am"]), .cancel, .request,
      .resume, .receive (.allocated [Script.container 3 "am"]), .resume,
      .receive (.allocated [Script.container 4 "h1"])]
    (init crowdedPlan { inventory := .ofList ["h1", "h2"], failHosts := ["h2"] })

theorem master_comes_first_restarted :
    BringupPlan.ofConfig crowdedConfig "am" = .ok crowdedPlan ∧
      restarted.master = some "am" ∧ restarted.workers = 1 ∧
      Environments crowdedConfig crowdedPlan.launch ∧
      (∃ container before after, LaunchedIn container before after restarted) ∧
      (restarted.stop Script.clients .killed "").master = some "am" := by
  have valid : BringupPlan.ofConfig crowdedConfig "am" = .ok crowdedPlan := by decide +kernel
  have opened : restarted.master = some "am" := by decide +kernel
  obtain ⟨_, environments, first, _, constant⟩ := master_comes_first valid
    (run_performAll _ : Run Script.clients (init crowdedPlan
      { inventory := .ofList ["h1", "h2"], failHosts := ["h2"] }) restarted)
  refine ⟨valid, opened, by decide +kernel, environments, ?_, ?_⟩
  · rcases first with preparing | ⟨container, before, after, launched, _⟩
    · exact absurd (opened.symm.trans preparing.closed) (by simp)
    · exact ⟨container, before, after, launched⟩
  · exact constant "am" opened _ (.single (.perform (.stop .killed "") trivial))

end Coordinator

end Muster
