import Muster.Proofs.Moves

/-!
What deliveries and requests leave alone. Containers change the roster, the master and the journal,
and they never move the sequence of the bring-up or its phase.
-/

namespace Muster

theorem Phase.precedes_stopped {phase : Phase} (running : phase ≠ .stopped) :
    phase.precedes .stopped = true := by
  cases phase <;> simp [precedes, rank] at running ⊢

def Entry.phase? : Entry → Option Phase
  | .event (.phaseChanged phase) => some phase
  | _ => none

/-- Whether an entry tells of a new phase, a new bring-up, a new round or the wish for an end. -/
def Entry.isMilestone : Entry → Bool
  | .event (.phaseChanged _) => true
  | .event (.requestingMaster ..) => true
  | .event (.waitingForWorkers ..) => true
  | .event .shutdownRequested => true
  | _ => false

namespace Coordinator

open Relation (ReflTransGen)

variable {σ : Type} {clients : Clients σ} {c : Coordinator σ}

def phases (c : Coordinator σ) : List Phase :=
  c.journal.filterMap Entry.phase?

def milestones (c : Coordinator σ) : List Entry :=
  c.journal.filter Entry.isMilestone

theorem phases_eq_milestones (c : Coordinator σ) :
    c.phases = c.milestones.filterMap Entry.phase? := by
  rw [phases, milestones, List.filterMap_filter]
  congr 1
  funext entry
  cases phase : entry.phase? with
  | none => simp
  | some moved =>
      have marked : entry.isMilestone = true := by
        unfold Entry.phase? at phase
        split at phase
        · rfl
        · cases phase
      rw [marked]
      rfl

/-- Two states of a coordinator at the same place of the same bring-up. -/
structure SameStage (c c' : Coordinator σ) : Prop where
  plan : c'.plan = c.plan
  phase : c'.phase = c.phase
  done : c'.done = c.done
  control : c'.control = c.control
  rounds : c'.roster.gate.rounds = c.roster.gate.rounds
  milestones : c'.milestones = c.milestones

theorem SameStage.phases {c c' : Coordinator σ} (same : SameStage c c') :
    c'.phases = c.phases := by
  rw [phases_eq_milestones, phases_eq_milestones, same.milestones]

theorem SameStage.refl (c : Coordinator σ) : SameStage c c :=
  ⟨rfl, rfl, rfl, rfl, rfl, rfl⟩

theorem SameStage.trans {c c' c'' : Coordinator σ} (first : SameStage c c')
    (second : SameStage c' c'') : SameStage c c'' :=
  ⟨second.plan.trans first.plan, second.phase.trans first.phase, second.done.trans first.done,
    second.control.trans first.control, second.rounds.trans first.rounds,
    second.milestones.trans first.milestones⟩

theorem sameStage_foldl {α : Type} (f : Coordinator σ → α → Coordinator σ)
    (step : ∀ c x, SameStage c (f c x)) (xs : List α) (c : Coordinator σ) :
    SameStage c (xs.foldl f c) := by
  induction xs generalizing c with
  | nil => exact .refl c
  | cons x rest ih => exact (step c x).trans (ih (f c x))

theorem sameStage_log {event : Event} (other : (Entry.event event).isMilestone = false) :
    SameStage c (c.log event) := by
  refine ⟨rfl, rfl, rfl, rfl, rfl, ?_⟩
  simp [milestones, log, other]

theorem sameStage_launchMasterIn (container : Container) :
    SameStage c (c.launchMasterIn clients container) := by
  unfold launchMasterIn startContainer
  simp only [ask_eq, log]
  cases (clients.startContainer container c.plan.launch.forMaster c.env).1 with
  | ok => exact ⟨rfl, rfl, rfl, rfl, rfl, rfl⟩
  | error cause => exact ⟨rfl, rfl, rfl, rfl, rfl, rfl⟩

theorem sameStage_placeMaster (containers : List Container) (closed : c.master = none) :
    SameStage c (c.placeMaster clients containers) :=
  placeMaster_related (fun first second => first.trans second) (fun _ => sameStage_log rfl)
    (fun _ _ => sameStage_log rfl) (fun _ _ => ⟨rfl, rfl, rfl, rfl, rfl, rfl⟩)
    (fun _ container _ => sameStage_launchMasterIn container) containers closed

theorem sameStage_placeWorker (context : LaunchContext) (container : Container) :
    SameStage c (c.placeWorker clients context container) := by
  cases decision : c.roster.hasEnough c.plan.limits ||
      c.roster.isHostFull c.plan.limits container.host with
  | true =>
      rw [placeWorker_refused _ _ decision]
      exact ⟨rfl, rfl, rfl, rfl, rfl, rfl⟩
  | false =>
      cases outcome : (clients.startContainer container context c.env).1 with
      | ok =>
          rw [placeWorker_launched _ _ decision outcome]
          exact ⟨rfl, rfl, rfl, rfl, rfl, rfl⟩
      | error cause =>
          rw [placeWorker_failed _ _ decision outcome]
          exact ⟨rfl, rfl, rfl, rfl, rfl, rfl⟩

theorem sameStage_onAllocated (containers : List Container) :
    SameStage c (c.onAllocated clients containers) := by
  unfold onAllocated
  split
  · rename_i closed
    exact sameStage_placeMaster containers closed
  · exact sameStage_foldl _ (fun _ _ => sameStage_placeWorker _ _) containers c

theorem sameStage_addRequest (request : ContainerRequest) :
    SameStage c (c.addRequest clients request) := by
  unfold addRequest
  refine SameStage.trans ?_ (sameStage_foldl _ (fun _ _ => sameStage_onAllocated _) _ _)
  exact ⟨rfl, rfl, rfl, rfl, rfl, rfl⟩

theorem sameStage_listed : SameStage c (c.listed clients) := by
  refine SameStage.trans ?_ (sameStage_foldl _ (fun _ _ => sameStage_onAllocated _) _ _)
  exact ⟨rfl, rfl, rfl, rfl, rfl, rfl⟩

theorem sameStage_submitWorkers (request : ContainerRequest) (round : Nat) (count : Nat) :
    ∀ (worker : Nat) (c : Coordinator σ),
      SameStage c (c.submitWorkers clients request round worker count) := by
  induction count with
  | zero => exact fun _ c => .refl c
  | succ count ih =>
      intro worker c
      have logged : SameStage c (c.log (.requestingWorker worker round request)) :=
        sameStage_log rfl
      exact (logged.trans (sameStage_addRequest request)).trans (ih (worker + 1) _)

/-! ## What never moves the sequence -/

theorem covers_control :
    CoversCalls clients fun c c' : Coordinator σ => c'.control = c.control where
  refl _ := rfl
  trans first second := second.trans first
  set _ _ _ := rfl
  log _ _ _ := rfl
  ask _ _ _ _ := rfl
  tell _ _ _ _ := rfl

theorem covers_rounds : CoversTurns clients fun c c' : Coordinator σ =>
    c'.roster.gate.rounds = c.roster.gate.rounds where
  refl _ := rfl
  trans first second := second.trans first
  set _ _ _ := rfl
  log _ _ _ := rfl
  ask _ _ _ _ := rfl
  tell _ _ _ _ := rfl
  turn _ _ := rfl

theorem control_receive (delivery : Delivery) :
    (c.receive clients delivery).control = c.control := by
  cases delivery with
  | allocated containers => exact (sameStage_onAllocated containers).control
  | _ => exact covers_control.receive (by simp) c

theorem rounds_perform {action : Action} (other : action ≠ .resume) :
    (c.perform clients action).2.roster.gate.rounds = c.roster.gate.rounds := by
  have covers : CoversTurns clients fun c c' : Coordinator σ =>
      c'.roster.gate.rounds = c.roster.gate.rounds := covers_rounds
  cases action with
  | resume => exact absurd rfl other
  | request => rfl
  | cancel =>
      simp only [perform, cancel]
      split
      · rfl
      · rfl
  | receive delivery =>
      cases delivery with
      | allocated containers => exact (sameStage_onAllocated containers).rounds
      | _ => exact covers.receive (by simp) c
  | _ => exact covers.toCoversCalls.perform (by simp) (by simp) c

theorem done_awaitShutdown : c.awaitShutdown.done = c.done := by
  unfold awaitShutdown
  split
  · exact advance_done _ _
  · rfl

theorem done_settle (rounds : Nat) : (c.settle rounds).done = c.done := by
  simp only [settle]
  rw [done_awaitShutdown, advance_done]
  split
  · exact advance_done _ _
  · exact advance_done _ _

theorem done_runRounds (left : Nat) :
    ∀ {c : Coordinator σ}, (c.runRounds clients left).done = c.done := by
  induction left with
  | zero => exact done_settle _
  | succ left ih =>
      intro c
      have listed : (c.listed clients).done = c.done := sameStage_listed.done
      refine runRounds_cases left c ?_ ?_ ?_ ?_ ?_
      · exact fun _ => done_settle _
      · exact fun _ _ _ => listed
      · exact fun _ _ _ _ _ => listed
      · exact fun _ _ _ _ => (done_settle _).trans listed
      · intro known planned roster _ _ _
        have submitted : ((c.withRound clients roster).submitRound clients planned
            (maxRounds - left)).done = c.done :=
          ((advance_done _ _).trans (sameStage_submitWorkers _ _ _ _ _).done).trans listed
        split
        · exact ih.trans submitted
        · exact submitted

theorem done_awaitMaster : (c.awaitMaster clients).done = c.done := by
  unfold awaitMaster
  split
  · exact (done_runRounds _).trans (advance_done _ _)
  · rfl

theorem done_resume : (c.resume clients).done = c.done := by
  unfold resume
  cases c.control with
  | begun =>
      have submitted : (c.submitMaster clients).done = c.done :=
        (advance_done _ _).trans (sameStage_addRequest _).done
      exact done_awaitMaster.trans submitted
  | awaitingMaster => exact done_awaitMaster
  | awaitingRound round =>
      simp only
      split
      · exact done_runRounds _
      · rfl
  | awaitingShutdown => exact done_awaitShutdown
  | idle => rfl
  | finished outcome => rfl

theorem done_stop (status : FinalStatus) (diagnostics : String) :
    (c.stop clients status diagnostics).done = c.done := by
  simp only [stop, ask_eq]
  split
  · rfl
  · cases (clients.unregister status diagnostics "" c.env).1 with
    | ok => exact advance_done _ _
    | error cause => exact advance_done _ _

theorem done_perform {action : Action} (other : action ≠ .receive .shutdown) :
    (c.perform clients action).2.done = c.done := by
  cases action with
  | start =>
      have kept : Coordinator.done (c.start clients).2 = c.done :=
        @start_related _ clients c (fun c c' => c'.done = c.done)
          (fun first second => Eq.trans second first) (fun _ _ _ _ => rfl)
          (fun _ _ => advance_done _ _)
      rwa [perform_start]
  | request => rfl
  | cancel =>
      simp only [perform, cancel]
      split
      · rfl
      · rfl
  | resume => exact done_resume
  | receive delivery =>
      cases delivery with
      | allocated containers => exact (sameStage_onAllocated containers).done
      | completed statuses =>
          have noted (c : Coordinator σ) (status : ContainerStatus) :
              SameStage c (c.onCompleted status) := by
            unfold onCompleted
            split
            · exact sameStage_log rfl
            · exact sameStage_log rfl
          exact (sameStage_foldl _ noted statuses c).done
      | nodes reports => rfl
      | shutdown => exact absurd rfl other
      | error cause => rfl
  | progress => rfl
  | stop status diagnostics => exact done_stop status diagnostics
  | stopAfter =>
      simp only [perform]
      split
      · rename_i outcome _
        cases outcome with
        | ok => exact done_stop _ _
        | error error => exact done_stop _ _
      · rfl

/-- Only a shutdown that is delivered lets a bring-up end. -/
theorem done_of_steps {allowed : Action → Prop} {c' : Coordinator σ}
    (steps : ReflTransGen (Step clients allowed) c c') (other : ¬allowed (.receive .shutdown)) :
    c'.done = c.done := by
  induction steps with
  | refl => rfl
  | tail _ step ih =>
      cases step with
      | environment env => exact ih
      | perform action permitted =>
          refine (done_perform ?_).trans ih
          rintro rfl
          exact other permitted

theorem finished_of_steps {allowed : Action → Prop} {c' : Coordinator σ}
    {outcome : Except BringupError Unit} (steps : ReflTransGen (Step clients allowed) c c')
    (fixed : ¬allowed .request) (finished : c.control = .finished outcome) :
    c'.control = .finished outcome := by
  induction steps with
  | refl => exact finished
  | tail _ step ih =>
      cases step with
      | environment env => exact ih
      | perform action permitted =>
          cases action with
          | request => exact absurd permitted fixed
          | cancel => simp only [perform, cancel, ih]
          | resume => simp only [perform, resume, ih]
          | receive delivery => exact (control_receive delivery).trans ih
          | _ => exact (covers_control.perform (by simp) (by simp) _).trans ih

/-! ## Where a sequence waits -/

/-- Nothing that a sequence waits for is there. -/
def Resting (c : Coordinator σ) : Prop :=
  match c.control with
  | .begun => False
  | .awaitingMaster => c.master.isSome = false
  | .awaitingRound _ => c.roster.gate.isDrained = false
  | _ => True

theorem resting_awaitShutdown : c.awaitShutdown.Resting := by
  unfold awaitShutdown
  split
  · simp [Resting, finish]
  · simp [Resting]

theorem resting_runRounds (left : Nat) :
    ∀ {c : Coordinator σ}, (c.runRounds clients left).Resting := by
  induction left with
  | zero => exact resting_awaitShutdown
  | succ left ih =>
      intro c
      refine runRounds_cases left c ?_ ?_ ?_ ?_ ?_
      · exact fun _ => resting_awaitShutdown
      · exact fun _ _ _ => trivial
      · exact fun _ _ _ _ _ => trivial
      · exact fun _ _ _ _ => resting_awaitShutdown
      · intro known planned roster _ _ _
        split
        · exact ih
        · rename_i undrained
          simpa [Resting] using undrained

theorem resting_awaitMaster : (c.awaitMaster clients).Resting := by
  unfold awaitMaster
  split
  · exact resting_runRounds _
  · rename_i absent
    simpa [Resting] using absent

theorem resting_resume : (c.resume clients).Resting := by
  unfold resume
  cases control : c.control with
  | idle => simp [Resting, control]
  | begun => exact resting_awaitMaster
  | awaitingMaster => exact resting_awaitMaster
  | awaitingRound round =>
      simp only
      split
      · exact resting_runRounds _
      · rename_i undrained
        simpa [Resting, control] using undrained
  | awaitingShutdown => exact resting_awaitShutdown
  | finished outcome => simp [Resting, control]

theorem resume_awaitShutdown : c.awaitShutdown.resume clients = c.awaitShutdown := by
  unfold awaitShutdown
  split
  · rfl
  · rename_i closed
    simp [resume, awaitShutdown, closed]

theorem resume_runRounds (left : Nat) :
    ∀ {c : Coordinator σ}, (c.runRounds clients left).resume clients = c.runRounds clients left := by
  induction left with
  | zero => exact resume_awaitShutdown
  | succ left ih =>
      intro c
      refine runRounds_cases left c ?_ ?_ ?_ ?_ ?_
      · exact fun _ => resume_awaitShutdown
      · exact fun _ _ _ => rfl
      · exact fun _ _ _ _ _ => rfl
      · exact fun _ _ _ _ => resume_awaitShutdown
      · intro known planned roster _ _ _
        split
        · exact ih
        · rename_i undrained
          simp [resume, undrained]

theorem resume_awaitMaster : (c.awaitMaster clients).resume clients = c.awaitMaster clients := by
  unfold awaitMaster
  split
  · exact resume_runRounds _
  · rename_i absent
    simp [resume, awaitMaster, absent]

theorem resume_resume : (c.resume clients).resume clients = c.resume clients := by
  cases control : c.control with
  | idle => simp only [resume, control]
  | begun =>
      have same : c.resume clients = (c.submitMaster clients).awaitMaster clients := by
        simp only [resume, control]
      rw [same]
      exact resume_awaitMaster
  | awaitingMaster =>
      have same : c.resume clients = c.awaitMaster clients := by simp only [resume, control]
      rw [same]
      exact resume_awaitMaster
  | awaitingRound round =>
      cases drained : c.roster.gate.isDrained with
      | true =>
          have same : c.resume clients = c.runRounds clients (maxRounds - round) := by
            simp only [resume, control, drained, if_true]
          rw [same]
          exact resume_runRounds _
      | false =>
          have same : c.resume clients = c := by
            simp only [resume, control, drained, Bool.false_eq_true, if_false]
          rw [same, same]
  | awaitingShutdown =>
      have same : c.resume clients = c.awaitShutdown := by simp only [resume, control]
      rw [same]
      exact resume_awaitShutdown
  | finished outcome => simp only [resume, control]

end Coordinator

end Muster
