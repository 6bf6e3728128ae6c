import Mathlib
import Muster.Coordinator.Action
import Muster.Proofs.Rounds

/-!
What everything that a coordinator does is made of. A relation that covers the events covers all
deliveries but containers, and one that covers the calls as well covers starts and stops. One that
covers the parts of the sequence covers whole bring-ups.
-/

namespace Muster

/-- Whether an entry is about a worker's container or request, or a launch. -/
def Entry.concernsWorkers : Entry → Bool
  | .call (.addRequest request) _ => request.role == .worker
  | .call (.startContainer ..) _ => true
  | .event (.requestingWorker ..) => true
  | .event (.releasing ..) => true
  | .event (.launchingWorker ..) => true
  | .event (.workerRecorded ..) => true
  | .event (.workerLaunchFailed ..) => true
  | .event (.requestAnswered _) => true
  | _ => false

namespace Coordinator

variable {σ : Type} {clients : Clients σ} {c : Coordinator σ}
  {related : Coordinator σ → Coordinator σ → Prop}

theorem ask_eq {α : Type} (call : Call) (act : σ → Except String α × σ) (c : Coordinator σ) :
    c.ask call act = ((act c.env).1, { c with
      env := (act c.env).2
      journal := .call call (failure? (act c.env).1) :: c.journal }) :=
  rfl

theorem advance_eq (next : Phase) (c : Coordinator σ) :
    ∃ phase entries, (∀ entry ∈ entries, entry = .event (.phaseChanged next)) ∧
      c.advance next = { c with phase, journal := entries ++ c.journal } := by
  unfold advance
  split
  · exact ⟨next, [.event (.phaseChanged next)], by simp, rfl⟩
  · exact ⟨c.phase, [], by simp, rfl⟩

theorem advance_forward {next : Phase} (forward : c.phase.precedes next = true) :
    c.advance next =
      { c with phase := next, journal := .event (.phaseChanged next) :: c.journal } :=
  if_pos forward

@[simp] theorem advance_plan (next : Phase) (c : Coordinator σ) :
    (c.advance next).plan = c.plan := by
  unfold advance; split <;> rfl

@[simp] theorem advance_env (next : Phase) (c : Coordinator σ) : (c.advance next).env = c.env := by
  unfold advance; split <;> rfl

@[simp] theorem advance_master (next : Phase) (c : Coordinator σ) :
    (c.advance next).master = c.master := by
  unfold advance; split <;> rfl

@[simp] theorem advance_done (next : Phase) (c : Coordinator σ) :
    (c.advance next).done = c.done := by
  unfold advance; split <;> rfl

@[simp] theorem advance_roster (next : Phase) (c : Coordinator σ) :
    (c.advance next).roster = c.roster := by
  unfold advance; split <;> rfl

/-! ## The parts -/

inductive Asks (clients : Clients σ) : Call → (σ → Except String Unit × σ) → Prop
  | startNodeManager : Asks clients .startNodeManager clients.startNodeManager
  | startResourceManager : Asks clients .startResourceManager clients.startResourceManager
  | startInventory : Asks clients .startInventory clients.startInventory
  | register (registration : Registration) :
      Asks clients (.register registration) (clients.register registration)
  | unregister (status : FinalStatus) (diagnostics trackingUrl : String) :
      Asks clients (.unregister status diagnostics trackingUrl)
        (clients.unregister status diagnostics trackingUrl)

inductive Starts (clients : Clients σ) : Call → (σ → Except String Unit × σ) → Prop
  | startNodeManager : Starts clients .startNodeManager clients.startNodeManager
  | startResourceManager : Starts clients .startResourceManager clients.startResourceManager
  | startInventory : Starts clients .startInventory clients.startInventory
  | register (registration : Registration) :
      Starts clients (.register registration) (clients.register registration)

inductive Tells (clients : Clients σ) : Call → (σ → σ) → Prop
  | stopResourceManager : Tells clients .stopResourceManager clients.stopResourceManager
  | stopNodeManager : Tells clients .stopNodeManager clients.stopNodeManager
  | stopInventory : Tells clients .stopInventory clients.stopInventory

theorem Asks.silent {call : Call} {act : σ → Except String Unit × σ}
    (asks : Asks clients call act) (failure : Option String) :
    (Entry.call call failure).concernsWorkers = false := by
  cases asks <;> rfl

theorem Starts.asks {call : Call} {act : σ → Except String Unit × σ}
    (starts : Starts clients call act) : Asks clients call act := by
  cases starts <;> constructor

theorem Starts.silent {call : Call} {act : σ → Except String Unit × σ}
    (starts : Starts clients call act) (failure : Option String) :
    (Entry.call call failure).concernsWorkers = false :=
  starts.asks.silent failure

theorem Tells.silent {call : Call} {act : σ → σ} (tells : Tells clients call act) :
    (Entry.call call none).concernsWorkers = false := by
  cases tells <;> rfl

structure CoversEvents (related : Coordinator σ → Coordinator σ → Prop) : Prop where
  refl : ∀ c, related c c
  trans : ∀ {c c' c''}, related c c' → related c' c'' → related c c''
  set : ∀ c phase done, related c { c with phase, done }
  log : ∀ c event, (Entry.event event).concernsWorkers = false → related c (c.log event)

/-- A relation between the states before and after what does not concern containers. -/
structure CoversCalls (clients : Clients σ)
    (related : Coordinator σ → Coordinator σ → Prop) : Prop extends
    CoversEvents related where
  ask : ∀ c {call act}, Asks clients call act → related c (c.ask call act).2
  tell : ∀ c {call act}, Tells clients call act → related c (c.tell call act)

structure CoversChanges (related : Coordinator σ → Coordinator σ → Prop) : Prop extends
    CoversEvents related where
  turn : ∀ c control, related c { c with control }

structure CoversTurns (clients : Clients σ)
    (related : Coordinator σ → Coordinator σ → Prop) : Prop extends
    CoversCalls clients related, CoversChanges related

/-- A relation between the states before and after the parts of a bring-up's sequence. -/
structure CoversWork (clients : Clients σ)
    (related : Coordinator σ → Coordinator σ → Prop) : Prop extends
    CoversChanges related where
  list : ∀ c, related c (c.listHosts clients).2
  plan : ∀ c known round roster,
    c.roster.nextRound c.plan.limits known = .ok (some (round, roster)) →
      related c { c with roster }
  announce : ∀ c worker round request,
    related c (c.log (.requestingWorker worker round request))
  request : ∀ c request, related c (c.addRequest clients request)

structure CoversSequence (clients : Clients σ)
    (related : Coordinator σ → Coordinator σ → Prop) : Prop extends
    CoversTurns clients related, CoversWork clients related

def Keeps (kept : Coordinator σ → Prop) (c c' : Coordinator σ) : Prop :=
  kept c → kept c'

theorem CoversCalls.keeps {kept : Coordinator σ → Prop} (covers : CoversCalls clients related)
    (still : ∀ {c c'}, related c c' → kept c → kept c') : CoversCalls clients (Keeps kept) where
  refl _ := id
  trans first second start := second (first start)
  set c phase done := still (covers.set c phase done)
  log c event silent := still (covers.log c event silent)
  ask c _ _ asks := still (covers.ask c asks)
  tell c _ _ tells := still (covers.tell c tells)

theorem CoversCalls.or {first second : Coordinator σ → Prop}
    (left : CoversCalls clients (Keeps first)) (right : CoversCalls clients (Keeps second)) :
    CoversCalls clients (Keeps fun c => first c ∨ second c) where
  refl _ := id
  trans before after start := after (before start)
  set c phase done := Or.imp (left.set c phase done) (right.set c phase done)
  log c event silent := Or.imp (left.log c event silent) (right.log c event silent)
  ask c _ _ asks := Or.imp (left.ask c asks) (right.ask c asks)
  tell c _ _ tells := Or.imp (left.tell c tells) (right.tell c tells)

theorem CoversEvents.foldl {α : Type} (covers : CoversEvents related)
    (f : Coordinator σ → α → Coordinator σ) (step : ∀ c x, related c (f c x)) (xs : List α) :
    ∀ c, related c (xs.foldl f c) := by
  induction xs with
  | nil => exact covers.refl
  | cons x rest ih =>
      intro c
      exact covers.trans (step c x) (ih (f c x))

theorem CoversEvents.advance (covers : CoversEvents related) (next : Phase)
    (c : Coordinator σ) : related c (c.advance next) := by
  unfold Coordinator.advance
  split
  · exact covers.trans (covers.set c next c.done) (covers.log _ _ rfl)
  · exact covers.refl c

theorem startService_related
    (ask : ∀ c {call act}, Starts clients call act → related c (c.ask call act).2)
    {service : Service} {call : Call} {act : σ → Except String Unit × σ}
    (starts : Starts clients call act) {outcome : Except BringupError Unit} {c' : Coordinator σ}
    (started : c.startService service call act = (outcome, c')) : related c c' := by
  have same : (c.ask call act).2 = c' := congrArg Prod.snd started
  exact same ▸ ask c starts

theorem start_related
    (trans : ∀ {c c' c''}, related c c' → related c' c'' → related c c'')
    (ask : ∀ c {call act}, Starts clients call act → related c (c.ask call act).2)
    (registered : ∀ c host, related c ((advance .started c).log (.registered host))) :
    related c (c.start clients).2 := by
  unfold start
  split
  · rename_i started
    exact startService_related ask .startNodeManager started
  · rename_i started
    refine trans (startService_related ask .startNodeManager started) ?_
    split
    · rename_i started
      exact startService_related ask .startResourceManager started
    · rename_i started
      refine trans (startService_related ask .startResourceManager started) ?_
      split
      · rename_i started
        exact startService_related ask .startInventory started
      · rename_i c' started
        refine trans (startService_related ask .startInventory started) ?_
        have asked := ask c' (Starts.register c'.registration)
        rw [ask_eq] at asked ⊢
        cases answer : (clients.register c'.registration c'.env).1 with
        | error cause =>
            rw [answer] at asked
            exact asked
        | ok =>
            rw [answer] at asked
            exact trans asked (registered _ _)

theorem perform_start : (c.perform clients .start).2 = (c.start clients).2 := by
  simp only [perform]
  split <;> rename_i started <;> rw [started]

theorem CoversCalls.start (covers : CoversCalls clients related) (c : Coordinator σ) :
    related c (c.start clients).2 :=
  start_related covers.trans (fun c _ _ starts => covers.ask c starts.asks) fun _ _ =>
    covers.trans (covers.advance _ _) (covers.log _ _ rfl)

theorem CoversEvents.stop (covers : CoversEvents related) (status : FinalStatus)
    (diagnostics : String)
    (ask : ∀ c, related c (c.ask (.unregister status diagnostics "")
      (clients.unregister status diagnostics "")).2)
    (tell : ∀ c {call act}, Tells clients call act → related c (c.tell call act))
    (c : Coordinator σ) : related c (c.stop clients status diagnostics) := by
  simp only [Coordinator.stop, ask_eq]
  split
  · exact covers.log _ _ rfl
  · have asked := ask c
    have stopped (c : Coordinator σ) : related c
        (((((c.tell .stopResourceManager clients.stopResourceManager).tell .stopNodeManager
          clients.stopNodeManager).tell .stopInventory clients.stopInventory).advance
            .stopped).log (.stopped status)) := by
      refine covers.trans (tell _ .stopResourceManager) ?_
      refine covers.trans (tell _ .stopNodeManager) ?_
      refine covers.trans (tell _ .stopInventory) ?_
      exact covers.trans (covers.advance _ _) (covers.log _ _ rfl)
    rw [ask_eq] at asked
    cases answer : (clients.unregister status diagnostics "" c.env).1 with
    | error cause =>
        rw [answer] at asked
        exact covers.trans (covers.trans asked (covers.log _ _ rfl)) (stopped _)
    | ok =>
        rw [answer] at asked
        exact covers.trans asked (stopped _)

theorem CoversCalls.stop (covers : CoversCalls clients related) (status : FinalStatus)
    (diagnostics : String) (c : Coordinator σ) : related c (c.stop clients status diagnostics) :=
  covers.toCoversEvents.stop status diagnostics
    (fun c => covers.ask c (.unregister status diagnostics "")) covers.tell c

theorem CoversEvents.onShutdown (covers : CoversEvents related) (c : Coordinator σ) :
    related c c.onShutdown := by
  have opened : related c { c with done := ⟨true⟩ } := covers.set c c.phase ⟨true⟩
  cases wasOpen : c.done.isOpen with
  | false =>
      simp only [Coordinator.onShutdown, Latch.countDown, wasOpen, Bool.not_false, if_true]
      exact covers.trans opened (covers.trans (covers.log _ _ rfl) (covers.advance _ _))
  | true =>
      simp only [Coordinator.onShutdown, Latch.countDown, wasOpen, Bool.not_true,
        Bool.false_eq_true, if_false]
      exact opened

theorem CoversEvents.receive (covers : CoversEvents related) {delivery : Delivery}
    (other : ∀ containers, delivery ≠ .allocated containers) (c : Coordinator σ) :
    related c (c.receive clients delivery) := by
  cases delivery with
  | allocated containers => exact absurd rfl (other containers)
  | completed statuses =>
      refine covers.foldl _ ?_ statuses c
      intro c status
      unfold onCompleted
      split
      · exact covers.log _ _ rfl
      · exact covers.log _ _ rfl
  | nodes reports => exact covers.refl c
  | shutdown => exact covers.onShutdown c
  | error cause => exact covers.log _ _ rfl

theorem CoversCalls.receive (covers : CoversCalls clients related) {delivery : Delivery}
    (other : ∀ containers, delivery ≠ .allocated containers) (c : Coordinator σ) :
    related c (c.receive clients delivery) :=
  covers.toCoversEvents.receive other c

theorem CoversCalls.perform (covers : CoversCalls clients related) {action : Action}
    (turns : action ≠ .request ∧ action ≠ .cancel ∧ action ≠ .resume)
    (other : ∀ containers, action ≠ .receive (.allocated containers)) (c : Coordinator σ) :
    related c (c.perform clients action).2 := by
  obtain ⟨request, cancel, resume⟩ := turns
  cases action with
  | start =>
      rw [perform_start]
      exact covers.start c
  | request => exact absurd rfl request
  | cancel => exact absurd rfl cancel
  | resume => exact absurd rfl resume
  | receive delivery =>
      refine covers.receive ?_ c
      rintro containers rfl
      exact other containers rfl
  | progress => exact covers.refl c
  | stop status diagnostics => exact covers.stop status diagnostics c
  | stopAfter =>
      simp only [Coordinator.perform]
      split
      · rename_i outcome _
        cases outcome with
        | ok => exact covers.stop _ _ c
        | error error => exact covers.stop _ _ c
      · exact covers.refl c

theorem placeMaster_related
    (trans : ∀ {c c' c''}, related c c' → related c' c'' → related c c'')
    (empty : ∀ c, related c (c.log .noMasterContainer))
    (surplus : ∀ c count, related c (c.log (.surplusMasters count)))
    (release : ∀ c id, related c (c.release clients id))
    (launch : ∀ c container, c.master = none →
      related c (c.launchMasterIn clients container))
    (containers : List Container) (closed : c.master = none) :
    related c (c.placeMaster clients containers) := by
  match containers with
  | [] => exact empty c
  | [container] => exact launch c container closed
  | container :: second :: rest =>
      have freed (others : List Container) : ∀ c : Coordinator σ, c.master = none →
          related c (Coordinator.launchMasterIn clients container
            (others.foldl (fun c other => c.release clients other.id) c)) := by
        induction others with
        | nil => exact fun c closed => launch c container closed
        | cons other others ih => exact fun c closed => trans (release c other.id) (ih _ closed)
      exact trans (surplus c (container :: second :: rest).length) (freed (second :: rest) _ closed)

theorem CoversCalls.placeMaster (covers : CoversCalls clients related)
    (release : ∀ c id, related c (c.release clients id))
    (launch : ∀ c container, c.master = none →
      related c (c.launchMasterIn clients container))
    (containers : List Container) (closed : c.master = none) :
    related c (c.placeMaster clients containers) :=
  @placeMaster_related _ _ _ related covers.trans (fun c => covers.log c _ rfl)
    (fun c _ => covers.log c _ rfl) release launch containers closed

/-! ## The sequence of a bring-up -/

theorem CoversChanges.awaitShutdown (covers : CoversChanges related) (c : Coordinator σ) :
    related c c.awaitShutdown := by
  unfold Coordinator.awaitShutdown
  split
  · exact covers.trans (covers.advance _ _) (covers.turn _ _)
  · exact covers.turn _ _

theorem CoversChanges.settle (covers : CoversChanges related) (rounds : Nat)
    (c : Coordinator σ) : related c (c.settle rounds) := by
  have launched (c : Coordinator σ) :
      related c ((c.log .launched).advance .running).awaitShutdown := by
    refine covers.trans (covers.log _ .launched rfl) ?_
    exact covers.trans (covers.advance _ _) (covers.awaitShutdown _)
  simp only [Coordinator.settle]
  split
  · exact covers.trans (covers.advance _ _) (launched _)
  · exact covers.trans (covers.trans (covers.log _ _ rfl) (covers.advance _ _)) (launched _)

theorem CoversWork.submitWorkers (covers : CoversWork clients related)
    (request : ContainerRequest) (round : Nat) (count : Nat) :
    ∀ (worker : Nat) (c : Coordinator σ),
      related c (c.submitWorkers clients request round worker count) := by
  induction count with
  | zero => exact fun _ => covers.refl
  | succ count ih =>
      intro worker c
      refine covers.trans (covers.announce c worker round request) ?_
      exact covers.trans (covers.request _ request) (ih (worker + 1) _)

theorem CoversWork.submitRound (covers : CoversWork clients related) (planned : Round)
    (round : Nat) (c : Coordinator σ) : related c (c.submitRound clients planned round) := by
  refine covers.trans (covers.submitWorkers (c.plan.requests.forWorker planned.hosts) round
    planned.needed (c.plan.limits.target - planned.needed) c) ?_
  exact covers.trans (covers.advance (.workersRequesting round) _) (covers.log _ _ rfl)

def inquiring (clients : Clients σ) (c : Coordinator σ) : Coordinator σ :=
  { c with
    env := (clients.nodeHosts c.env).2.2
    journal := .call .nodeHosts (failure? (clients.nodeHosts c.env).1) :: c.journal }

def requesting (clients : Clients σ) (request : ContainerRequest) (c : Coordinator σ) :
    Coordinator σ :=
  { c with
    env := (clients.addRequest request c.env).2
    journal := .call (.addRequest request) none :: c.journal }

/-- A coordinator that has asked for the hosts, and taken what came meanwhile. -/
def listed (clients : Clients σ) (c : Coordinator σ) : Coordinator σ :=
  (c.listHosts clients).2

def withRound (clients : Clients σ) (roster : Roster) (c : Coordinator σ) : Coordinator σ :=
  { c.listed clients with roster }

theorem runRounds_wanted (left : Nat) (wanted : c.roster.hasEnough c.plan.limits = false) :
    c.runRounds clients (left + 1) =
      match (clients.nodeHosts c.env).1 with
      | .error cause => (c.listed clients).finish (.error (.inventory cause))
      | .ok known =>
        match (c.listed clients).roster.nextRound (c.listed clients).plan.limits known with
        | .error error => (c.listed clients).finish (.error error)
        | .ok none => (c.listed clients).settle (maxRounds - left - 1)
        | .ok (some (planned, roster)) =>
          let submitted :=
            (c.withRound clients roster).submitRound clients planned (maxRounds - left)
          if submitted.roster.gate.isDrained then submitted.runRounds clients left
          else { submitted with control := .awaitingRound (maxRounds - left) } := by
  have answered : c.listHosts clients = ((clients.nodeHosts c.env).1, c.listed clients) := rfl
  rw [runRounds, wanted, answered]
  cases (clients.nodeHosts c.env).1 with
  | error cause => rfl
  | ok known =>
    simp only [withRound, Bool.false_eq_true, if_false]
    cases (c.listed clients).roster.nextRound (c.listed clients).plan.limits known with
    | error error => rfl
    | ok chosen =>
      cases chosen with
      | none => rfl
      | some round => rfl

theorem runRounds_planned {known : HostSet} {planned : Round} {roster : Roster} (left : Nat)
    (wanted : c.roster.hasEnough c.plan.limits = false)
    (answer : (clients.nodeHosts c.env).1 = .ok known)
    (next : (c.listed clients).roster.nextRound (c.listed clients).plan.limits known =
      .ok (some (planned, roster))) :
    c.runRounds clients (left + 1) =
      if ((c.withRound clients roster).submitRound clients planned
          (maxRounds - left)).roster.gate.isDrained then
        ((c.withRound clients roster).submitRound clients planned (maxRounds - left)).runRounds
          clients left
      else { (c.withRound clients roster).submitRound clients planned (maxRounds - left) with
        control := .awaitingRound (maxRounds - left) } := by
  simp only [runRounds_wanted left wanted, answer, next]

/-- How the rounds go on when some are left: there are workers enough, the hosts are not listed, they
cannot hold the workers, enough workers came while they were listed, or another round is submitted. -/
@[elab_as_elim]
theorem runRounds_cases {motive : Coordinator σ → Prop} (left : Nat) (c : Coordinator σ)
    (enough : c.roster.hasEnough c.plan.limits = true → motive (c.settle (maxRounds - left - 1)))
    (unlisted : ∀ cause, c.roster.hasEnough c.plan.limits = false →
      (clients.nodeHosts c.env).1 = .error cause →
      motive ((c.listed clients).finish (.error (.inventory cause))))
    (refused : ∀ known error, c.roster.hasEnough c.plan.limits = false →
      (clients.nodeHosts c.env).1 = .ok known →
      (c.listed clients).roster.nextRound (c.listed clients).plan.limits known = .error error →
      motive ((c.listed clients).finish (.error error)))
    (supplied : ∀ known, c.roster.hasEnough c.plan.limits = false →
      (clients.nodeHosts c.env).1 = .ok known →
      (c.listed clients).roster.nextRound (c.listed clients).plan.limits known = .ok none →
      motive ((c.listed clients).settle (maxRounds - left - 1)))
    (planned : ∀ known planned roster, c.roster.hasEnough c.plan.limits = false →
      (clients.nodeHosts c.env).1 = .ok known →
      (c.listed clients).roster.nextRound (c.listed clients).plan.limits known =
        .ok (some (planned, roster)) →
      motive (if ((c.withRound clients roster).submitRound clients planned
          (maxRounds - left)).roster.gate.isDrained then
        ((c.withRound clients roster).submitRound clients planned (maxRounds - left)).runRounds
          clients left
      else { (c.withRound clients roster).submitRound clients planned (maxRounds - left) with
        control := .awaitingRound (maxRounds - left) })) :
    motive (c.runRounds clients (left + 1)) := by
  cases wanted : c.roster.hasEnough c.plan.limits with
  | true =>
      simp only [runRounds, wanted, if_true]
      exact enough wanted
  | false =>
      rw [runRounds_wanted left wanted]
      cases answer : (clients.nodeHosts c.env).1 with
      | error cause => exact unlisted cause wanted answer
      | ok known =>
          cases next : (c.listed clients).roster.nextRound (c.listed clients).plan.limits known with
          | error error =>
              simp only [next]
              exact refused known error wanted answer next
          | ok chosen =>
              cases chosen with
              | none =>
                  simp only [next]
                  exact supplied known wanted answer next
              | some round =>
                  simp only [next]
                  exact planned known round.1 round.2 wanted answer next

theorem CoversWork.runRounds (covers : CoversWork clients related) (left : Nat) :
    ∀ c : Coordinator σ, related c (c.runRounds clients left) := by
  induction left with
  | zero => exact covers.settle _
  | succ left ih =>
      intro c
      have asked := covers.list c
      refine runRounds_cases left c ?_ ?_ ?_ ?_ ?_
      · exact fun _ => covers.settle _ c
      · exact fun _ _ _ => covers.trans asked (covers.turn _ _)
      · exact fun _ _ _ _ _ => covers.trans asked (covers.turn _ _)
      · exact fun _ _ _ _ => covers.trans asked (covers.settle _ _)
      · intro known round roster _ _ next
        have planned : related c (c.withRound clients roster) :=
          covers.trans asked (covers.plan _ known round roster next)
        have submitted := covers.trans planned (covers.submitRound round (maxRounds - left) _)
        split
        · exact covers.trans submitted (ih _)
        · exact covers.trans submitted (covers.turn _ _)

theorem CoversWork.submitMaster (covers : CoversWork clients related)
    (c : Coordinator σ) : related c (c.submitMaster clients) := by
  let request := c.plan.requests.forMaster
  refine covers.trans (covers.log c (.requestingMaster request c.plan.requests.masterHost) rfl) ?_
  refine covers.trans (covers.request _ request) ?_
  exact covers.trans (covers.advance .masterRequested _) (covers.log _ .waitingForMaster rfl)

theorem CoversWork.awaitMaster (covers : CoversWork clients related) (c : Coordinator σ) :
    related c (c.awaitMaster clients) := by
  unfold Coordinator.awaitMaster
  split
  · exact covers.trans (covers.advance _ _) (covers.runRounds _ _)
  · exact covers.turn _ _

theorem CoversWork.resume (covers : CoversWork clients related) (c : Coordinator σ) :
    related c (c.resume clients) := by
  unfold Coordinator.resume
  cases c.control with
  | idle => exact covers.refl c
  | begun => exact covers.trans (covers.submitMaster c) (covers.awaitMaster _)
  | awaitingMaster => exact covers.awaitMaster c
  | awaitingRound round =>
      simp only
      split
      · exact covers.runRounds _ c
      · exact covers.refl c
  | awaitingShutdown => exact covers.awaitShutdown c
  | finished outcome => exact covers.refl c

theorem CoversSequence.perform (covers : CoversSequence clients related) {action : Action}
    (other : ∀ containers, action ≠ .receive (.allocated containers)) (c : Coordinator σ) :
    related c (c.perform clients action).2 := by
  cases action with
  | request => exact covers.turn _ _
  | cancel =>
      simp only [Coordinator.perform, cancel]
      split
      · exact covers.refl c
      · exact covers.turn _ _
  | resume => exact covers.resume c
  | _ => exact covers.toCoversCalls.perform (by simp) other c

end Coordinator

end Muster
