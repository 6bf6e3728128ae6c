import Muster.Proofs.Stages

/-!
Answers to requests for workers. A trace, the newest entry first, is cooperative when each container
that was taken answers a request that was still open, on a host of the latest request, and when no
launch of a worker failed.
-/

namespace Muster

def Entry.asked? : Entry → Option (List Host)
  | .call (.addRequest request) _ =>
    if request.role = .worker then some request.placement.hosts else none
  | _ => none

def Entry.taken? : Entry → Option Container
  | .event (.launchingWorker container _) => some container
  | .event (.releasing container ..) => some container
  | _ => none

def Entry.failsLaunch : Entry → Bool
  | .event (.workerLaunchFailed ..) => true
  | _ => false

/-- The requests for workers that no container has answered. -/
def openRequests : List Entry → Nat
  | [] => 0
  | entry :: earlier =>
    if entry.asked?.isSome then openRequests earlier + 1
    else if entry.taken?.isSome then openRequests earlier - 1
    else openRequests earlier

def submittedRequests (trace : List Entry) : Nat :=
  trace.countP fun entry => entry.asked?.isSome

def askedHosts (trace : List Entry) : List Host :=
  (trace.findSome? Entry.asked?).getD []

def Cooperative : List Entry → Prop
  | [] => True
  | entry :: earlier =>
    Cooperative earlier ∧
      (∀ container ∈ entry.taken?,
        container.host ∈ askedHosts earlier ∧ 0 < openRequests earlier) ∧
      entry.failsLaunch = false

instance decidableCooperative : DecidablePred Cooperative
  | [] => .isTrue trivial
  | _ :: earlier =>
    have := decidableCooperative earlier
    inferInstanceAs (Decidable (Cooperative earlier ∧ _ ∧ _))

theorem Cooperative.earlier {entries trace : List Entry}
    (cooperative : Cooperative (entries ++ trace)) : Cooperative trace := by
  induction entries with
  | nil => exact cooperative
  | cons entry rest ih => exact ih cooperative.1

theorem Cooperative.launched {trace : List Entry} (cooperative : Cooperative trace)
    (id : ContainerId) (cause : String) : .event (.workerLaunchFailed id cause) ∉ trace := by
  induction trace with
  | nil => simp
  | cons entry earlier ih =>
      obtain ⟨before, _, launched⟩ := cooperative
      rw [List.mem_cons, not_or]
      refine ⟨?_, ih before⟩
      rintro rfl
      simp [Entry.failsLaunch] at launched

theorem openRequests_append {entries : List Entry} (trace : List Entry)
    (apart : ∀ entry ∈ entries, entry.asked? = none ∧ entry.taken? = none) :
    openRequests (entries ++ trace) = openRequests trace := by
  induction entries with
  | nil => rfl
  | cons entry rest ih =>
      obtain ⟨unasked, untaken⟩ := apart entry List.mem_cons_self
      simp only [List.cons_append, openRequests, unasked, untaken, Option.isSome_none,
        Bool.false_eq_true, if_false]
      exact ih fun other member => apart other (List.mem_cons_of_mem _ member)

theorem askedHosts_append {entries : List Entry} (trace : List Entry)
    (apart : ∀ entry ∈ entries, entry.asked? = none ∧ entry.taken? = none) :
    askedHosts (entries ++ trace) = askedHosts trace := by
  have none : entries.findSome? Entry.asked? = none := by
    rw [List.findSome?_eq_none_iff]
    exact fun entry member => (apart entry member).1
  simp [askedHosts, List.findSome?_append, none]

theorem submittedRequests_append {entries : List Entry} (trace : List Entry)
    (apart : ∀ entry ∈ entries, entry.asked? = none ∧ entry.taken? = none) :
    submittedRequests (entries ++ trace) = submittedRequests trace := by
  have none : entries.countP (fun entry => entry.asked?.isSome) = 0 := by
    rw [List.countP_eq_zero]
    intro entry member
    simp [(apart entry member).1]
  rw [submittedRequests, List.countP_append, none, Nat.zero_add, submittedRequests]

theorem Entry.apart_of_silent {entry : Entry} (silent : entry.concernsWorkers = false) :
    entry.asked? = none ∧ entry.taken? = none := by
  constructor
  · unfold asked?
    split
    · rename_i request _
      cases role : request.role <;> simp [concernsWorkers, role] at silent ⊢
    · rfl
  · unfold taken?
    split
    · simp [concernsWorkers] at silent
    · simp [concernsWorkers] at silent
    · rfl

/-- What a journal holds beyond an earlier one. -/
def since (base journal : List Entry) : List Entry :=
  journal.take (journal.length - base.length)

@[simp] theorem since_self (base : List Entry) : since base base = [] := by
  simp [since]

theorem since_append {base journal : List Entry} (grown : base <:+ journal)
    (entries : List Entry) : since base (entries ++ journal) = entries ++ since base journal := by
  have shorter := grown.length_le
  have length : (entries ++ journal).length - base.length =
      entries.length + (journal.length - base.length) := by
    rw [List.length_append]
    omega
  rw [since, length, List.take_length_add_append, since]

theorem since_cons {base journal : List Entry} (grown : base <:+ journal) (entry : Entry) :
    since base (entry :: journal) = entry :: since base journal :=
  since_append grown [entry]

namespace Coordinator

variable {σ : Type} {clients : Clients σ} {c c' c'' : Coordinator σ} {base : List Entry}

theorem Move.suffix (move : Move clients c c') : c.journal <:+ c'.journal := by
  cases move with
  | quiet env phase done entries => exact List.suffix_append entries _
  | turn => exact List.suffix_rfl
  | refuse => exact List.suffix_rfl
  | plan => exact List.suffix_rfl
  | requestWorker => exact ⟨[_, _], rfl⟩
  | launchMaster => exact ⟨[_, _, _], rfl⟩
  | failMaster => exact ⟨[_, _, _], rfl⟩
  | releaseWorker => exact ⟨[_, _, _], rfl⟩
  | launchWorker => exact ⟨[_, _, _, _], rfl⟩
  | failWorker => exact ⟨[_, _, _, _], rfl⟩

theorem Moves.suffix (moves : Moves clients c c') : c.journal <:+ c'.journal := by
  induction moves with
  | refl => exact List.suffix_rfl
  | tail _ move ih => exact ih.trans move.suffix

theorem suffix_placeWorker (context : LaunchContext) (container : Container) :
    c.journal <:+ (c.placeWorker clients context container).journal := by
  cases decision : c.roster.hasEnough c.plan.limits ||
      c.roster.isHostFull c.plan.limits container.host with
  | true =>
      rw [placeWorker_refused _ _ decision]
      exact ⟨[_, _, _], rfl⟩
  | false =>
      cases outcome : (clients.startContainer container context c.env).1 with
      | ok =>
          rw [placeWorker_launched _ _ decision outcome]
          exact ⟨[_, _, _, _], rfl⟩
      | error cause =>
          rw [placeWorker_failed _ _ decision outcome]
          exact ⟨[_, _, _, _], rfl⟩

structure Cooperates (base : List Entry) (c : Coordinator σ) : Prop where
  grown : base <:+ c.journal
  cooperative : Cooperative (since base c.journal)

theorem Cooperates.before (later : c'.Cooperates base) (grown : base <:+ c.journal)
    (suffix : c.journal <:+ c'.journal) : c.Cooperates base := by
  obtain ⟨entries, same⟩ := suffix
  have cooperative := later.cooperative
  rw [← same, since_append grown] at cooperative
  exact ⟨grown, cooperative.earlier⟩

theorem Cooperates.launched (later : c'.Cooperates base) (grown : base <:+ c.journal)
    (entries : List Entry) (written : c'.journal = entries ++ c.journal) (id : ContainerId)
    (cause : String) : .event (.workerLaunchFailed id cause) ∉ entries := by
  have cooperative := later.cooperative
  rw [written, since_append grown] at cooperative
  intro member
  exact cooperative.launched id cause (List.mem_append_left _ member)

theorem foldl_cooperates {α : Type} (f : Coordinator σ → α → Coordinator σ)
    (kept : Coordinator σ → Prop) (grown : ∀ c, kept c → base <:+ c.journal)
    (suffix : ∀ c x, c.journal <:+ (f c x).journal)
    (step : ∀ c x, kept c → (f c x).Cooperates base → kept (f c x)) (xs : List α)
    (start : kept c) (later : (xs.foldl f c).Cooperates base) : kept (xs.foldl f c) := by
  induction xs generalizing c with
  | nil => exact start
  | cons x rest ih =>
      have whole : ∀ (rest : List α) (c : Coordinator σ),
          c.journal <:+ (rest.foldl f c).journal := by
        intro rest
        induction rest with
        | nil => exact fun _ => List.suffix_rfl
        | cons y rest ih => exact fun c => (suffix c y).trans (ih (f c y))
      have after := later.before ((grown c start).trans (suffix c x)) (whole rest (f c x))
      exact ih (step c x start after) later

structure Apart (c c' : Coordinator σ) : Prop where
  roster : c'.roster = c.roster
  journal : ∃ entries, c'.journal = entries ++ c.journal ∧
    ∀ entry ∈ entries, entry.asked? = none ∧ entry.taken? = none

theorem Apart.refl (c : Coordinator σ) : Apart c c :=
  ⟨rfl, [], rfl, by simp⟩

theorem Apart.trans (first : Apart c c') (second : Apart c' c'') : Apart c c'' := by
  obtain ⟨entries, written, apart⟩ := first.journal
  obtain ⟨more, rewritten, moreApart⟩ := second.journal
  refine ⟨second.roster.trans first.roster, more ++ entries, ?_, ?_⟩
  · rw [rewritten, written, List.append_assoc]
  · intro entry member
    rcases List.mem_append.mp member with recent | earlier
    · exact moreApart entry recent
    · exact apart entry earlier

theorem Apart.suffix (apart : Apart c c') : c.journal <:+ c'.journal := by
  obtain ⟨entries, written, _⟩ := apart.journal
  exact ⟨entries, written.symm⟩

theorem Apart.openRequests (apart : Apart c c') (grown : base <:+ c.journal) :
    openRequests (since base c'.journal) = openRequests (since base c.journal) := by
  obtain ⟨entries, written, apart⟩ := apart.journal
  rw [written, since_append grown, openRequests_append _ apart]

theorem Apart.askedHosts (apart : Apart c c') (grown : base <:+ c.journal) :
    askedHosts (since base c'.journal) = askedHosts (since base c.journal) := by
  obtain ⟨entries, written, apart⟩ := apart.journal
  rw [written, since_append grown, askedHosts_append _ apart]

theorem Apart.submittedRequests (apart : Apart c c') (grown : base <:+ c.journal) :
    submittedRequests (since base c'.journal) = submittedRequests (since base c.journal) := by
  obtain ⟨entries, written, apart⟩ := apart.journal
  rw [written, since_append grown, submittedRequests_append _ apart]

theorem apart_launchMasterIn (container : Container) :
    Apart c (c.launchMasterIn clients container) := by
  unfold launchMasterIn startContainer
  simp only [ask_eq, log]
  cases (clients.startContainer container c.plan.launch.forMaster c.env).1 with
  | ok => exact ⟨rfl, [_, _, _], rfl, by simp [Entry.asked?, Entry.taken?]⟩
  | error cause => exact ⟨rfl, [_, _, _], rfl, by simp [Entry.asked?, Entry.taken?]⟩

theorem apart_placeMaster (containers : List Container) (closed : c.master = none) :
    Apart c (c.placeMaster clients containers) :=
  placeMaster_related (fun first second => first.trans second)
    (fun _ => ⟨rfl, [_], rfl, by simp [Entry.asked?, Entry.taken?]⟩)
    (fun _ _ => ⟨rfl, [_], rfl, by simp [Entry.asked?, Entry.taken?]⟩)
    (fun _ _ => ⟨rfl, [_], rfl, by simp [Entry.asked?, Entry.taken?]⟩)
    (fun _ container _ => apart_launchMasterIn container) containers closed

/-! ## Containers -/

/-- What a container that was taken leads to, cooperatively. -/
structure Answered (base : List Entry) (container : Container) (c c' : Coordinator σ) :
    Prop where
  host : container.host ∈ askedHosts (since base c.journal)
  pending : 0 < openRequests (since base c.journal)
  fewer : openRequests (since base c'.journal) = openRequests (since base c.journal) - 1
  asked : askedHosts (since base c'.journal) = askedHosts (since base c.journal)
  submitted : submittedRequests (since base c'.journal) =
    submittedRequests (since base c.journal)

theorem Cooperates.answered (later : c'.Cooperates base) (grown : base <:+ c.journal)
    {container : Container} (entries : List Entry) (entry : Entry)
    (written : c'.journal = entries ++ entry :: c.journal)
    (taken : entry.taken? = some container) (unasked : entry.asked? = none)
    (apart : ∀ entry ∈ entries, entry.asked? = none ∧ entry.taken? = none) :
    Answered base container c c' := by
  have trace : since base c'.journal = entries ++ entry :: since base c.journal := by
    rw [written, since_append (grown.trans (List.suffix_cons _ _)), since_cons grown]
  have cooperative := later.cooperative
  rw [trace] at cooperative
  obtain ⟨listed, pending⟩ := cooperative.earlier.2.1 container taken
  refine ⟨listed, pending, ?_, ?_, ?_⟩
  · rw [trace, openRequests_append _ apart]
    simp [openRequests, unasked, taken]
  · rw [trace, askedHosts_append _ apart]
    simp [askedHosts, unasked]
  · rw [trace, submittedRequests_append _ apart]
    simp [submittedRequests, unasked]

theorem placeWorker_cooperates {context : LaunchContext} {container : Container}
    (grown : base <:+ c.journal)
    (later : (c.placeWorker clients context container).Cooperates base) :
    Answered base container c (c.placeWorker clients context container) ∧
      (c.placeWorker clients context container).roster =
        c.roster.place c.plan.limits container.host := by
  cases decision : c.roster.hasEnough c.plan.limits ||
      c.roster.isHostFull c.plan.limits container.host with
  | true =>
      rw [placeWorker_refused _ _ decision] at later ⊢
      refine ⟨later.answered grown [_, _] _ rfl rfl rfl ?_, ?_⟩
      · simp [Entry.asked?, Entry.taken?]
      · simp only [Roster.place, decision, if_true]
  | false =>
      cases outcome : (clients.startContainer container context c.env).1 with
      | ok =>
          rw [placeWorker_launched _ _ decision outcome] at later ⊢
          refine ⟨later.answered grown [_, _, _] _ rfl rfl rfl ?_, ?_⟩
          · simp [Entry.asked?, Entry.taken?]
          · simp only [Roster.place, decision, Bool.false_eq_true, if_false]
      | error cause =>
          rw [placeWorker_failed _ _ decision outcome] at later
          refine absurd ?_ (later.launched grown [_, _, _, _] rfl container.id cause)
          simp

/-- No request for a worker is open, and there were at most so many. The roster is given. -/
structure Unasked (base : List Entry) (roster : Roster) (most : Nat) (c : Coordinator σ) :
    Prop where
  grown : base <:+ c.journal
  answered : openRequests (since base c.journal) = 0
  submitted : submittedRequests (since base c.journal) ≤ most
  same : c.roster = roster

theorem Unasked.apart {roster : Roster} {most : Nat} (unasked : c.Unasked base roster most)
    (apart : Apart c c') : c'.Unasked base roster most := by
  refine ⟨unasked.grown.trans apart.suffix, ?_, ?_, apart.roster.trans unasked.same⟩
  · rw [apart.openRequests unasked.grown]
    exact unasked.answered
  · rw [apart.submittedRequests unasked.grown]
    exact unasked.submitted

theorem Unasked.onAllocated {roster : Roster} {most : Nat} {containers : List Container}
    (unasked : c.Unasked base roster most)
    (later : (c.onAllocated clients containers).Cooperates base) :
    (c.onAllocated clients containers).Unasked base roster most := by
  unfold Coordinator.onAllocated at later ⊢
  split at later
  · rename_i closed
    exact unasked.apart (apart_placeMaster containers closed)
  · refine foldl_cooperates _ (·.Unasked base roster most) (fun _ kept => kept.grown)
      (fun _ _ => suffix_placeWorker _ _) ?_ containers unasked later
    intro c container kept cooperates
    have pending := (placeWorker_cooperates kept.grown cooperates).1.pending
    have none := kept.answered
    omega

/-- A round is being answered, and some of its requests are still to be submitted. -/
structure Serving (known : HostSet) (base : List Entry) (hosts : List Host) (round : Nat)
    (unsubmitted : Nat) (c : Coordinator σ) : Prop where
  grown : base <:+ c.journal
  underway : c.roster.Underway c.plan.limits known hosts round
  owed : c.roster.gate.outstanding = openRequests (since base c.journal) + unsubmitted
  asked : 0 < openRequests (since base c.journal) → askedHosts (since base c.journal) = hosts
  submitted : submittedRequests (since base c.journal) + unsubmitted ≤
    round * c.plan.limits.target

variable {known : HostSet} {hosts : List Host} {round unsubmitted : Nat}

theorem Serving.apart (serving : c.Serving known base hosts round unsubmitted)
    (plan : c'.plan = c.plan) (apart : Apart c c') :
    c'.Serving known base hosts round unsubmitted := by
  obtain ⟨grown, underway, owed, asked, submitted⟩ := serving
  refine ⟨grown.trans apart.suffix, ?_, ?_, ?_, ?_⟩
  · rw [plan, apart.roster]
    exact underway
  · rw [apart.roster, apart.openRequests grown]
    exact owed
  · rw [apart.openRequests grown, apart.askedHosts grown]
    exact asked
  · rw [plan, apart.submittedRequests grown]
    exact submitted

theorem Serving.placeWorker {context : LaunchContext} {container : Container}
    (serving : c.Serving known base hosts round unsubmitted)
    (later : (c.placeWorker clients context container).Cooperates base) :
    (c.placeWorker clients context container).Serving known base hosts round unsubmitted := by
  obtain ⟨grown, underway, owed, asked, submitted⟩ := serving
  obtain ⟨answered, placed⟩ := placeWorker_cooperates grown later
  have pending := answered.pending
  have plan : (c.placeWorker clients context container).plan = c.plan :=
    (sameStage_placeWorker context container).plan
  have listed : container.host ∈ hosts := by
    rw [← asked pending]
    exact answered.host
  refine ⟨later.grown, ?_, ?_, ?_, ?_⟩
  · rw [plan, placed]
    exact underway.place listed (by omega)
  · rw [placed, Roster.outstanding_place, answered.fewer]
    omega
  · intro still
    rw [answered.asked]
    exact asked pending
  · rw [plan, answered.submitted]
    exact submitted

theorem Serving.onAllocated {containers : List Container} {address : String}
    (serving : c.Serving known base hosts round unsubmitted) (opened : c.master = some address)
    (later : (c.onAllocated clients containers).Cooperates base) :
    (c.onAllocated clients containers).Serving known base hosts round unsubmitted := by
  unfold Coordinator.onAllocated at later ⊢
  simp only [opened] at later ⊢
  exact foldl_cooperates _ (·.Serving known base hosts round unsubmitted)
    (fun _ kept => kept.grown) (fun _ _ => suffix_placeWorker _ _)
    (fun _ _ kept cooperates => kept.placeWorker cooperates) containers serving later

/-! ## Requests -/

theorem moves_handedOut (request : ContainerRequest) :
    Moves clients (c.requesting clients request) (c.addRequest clients request) :=
  moves_batches _

theorem suffix_addRequest (request : ContainerRequest) :
    c.journal <:+ (c.addRequest clients request).journal :=
  (List.suffix_cons _ _).trans (moves_handedOut request).suffix

theorem covers_suffix :
    CoversSequence clients fun c c' : Coordinator σ => c.journal <:+ c'.journal where
  refl _ := List.suffix_rfl
  trans first second := first.trans second
  set _ _ _ := List.suffix_rfl
  log _ _ _ := List.suffix_cons _ _
  ask _ _ _ _ := List.suffix_cons _ _
  tell _ _ _ _ := List.suffix_cons _ _
  turn _ _ := List.suffix_rfl
  list _ := moves_listed.suffix
  plan _ _ _ _ _ := List.suffix_rfl
  announce _ _ _ _ := List.suffix_cons _ _
  request _ := suffix_addRequest

theorem Serving.batches {address : String} (batches : List (List Container))
    (serving : c.Serving known base hosts round unsubmitted) (opened : c.master = some address)
    (later : (batches.foldl (fun c containers => c.onAllocated clients containers) c).Cooperates
      base) :
    (batches.foldl (fun c containers => c.onAllocated clients containers) c).Serving known base
      hosts round unsubmitted := by
  have kept := foldl_cooperates (fun c containers => c.onAllocated clients containers)
    (fun c => c.Serving known base hosts round unsubmitted ∧ c.master = some address)
    (fun _ kept => kept.1.grown) (fun _ _ => (moves_onAllocated _).suffix) ?_ batches
    ⟨serving, opened⟩ later
  · exact kept.1
  · rintro c containers ⟨serving, opened⟩ cooperates
    exact ⟨serving.onAllocated opened cooperates, (moves_onAllocated _).master_eq opened⟩

theorem Unasked.batches {roster : Roster} {most : Nat} (batches : List (List Container))
    (unasked : c.Unasked base roster most)
    (later : (batches.foldl (fun c containers => c.onAllocated clients containers) c).Cooperates
      base) :
    (batches.foldl (fun c containers => c.onAllocated clients containers) c).Unasked base roster
      most :=
  foldl_cooperates (fun c containers => c.onAllocated clients containers)
    (·.Unasked base roster most) (fun _ kept => kept.grown)
    (fun _ _ => (moves_onAllocated _).suffix)
    (fun _ _ kept cooperates => kept.onAllocated cooperates) batches unasked later

theorem Unasked.listed {roster : Roster} {most : Nat} (unasked : c.Unasked base roster most)
    (later : (c.listed clients).Cooperates base) :
    (c.listed clients).Unasked base roster most := by
  have asked : Apart c (c.inquiring clients) :=
    ⟨rfl, [_], rfl, by simp [Entry.asked?, Entry.taken?]⟩
  exact (unasked.apart asked).batches _ later

theorem Unasked.addRequest {roster : Roster} {most : Nat} {request : ContainerRequest}
    (unasked : c.Unasked base roster most) (other : request.role = .master)
    (later : (c.addRequest clients request).Cooperates base) :
    (c.addRequest clients request).Unasked base roster most := by
  have requested : Apart c (c.requesting clients request) :=
    ⟨rfl, [_], rfl, by simp [Entry.asked?, Entry.taken?, other]⟩
  exact (unasked.apart requested).batches _ later

theorem Serving.request (serving : c.Serving known base hosts round (unsubmitted + 1))
    (env : σ) (event : Event) (other : (Entry.event event).asked? = none)
    (untaken : (Entry.event event).taken? = none) :
    Serving known base hosts round unsubmitted { c with
      env
      journal := .call (.addRequest (c.plan.requests.forWorker hosts)) none :: .event event ::
        c.journal } := by
  obtain ⟨grown, underway, owed, asked, submitted⟩ := serving
  have asks : (Entry.call (.addRequest (c.plan.requests.forWorker hosts)) none).asked? =
      some hosts := rfl
  have trace : since base (.call (.addRequest (c.plan.requests.forWorker hosts)) none ::
      .event event :: c.journal) = [.call (.addRequest (c.plan.requests.forWorker hosts)) none,
        .event event] ++ since base c.journal :=
    since_append grown [_, _]
  refine ⟨grown.trans ⟨[_, _], rfl⟩, underway, ?_, ?_, ?_⟩
  · simp only [trace, List.cons_append, List.nil_append, openRequests, asks, other, untaken,
      Option.isSome_some, Option.isSome_none, Bool.false_eq_true, if_true, if_false]
    omega
  · intro _
    simp [trace, askedHosts, asks]
  · rw [submittedRequests] at submitted
    simp only [trace, List.cons_append, List.nil_append, submittedRequests, List.countP_cons, asks,
      other, Option.isSome_some, Option.isSome_none, Bool.false_eq_true, if_true, if_false]
    omega

theorem Serving.addRequest {address : String} {event : Event}
    (serving : c.Serving known base hosts round (unsubmitted + 1))
    (opened : c.master = some address) (other : (Entry.event event).asked? = none)
    (untaken : (Entry.event event).taken? = none)
    (later : ((c.log event).addRequest clients (c.plan.requests.forWorker hosts)).Cooperates base) :
    ((c.log event).addRequest clients (c.plan.requests.forWorker hosts)).Serving known base hosts
      round unsubmitted :=
  (serving.request _ event other untaken).batches _ opened later

theorem master_addRequest {address : String} (request : ContainerRequest)
    (opened : c.master = some address) :
    (c.addRequest clients request).master = some address :=
  (moves_handedOut request).master_eq opened

theorem master_submitWorkers {address : String} (request : ContainerRequest) (index count : Nat) :
    ∀ (worker : Nat) (c : Coordinator σ), c.master = some address →
      (c.submitWorkers clients request index worker count).master = some address := by
  induction count with
  | zero => exact fun _ _ opened => opened
  | succ count ih => exact fun worker c opened => ih _ _ (master_addRequest request opened)

theorem Serving.submitWorkers {address : String} {index : Nat} (count : Nat) :
    ∀ (worker : Nat) (c : Coordinator σ), c.Serving known base hosts round count →
      c.master = some address →
      (c.submitWorkers clients (c.plan.requests.forWorker hosts) index worker count).Cooperates
        base →
      (c.submitWorkers clients (c.plan.requests.forWorker hosts) index worker count).Serving known
        base hosts round 0 := by
  induction count with
  | zero => exact fun _ _ serving _ _ => serving
  | succ count ih =>
      intro worker c serving opened later
      let request := c.plan.requests.forWorker hosts
      let submitted := (c.log (.requestingWorker worker index request)).addRequest clients request
      have logged : c.journal <:+ (c.log (.requestingWorker worker index request)).journal :=
        List.suffix_cons _ _
      have first : c.journal <:+ submitted.journal := logged.trans (suffix_addRequest request)
      have rest : submitted.journal <:+
          (submitted.submitWorkers clients request index (worker + 1) count).journal :=
        covers_suffix.submitWorkers request index count (worker + 1) submitted
      have served : submitted.Serving known base hosts round count :=
        serving.addRequest opened rfl rfl (later.before (serving.grown.trans first) rest)
      have plan : submitted.plan = c.plan := (sameStage_addRequest request).plan
      have next := ih (worker + 1) submitted served (master_addRequest request opened)
      rw [plan] at next
      exact next later

end Coordinator

end Muster
