import Muster.Proofs.Answers

/-!
Courses of a coordinator. A course tells which rounds were planned and which containers were offered
to the master or answered a request, one step after the other. Anything else can happen between any
two steps, so that courses have every interleaving of the deliveries with the sequence of a bring-up.
-/

namespace Muster

def Entry.outstanding? : Entry → Option Nat
  | .event (.requestAnswered outstanding) => some outstanding
  | _ => none

def Call.usesContainer : Call → Bool
  | release _ => true
  | startContainer .. => true
  | _ => false

def Entry.call? : Entry → Option Call
  | .call made _ => some made
  | .event _ => none

structure Entry.Elsewhere (entry : Entry) : Prop where
  unreported : entry.outstanding? = none
  untaken : entry.taken? = none
  unused : ∀ call ∈ entry.call?, call.usesContainer = false

theorem Entry.elsewhere_call {call : Call} (failure : Option String)
    (other : call.usesContainer = false) : (Entry.call call failure).Elsewhere :=
  ⟨rfl, rfl, by simpa [call?] using other⟩

theorem Entry.elsewhere_event {event : Event}
    (silent : (Entry.event event).concernsWorkers = false) : (Entry.event event).Elsewhere := by
  refine ⟨?_, (apart_of_silent silent).2, by simp [call?]⟩
  cases event <;> simp [concernsWorkers, outstanding?] at silent ⊢

/-- What happens to the rounds and the containers. -/
inductive Happening
  | planned (needed : Nat)
  | offered (containers : List Container)
  | answered (container : Container)
  deriving DecidableEq, Repr

def deliveredIn : List Happening → List Container
  | [] => []
  | .planned _ :: earlier => deliveredIn earlier
  | .offered containers :: earlier => deliveredIn earlier ++ containers
  | .answered container :: earlier => deliveredIn earlier ++ [container]

namespace Coordinator

variable {σ : Type} {clients : Clients σ} {c c' c'' : Coordinator σ} {trace : List Happening}

inductive Act (clients : Clients σ) (c : Coordinator σ) : List Happening → Coordinator σ → Prop
  | aside (env : σ) (phase : Phase) (done : Latch) (control : Control) (entries : List Entry)
      (elsewhere : ∀ entry ∈ entries, entry.Elsewhere) :
      Act clients c [] { c with env, phase, done, control, journal := entries ++ c.journal }
  | plan (known : HostSet) (round : Round) (roster : Roster)
      (planned : c.roster.nextRound c.plan.limits known = .ok (some (round, roster))) :
      Act clients c [.planned round.needed] { c with roster }
  | offer (containers : List Container) (closed : c.master = none) :
      Act clients c [.offered containers] (c.placeMaster clients containers)
  | answer (container : Container) (address : String) (opened : c.master = some address) :
      Act clients c [.answered container]
        (c.placeWorker clients (c.plan.launch.forWorker address) container)

/-- Some steps one after the other. What happened is listed with the newest first. -/
inductive Course (clients : Clients σ) (c : Coordinator σ) : List Happening → Coordinator σ → Prop
  | refl : Course clients c [] c
  | tail {trace recent : List Happening} {c' c'' : Coordinator σ} (course : Course clients c trace c')
      (act : Act clients c' recent c'') : Course clients c (recent ++ trace) c''

theorem Act.course {recent : List Happening} (act : Act clients c recent c') :
    Course clients c recent c' := by
  simpa using Course.refl.tail act

theorem Course.trans {recent : List Happening} (first : Course clients c trace c')
    (second : Course clients c' recent c'') : Course clients c (recent ++ trace) c'' := by
  induction second with
  | refl => exact first
  | tail _ act ih =>
      rw [List.append_assoc]
      exact ih.tail act

/-! ## Every run is a course -/

def Leads (clients : Clients σ) (c c' : Coordinator σ) : Prop :=
  ∃ trace, Course clients c trace c'

theorem Leads.trans (first : Leads clients c c') (second : Leads clients c' c'') :
    Leads clients c c'' := by
  obtain ⟨trace, course⟩ := first
  obtain ⟨recent, later⟩ := second
  exact ⟨recent ++ trace, course.trans later⟩

theorem leads_aside (env : σ) (phase : Phase) (done : Latch) (control : Control)
    (entries : List Entry) (elsewhere : ∀ entry ∈ entries, entry.Elsewhere) :
    Leads clients c { c with env, phase, done, control, journal := entries ++ c.journal } :=
  ⟨[], (Act.aside env phase done control entries elsewhere).course⟩

theorem leads_entry (env : σ) {entry : Entry} (elsewhere : entry.Elsewhere) :
    Leads clients c { c with env, journal := entry :: c.journal } :=
  leads_aside env c.phase c.done c.control [entry] (by simpa using elsewhere)

theorem onAllocated_append {address : String} (opened : c.master = some address)
    (containers : List Container) (last : Container) :
    c.onAllocated clients (containers ++ [last]) =
      (c.onAllocated clients containers).placeWorker clients
        ((c.onAllocated clients containers).plan.launch.forWorker address) last := by
  have plan : (c.onAllocated clients containers).plan = c.plan :=
    (moves_onAllocated containers).plan_eq
  rw [plan]
  simp only [onAllocated, opened, List.foldl_append, List.foldl_cons, List.foldl_nil]

theorem course_onAllocated (containers : List Container) :
    ∃ trace, Course clients c trace (c.onAllocated clients containers) ∧
      deliveredIn trace = containers := by
  cases master : c.master with
  | none =>
      refine ⟨[.offered containers], ?_, rfl⟩
      simp only [onAllocated, master]
      exact (Act.offer containers master).course
  | some address =>
      induction containers using List.reverseRecOn with
      | nil =>
          refine ⟨[], ?_, rfl⟩
          simp only [onAllocated, master, List.foldl_nil]
          exact .refl
      | append_singleton containers last ih =>
          obtain ⟨trace, course, delivered⟩ := ih
          have opened : (c.onAllocated clients containers).master = some address :=
            (moves_onAllocated containers).master_eq master
          rw [onAllocated_append master]
          refine ⟨.answered last :: trace, course.tail (.answer last address opened), ?_⟩
          simp [deliveredIn, delivered]

theorem leads_onAllocated (containers : List Container) :
    Leads clients c (c.onAllocated clients containers) := by
  obtain ⟨trace, course, _⟩ := course_onAllocated containers
  exact ⟨trace, course⟩

theorem covers_leads_turns : CoversTurns clients (Leads clients) where
  refl _ := ⟨[], .refl⟩
  trans := Leads.trans
  set c phase done := leads_aside c.env phase done c.control [] (by simp)
  log c event silent := leads_entry c.env (Entry.elsewhere_event silent)
  ask c call act asks := leads_entry (act c.env).2 (Entry.elsewhere_call _ (by cases asks <;> rfl))
  tell c call act tells := leads_entry (act c.env) (Entry.elsewhere_call _ (by cases tells <;> rfl))
  turn c control := leads_aside c.env c.phase c.done control [] (by simp)

theorem covers_leads : CoversSequence clients (Leads clients) where
  toCoversTurns := covers_leads_turns
  list c := by
    have asked : Leads clients c (c.inquiring clients) :=
      leads_entry _ (Entry.elsewhere_call _ rfl)
    refine asked.trans ?_
    exact covers_leads_turns.foldl _ (fun _ => leads_onAllocated) _ _
  plan _ known round roster planned := ⟨_, (Act.plan known round roster planned).course⟩
  announce c _ _ _ := leads_entry c.env ⟨rfl, rfl, by simp [Entry.call?]⟩
  request c request := by
    have submitted : Leads clients c (c.requesting clients request) :=
      leads_entry _ (Entry.elsewhere_call none rfl)
    refine submitted.trans ?_
    exact covers_leads_turns.foldl _ (fun _ => leads_onAllocated) _ _

theorem Run.leads (run : Run clients c c') : Leads clients c c' := by
  induction run with
  | refl => exact ⟨[], .refl⟩
  | @tail d _ _ step ih =>
      refine ih.trans ?_
      cases step with
      | environment env => exact leads_aside env d.phase d.done d.control [] (by simp)
      | perform action =>
          by_cases allocated : ∃ containers, action = .receive (.allocated containers)
          · obtain ⟨containers, rfl⟩ := allocated
            exact leads_onAllocated containers
          · exact covers_leads.perform (not_exists.mp allocated) d

end Coordinator

end Muster
