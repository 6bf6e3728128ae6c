import Muster.Proofs.Course
import Muster.Proofs.WorkerLimits

/-!
The countdown of a round. A course determines how many requests are unanswered and every number that
was reported, and with it whether a sequence that waits for a round goes on.
-/

namespace Muster

namespace Happening

def needed? : Happening → Option Nat
  | planned needed => some needed
  | _ => none

def answer? : Happening → Option Container
  | answered container => some container
  | _ => none

end Happening

def neededIn : List Happening → Nat
  | [] => 0
  | .planned needed :: _ => needed
  | _ :: earlier => neededIn earlier

/-- The containers that answered since the latest round was planned. -/
def answeredIn : List Happening → Nat
  | [] => 0
  | .planned _ :: _ => 0
  | .offered _ :: earlier => answeredIn earlier
  | .answered _ :: earlier => answeredIn earlier + 1

def countsOf : List Happening → List Nat
  | [] => []
  | .answered container :: earlier =>
    (neededIn (.answered container :: earlier) - answeredIn (.answered container :: earlier)) ::
      countsOf earlier
  | _ :: earlier => countsOf earlier

namespace Coordinator

variable {σ : Type} {clients : Clients σ} {c c' c'' : Coordinator σ} {trace : List Happening}

def reported (c : Coordinator σ) : List Nat :=
  c.journal.filterMap Entry.outstanding?

def taken (c : Coordinator σ) : List Container :=
  c.journal.filterMap Entry.taken?

/-- What is counted and reported is what a trace says. -/
structure Counted (trace : List Happening) (c : Coordinator σ) : Prop where
  outstanding : c.roster.gate.outstanding = neededIn trace - answeredIn trace
  reported : c.reported = countsOf trace
  taken : c.taken = trace.filterMap Happening.answer?
  rounds : c.roster.gate.rounds = (trace.filterMap Happening.needed?).length

structure Uncounted (c c' : Coordinator σ) : Prop where
  roster : c'.roster = c.roster
  reported : c'.reported = c.reported
  taken : c'.taken = c.taken

theorem Uncounted.refl (c : Coordinator σ) : Uncounted c c :=
  ⟨rfl, rfl, rfl⟩

theorem Uncounted.trans (first : Uncounted c c') (second : Uncounted c' c'') : Uncounted c c'' :=
  ⟨second.roster.trans first.roster, second.reported.trans first.reported,
    second.taken.trans first.taken⟩

theorem uncounted_of_append {entries : List Entry} (roster : c'.roster = c.roster)
    (written : c'.journal = entries ++ c.journal) (elsewhere : ∀ entry ∈ entries, entry.Elsewhere) :
    Uncounted c c' := by
  have unreported : entries.filterMap Entry.outstanding? = [] :=
    List.filterMap_eq_nil_iff.mpr fun entry member => (elsewhere entry member).unreported
  have untaken : entries.filterMap Entry.taken? = [] :=
    List.filterMap_eq_nil_iff.mpr fun entry member => (elsewhere entry member).untaken
  refine ⟨roster, ?_, ?_⟩
  · rw [Coordinator.reported, written, List.filterMap_append, unreported]
    rfl
  · rw [Coordinator.taken, written, List.filterMap_append, untaken]
    rfl

theorem covers_uncounted : CoversTurns clients Uncounted where
  refl := .refl
  trans := .trans
  set _ _ _ := ⟨rfl, rfl, rfl⟩
  log c event silent := by
    have written : (c.log event).journal = [.event event] ++ c.journal := rfl
    exact uncounted_of_append rfl written (by simpa using Entry.elsewhere_event silent)
  ask _ _ _ _ := ⟨rfl, rfl, rfl⟩
  tell _ _ _ _ := ⟨rfl, rfl, rfl⟩
  turn _ _ := ⟨rfl, rfl, rfl⟩

theorem uncounted_launchMasterIn (container : Container) :
    Uncounted c (c.launchMasterIn clients container) := by
  cases outcome : (clients.startContainer container c.plan.launch.forMaster c.env).1 with
  | ok =>
      rw [launchMasterIn_launched container outcome]
      exact ⟨rfl, rfl, rfl⟩
  | error cause =>
      rw [launchMasterIn_failed container outcome]
      exact ⟨rfl, rfl, rfl⟩

theorem uncounted_placeMaster (containers : List Container) (closed : c.master = none) :
    Uncounted c (c.placeMaster clients containers) :=
  covers_uncounted.placeMaster (fun _ _ => ⟨rfl, rfl, rfl⟩)
    (fun _ container _ => uncounted_launchMasterIn container) containers closed

theorem placeWorker_counts (context : LaunchContext) (container : Container) :
    (c.placeWorker clients context container).roster.gate = c.roster.gate.countDown ∧
      (c.placeWorker clients context container).reported =
        c.roster.gate.countDown.outstanding :: c.reported ∧
      (c.placeWorker clients context container).taken = container :: c.taken := by
  cases decision : c.roster.hasEnough c.plan.limits ||
      c.roster.isHostFull c.plan.limits container.host with
  | true =>
      rw [placeWorker_refused _ _ decision]
      exact ⟨rfl, rfl, rfl⟩
  | false =>
      cases outcome : (clients.startContainer container context c.env).1 with
      | ok =>
          rw [placeWorker_launched _ _ decision outcome]
          exact ⟨rfl, rfl, rfl⟩
      | error cause =>
          rw [placeWorker_failed _ _ decision outcome]
          exact ⟨rfl, rfl, rfl⟩

theorem Counted.uncounted (counted : Counted trace c) (uncounted : Uncounted c c') :
    Counted trace c' := by
  obtain ⟨outstanding, reported, taken, rounds⟩ := counted
  obtain ⟨roster, unreported, untaken⟩ := uncounted
  refine ⟨?_, unreported.trans reported, untaken.trans taken, ?_⟩
  · rw [roster]
    exact outstanding
  · rw [roster]
    exact rounds

theorem Counted.act {recent : List Happening} (counted : Counted trace c)
    (act : Act clients c recent c') : Counted (recent ++ trace) c' := by
  cases act with
  | aside env phase done control entries elsewhere =>
      exact counted.uncounted (uncounted_of_append rfl rfl elsewhere)
  | plan known round roster planned =>
      obtain ⟨_, _, _, _, rfl⟩ := Roster.nextRound_planned planned
      refine ⟨?_, counted.reported, counted.taken, ?_⟩
      · simp [neededIn, answeredIn]
      · simp [Happening.needed?, counted.rounds]
  | offer containers closed =>
      obtain ⟨outstanding, reported, taken, rounds⟩ :=
        counted.uncounted (uncounted_placeMaster containers closed)
      exact ⟨outstanding, reported, taken, rounds⟩
  | answer container address opened =>
      obtain ⟨gate, reported, taken⟩ := placeWorker_counts (c.plan.launch.forWorker address) container
      have count : c.roster.gate.countDown.outstanding = neededIn (.answered container :: trace) -
          answeredIn (.answered container :: trace) := by
        have before := counted.outstanding
        simp only [RoundGate.countDown, neededIn, answeredIn]
        omega
      refine ⟨?_, ?_, ?_, ?_⟩
      · rw [gate]
        exact count
      · rw [reported, count, counted.reported]
        rfl
      · rw [taken, counted.taken]
        rfl
      · rw [gate]
        exact counted.rounds

theorem Course.counted {plan : BringupPlan} {env : σ}
    (course : Course clients (init plan env) trace c) : Counted trace c := by
  induction course with
  | refl => exact ⟨rfl, rfl, rfl, rfl⟩
  | tail _ act ih => exact ih.act act

/-! ## Waiting for a round -/

def served : Coordinator Script :=
  performAll Script.clients
    [.start, .request, .resume, .receive (.allocated [Script.container 5 "am"]), .resume,
      .receive (.allocated
        [Script.container 6 "h1", Script.container 7 "h1", Script.container 8 "h2"])]
    (init crowdedPlan {
      inventory := .ofList ["h1", "h2"]
      failHosts := ["h2"]
      answers := [none, some "h1"] })

end Coordinator

end Muster
