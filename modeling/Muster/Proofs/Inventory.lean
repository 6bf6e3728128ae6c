import Muster.Proofs.Stages

/-!
Surveys: runs of a coordinator together with the states in which they ask for the hosts, so that a
law can speak of what the inventory answered in a run, and not of what it would answer.
-/

namespace Muster.Coordinator

open Relation (ReflTransGen)

variable {σ : Type} {clients : Clients σ} {c start : Coordinator σ} {asked : List (Coordinator σ)}
  {allowed : Action → Prop}

def plannedRound (clients : Clients σ) (c : Coordinator σ) : Option (Round × Roster) :=
  match (clients.nodeHosts c.env).1 with
  | .error _ => none
  | .ok known =>
    match (c.listed clients).roster.nextRound (c.listed clients).plan.limits known with
    | .error _ => none
    | .ok chosen => chosen

/-- The states in which hosts are asked for when up to `left` more rounds may be run. -/
def inquiries (clients : Clients σ) : (left : Nat) → Coordinator σ → List (Coordinator σ)
  | 0, _ => []
  | left + 1, c =>
    if c.roster.hasEnough c.plan.limits then []
    else
      c :: match c.plannedRound clients with
        | none => []
        | some (round, roster) =>
          let submitted := (c.withRound clients roster).submitRound clients round (maxRounds - left)
          if submitted.roster.gate.isDrained then inquiries clients left submitted else []

def firstInquiries (clients : Clients σ) (c : Coordinator σ) : List (Coordinator σ) :=
  if c.master.isSome then inquiries clients maxRounds (c.advance .masterLaunched) else []

def inquiriesOf (clients : Clients σ) : Action → Coordinator σ → List (Coordinator σ)
  | .resume, c =>
    match c.control with
    | .begun => firstInquiries clients (c.submitMaster clients)
    | .awaitingMaster => firstInquiries clients c
    | .awaitingRound round =>
      if c.roster.gate.isDrained then inquiries clients (maxRounds - round) c else []
    | _ => []
  | _, _ => []

/-- A run from `start`, with the states in which it asked for the hosts. -/
inductive Survey (clients : Clients σ) (allowed : Action → Prop) (start : Coordinator σ) :
    List (Coordinator σ) → Coordinator σ → Prop
  | refl : Survey clients allowed start [] start
  | perform {asked : List (Coordinator σ)} {c : Coordinator σ} (action : Action)
      (permitted : allowed action) (earlier : Survey clients allowed start asked c) :
      Survey clients allowed start (asked ++ c.inquiriesOf clients action)
        (c.perform clients action).2
  | environment {asked : List (Coordinator σ)} {c : Coordinator σ} (env : σ)
      (earlier : Survey clients allowed start asked c) :
      Survey clients allowed start asked { c with env }

theorem exists_survey (steps : ReflTransGen (Step clients allowed) start c) :
    ∃ asked, Survey clients allowed start asked c := by
  induction steps with
  | refl => exact ⟨[], .refl⟩
  | tail _ step ih =>
      obtain ⟨asked, survey⟩ := ih
      cases step with
      | perform action permitted => exact ⟨_, survey.perform action permitted⟩
      | environment env => exact ⟨_, survey.environment env⟩

theorem Survey.steps (survey : Survey clients allowed start asked c) :
    ReflTransGen (Step clients allowed) start c := by
  induction survey with
  | refl => exact .refl
  | perform action permitted _ ih => exact ih.tail (.perform action permitted)
  | environment env _ ih => exact ih.tail (.environment env)

/-! ## Rounds -/

theorem plannedRound_eq_some_iff {known : HostSet} {round : Round} {roster : Roster}
    (answer : (clients.nodeHosts c.env).1 = .ok known) :
    c.plannedRound clients = some (round, roster) ↔
      (c.listed clients).roster.nextRound (c.listed clients).plan.limits known =
        .ok (some (round, roster)) := by
  simp only [plannedRound, answer]
  split
  · rename_i refused
    simp [refused]
  · rename_i chosen
    simp [chosen]

theorem inquiries_unplanned {left : Nat} (wanted : c.roster.hasEnough c.plan.limits = false)
    (none : c.plannedRound clients = none) : inquiries clients (left + 1) c = [c] := by
  simp [inquiries, wanted, none]

theorem mem_inquiries_self {left : Nat} (wanted : c.roster.hasEnough c.plan.limits = false) :
    c ∈ inquiries clients (left + 1) c := by
  simp [inquiries, wanted]

theorem inquiries_planned {left : Nat} {known : HostSet} {round : Round} {roster : Roster}
    (wanted : c.roster.hasEnough c.plan.limits = false)
    (answer : (clients.nodeHosts c.env).1 = .ok known)
    (next : (c.listed clients).roster.nextRound (c.listed clients).plan.limits known =
      .ok (some (round, roster))) :
    inquiries clients (left + 1) c =
      c :: if ((c.withRound clients roster).submitRound clients round
          (maxRounds - left)).roster.gate.isDrained then
        inquiries clients left
          ((c.withRound clients roster).submitRound clients round (maxRounds - left))
      else [] := by
  have planned := (plannedRound_eq_some_iff answer).mpr next
  simp only [inquiries, wanted, planned, Bool.false_eq_true, if_false]

end Muster.Coordinator
