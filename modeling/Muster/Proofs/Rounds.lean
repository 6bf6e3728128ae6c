import Muster.Coordinator.Roster
import Muster.Proofs.Placement

/-!
How rounds of worker requests fill the hosts. A round in which every request is answered on one of
its hosts either reaches the target or leaves a host full that had room when the round was planned.
-/

namespace Muster.Roster

/-- No host and no sum of workers is above its limit. -/
structure Sound (limits : Limits) (roster : Roster) : Prop where
  balanced : roster.placement.Balanced
  capped : ∀ host, roster.placement.count host ≤ limits.maxPerHost
  bounded : roster.workers ≤ limits.target

variable {limits : Limits} {roster : Roster}

theorem hasEnough_eq_false : roster.hasEnough limits = false ↔ roster.workers < limits.target := by
  simp [hasEnough]

theorem isHostFull_eq_false {host : Host} :
    roster.isHostFull limits host = false ↔ roster.placement.count host < limits.maxPerHost := by
  simp [isHostFull, Placement.isFull]

theorem isHostFull_eq_true {host : Host} :
    roster.isHostFull limits host = true ↔ limits.maxPerHost ≤ roster.placement.count host := by
  simp [isHostFull, Placement.isFull]

@[simp] theorem workers_record (host : Host) :
    (roster.record host).workers = roster.workers + 1 := rfl

@[simp] theorem workers_answer : roster.answer.workers = roster.workers := rfl

@[simp] theorem placement_answer : roster.answer.placement = roster.placement := rfl

@[simp] theorem gate_record (host : Host) : (roster.record host).gate = roster.gate := rfl

@[simp] theorem outstanding_answer :
    roster.answer.gate.outstanding = roster.gate.outstanding - 1 := rfl

theorem sound_empty (limits : Limits) : Sound limits {} where
  balanced := Placement.balanced_empty
  capped _ := Nat.zero_le _
  bounded := Nat.zero_le _

theorem Sound.of_placement {next : Roster} (sound : roster.Sound limits)
    (placed : next.placement = roster.placement) : next.Sound limits := by
  refine ⟨?_, ?_, ?_⟩
  · rw [placed]
    exact sound.balanced
  · rw [placed]
    exact sound.capped
  · rw [workers, placed]
    exact sound.bounded

theorem Sound.answer (sound : roster.Sound limits) : roster.answer.Sound limits :=
  sound.of_placement rfl

theorem Sound.record (sound : roster.Sound limits) {host : Host}
    (wanted : roster.hasEnough limits = false) (room : roster.isHostFull limits host = false) :
    (roster.record host).Sound limits := by
  refine ⟨sound.balanced.add host, ?_, ?_⟩
  · intro other
    have below := isHostFull_eq_false.mp room
    have capped := sound.capped other
    simp only [Roster.record, Placement.count_add]
    split
    · rename_i same
      subst other
      omega
    · exact capped
  · exact hasEnough_eq_false.mp wanted

/-! ## Planning a round -/

theorem nextRound_planned {known : HostSet} {round : Round} {next : Roster}
    (planned : roster.nextRound limits known = .ok (some (round, next))) :
    roster.workers + round.needed = limits.target ∧ 0 < round.needed ∧
      round.hosts = roster.placement.candidates known.toList limits.maxPerHost ∧
      round.needed ≤ round.hosts.length * limits.maxPerHost ∧
      next = { roster with gate := ⟨round.needed, roster.gate.rounds + 1⟩ } := by
  simp only [nextRound] at planned
  split at planned
  · simp at planned
  · rename_i wanted
    have missing := hasEnough_eq_false.mp (Bool.not_eq_true _ ▸ wanted)
    split at planned
    · simp at planned
    · rename_i fits
      simp only [Except.ok.injEq, Option.some.injEq, Prod.mk.injEq] at planned
      obtain ⟨rfl, rfl⟩ := planned
      exact ⟨by simp only; omega, by simp only; omega, rfl, Nat.not_lt.mp fits, rfl⟩

theorem nextRound_refused {known : HostSet} {error : BringupError}
    (refused : roster.nextRound limits known = .error error) :
    (roster.placement.candidates known.toList limits.maxPerHost).length * limits.maxPerHost <
      limits.target - roster.workers := by
  simp only [nextRound] at refused
  split at refused
  · simp at refused
  · split at refused
    · assumption
    · simp at refused

theorem nextRound_ne_none {known : HostSet} (wanted : roster.hasEnough limits = false) :
    roster.nextRound limits known ≠ .ok none := by
  simp only [nextRound, wanted, Bool.false_eq_true, if_false]
  split
  · simp
  · simp

theorem hasEnough_of_nextRound {known : HostSet}
    (none : roster.nextRound limits known = .ok none) : roster.hasEnough limits = true := by
  by_contra wanted
  exact nextRound_ne_none (Bool.eq_false_iff.mpr wanted) none

theorem nextRound_isSome {known : HostSet} (wanted : roster.hasEnough limits = false)
    (fits : limits.target - roster.workers ≤
      (roster.placement.candidates known.toList limits.maxPerHost).length * limits.maxPerHost) :
    ∃ round next, roster.nextRound limits known = .ok (some (round, next)) := by
  simp [nextRound, wanted, Nat.not_lt.mpr fits]

theorem Sound.fits (sound : roster.Sound limits) {known : HostSet}
    (room : limits.target ≤ known.size * limits.maxPerHost) :
    limits.target - roster.workers ≤
      (roster.placement.candidates known.toList limits.maxPerHost).length * limits.maxPerHost :=
  sound.balanced.missing_le_candidates known.nodup room

theorem Sound.nextRound_short (sound : roster.Sound limits) {known : HostSet}
    (none : roster.workers = 0) (positive : 0 < limits.maxPerHost)
    (short : known.size * limits.maxPerHost < limits.target) :
    roster.nextRound limits known =
      .error (.capacityInsufficient limits.target known.size limits.maxPerHost) := by
  have wanted : roster.hasEnough limits = false := hasEnough_eq_false.mpr (by omega)
  have all : roster.placement.candidates known.toList limits.maxPerHost = known.toList := by
    apply List.filter_eq_self.mpr
    intro host member
    have least := sound.balanced.count_le host
    have empty : roster.placement.total = 0 := none
    simp only [Placement.isFull, Bool.not_eq_true', decide_eq_false_iff_not]
    omega
  simp only [nextRound, wanted, all, none, HostSet.size, Nat.sub_zero, Bool.false_eq_true, if_false]
  exact if_pos short

/-! ## Answering a round -/

def fullHosts (limits : Limits) (known : HostSet) (roster : Roster) : List Host :=
  roster.placement.fullHosts known.toList limits.maxPerHost

theorem Sound.mul_le_workers (sound : roster.Sound limits) {known : HostSet} {count : Nat}
    (full : count ≤ (roster.fullHosts limits known).length) :
    count * limits.maxPerHost ≤ roster.workers := by
  have used := sound.balanced.fullHosts_mul_le known.nodup limits.maxPerHost
  exact Nat.le_trans (Nat.mul_le_mul_right _ full) used

/-- A round that was planned as the `round`th and is being answered. Either no container was handed
back so far, or a host is full that had room when the round was planned. -/
structure Underway (limits : Limits) (known : HostSet) (hosts : List Host) (round : Nat)
    (roster : Roster) : Prop where
  sound : roster.Sound limits
  listed : ∀ host ∈ hosts, host ∈ known.toList
  owed : roster.workers + roster.gate.outstanding ≤ limits.target
  earlier : round ≤ (roster.fullHosts limits known).length + 1
  filled : ∀ host ∈ hosts, roster.isHostFull limits host = true →
    round ≤ (roster.fullHosts limits known).length
  short : roster.workers + roster.gate.outstanding < limits.target →
    round ≤ (roster.fullHosts limits known).length

theorem underway_planned {known : HostSet} {round : Round} {next : Roster} {index : Nat}
    (sound : roster.Sound limits)
    (planned : roster.nextRound limits known = .ok (some (round, next)))
    (earlier : index ≤ (roster.fullHosts limits known).length) :
    next.Underway limits known round.hosts (index + 1) := by
  obtain ⟨total, _, chosen, _, rfl⟩ := nextRound_planned planned
  refine ⟨sound.of_placement rfl, ?_, ?_, ?_, ?_, ?_⟩
  · intro host member
    rw [chosen] at member
    exact (Placement.mem_candidates.mp member).1
  · exact Nat.le_of_eq total
  · exact Nat.succ_le_succ earlier
  · intro host member full
    rw [chosen] at member
    have room := (Placement.mem_candidates.mp member).2
    have reached : limits.maxPerHost ≤ roster.placement.count host := isHostFull_eq_true.mp full
    omega
  · intro fewer
    exact absurd total (Nat.ne_of_lt fewer)

/-- What a container on one of the round's hosts does to the roster when its launch succeeds. -/
def place (limits : Limits) (host : Host) (roster : Roster) : Roster :=
  if roster.hasEnough limits || roster.isHostFull limits host then roster.answer
  else (roster.record host).answer

@[simp] theorem outstanding_place (host : Host) :
    (roster.place limits host).gate.outstanding = roster.gate.outstanding - 1 := by
  unfold place
  split <;> rfl

theorem Underway.place {known : HostSet} {hosts : List Host} {index : Nat} {host : Host}
    (underway : roster.Underway limits known hosts index) (member : host ∈ hosts)
    (open_ : 0 < roster.gate.outstanding) :
    (roster.place limits host).Underway limits known hosts index := by
  have wanted : roster.hasEnough limits = false :=
    hasEnough_eq_false.mpr (by have := underway.owed; omega)
  -- A host of the round that is full now had room when the round was planned.
  cases full : roster.isHostFull limits host with
  | true =>
      simp only [Roster.place, wanted, full, Bool.or_true, if_true]
      have grown := underway.filled host member full
      have owed := underway.owed
      refine ⟨underway.sound.answer, underway.listed, ?_, underway.earlier, underway.filled,
        fun _ => grown⟩
      simp only [workers_answer, outstanding_answer]
      omega
  | false =>
      simp only [Roster.place, wanted, full, Bool.or_false, Bool.false_eq_true, if_false]
      have owed := underway.owed
      have more : (roster.fullHosts limits known).length ≤
          ((roster.record host).fullHosts limits known).length :=
        roster.placement.fullHosts_add_le host known.toList limits.maxPerHost
      refine ⟨(underway.sound.record wanted full).answer, underway.listed, ?_,
        Nat.le_trans underway.earlier (Nat.succ_le_succ more), ?_, ?_⟩
      · simp only [workers_answer, workers_record, outstanding_answer, gate_record]
        omega
      · intro other among otherFull
        by_cases same : other = host
        · subst other
          have reached := isHostFull_eq_true.mp otherFull
          have grown := Placement.fullHosts_add_lt (underway.listed host member)
            (isHostFull_eq_false.mp full) reached
          exact Nat.le_trans underway.earlier grown
        · have before : roster.isHostFull limits other = true := by
            rw [isHostFull_eq_true] at otherFull ⊢
            simpa [Roster.record, Placement.count_add, Ne.symm same] using otherFull
          exact Nat.le_trans (underway.filled other among before) more
      · intro fewer
        simp only [workers_answer, workers_record, outstanding_answer, gate_record] at fewer
        exact Nat.le_trans (underway.short (by omega)) more

theorem Underway.drained {known : HostSet} {hosts : List Host} {index : Nat}
    (underway : roster.Underway limits known hosts index)
    (drained : roster.gate.isDrained = true) (wanted : roster.hasEnough limits = false) :
    index ≤ (roster.fullHosts limits known).length := by
  have none : roster.gate.outstanding = 0 := by simpa [RoundGate.isDrained] using drained
  exact underway.short (by rw [none]; exact hasEnough_eq_false.mp wanted)

end Muster.Roster
