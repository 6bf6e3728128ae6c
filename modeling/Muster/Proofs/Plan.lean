import Mathlib
import Muster.Coordinator.State

/-!
What the plan of a bring-up takes from its configuration.
-/

namespace Muster

variable {config : Config} {localHost : Host} {plan : BringupPlan}

theorem plan_of_config (valid : BringupPlan.ofConfig config localHost = .ok plan) :
    config.validate = .ok () ∧ RequestTemplate.ofConfig config = .ok plan.requests ∧
      LaunchTemplate.ofConfig config = .ok plan.launch ∧
      plan.limits = ⟨config.worker.count.toNat, config.worker.maxPerHost.toNat⟩ ∧
      plan.localHost = localHost := by
  simp only [BringupPlan.ofConfig, bind, Except.bind] at valid
  cases checked : config.validate with
  | error error => simp [checked, Except.mapError] at valid
  | ok =>
      simp only [checked, Except.mapError] at valid
      cases requests : RequestTemplate.ofConfig config with
      | error error => simp [requests] at valid
      | ok template =>
          simp only [requests] at valid
          cases launch : LaunchTemplate.ofConfig config with
          | error error => simp [launch] at valid
          | ok context =>
              simp only [launch, pure, Except.pure, Except.ok.injEq] at valid
              subst valid
              exact ⟨rfl, rfl, rfl, rfl, rfl⟩

theorem limits_of_config (valid : BringupPlan.ofConfig config localHost = .ok plan) :
    plan.limits = ⟨config.worker.count.toNat, config.worker.maxPerHost.toNat⟩ :=
  (plan_of_config valid).2.2.2.1

theorem maxPerHost_pos_of_config (valid : BringupPlan.ofConfig config localHost = .ok plan) :
    0 < plan.limits.maxPerHost := by
  rw [limits_of_config valid]
  have checked := (plan_of_config valid).1
  by_cases zero : config.worker.maxPerHost = 0
  · simp only [Config.validate, zero, if_true] at checked
    split at checked
    · simp at checked
    · split at checked
      · simp at checked
      · simp at checked
  · have positive : config.worker.maxPerHost.toNat ≠ 0 := by
      intro same
      exact zero (UInt32.toNat_inj.mp same)
    exact Nat.pos_of_ne_zero positive

theorem forMaster_of_config (valid : BringupPlan.ofConfig config localHost = .ok plan) :
    plan.requests.forMaster.placement = ⟨[config.master.host], config.relaxesMaster⟩ := by
  have made := (plan_of_config valid).2.1
  simp only [RequestTemplate.ofConfig, bind, Except.bind] at made
  split at made
  · simp at made
  · split at made
    · simp at made
    · simp only [pure, Except.pure, Except.ok.injEq] at made
      rw [← made]
      rfl

theorem launch_of_config (valid : BringupPlan.ofConfig config localHost = .ok plan) :
    plan.launch.envPrefix = config.launch.envPrefix ∧
      ∃ ramdiskMb, config.ramdiskMb = .ok ramdiskMb ∧
        plan.launch.ramdiskBytes = ramdiskMb * Size.megabyte := by
  have made := (plan_of_config valid).2.2.1
  simp only [LaunchTemplate.ofConfig, bind, Except.bind] at made
  split at made
  · simp at made
  · cases ramdisk : config.ramdiskMb with
    | error error => simp [ramdisk, Except.mapError] at made
    | ok ramdiskMb =>
        simp only [ramdisk, Except.mapError, pure, Except.pure, Except.ok.injEq] at made
        rw [← made]
        exact ⟨rfl, ramdiskMb, rfl, rfl⟩

theorem variableName_of_config (valid : BringupPlan.ofConfig config localHost = .ok plan)
    (name : String) :
    plan.launch.variableName name = config.launch.envPrefix ++ ("_" ++ name) := by
  rw [LaunchTemplate.variableName, (launch_of_config valid).1, String.append_assoc]

theorem workerMemory_of_config (valid : BringupPlan.ofConfig config localHost = .ok plan) :
    ∃ workerMb ramdiskMb, Config.megabytes config.worker.memory = .ok workerMb ∧
      config.ramdiskMb = .ok ramdiskMb ∧
      plan.requests.workerShape.memoryMb = .ofNat (workerMb + ramdiskMb) := by
  have made := (plan_of_config valid).2.1
  simp only [RequestTemplate.ofConfig, Config.workerShape, bind, Except.bind] at made
  cases memory : Config.megabytes config.worker.memory with
  | error error =>
      simp only [memory, Except.mapError] at made
      split at made <;> cases made
  | ok workerMb =>
      simp only [memory] at made
      cases ramdisk : config.ramdiskMb with
      | error error =>
          simp only [ramdisk, Except.mapError] at made
          split at made <;> cases made
      | ok ramdiskMb =>
          simp only [ramdisk, Except.mapError, pure, Except.pure] at made
          split at made
          · cases made
          · rw [← Except.ok.inj made]
            exact ⟨workerMb, ramdiskMb, rfl, rfl, rfl⟩

end Muster
