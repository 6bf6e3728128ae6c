import Mathlib
import Muster.Proofs.Plan
import Muster.Proofs.SizeText

/-!
The RAM disk that workers are told to build, next to the memory that their containers reserve for
it. The reservation is in whole megabytes. Its text has hundredths of a unit and is exact up to
`5120` megabytes; above that it can be larger than the reservation or smaller.
-/

namespace Muster

namespace Size

variable {mb : Nat}

theorem dvd_megabytes (few : mb ≤ stepLimit) :
    (formatUnit (mb * megabyte)).1.bytes ∣ mb * megabyte := by
  have fits : mb * megabyte ≤ stepLimit * ByteUnit.mega.bytes := Nat.mul_le_mul_right _ few
  rw [formatUnit_fst]
  split_ifs with small
  · exact Nat.dvd_mul_left_of_dvd (by decide) mb
  · exact Nat.dvd_mul_left _ mb

theorem gigabyte_dvd_unit (many : stepLimit < mb) :
    ByteUnit.giga.bytes ∣ (formatUnit (mb * megabyte)).1.bytes := by
  have exceeds : stepLimit * ByteUnit.mega.bytes < mb * megabyte :=
    Nat.mul_lt_mul_of_pos_right many (by decide)
  have larger : ¬mb * megabyte ≤ stepLimit * ByteUnit.kilo.bytes := by
    simp only [stepLimit, ByteUnit.bytes] at exceeds ⊢
    omega
  rw [formatUnit_fst, if_neg larger, if_neg (Nat.not_le_of_lt exceeds)]
  split_ifs <;> decide

/-- What is read where whole megabytes were written. -/
def readBack (mb : Nat) : Nat :=
  bytesOf ⟨hundredths (mb * megabyte), 2⟩ (formatUnit (mb * megabyte)).1

theorem representable_part {part : Nat} (small : mb < 2 ^ 44) (few : part < 32) :
    Rounding.Representable (mb * megabyte + part * 2 ^ 15) := by
  refine ⟨mb * 32 + part, 15, ?_, ?_⟩
  · rw [Rounding.precision]
    omega
  · simp only [megabyte, ByteUnit.bytes]
    omega

theorem representable_megabytes (small : mb < 2 ^ 53) :
    Rounding.Representable (mb * megabyte) :=
  ⟨mb, 20, small, rfl⟩

theorem fits_limit {part : Nat} (small : mb < 2 ^ 44) (few : part < 32) :
    mb * megabyte + part * 2 ^ 15 ≤ limit := by
  have bound : limit = 2 ^ 64 - 1 := rfl
  simp only [megabyte, ByteUnit.bytes]
  omega

theorem parse_format_megabytes (small : mb < 2 ^ 44) :
    parse (format (mb * megabyte)) = .ok (readBack mb) := by
  by_cases none : mb = 0
  · subst none
    rw [Nat.zero_mul, parse_format_of_le (Nat.zero_le _)]
    rfl
  · have exact : Rounding.significant (mb * megabyte) 1 = mb * megabyte :=
      Rounding.significant_of_representable (representable_megabytes (by omega))
    have many : stepLimit < mb * megabyte := by
      simp only [stepLimit, megabyte, ByteUnit.bytes]
      omega
    rw [parse_format_of_lt many, exact]
    rfl

theorem hundredths_of_dvd {value : Nat} (divides : (formatUnit value).1.bytes ∣ value) :
    hundredths value * (formatUnit value).1.bytes = value * 10 ^ 2 := by
  obtain ⟨count, same⟩ := divides
  have times : 100 * value = 100 * count * (formatUnit value).1.bytes := by
    conv_lhs => rw [same]
    ring
  rw [hundredths, times, Rounding.nearest_mul _ (unit_pos _), ← times]
  ring

theorem readBack_of_le (few : mb ≤ stepLimit) : readBack mb = mb * megabyte := by
  have small : mb < 2 ^ 44 := by
    simp only [stepLimit] at few
    omega
  have fits : mb * megabyte ≤ limit :=
    Nat.le_trans (Nat.le_add_right _ _) (fits_limit small (show 0 < 32 by decide))
  exact bytesOf_eq (representable_megabytes (by omega)) fits
    (hundredths_of_dvd (dvd_megabytes few))

theorem readBack_le_iff (small : mb < 2 ^ 44) :
    readBack mb ≤ mb * megabyte ↔
      hundredths (mb * megabyte) * (formatUnit (mb * megabyte)).1.bytes ≤
        100 * (mb * megabyte) := by
  constructor
  · intro within
    by_contra above
    have many : stepLimit < mb := by
      by_contra few
      have same := hundredths_of_dvd (dvd_megabytes (Nat.le_of_not_lt few))
      omega
    obtain ⟨giga, unit⟩ := gigabyte_dvd_unit many
    have more : mb * megabyte + 1 * 2 ^ 15 ≤ readBack mb := by
      refine le_bytesOf (representable_part small (by decide)) (fits_limit small (by decide)) ?_
      rw [unit] at above ⊢
      simp only [megabyte, ByteUnit.bytes] at above ⊢
      have whole : hundredths (mb * 1048576) * (1073741824 * giga) =
          1073741824 * (hundredths (mb * 1048576) * giga) := by ring
      rw [whole] at above ⊢
      omega
    omega
  · intro within
    have places : 100 * (mb * megabyte) = mb * megabyte * 10 ^ 2 := by ring
    rw [places] at within
    exact bytesOf_le (representable_megabytes (by omega)) within

theorem readBack_le (small : mb < 2 ^ 44) :
    128 * readBack mb ≤ 128 * (mb * megabyte) + (formatUnit (mb * megabyte)).1.bytes := by
  by_cases few : mb ≤ stepLimit
  · rw [readBack_of_le few]
    omega
  · obtain ⟨giga, unit⟩ := gigabyte_dvd_unit (Nat.lt_of_not_le few)
    have largest : (formatUnit (mb * megabyte)).1.bytes ≤ ByteUnit.peta.bytes := by
      cases (formatUnit (mb * megabyte)).1 <;> decide
    have rounded : 2 * (hundredths (mb * megabyte) * (formatUnit (mb * megabyte)).1.bytes) ≤
        2 * (100 * (mb * megabyte)) + (formatUnit (mb * megabyte)).1.bytes :=
      (Rounding.nearest_spec _ (unit_pos _)).1
    have sum : hundredths (mb * megabyte) * (formatUnit (mb * megabyte)).1.bytes ≤
        (mb + 8 * giga) * megabyte * 10 ^ 2 := by
      rw [unit] at rounded ⊢
      simp only [megabyte, ByteUnit.bytes] at rounded ⊢
      omega
    have small : mb + 8 * giga < 2 ^ 53 := by
      rw [unit] at largest
      simp only [ByteUnit.bytes] at largest
      omega
    have below : readBack mb ≤ (mb + 8 * giga) * megabyte :=
      bytesOf_le (representable_megabytes small) sum
    rw [unit]
    simp only [megabyte, ByteUnit.bytes] at below ⊢
    omega

end Size
/-! ## What is reserved and what is announced -/

variable {config : Config} {localHost : Host} {plan : BringupPlan} {size : String} {mb : Nat}

theorem Config.megabytes_lt (read : Config.megabytes size = .ok mb) : mb < 2 ^ 44 := by
  cases parsed : Size.parse size with
  | error error =>
      rw [Config.megabytes, parsed] at read
      cases read
  | ok bytes =>
      rw [Config.megabytes, parsed] at read
      have whole : bytes / Size.megabyte = mb := Except.ok.inj read
      have bound : bytes ≤ 2 ^ 64 - 1 := Size.parse_le_limit parsed
      simp only [Size.megabyte, Size.ByteUnit.bytes] at whole
      omega

/-- The bytes that the container of a worker reserves for its RAM disk, and the bytes that a worker
whose master is at `address` is told to build it with. -/
structure BringupPlan.Ramdisk (plan : BringupPlan) (config : Config) (address : String)
    (reserved announced : Nat) : Prop where
  reservation : ∃ workerMb ramdiskMb, Config.megabytes config.worker.memory = .ok workerMb ∧
    config.ramdiskMb = .ok ramdiskMb ∧ reserved = ramdiskMb * Size.megabyte ∧
      ∀ hosts, (plan.requests.forWorker hosts).shape.memoryMb.toNat = workerMb + ramdiskMb
  announcement : ∃ text, (plan.launch.forWorker address).environment.get?
      (config.launch.envPrefix ++ "_WORKER_MEMORY_SIZE") = some text ∧
    Size.parse text = .ok announced

theorem ramdisk_of_config (valid : BringupPlan.ofConfig config localHost = .ok plan)
    (read : config.ramdiskMb = .ok mb) (address : String) :
    plan.Ramdisk config address (mb * Size.megabyte) (Size.readBack mb) where
  reservation := by
    obtain ⟨workerMb, ramdiskMb, memory, ramdisk, shape⟩ := workerMemory_of_config valid
    obtain rfl := Except.ok.inj (ramdisk.symm.trans read)
    refine ⟨workerMb, ramdiskMb, memory, ramdisk, rfl, ?_⟩
    intro hosts
    have process := Config.megabytes_lt memory
    have disk := Config.megabytes_lt ramdisk
    have total := congrArg UInt64.toNat shape
    rwa [UInt64.toNat_ofNat_of_lt' (by simp only [UInt64.size]; omega)] at total
  announcement := by
    obtain ⟨_, ramdiskMb, ramdisk, bytes⟩ := launch_of_config valid
    obtain rfl := Except.ok.inj (ramdisk.symm.trans read)
    have name : plan.launch.variableName "WORKER_MEMORY_SIZE" =
        config.launch.envPrefix ++ "_WORKER_MEMORY_SIZE" :=
      variableName_of_config valid "WORKER_MEMORY_SIZE"
    refine ⟨Size.format (ramdiskMb * Size.megabyte), ?_,
      Size.parse_format_megabytes (Config.megabytes_lt ramdisk)⟩
    rw [← name, ← bytes, LaunchTemplate.forWorker, Dict.get?_insert, if_pos rfl]

/-- Workers are told to build a RAM disk of what is reserved for it when that is at most `5120`
megabytes. Above, it is announced in hundredths of its unit, and then it is within the reservation
exactly when these were rounded down or not at all. It is never larger by more than a hundredth of
the unit. -/
theorem ramdisk_announced (valid : BringupPlan.ofConfig config localHost = .ok plan)
    (address : String) :
    ∃ reserved announced, plan.Ramdisk config address reserved announced ∧
      (announced ≤ reserved ↔
        Size.hundredths reserved * (Size.formatUnit reserved).1.bytes ≤ 100 * reserved) ∧
      (reserved ≤ 5120 * Size.megabyte → announced = reserved) ∧
      128 * announced ≤ 128 * reserved + (Size.formatUnit reserved).1.bytes := by
  obtain ⟨_, mb, read, _⟩ := launch_of_config valid
  have small : mb < 2 ^ 44 := Config.megabytes_lt read
  refine ⟨mb * Size.megabyte, Size.readBack mb, ramdisk_of_config valid read address,
    Size.readBack_le_iff small, ?_, Size.readBack_le small⟩
  intro few
  exact Size.readBack_of_le (Nat.le_of_mul_le_mul_right few (by decide))

def diskConfig (ramdisk : String) : Config where
  worker := { ramdiskMemory := ramdisk }
  resources := { path := "/srv/app" }

def diskPlan (ramdiskMb : Nat) : BringupPlan where
  limits := ⟨1, 1⟩
  requests := ⟨⟨1024, 1⟩, ⟨.ofNat (1024 + ramdiskMb), 1⟩, "localhost", true⟩
  launch := ⟨"/srv/app", "app.tar.gz", "app-yarn-setup.sh", "APP", "<LOG_DIR>",
    ramdiskMb * Size.megabyte⟩
  localHost := "am"

theorem ramdisk_announced_smaller :
    BringupPlan.ofConfig (diskConfig "5121MB") "am" = .ok (diskPlan 5121) ∧
      ∃ reserved announced, (diskPlan 5121).Ramdisk (diskConfig "5121MB") "m" reserved announced ∧
        reserved = 5369757696 ∧ announced ≤ reserved := by
  have valid : BringupPlan.ofConfig (diskConfig "5121MB") "am" = .ok (diskPlan 5121) := by
    decide +kernel
  have read : (diskConfig "5121MB").ramdiskMb = .ok 5121 := by decide +kernel
  obtain ⟨reserved, announced, ramdisk, within, _⟩ := ramdisk_announced valid "m"
  obtain ⟨_, mb, _, ramdiskMb, rfl, _⟩ := ramdisk.reservation
  obtain rfl : mb = 5121 := Except.ok.inj (ramdiskMb.symm.trans read)
  exact ⟨valid, _, announced, ramdisk, rfl, within.mpr (by decide +kernel)⟩

theorem ramdisk_announced_larger :
    BringupPlan.ofConfig (diskConfig "5126MB") "am" = .ok (diskPlan 5126) ∧
      ((diskPlan 5126).launch.forWorker "m").environment.get? "APP_WORKER_MEMORY_SIZE" =
        some "5.01GB" ∧
      (diskPlan 5126).Ramdisk (diskConfig "5126MB") "m" 5375000576 5379446538 ∧
      5375000576 < 5379446538 := by
  have valid : BringupPlan.ofConfig (diskConfig "5126MB") "am" = .ok (diskPlan 5126) := by
    decide +kernel
  have read : (diskConfig "5126MB").ramdiskMb = .ok 5126 := by decide +kernel
  have back : Size.readBack 5126 = 5379446538 := by decide +kernel
  exact ⟨valid, by decide +kernel, back ▸ ramdisk_of_config valid read "m", by decide⟩

end Muster
