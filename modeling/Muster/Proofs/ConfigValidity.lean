import Mathlib
import Muster.Proofs.Ramdisk

/-!
What the validation of a configuration is worth. A configuration that passes it can be planned, and
every request made from it, unless its directory of files is blank: the sizes that were read once
are read again with the same result, and none of the sums and products made of them is too large
for a machine word.
-/

namespace Muster

variable {config : Config} {localHost : Host} {error : ConfigError} {size : String}
  {bytes mb master process ramdisk : Nat}

/-- Between the white space at its ends the path has nothing but slashes, if anything. -/
def ResourcesConfig.IsBlank (resources : ResourcesConfig) : Prop :=
  ∀ c ∈ Text.trimChars resources.path.toList, c = '/'

instance (resources : ResourcesConfig) : Decidable resources.IsBlank :=
  decidable_of_iff ((Text.trimChars resources.path.toList).all (· == '/') = true)
    (by simp [ResourcesConfig.IsBlank])

theorem isEmpty_barePath_iff (resources : ResourcesConfig) :
    (LaunchTemplate.barePath resources.path).isEmpty = true ↔ resources.IsBlank := by
  have slashes (cs : List Char) : Text.dropEnd (· == '/') cs = [] ↔ ∀ c ∈ cs, c = '/' := by
    simp [Text.dropEnd]
  rw [LaunchTemplate.barePath, String.isEmpty_iff, String.ofList_eq_empty_iff, slashes,
    ResourcesConfig.IsBlank]

/-! ## The sizes of a configuration -/

structure Config.Sizes (config : Config) (master process ramdisk : Nat) : Prop where
  master : Size.parse config.master.memory = .ok master
  process : Size.parse config.worker.memory = .ok process
  ramdisk : Size.parse config.worker.ramdiskMemory = .ok ramdisk

namespace Config

theorem megabytes_of_parse (read : Size.parse size = .ok bytes) :
    megabytes size = .ok (bytes / Size.megabyte) := by
  rw [megabytes, read]
  rfl

theorem exists_parse_of_megabytes (read : megabytes size = .ok mb) :
    ∃ bytes, Size.parse size = .ok bytes := by
  cases parsed : Size.parse size with
  | error error =>
      rw [megabytes, parsed] at read
      cases read
  | ok bytes => exact ⟨bytes, rfl⟩

theorem exists_sizes_of_shapes {shape other : ResourceShape}
    (first : config.masterShape = .ok shape) (second : config.workerShape = .ok other) :
    ∃ master process ramdisk, config.Sizes master process ramdisk := by
  simp only [masterShape, bind, Except.bind] at first
  simp only [workerShape, bind, Except.bind] at second
  split at first
  · cases first
  · rename_i masterMb memory
    split at second
    · cases second
    · rename_i processMb process
      split at second
      · cases second
      · rename_i ramdiskMb ramdisk
        obtain ⟨master, masterRead⟩ := exists_parse_of_megabytes memory
        obtain ⟨process, processRead⟩ := exists_parse_of_megabytes process
        obtain ⟨ramdisk, ramdiskRead⟩ := exists_parse_of_megabytes ramdisk
        exact ⟨master, process, ramdisk, masterRead, processRead, ramdiskRead⟩

theorem exists_sizes_of_validate (valid : config.validate = .ok ()) :
    ∃ master process ramdisk, config.Sizes master process ramdisk := by
  simp only [validate] at valid
  split_ifs at valid
  simp only [bind, Except.bind] at valid
  split at valid
  · cases valid
  · rename_i shape first
    split at valid
    · cases valid
    · rename_i other second
      exact exists_sizes_of_shapes first second

namespace Sizes

theorem lt (sizes : config.Sizes master process ramdisk) :
    master / Size.megabyte < 2 ^ 44 ∧ process / Size.megabyte < 2 ^ 44 ∧
      ramdisk / Size.megabyte < 2 ^ 44 :=
  ⟨megabytes_lt (megabytes_of_parse sizes.master),
    megabytes_lt (megabytes_of_parse sizes.process),
    megabytes_lt (megabytes_of_parse sizes.ramdisk)⟩

theorem masterShape (sizes : config.Sizes master process ramdisk) :
    config.masterShape = .ok ⟨.ofNat (master / Size.megabyte), config.master.cpu⟩ := by
  rw [Config.masterShape, megabytes_of_parse sizes.master]
  rfl

theorem ramdiskMb (sizes : config.Sizes master process ramdisk) :
    config.ramdiskMb = .ok (ramdisk / Size.megabyte) :=
  megabytes_of_parse sizes.ramdisk

theorem workerShape (sizes : config.Sizes master process ramdisk) :
    config.workerShape =
      .ok ⟨.ofNat (process / Size.megabyte + ramdisk / Size.megabyte), config.worker.cpu⟩ := by
  rw [Config.workerShape, megabytes_of_parse sizes.process, sizes.ramdiskMb]
  rfl

theorem requests (sizes : config.Sizes master process ramdisk) :
    RequestTemplate.ofConfig config = .ok {
      masterShape := ⟨.ofNat (master / Size.megabyte), config.master.cpu⟩
      workerShape :=
        ⟨.ofNat (process / Size.megabyte + ramdisk / Size.megabyte), config.worker.cpu⟩
      masterHost := config.master.host
      relaxesMaster := config.relaxesMaster } := by
  rw [RequestTemplate.ofConfig, sizes.masterShape, sizes.workerShape]
  rfl

theorem launch (sizes : config.Sizes master process ramdisk) (path : ¬config.resources.IsBlank) :
    ∃ template, LaunchTemplate.ofConfig config = .ok template ∧
      template.ramdiskBytes = ramdisk / Size.megabyte * Size.megabyte := by
  rw [← isEmpty_barePath_iff] at path
  rw [LaunchTemplate.ofConfig, if_neg path, sizes.ramdiskMb]
  exact ⟨_, rfl, rfl⟩

end Sizes

end Config

theorem launch_of_blank (blank : config.resources.IsBlank) :
    LaunchTemplate.ofConfig config = .error .resourcePathUnset := by
  rw [LaunchTemplate.ofConfig, if_pos ((isEmpty_barePath_iff _).mpr blank)]

theorem plan_of_invalid (invalid : config.validate = .error error) :
    BringupPlan.ofConfig config localHost = .error (.config error) := by
  rw [BringupPlan.ofConfig, invalid]
  rfl

theorem plan_of_blank (valid : config.validate = .ok ()) (blank : config.resources.IsBlank) :
    BringupPlan.ofConfig config localHost = .error .resourcePathUnset := by
  obtain ⟨_, _, _, sizes⟩ := Config.exists_sizes_of_validate valid
  rw [BringupPlan.ofConfig, valid, sizes.requests, launch_of_blank blank]
  rfl

theorem exists_plan (valid : config.validate = .ok ()) (path : ¬config.resources.IsBlank) :
    ∃ plan, BringupPlan.ofConfig config localHost = .ok plan := by
  obtain ⟨_, _, _, sizes⟩ := Config.exists_sizes_of_validate valid
  obtain ⟨launch, made, _⟩ := sizes.launch path
  rw [BringupPlan.ofConfig, valid, sizes.requests, made]
  exact ⟨_, rfl⟩

/-! ## What a valid configuration provides -/

/-- What is made of a configuration whose sizes are these many bytes: shapes, requests and the
reservation of the RAM disk without fail, and the template of launches unless the directory is
blank. The sums and products are those of unbounded numbers. -/
structure Config.Provides (config : Config) (master process ramdisk : Nat) : Prop where
  sizes : config.Sizes master process ramdisk
  masterShape : ∃ shape, config.masterShape = .ok shape ∧
    shape.memoryMb.toNat = master / Size.megabyte ∧ shape.memoryMb.toNat < 2 ^ 45
  workerShape : ∃ shape, config.workerShape = .ok shape ∧
    shape.memoryMb.toNat = process / Size.megabyte + ramdisk / Size.megabyte ∧
      shape.memoryMb.toNat < 2 ^ 45
  requests : ∃ template, RequestTemplate.ofConfig config = .ok template ∧
    config.masterShape = .ok template.forMaster.shape ∧
      ∀ hosts, config.workerShape = .ok (template.forWorker hosts).shape
  ramdiskMb : ∃ mb, config.ramdiskMb = .ok mb ∧ mb * Size.megabyte < UInt64.size ∧
    mb * Size.megabyte ≤ ramdisk
  launch : ¬config.resources.IsBlank → ∃ template mb,
    LaunchTemplate.ofConfig config = .ok template ∧ config.ramdiskMb = .ok mb ∧
      template.ramdiskBytes = mb * Size.megabyte

theorem toNat_megabytes (few : mb < 2 ^ 45) : (UInt64.ofNat mb).toNat = mb :=
  UInt64.toNat_ofNat_of_lt' (Nat.lt_trans few (by decide))

theorem Config.Sizes.provides (sizes : config.Sizes master process ramdisk) :
    config.Provides master process ramdisk := by
  obtain ⟨first, second, third⟩ := sizes.lt
  have sum : process / Size.megabyte + ramdisk / Size.megabyte < 2 ^ 45 := by omega
  have whole : ramdisk / Size.megabyte * Size.megabyte ≤ ramdisk := Nat.div_mul_le_self _ _
  have fits : ramdisk / Size.megabyte * Size.megabyte < UInt64.size := by
    simp only [Size.megabyte, Size.ByteUnit.bytes, UInt64.size] at third ⊢
    omega
  refine ⟨sizes, ⟨_, sizes.masterShape, ?_⟩, ⟨_, sizes.workerShape, ?_⟩,
    ⟨_, sizes.requests, sizes.masterShape, fun _ => sizes.workerShape⟩,
    ⟨_, sizes.ramdiskMb, fits, whole⟩, ?_⟩
  · rw [toNat_megabytes (by omega)]
    exact ⟨rfl, by omega⟩
  · rw [toNat_megabytes sum]
    exact ⟨rfl, sum⟩
  · intro path
    obtain ⟨template, made, disk⟩ := sizes.launch path
    exact ⟨template, _, made, sizes.ramdiskMb, disk⟩

/-- A configuration is planned exactly when it is valid and its directory is not blank. What is
wrong with an invalid one is reported even when the directory is blank too. Nothing else can fail:
a valid configuration has sizes that everything is made from, none of it too large. -/
theorem planned_unless_blank (config : Config) (localHost : Host) :
    ((∃ plan, BringupPlan.ofConfig config localHost = .ok plan) ↔
      config.validate = .ok () ∧ ¬config.resources.IsBlank) ∧
    (∀ error, config.validate = .error error →
      BringupPlan.ofConfig config localHost = .error (.config error)) ∧
    (config.validate = .ok () → config.resources.IsBlank →
      BringupPlan.ofConfig config localHost = .error .resourcePathUnset) ∧
    (config.validate = .ok () →
      ∃ master process ramdisk, config.Provides master process ramdisk) := by
  refine ⟨⟨?_, ?_⟩, fun _ => plan_of_invalid, plan_of_blank, ?_⟩
  · rintro ⟨plan, made⟩
    have valid := (plan_of_config made).1
    refine ⟨valid, ?_⟩
    intro blank
    rw [plan_of_blank valid blank] at made
    cases made
  · rintro ⟨valid, path⟩
    exact exists_plan valid path
  · intro valid
    obtain ⟨master, process, ramdisk, sizes⟩ := Config.exists_sizes_of_validate valid
    exact ⟨master, process, ramdisk, sizes.provides⟩

def greedyConfig (path : String) : Config where
  worker := { memory := "16384PB", ramdiskMemory := "9999999.9 pb" }
  resources := { path }

theorem planned_unless_blank_greedy :
    (∃ plan, BringupPlan.ofConfig (greedyConfig " /srv// ") "am" = .ok plan) ∧
      BringupPlan.ofConfig { greedyConfig " // " with master := { cpu := 0 } } "am" =
        .error (.config (.invalid .cpuZero)) ∧
      BringupPlan.ofConfig (greedyConfig " // ") "am" = .error .resourcePathUnset ∧
      ∃ shape, (greedyConfig " // ").workerShape = .ok shape ∧
        shape.memoryMb.toNat = 2 ^ 45 - 2 := by
  have valid (path : String) : (greedyConfig path).validate = .ok () := by
    have same : (greedyConfig path).validate = (greedyConfig "").validate := rfl
    rw [same]
    decide +kernel
  have read : (greedyConfig " // ").Sizes 1073741824 18446744073709551615 18446744073709551615 :=
    ⟨by decide +kernel, by decide +kernel, by decide +kernel⟩
  refine ⟨(planned_unless_blank _ "am").1.mpr ⟨valid _, by decide +kernel⟩,
    (planned_unless_blank _ "am").2.1 _ (by decide +kernel),
    (planned_unless_blank _ "am").2.2.1 (valid _) (by decide +kernel), ?_⟩
  obtain ⟨_, process, ramdisk, provides⟩ := (planned_unless_blank _ "am").2.2.2 (valid " // ")
  obtain ⟨shape, made, memory, _⟩ := provides.workerShape
  obtain rfl := Except.ok.inj (provides.sizes.process.symm.trans read.process)
  obtain rfl := Except.ok.inj (provides.sizes.ramdisk.symm.trans read.ramdisk)
  exact ⟨shape, made, memory⟩

end Muster
