import Mathlib
import Muster.Proofs.JsonRecords

/-!
Records survive being written as JSON and read again, and whatever is read as a record is written in
one form. A configuration that is read has every setting that is given, and the defaults of those
that are not.
-/

namespace Muster

open Json

/-! ## Configurations -/

structure Place where
  index : Nat
  part : String
  position : Nat
  name : String

def Json.setting? (json : Json) (place : Place) : Option Json :=
  (json.part? place.index place.part).bind (part? place.position place.name)

def MasterConfig.SpelledBy (master : MasterConfig) : Json → Prop :=
  let default : MasterConfig := {}
  HasSettings [("host", OrDefault IsText default.host master.host),
    ("cpu", OrDefault IsCount default.cpu master.cpu),
    ("memory", OrDefault IsText default.memory master.memory)]

def WorkerConfig.SpelledBy (worker : WorkerConfig) : Json → Prop :=
  let default : WorkerConfig := {}
  HasSettings [("count", OrDefault IsCount default.count worker.count),
    ("cpu", OrDefault IsCount default.cpu worker.cpu),
    ("memory", OrDefault IsText default.memory worker.memory),
    ("ramdisk_memory", OrDefault IsText default.ramdiskMemory worker.ramdiskMemory),
    ("max_per_host", OrDefault IsCount default.maxPerHost worker.maxPerHost)]

def ResourcesConfig.SpelledBy (resources : ResourcesConfig) : Json → Prop :=
  let default : ResourcesConfig := {}
  HasSettings [("path", OrDefault IsText default.path resources.path),
    ("tarball", OrDefault IsText default.tarball resources.tarball),
    ("setup_script", OrDefault IsText default.setupScript resources.setupScript)]

def LaunchConfig.SpelledBy (launch : LaunchConfig) : Json → Prop :=
  let default : LaunchConfig := {}
  HasSettings [("env_prefix", OrDefault IsText default.envPrefix launch.envPrefix),
    ("log_dir", OrDefault IsText default.logDir launch.logDir)]

def Config.SpelledBy (config : Config) : Json → Prop :=
  HasSettings [("master", OrDefault MasterConfig.SpelledBy {} config.master),
    ("worker", OrDefault WorkerConfig.SpelledBy {} config.worker),
    ("resources", OrDefault ResourcesConfig.SpelledBy {} config.resources),
    ("launch", OrDefault LaunchConfig.SpelledBy {} config.launch)]

namespace Config

theorem text_orDefault {default value : String} {given : Option Json} :
    FieldSource.optional jsonSource.text? default given = some value ↔
      OrDefault IsText default value given :=
  optional_eq_some_iff text?_eq_some_iff

theorem count_orDefault {default value : UInt32} {given : Option Json} :
    FieldSource.optional jsonSource.count? default given = some value ↔
      OrDefault IsCount default value given :=
  optional_eq_some_iff uint32?_eq_some_iff

theorem master?_eq_some_iff {master : MasterConfig} {json : Json} :
    jsonSource.master? json = some master ↔ master.SpelledBy json := by
  unfold FieldSource.master? MasterConfig.SpelledBy
  refine settings?_bind_iff rfl fun values sized => ?_
  obtain ⟨host, cpu, memory, rfl⟩ := List.length_eq_three.mp sized
  cases master
  simp [Option.bind_eq_some_iff, text_orDefault, count_orDefault]

theorem worker?_eq_some_iff {worker : WorkerConfig} {json : Json} :
    jsonSource.worker? json = some worker ↔ worker.SpelledBy json := by
  unfold FieldSource.worker? WorkerConfig.SpelledBy
  refine settings?_bind_iff rfl fun values sized => ?_
  obtain ⟨count, cpu, memory, ramdiskMemory, maxPerHost, rfl⟩ := exists_five sized
  cases worker
  simp [Option.bind_eq_some_iff, text_orDefault, count_orDefault]

theorem resources?_eq_some_iff {resources : ResourcesConfig} {json : Json} :
    jsonSource.resources? json = some resources ↔ resources.SpelledBy json := by
  unfold FieldSource.resources? ResourcesConfig.SpelledBy
  refine settings?_bind_iff rfl fun values sized => ?_
  obtain ⟨path, tarball, setupScript, rfl⟩ := List.length_eq_three.mp sized
  cases resources
  simp [Option.bind_eq_some_iff, text_orDefault]

theorem launch?_eq_some_iff {launch : LaunchConfig} {json : Json} :
    jsonSource.launch? json = some launch ↔ launch.SpelledBy json := by
  unfold FieldSource.launch? LaunchConfig.SpelledBy
  refine settings?_bind_iff rfl fun values sized => ?_
  obtain ⟨envPrefix, logDir, rfl⟩ := List.length_eq_two.mp sized
  cases launch
  simp [Option.bind_eq_some_iff, text_orDefault]

theorem ofJson?_eq_some_iff {config : Config} {json : Json} :
    ofJson? json = some config ↔ config.SpelledBy json := by
  unfold ofJson? FieldSource.config? SpelledBy
  refine settings?_bind_iff rfl fun values sized => ?_
  obtain ⟨master, worker, resources, launch, rfl⟩ := exists_four sized
  cases config
  simp [Option.bind_eq_some_iff, optional_eq_some_iff master?_eq_some_iff,
    optional_eq_some_iff worker?_eq_some_iff, optional_eq_some_iff resources?_eq_some_iff,
    optional_eq_some_iff launch?_eq_some_iff]

theorem spelledBy_toJson (config : Config) : config.SpelledBy config.toJson := by
  refine hasSettings_object rfl (by simp) ?_
  simp only [List.forall₂_cons, List.Forall₂.nil, and_true]
  refine ⟨?_, ?_, ?_, ?_⟩
  all_goals
    refine hasSettings_object rfl (by simp) ?_
    simp [OrDefault, IsText, IsCount, IsInteger]

def placesIn (index : Nat) (part : String) (names : List String) : List Place :=
  names.mapIdx fun position name => ⟨index, part, position, name⟩

def places : List Place :=
  placesIn 0 "master" ["host", "cpu", "memory"] ++
    placesIn 1 "worker" ["count", "cpu", "memory", "ramdisk_memory", "max_per_host"] ++
      placesIn 2 "resources" ["path", "tarball", "setup_script"] ++
        placesIn 3 "launch" ["env_prefix", "log_dir"]

/-- Each setting is the one that is given, or the default if none is, whatever the others are. -/
def Completes (config : Config) (json : Json) : Prop :=
  ∀ place ∈ places, config.toJson.setting? place =
    (json.setting? place).or ((toJson {}).setting? place)

section

variable {α β : Type} {SpelledBy : α → Json → Prop} {default value : α} {given : Option Json}
  {position : Nat} {name : String}

theorem or_of_section (encode : β → Json) (get : α → β)
    (spelled : OrDefault SpelledBy default value given)
    (each : ∀ json, SpelledBy value json → OrDefault (fun field json => json = encode field)
      (get default) (get value) (json.part? position name)) :
    some (encode (get value)) =
      (given.bind (part? position name)).or (some (encode (get default))) := by
  cases given with
  | none => rw [spelled.symm, Option.bind_none, Option.none_or]
  | some json =>
      have field := each json spelled
      rw [Option.bind_some]
      cases found : json.part? position name with
      | none =>
          rw [found] at field
          rw [field.symm, Option.none_or]
      | some item =>
          rw [found] at field
          rw [field, Option.some_or]

theorem text_of_section (get : α → String) (spelled : OrDefault SpelledBy default value given)
    (each : ∀ json, SpelledBy value json →
      OrDefault IsText (get default) (get value) (json.part? position name)) :
    some (string (get value)) =
      (given.bind (part? position name)).or (some (string (get default))) :=
  or_of_section string get spelled each

theorem count_of_section (get : α → UInt32) (spelled : OrDefault SpelledBy default value given)
    (each : ∀ json, SpelledBy value json →
      OrDefault IsCount (get default) (get value) (json.part? position name)) :
    some (integer (get value).toNat) =
      (given.bind (part? position name)).or (some (integer (get default).toNat)) :=
  or_of_section (fun count : UInt32 => integer (count.toNat : Int)) get spelled each

end

theorem completes_of_spelled {config : Config} {json : Json} (spelled : config.SpelledBy json) :
    config.Completes json := by
  obtain ⟨-, each⟩ := spelled
  simp only [Completes, places, placesIn, List.mapIdx_cons, List.mapIdx_nil,
    List.forall_mem_append, List.forall_mem_cons, List.not_mem_nil, false_imp_iff, implies_true,
    and_true]
  refine ⟨⟨⟨⟨?_, ?_, ?_⟩, ?_, ?_, ?_, ?_, ?_⟩, ?_, ?_, ?_⟩, ?_, ?_⟩
  · exact text_of_section MasterConfig.host (each 0 _ rfl) fun _ read => read.2 0 _ rfl
  · exact count_of_section MasterConfig.cpu (each 0 _ rfl) fun _ read => read.2 1 _ rfl
  · exact text_of_section MasterConfig.memory (each 0 _ rfl) fun _ read => read.2 2 _ rfl
  · exact count_of_section WorkerConfig.count (each 1 _ rfl) fun _ read => read.2 0 _ rfl
  · exact count_of_section WorkerConfig.cpu (each 1 _ rfl) fun _ read => read.2 1 _ rfl
  · exact text_of_section WorkerConfig.memory (each 1 _ rfl) fun _ read => read.2 2 _ rfl
  · exact text_of_section WorkerConfig.ramdiskMemory (each 1 _ rfl) fun _ read => read.2 3 _ rfl
  · exact count_of_section WorkerConfig.maxPerHost (each 1 _ rfl) fun _ read => read.2 4 _ rfl
  · exact text_of_section ResourcesConfig.path (each 2 _ rfl) fun _ read => read.2 0 _ rfl
  · exact text_of_section ResourcesConfig.tarball (each 2 _ rfl) fun _ read => read.2 1 _ rfl
  · exact text_of_section ResourcesConfig.setupScript (each 2 _ rfl) fun _ read => read.2 2 _ rfl
  · exact text_of_section LaunchConfig.envPrefix (each 3 _ rfl) fun _ read => read.2 0 _ rfl
  · exact text_of_section LaunchConfig.logDir (each 3 _ rfl) fun _ read => read.2 1 _ rfl

end Config

/-! ## The round trip -/

/-- What is written is read as it was, the values that are read are those of a description, and
each of them is written in a form that is read as the same and written as it is. -/
structure Faithful {α : Type} (toJson : α → Json) (ofJson? : Json → Option α)
    (SpelledBy : α → Json → Prop) : Prop where
  survives : ∀ value, ofJson? (toJson value) = some value
  reads_iff : ∀ {json value}, ofJson? json = some value ↔ SpelledBy value json
  settles : ∀ {json canonical}, (ofJson? json).map toJson = some canonical →
    ofJson? canonical = ofJson? json ∧ (ofJson? canonical).map toJson = some canonical

theorem faithful_of_spelled {α : Type} {toJson : α → Json} {ofJson? : Json → Option α}
    {SpelledBy : α → Json → Prop} (spelled : ∀ value, SpelledBy value (toJson value))
    (reads : ∀ {value json}, ofJson? json = some value ↔ SpelledBy value json) :
    Faithful toJson ofJson? SpelledBy := by
  have survives (value : α) : ofJson? (toJson value) = some value := reads.mpr (spelled value)
  refine ⟨survives, reads, ?_⟩
  intro json canonical written
  obtain ⟨value, read, rfl⟩ := Option.map_eq_some_iff.mp written
  rw [survives, read]
  exact ⟨rfl, rfl⟩

/-- Every type of records survives being written and read, accepts the spellings that are described
for it and no others, and writes whatever it accepts in one form. A configuration takes each setting
from what it is read from, or else from the defaults. In an object neither the order of the members
nor an unknown one makes a difference. -/
theorem records_survive_encoding :
    Faithful Role.toJson Role.ofJson? Role.SpelledBy ∧
    Faithful Priority.toJson Priority.ofJson? Priority.SpelledBy ∧
    Faithful ResourceShape.toJson ResourceShape.ofJson? ResourceShape.SpelledBy ∧
    Faithful PlacementConstraint.toJson PlacementConstraint.ofJson?
      PlacementConstraint.SpelledBy ∧
    Faithful ContainerRequest.toJson ContainerRequest.ofJson? ContainerRequest.SpelledBy ∧
    Faithful ContainerId.toJson ContainerId.ofJson? ContainerId.SpelledBy ∧
    Faithful Container.toJson Container.ofJson? Container.SpelledBy ∧
    Faithful ExitStatus.toJson ExitStatus.ofJson? ExitStatus.SpelledBy ∧
    Faithful ContainerStatus.toJson ContainerStatus.ofJson? ContainerStatus.SpelledBy ∧
    Faithful NodeReport.toJson NodeReport.ofJson? NodeReport.SpelledBy ∧
    Faithful FinalStatus.toJson FinalStatus.ofJson? FinalStatus.SpelledBy ∧
    Faithful LocalResource.toJson LocalResource.ofJson? LocalResource.SpelledBy ∧
    Faithful LaunchContext.toJson LaunchContext.ofJson? LaunchContext.SpelledBy ∧
    Faithful Config.toJson Config.ofJson? Config.SpelledBy ∧
    (∀ {json config}, Config.ofJson? json = some config → config.Completes json) ∧
    (∀ {settings members others}, (members.map Prod.fst).Nodup → (others.map Prod.fst).Nodup →
      (∀ setting ∈ settings, ∀ item,
        (setting.1, item) ∈ members ↔ (setting.1, item) ∈ others) →
      ((object members).HasSettings settings ↔ (object others).HasSettings settings)) := by
  refine ⟨?_, ?_, ?_, ?_, ?_, ?_, ?_, ?_, ?_, ?_, ?_, ?_, ?_, ?_, ?_, ?_⟩
  · exact faithful_of_spelled Role.spelledBy_toJson Role.ofJson?_eq_some_iff
  · exact faithful_of_spelled (fun _ => rfl) Priority.ofJson?_eq_some_iff
  · exact faithful_of_spelled ResourceShape.spelledBy_toJson ResourceShape.ofJson?_eq_some_iff
  · exact faithful_of_spelled PlacementConstraint.spelledBy_toJson
      PlacementConstraint.ofJson?_eq_some_iff
  · exact faithful_of_spelled ContainerRequest.spelledBy_toJson
      ContainerRequest.ofJson?_eq_some_iff
  · exact faithful_of_spelled (fun _ => rfl) ContainerId.ofJson?_eq_some_iff
  · exact faithful_of_spelled Container.spelledBy_toJson Container.ofJson?_eq_some_iff
  · exact faithful_of_spelled (fun _ => rfl) ExitStatus.ofJson?_eq_some_iff
  · exact faithful_of_spelled ContainerStatus.spelledBy_toJson ContainerStatus.ofJson?_eq_some_iff
  · exact faithful_of_spelled NodeReport.spelledBy_toJson NodeReport.ofJson?_eq_some_iff
  · exact faithful_of_spelled FinalStatus.spelledBy_toJson FinalStatus.ofJson?_eq_some_iff
  · exact faithful_of_spelled LocalResource.spelledBy_toJson LocalResource.ofJson?_eq_some_iff
  · exact faithful_of_spelled LaunchContext.spelledBy_toJson LaunchContext.ofJson?_eq_some_iff
  · exact faithful_of_spelled Config.spelledBy_toJson Config.ofJson?_eq_some_iff
  · intro json config read
    exact Config.completes_of_spelled (Config.ofJson?_eq_some_iff.mp read)
  · exact hasSettings_congr

def mixedRequest : Json :=
  array [object [("master", null)], array [integer 1024, integer 2],
    object [("color", real), ("relax_locality", bool true), ("hosts", array [string "h1"])],
    array [], integer 0]

def sparseConfig : Json :=
  object [("launch", array [string "X"]), ("color", real),
    ("worker", object [("max_per_host", integer 2), ("cpu", integer 4)])]

theorem records_survive_encoding_mixed :
    let request : ContainerRequest := ⟨.master, ⟨1024, 2⟩, ⟨["h1"], true⟩, [], ⟨0⟩⟩
    let config : Config :=
      { worker := { cpu := 4, maxPerHost := 2 }, launch := { envPrefix := "X" } }
    ContainerRequest.ofJson? mixedRequest = some request ∧ request.SpelledBy mixedRequest ∧
      ContainerRequest.ofJson? request.toJson = ContainerRequest.ofJson? mixedRequest ∧
      Config.ofJson? sparseConfig = some config ∧ config.Completes sparseConfig := by
  intro request config
  have read : ContainerRequest.ofJson? mixedRequest = some request := by decide +kernel
  have given : Config.ofJson? sparseConfig = some config := by decide +kernel
  obtain ⟨_, _, _, _, requests, _, _, _, _, _, _, _, _, _, completes, _⟩ :=
    records_survive_encoding
  have written : (ContainerRequest.ofJson? mixedRequest).map ContainerRequest.toJson =
      some request.toJson := by rw [read, Option.map_some]
  exact ⟨read, requests.reads_iff.mp read, (requests.settles written).1, given, completes given⟩

end Muster
