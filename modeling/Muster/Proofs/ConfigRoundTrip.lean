import Muster.Cli.Daemon
import Muster.Proofs.TomlDocument

/-!
A configuration survives printing and reading: what is printed is read as the configuration that it
was printed from, whatever texts and counts it holds, and only validation can still refuse it. So an
effective configuration is a fixed point of its own printing.
-/

namespace Muster.Config

open Toml (Entries Section Setting Style Value)

def textSetting (name text : String) : Setting :=
  ⟨name, .text text, (Style.choose text.toList).write text.toList⟩

def countSetting (name : String) (count : UInt32) : Setting :=
  ⟨name, .integer count.toNat, Nat.toDigits 10 count.toNat⟩

def sections (config : Config) : List Section :=
  [⟨"master", [
      textSetting "host" config.master.host,
      countSetting "cpu" config.master.cpu,
      textSetting "memory" config.master.memory]⟩,
    ⟨"worker", [
      countSetting "count" config.worker.count,
      countSetting "cpu" config.worker.cpu,
      textSetting "memory" config.worker.memory,
      textSetting "ramdisk_memory" config.worker.ramdiskMemory,
      countSetting "max_per_host" config.worker.maxPerHost]⟩,
    ⟨"resources", [
      textSetting "path" config.resources.path,
      textSetting "tarball" config.resources.tarball,
      textSetting "setup_script" config.resources.setupScript]⟩,
    ⟨"launch", [
      textSetting "env_prefix" config.launch.envPrefix,
      textSetting "log_dir" config.launch.logDir]⟩]

theorem textLine_toList (name text : String) :
    (textLine name text).toList = (textSetting name text).chars := by
  simp [textLine, settingLine, Toml.writeText, textSetting, Setting.chars]

theorem countLine_toList (name : String) (count : UInt32) :
    (countLine name count).toList = (countSetting name count).chars := by
  simp [countLine, settingLine, countSetting, Setting.chars]

theorem sectionText_toList (name : String) {lines : List String} {settings : List Setting}
    (shown : lines.map String.toList = settings.map Setting.chars) :
    (sectionText name lines).toList = Section.chars ⟨name, settings⟩ := by
  have joined : lines.flatMap String.toList = settings.flatMap Setting.chars := by
    rw [List.flatMap_def, List.flatMap_def, shown]
  simp [sectionText, Section.chars, String.toList_join, joined]

theorem toToml_toList (config : Config) :
    config.toToml.toList = ['\n'].intercalate (config.sections.map Section.chars) := by
  have feed : "\n".toList = ['\n'] := rfl
  rw [toToml, String.toList_intercalate, feed]
  refine congrArg (List.intercalate ['\n']) ?_
  simp only [sections, List.map_cons, List.map_nil, List.cons.injEq, and_true]
  refine ⟨?_, ?_, ?_, ?_⟩
  all_goals
    refine sectionText_toList _ ?_
    simp only [List.map_cons, List.map_nil, textLine_toList, countLine_toList]

theorem textSetting_wellFormed {name : String} (bare : Toml.isBare name = true) (text : String) :
    (textSetting name text).WellFormed :=
  ⟨bare, Toml.shows_text text⟩

theorem countSetting_wellFormed {name : String} (bare : Toml.isBare name = true) (count : UInt32) :
    (countSetting name count).WellFormed :=
  ⟨bare, Toml.shows_count count⟩

theorem sections_wellFormed (config : Config) : ∀ part ∈ config.sections, part.WellFormed := by
  simp only [sections, List.forall_mem_cons, List.not_mem_nil, false_imp_iff, implies_true,
    and_true]
  refine ⟨?_, ?_, ?_, ?_⟩
  · refine ⟨show Toml.isBare "master" = true by decide, ?_, by simp [textSetting, countSetting]⟩
    simp only [List.forall_mem_cons, List.not_mem_nil, false_imp_iff, implies_true, and_true]
    exact ⟨textSetting_wellFormed (by decide) _, countSetting_wellFormed (by decide) _,
      textSetting_wellFormed (by decide) _⟩
  · refine ⟨show Toml.isBare "worker" = true by decide, ?_, by simp [textSetting, countSetting]⟩
    simp only [List.forall_mem_cons, List.not_mem_nil, false_imp_iff, implies_true, and_true]
    exact ⟨countSetting_wellFormed (by decide) _, countSetting_wellFormed (by decide) _,
      textSetting_wellFormed (by decide) _, textSetting_wellFormed (by decide) _,
      countSetting_wellFormed (by decide) _⟩
  · refine ⟨show Toml.isBare "resources" = true by decide, ?_, by simp [textSetting]⟩
    simp only [List.forall_mem_cons, List.not_mem_nil, false_imp_iff, implies_true, and_true]
    exact ⟨textSetting_wellFormed (by decide) _, textSetting_wellFormed (by decide) _,
      textSetting_wellFormed (by decide) _⟩
  · refine ⟨show Toml.isBare "launch" = true by decide, ?_, by simp [textSetting]⟩
    simp only [List.forall_mem_cons, List.not_mem_nil, false_imp_iff, implies_true, and_true]
    exact ⟨textSetting_wellFormed (by decide) _, textSetting_wellFormed (by decide) _⟩

theorem count?_integer (value : Int) : tomlSource.count? (.integer value) =
    if 0 ≤ value ∧ value < UInt32.size then some (.ofNat value.toNat) else none := rfl

theorem count?_count (count : UInt32) : tomlSource.count? (.integer count.toNat) = some count := by
  have fits : 0 ≤ (count.toNat : Int) ∧ (count.toNat : Int) < UInt32.size := by
    have below := count.toNat_lt
    simp only [UInt32.size]
    omega
  rw [count?_integer, if_pos fits, Int.toNat_natCast, UInt32.ofNat_toNat]

/-- The sections are read by every source that looks tables, texts and counts up as they are. -/
theorem config?_of_source {source : FieldSource Value}
    (fields : ∀ names entries,
      source.fields? names (.table .header entries) = some (names.map (Entries.valueAt? entries)))
    (texts : ∀ text, source.text? (.text text) = some text)
    (counts : ∀ count : UInt32, source.count? (.integer count.toNat) = some count)
    (config : Config) :
    source.config? (.table .header (config.sections.map Section.entry)) = some config := by
  -- The source stays abstract, for the bound of a count is too large to be unfolded.
  simp [FieldSource.config?, FieldSource.master?, FieldSource.worker?, FieldSource.resources?,
    FieldSource.launch?, FieldSource.optional, sections, Section.entry, Setting.entry, textSetting,
    countSetting, fields, texts, counts, Toml.valueAt?_cons]

theorem ofToml_of_read {document : String} {entries : Entries} {config : Config}
    (parsed : Toml.parse? document = some entries)
    (read : tomlSource.config? (.table .header entries) = some config) :
    ofToml document = config.validate.map fun _ => config := by
  unfold ofToml
  rw [parsed]
  dsimp only
  rw [read]

theorem ofToml_toToml (config : Config) :
    ofToml config.toToml = config.validate.map fun _ => config := by
  have distinct : (config.sections.map Section.name).Nodup := by
    simp [sections]
  have parsed := Toml.parse?_sections (toToml_toList config) (sections_wellFormed config) distinct
  exact ofToml_of_read parsed
    (config?_of_source (fun _ _ => rfl) (fun _ => rfl) count?_count config)

theorem ofBytes_toUTF8 (document : String) : ofBytes document.toUTF8 = ofToml document := by
  have text : String.fromUTF8? document.toUTF8 = some document := dif_pos document.isValidUTF8
  rw [ofBytes, text]

end Muster.Config

namespace Muster.Cli

variable {overrides : Overrides} {readFile : String → Option ByteArray} {config : Config}

theorem apply_apply (overrides : Overrides) (config : Config) :
    overrides.apply (overrides.apply config) = overrides.apply config := by
  have again {α : Type} (given : Option α) (default : α) :
      given.getD (given.getD default) = given.getD default := by
    cases given <;> rfl
  simp only [Overrides.apply, again]

theorem valid_of_load (loaded : overrides.load readFile = .ok config) :
    config.validate = .ok () ∧ overrides.apply config = config := by
  have applied {start : Config} (valid : (overrides.apply start).validate = .ok ())
      (same : overrides.apply start = config) :
      config.validate = .ok () ∧ overrides.apply config = config := by
    subst same
    exact ⟨valid, apply_apply overrides start⟩
  simp only [Overrides.load, bind, Except.bind] at loaded
  split at loaded
  · split at loaded
    · cases loaded
    · rename_i valid
      exact applied valid (Except.ok.inj loaded)
  · split at loaded
    · split at loaded
      · cases loaded
      · split at loaded
        · cases loaded
        · rename_i valid
          exact applied valid (Except.ok.inj loaded)
    · cases loaded

theorem load_printed (valid : config.validate = .ok ()) (fixed : overrides.apply config = config)
    {path : String} (named : overrides.file = some path)
    (stored : readFile path = some config.toToml.toUTF8) : overrides.load readFile = .ok config := by
  have read : Config.ofBytes config.toToml.toUTF8 = .ok config := by
    rw [Config.ofBytes_toUTF8, Config.ofToml_toToml, valid]
    rfl
  rw [Overrides.load, named]
  simp only [stored, read, bind, Except.bind, fixed, valid]
  rfl

theorem load_of_printed {localHost : Host} {interrupts : Interrupts} {arguments : List String}
    {text : String}
    (printed : runCommand readFile localHost interrupts arguments = .printed text) :
    ∃ overrides config, parse? arguments = some (.showConfig overrides) ∧
      overrides.load readFile = .ok config ∧ config.toToml = text := by
  unfold runCommand at printed
  split at printed
  · cases printed
  · rename_i invocation parsed
    unfold execute at printed
    split at printed
    · cases printed
    · rename_i overrides
      split at printed
      · rename_i config loaded
        cases printed
        exact ⟨overrides, config, parsed, loaded, rfl⟩
      · cases printed
    · split at printed
      · cases printed
      · split at printed
        · cases printed
        · split at printed
          · cases printed
          · cases printed

/-- What is printed is read as it was, or refused as it would have been. An effective configuration
that is loaded again, with the same overrides or without any, is printed as it was. -/
theorem config_survives_printing :
    (∀ config : Config,
      (config.validate = .ok () → Config.ofToml config.toToml = .ok config) ∧
      ∀ error, config.validate = .error error → Config.ofToml config.toToml = .error error) ∧
    ∀ {readFile : String → Option ByteArray} {localHost : Host} {interrupts : Interrupts}
      {arguments : List String} {text : String},
      runCommand readFile localHost interrupts arguments = .printed text →
        ∃ overrides, parse? arguments = some (.showConfig overrides) ∧
          ∀ {reread : String → Option ByteArray} {path : String},
            reread path = some text.toUTF8 →
              execute reread localHost interrupts (.showConfig { file := some path }) =
                .printed text ∧
              execute reread localHost interrupts
                (.showConfig { overrides with file := some path }) = .printed text := by
  constructor
  · intro config
    rw [Config.ofToml_toToml]
    constructor
    · intro valid
      rw [valid]
      rfl
    · intro error invalid
      rw [invalid]
      rfl
  · intro readFile localHost interrupts arguments text printed
    obtain ⟨overrides, config, parsed, loaded, rfl⟩ := load_of_printed printed
    obtain ⟨valid, fixed⟩ := valid_of_load loaded
    refine ⟨overrides, parsed, ?_⟩
    intro reread path stored
    have plain : ({ file := some path } : Overrides).load reread = .ok config :=
      load_printed valid rfl rfl stored
    have overridden : ({ overrides with file := some path } : Overrides).load reread = .ok config :=
      load_printed valid fixed rfl stored
    constructor
    · rw [execute, plain]
    · rw [execute, overridden]

theorem config_survives_printing_awkward :
    let config : Config := { master := { host := "node \"1\"\n'''\\\r" } }
    let shown : Outcome := .printed config.toToml
    Config.ofToml config.toToml = .ok config ∧
      Config.ofToml (Config.toToml { config with worker := { cpu := 0 } }) =
        .error (.invalid .cpuZero) ∧
      ∃ overrides,
        parse? ["config", "--master-address", config.master.host] = some (.showConfig overrides) ∧
          execute (fun _ => some config.toToml.toUTF8) "edge" .onceSettled
            (.showConfig { file := some "effective.toml" }) = shown ∧
          execute (fun _ => some config.toToml.toUTF8) "edge" .onceSettled
            (.showConfig { overrides with file := some "effective.toml" }) = shown := by
  intro config shown
  have valid : config.validate = .ok () := by decide +kernel
  have invalid : Config.validate { config with worker := { cpu := 0 } } =
      .error (.invalid .cpuZero) := by decide +kernel
  refine ⟨(config_survives_printing.1 config).1 valid,
    (config_survives_printing.1 _).2 _ invalid, ?_⟩
  have printed : runCommand (fun _ => none) "edge" .onceSettled
      ["config", "--master-address", config.master.host] = shown := by
    have loaded : ({ masterHost := some config.master.host } : Overrides).load (fun _ => none) =
        .ok config := by decide +kernel
    have parsed : parse? ["config", "--master-address", config.master.host] =
        some (.showConfig { masterHost := some config.master.host }) := by decide +kernel
    simp only [runCommand, parsed, execute, loaded, shown]
  obtain ⟨overrides, parsed, again⟩ := config_survives_printing.2 printed
  exact ⟨overrides, parsed, again rfl⟩

end Muster.Cli
