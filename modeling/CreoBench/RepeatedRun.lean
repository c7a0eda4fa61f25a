import CreoBench.LoadTestRunner
import CreoBench.OutputDir
import CreoBench.ProfileConfig
import CreoBench.SerdeRoundTrip

/-!
# Repeating a run from its output directory

The orchestrator reads its four input files once, before it writes anything, and
copies them to the output directory under its own default names.  A run that is
started inside the directory without input paths therefore finds the
configuration of the run that is recorded there.
-/

namespace CreoBench

/-- A computation succeeds if both of its parts do. -/
theorem bind_eq_ok {ε α β : Type} {first : Except ε α} {next : α → Except ε β} {result : β} :
    first >>= next = .ok result ↔ ∃ value, first = .ok value ∧ next value = .ok result := by
  cases first <;> simp [bind, Except.bind]

theorem mapError_eq_ok {ε ε' α : Type} {first : Except ε α} {wrap : ε → ε'} {result : α} :
    first.mapError wrap = .ok result ↔ first = .ok result := by
  cases first <;> simp [Except.mapError]

variable {E : Type}

/-- `config::Error`; errors of the YAML and CSV parsers are of type `E`. -/
inductive FromBytesError (E : Type) where
  | invalidUtf8 (validUpTo : Nat)
  | yaml (source : E)
  | profile (error : ConfigError E)
  | emptyServiceRegistry

/-- The parsers of other crates. -/
structure Parsers (E : Type) where
  /-- `csv::Reader` -/
  rows : List UInt8 → List (Except E CsvRow)
  /-- `yaml_serde::from_reader` -/
  services : List UInt8 → Except E (SortedMap String String)
  warmup : List UInt8 → Except E WarmupConfig

namespace Parsers

def profileFromBytes (parsers : Parsers E) (bytes : List UInt8) :
    Except (FromBytesError E) LoadProfileConfig :=
  (LoadProfileConfig.fromBytes parsers.rows bytes).mapError .profile

def scriptFromBytes (bytes : List UInt8) : Except (FromBytesError E) String :=
  match String.fromUTF8? ⟨bytes.toArray⟩ with
  | some script => .ok script
  | none => .error (.invalidUtf8 (((Utf8Error.find bytes).map (·.validUpTo)).getD 0))

def registryFromBytes (parsers : Parsers E) (bytes : List UInt8) :
    Except (FromBytesError E) ServiceRegistry := do
  let services ← (parsers.services bytes).mapError .yaml
  if services.entries.isEmpty then .error .emptyServiceRegistry else .ok ⟨services⟩

def warmupFromBytes (parsers : Parsers E) (bytes : List UInt8) :
    Except (FromBytesError E) WarmupConfig :=
  (parsers.warmup bytes).mapError .yaml

theorem scriptFromBytes_utf8Bytes (script : String) :
    scriptFromBytes (E := E) (utf8Bytes script) = .ok script := by
  have sameBytes : (⟨(utf8Bytes script).toArray⟩ : ByteArray) = script.toByteArray := by
    simp [utf8Bytes]
  rw [scriptFromBytes, sameBytes, String.fromUTF8?, dif_pos script.isValidUTF8]
  rfl

end Parsers

/-- An input file as it was read. -/
structure InputContents where
  path : String
  contents : List UInt8

/-- What the command line says. -/
structure OrchestratorCli where
  profile : Option String
  script : Option String
  registry : Option String
  warmup : Option String
  generators : List String
  output : Option String
  virtualUserCount : Option UInt32
  timeoutMs : Option UInt64
  seed : Option UInt64
  overwriteOutputs : Bool

/-- Why there is no configuration; `I` is the type of I/O errors. -/
inductive FromCliError (I E : Type) where
  | fileOpen (path : String) (source : I)
  | parseError (path : String) (source : FromBytesError E)
  | loadGeneratorOverflow (count : Nat)

/-- A `LoadTestConfig` with the files that it was read from. -/
structure ReadConfig where
  config : LoadTestConfig
  inputs : InputFile → InputContents
  outputDir : String
  overwriteOutputs : Bool

namespace InputContents

variable {I : Type}

def read (files : String → Except I (List UInt8)) (path : String) :
    Except (FromCliError I E) InputContents :=
  match files path with
  | .ok contents => .ok ⟨path, contents⟩
  | .error source => .error (.fileOpen path source)

def parse {α : Type} (input : InputContents)
    (fromBytes : List UInt8 → Except (FromBytesError E) α) : Except (FromCliError I E) α :=
  (fromBytes input.contents).mapError (.parseError input.path)

end InputContents

namespace OrchestratorCli

/-- The input paths, with their defaults. -/
def path (cli : OrchestratorCli) : InputFile → String
  | .profile => cli.profile.getD "profile.csv"
  | .script => cli.script.getD "script.lua"
  | .registry => cli.registry.getD "registry.yaml"
  | .warmup => cli.warmup.getD "warmup.yaml"

end OrchestratorCli

namespace LoadTestConfig

variable {I : Type}

/-- `LoadTestConfig::from_cli` -/
def fromCli (parsers : Parsers E) (files : String → Except I (List UInt8))
    (cli : OrchestratorCli) : Except (FromCliError I E) ReadConfig := do
  if 255 < cli.generators.length then throw (.loadGeneratorOverflow cli.generators.length)
  let profile ← InputContents.read files (cli.path .profile)
  let script ← InputContents.read files (cli.path .script)
  let registry ← InputContents.read files (cli.path .registry)
  let warmup ← InputContents.read files (cli.path .warmup)
  let inputs : InputFile → InputContents
    | .profile => profile
    | .script => script
    | .registry => registry
    | .warmup => warmup
  return {
    config := {
      profile := ← profile.parse parsers.profileFromBytes
      script := ← script.parse Parsers.scriptFromBytes
      registry := ← registry.parse parsers.registryFromBytes
      warmup := ← warmup.parse parsers.warmupFromBytes
      generators := cli.generators
      virtualUserCount := cli.virtualUserCount.getD 100
      seed := cli.seed.getD 5
      timeoutMs := cli.timeoutMs.getD 0 }
    inputs
    outputDir := cli.output.getD "./results"
    overwriteOutputs := cli.overwriteOutputs }

/-- A configuration has the parts that the contents of the input files parse to. -/
structure ParsedFrom (parsers : Parsers E) (contents : InputFile → List UInt8)
    (config : LoadTestConfig) : Prop where
  profile : parsers.profileFromBytes (contents .profile) = .ok config.profile
  script : Parsers.scriptFromBytes (E := E) (contents .script) = .ok config.script
  registry : parsers.registryFromBytes (contents .registry) = .ok config.registry
  warmup : parsers.warmupFromBytes (contents .warmup) = .ok config.warmup

/-- The rest of a configuration is from the command line. -/
structure SetBy (cli : OrchestratorCli) (config : LoadTestConfig) : Prop where
  generators : config.generators = cli.generators
  virtualUserCount : config.virtualUserCount = cli.virtualUserCount.getD 100
  seed : config.seed = cli.seed.getD 5
  timeoutMs : config.timeoutMs = cli.timeoutMs.getD 0

theorem read_eq_ok_iff {files : String → Except I (List UInt8)} {path : String}
    {input : InputContents} :
    InputContents.read (E := E) files path = .ok input ↔
      files path = .ok input.contents ∧ input.path = path := by
  unfold InputContents.read
  cases files path with
  | error source => simp
  | ok contents =>
      rcases input with ⟨path', contents'⟩
      simp [eq_comm, and_comm]

theorem parse_eq_ok_iff {α : Type} {input : InputContents}
    {fromBytes : List UInt8 → Except (FromBytesError E) α} {value : α} :
    input.parse (I := I) fromBytes = .ok value ↔ fromBytes input.contents = .ok value :=
  mapError_eq_ok

/-- When there is a configuration, and which one. -/
theorem fromCli_eq_ok_iff {parsers : Parsers E} {files : String → Except I (List UInt8)}
    {cli : OrchestratorCli} {read : ReadConfig} :
    fromCli parsers files cli = .ok read ↔
      cli.generators.length ≤ 255 ∧
      (∀ file, files (cli.path file) = .ok (read.inputs file).contents ∧
        (read.inputs file).path = cli.path file) ∧
      ParsedFrom parsers (fun file => (read.inputs file).contents) read.config ∧
      SetBy cli read.config ∧
      read.outputDir = cli.output.getD "./results" ∧
        read.overwriteOutputs = cli.overwriteOutputs := by
  unfold fromCli
  by_cases many : 255 < cli.generators.length
  · simp [many, throw, throwThe, MonadExceptOf.throw, bind, Except.bind, Nat.not_le.mpr many]
  simp only [if_neg many, bind_eq_ok, read_eq_ok_iff, parse_eq_ok_iff]
  constructor
  · rintro ⟨profile, readProfile, script, readScript, registry, readRegistry, warmup, readWarmup,
      profileConfig, parsedProfile, source, parsedScript, services, parsedRegistry,
      warmupConfig, parsedWarmup, ⟨⟩⟩
    refine ⟨Nat.le_of_not_lt many, fun file => ?_,
      ⟨parsedProfile, parsedScript, parsedRegistry, parsedWarmup⟩, ⟨rfl, rfl, rfl, rfl⟩, rfl, rfl⟩
    cases file with
    | profile => exact readProfile
    | script => exact readScript
    | registry => exact readRegistry
    | warmup => exact readWarmup
  · rintro ⟨-, found, parsed, set, outputDir, overwriteOutputs⟩
    refine ⟨_, found .profile, _, found .script, _, found .registry, _, found .warmup,
      _, parsed.profile, _, parsed.script, _, parsed.registry, _, parsed.warmup, ?_⟩
    rcases read with ⟨⟨⟩, inputs, _, _⟩
    rcases set with ⟨rfl, rfl, rfl, rfl⟩
    cases outputDir
    cases overwriteOutputs
    refine congrArg (fun inputs => Except.ok (ReadConfig.mk _ inputs _ _)) (funext fun file => ?_)
    cases file <;> rfl

end LoadTestConfig

/-! ## The copies in the output directory -/

namespace OutputDir

/-- The files that are still to be copied, once the run has begun to. -/
def Stage.toCopy : Stage → Option (List InputFile)
  | .copying remaining => some remaining
  | .phases | .creating _ | .collecting | .writingMetadata _ | .returned true _ => some []
  | .idle | .opening _ | .returned false _ => none

/-- The copy of an input file that the latest run has made. -/
def Holds (outputs : OutputDir) (file : InputFile) : Prop :=
  outputs.file (.input file) = some ⟨outputs.run, outputs.inputs file⟩

/-- What has been copied is there. -/
def CopiesKept (outputs : OutputDir) : Prop :=
  ∀ remaining, outputs.stage.toCopy = some remaining →
    ∀ file, file ∉ remaining → outputs.Holds file

theorem input_notMem_csvFiles (file : InputFile) : .input file ∉ csvFiles := by
  cases file <;> decide

theorem CopiesKept.goto {outputs : OutputDir} {stage : Stage} (kept : outputs.CopiesKept)
    (same : stage.toCopy = none ∨ stage.toCopy = outputs.stage.toCopy) :
    (outputs.goto stage).CopiesKept := by
  intro remaining toCopy
  rcases same with none | same
  · exact absurd (none.symm.trans toCopy) nofun
  · exact kept remaining (same.symm.trans toCopy)

/-- Other files may be written. -/
theorem Holds.writeFile {outputs : OutputDir} {files : Files} {file : InputFile}
    (holds : outputs.Holds file) (directory : outputs.path = .directory files)
    {written : OutputFile} (other : .input file ≠ written) (contents : String) :
    (outputs.writeFile written contents).Holds file := by
  unfold Holds
  rw [file_writeFile directory, if_neg other]
  exact holds

theorem CopiesKept.writeFile {outputs : OutputDir} {files : Files} {stage : Stage}
    (kept : outputs.CopiesKept) (directory : outputs.path = .directory files)
    {written : OutputFile} (other : ∀ file, .input file ≠ written) (contents : String)
    (same : stage.toCopy = none ∨ stage.toCopy = outputs.stage.toCopy) :
    ((outputs.writeFile written contents).goto stage).CopiesKept := by
  intro remaining toCopy file absent
  have holds := kept.goto same remaining toCopy file absent
  exact Holds.writeFile holds directory (other file) contents

theorem CopiesKept.step {outputs next : OutputDir} {event : Event} (kept : outputs.CopiesKept)
    (sound : outputs.Sound) (stepped : outputs.step event = some next) : next.CopiesKept := by
  have stage := sound.stage
  unfold StageSound at stage
  revert stepped
  fun_cases OutputDir.step outputs event <;> intro stepped <;> cases stepped
  case case1 | case2 =>
    intro remaining toCopy
    cases toCopy
  case case4 =>
    intro remaining toCopy file absent
    cases toCopy
    exact absurd (InputFile.mem_named file) absent
  case case5 => exact kept.goto (.inl rfl)
  all_goals rename_i stageEq
  case case22 file contents =>
    rw [stageEq.1] at stage
    rcases (stage.1 .profile).isDirectory with ⟨files, directory⟩
    refine kept.writeFile directory ?_ contents (.inr (by rw [stageEq.1]))
    rintro input rfl
    exact input_notMem_csvFiles input stageEq.2
  all_goals rw [stageEq] at stage
  case case7 file remaining =>
    rcases stage with ⟨⟨files, directory⟩, -⟩
    intro later toCopy other absent
    cases toCopy
    by_cases same : other = file
    · subst same
      exact (file_writeFile directory _ _ _).trans (if_pos rfl)
    · have holds := kept (file :: remaining) (by rw [stageEq]; rfl) other (by simp [same, absent])
      exact holds.writeFile directory (by simpa using same) _
  case case8 =>
    intro remaining toCopy
    cases toCopy
  case case9 => exact kept.goto (.inl rfl)
  case case10 | case11 =>
    rcases (stage.1 .profile).isDirectory with ⟨files, directory⟩
    refine kept.writeFile directory ?_ _ (.inr (by rw [stageEq]; rfl))
    rintro input wrong
    cases wrong
  case case18 file remaining =>
    rcases (stage.1 .profile).isDirectory with ⟨files, directory⟩
    refine kept.writeFile directory ?_ _ (.inr (by rw [stageEq]; rfl))
    rintro input rfl
    exact input_notMem_csvFiles input (stage.2.1 List.mem_cons_self)
  all_goals exact kept.goto (.inr (by rw [stageEq]; rfl))

/-- At any time of any run, the copies that it has made are the files that it has read. -/
theorem copiesKept_of_reachable {outputs : OutputDir} (reachable : machine.Reachable outputs) :
    outputs.CopiesKept := by
  apply reachable.invariant_of_known (fun _ => sound_of_reachable)
  · rintro outputs ⟨idle, -⟩ remaining toCopy
    rw [idle] at toCopy
    cases toCopy
  · intro before event next sound kept _ stepped
    exact CopiesKept.step kept sound stepped

/-! The directory keeps contents as text, in which one character stands for one byte. -/

def textOf (bytes : List UInt8) : String :=
  String.ofList (bytes.map fun byte => Char.ofNat byte.toNat)

def bytesOf (text : String) : List UInt8 :=
  text.toList.map fun char => UInt8.ofNat char.toNat

theorem bytesOf_textOf (bytes : List UInt8) : bytesOf (textOf bytes) = bytes := by
  rw [bytesOf, textOf, String.toList_ofList, List.map_map]
  refine (List.map_congr_left fun byte _ => ?_).trans (List.map_id bytes)
  have small : byte.toNat < 2 ^ 8 := byte.toNat_lt
  have valid : (Char.ofNat byte.toNat).toNat = byte.toNat :=
    toNat_charOfNat (.inl (by omega))
  simp [valid]

/-- A relative path is looked up in the directory. -/
def read {I : Type} (outputs : OutputDir) (notFound : I) (path : String) :
    Except I (List UInt8) :=
  match (OutputFile.all.find? (·.name = path)).bind outputs.file with
  | some entry => .ok (bytesOf entry.contents)
  | none => .error notFound

theorem read_name {I : Type} {outputs : OutputDir} {file : OutputFile} {entry : Entry}
    (found : outputs.file file = some entry) (notFound : I) :
    outputs.read notFound file.name = .ok (bytesOf entry.contents) := by
  have lookup : OutputFile.all.find? (·.name = file.name) = some file := by
    rcases file with (_ | _ | _ | _) | _ | _ | _ <;> decide
  rw [read, lookup, Option.bind_some, found]

/-- The command line without its input paths, and with any output directory. -/
def inside (cli : OrchestratorCli) (output : Option String) (overwriteOutputs : Bool) :
    OrchestratorCli :=
  { cli with
    profile := none
    script := none
    registry := none
    warmup := none
    output
    overwriteOutputs }

theorem path_inside (cli : OrchestratorCli) (output : Option String) (overwriteOutputs : Bool)
    (file : InputFile) :
    (inside cli output overwriteOutputs).path file = (OutputFile.input file).name := by
  cases file <;> rfl

/-- From the moment a run has copied its input files, a run that is started in its output
directory without input paths reads the same contents and has the same configuration,
whatever the first run does meanwhile and however it ends. -/
theorem run_repeats {I : Type} {parsers : Parsers E} {files : String → Except I (List UInt8)}
    {cli : OrchestratorCli} {first : ReadConfig}
    (configured : LoadTestConfig.fromCli parsers files cli = .ok first)
    {outputs : OutputDir} (reachable : machine.Reachable outputs)
    (inputs : ∀ file, outputs.inputs file = textOf (first.inputs file).contents)
    (copied : outputs.stage.toCopy = some []) (notFound : I) (output : Option String)
    (overwriteOutputs : Bool) :
    ∃ again, LoadTestConfig.fromCli parsers (outputs.read notFound)
        (inside cli output overwriteOutputs) = .ok again ∧
      again.config = first.config ∧
      ∀ file, (again.inputs file).contents = (first.inputs file).contents := by
  rcases LoadTestConfig.fromCli_eq_ok_iff.mp configured with ⟨few, -, parsed, set, -, -⟩
  refine ⟨⟨first.config, fun file => ⟨(OutputFile.input file).name, (first.inputs file).contents⟩,
    output.getD "./results", overwriteOutputs⟩, ?_, rfl, fun _ => rfl⟩
  refine LoadTestConfig.fromCli_eq_ok_iff.mpr ⟨few, fun file => ⟨?_, ?_⟩, parsed,
    ⟨set.generators, set.virtualUserCount, set.seed, set.timeoutMs⟩, rfl, rfl⟩
  · have holds := copiesKept_of_reachable reachable [] copied file List.not_mem_nil
    rw [path_inside, read_name holds, inputs, bytesOf_textOf]
  · exact (path_inside ..).symm

section OneRun

private def recordedCli : OrchestratorCli where
  profile := some "load.csv"
  script := none
  registry := none
  warmup := none
  generators := ["10.0.0.1:8080"]
  output := none
  virtualUserCount := some 50
  timeoutMs := none
  seed := none
  overwriteOutputs := false

private def recordedText : InputFile → String
  | .profile => "deadline,count\n1,2\n"
  | .script => "return {}"
  | .registry => "auth: http://localhost\n"
  | .warmup => "rate: 0\nduration: 0\npause: 0\n"

private def recordedFiles (path : String) : Except Unit (List UInt8) :=
  match InputFile.named.find? (recordedCli.path · = path) with
  | some file => .ok (utf8Bytes (recordedText file))
  | none => .error ()

private def recordedParsers : Parsers Unit where
  rows _ := [.ok ⟨Binary64.ofNat 1, 2⟩]
  services _ := .ok ⟨[("auth", "http://localhost")], List.pairwise_singleton _ _⟩
  warmup _ := .ok ⟨0, 0, 0⟩

private def recorded : ReadConfig where
  config := {
    profile := ⟨[⟨Binary64.ofNat 1, 2⟩]⟩
    script := "return {}"
    registry := ⟨⟨[("auth", "http://localhost")], List.pairwise_singleton _ _⟩⟩
    warmup := ⟨0, 0, 0⟩
    generators := ["10.0.0.1:8080"]
    virtualUserCount := 50
    seed := 5
    timeoutMs := 0 }
  inputs file := ⟨recordedCli.path file, utf8Bytes (recordedText file)⟩
  outputDir := "./results"
  overwriteOutputs := false

private theorem fromCli_recorded :
    LoadTestConfig.fromCli recordedParsers recordedFiles recordedCli = .ok recorded := by
  refine LoadTestConfig.fromCli_eq_ok_iff.mpr ⟨by decide, fun file => ?_, ⟨?_, ?_, ?_, ?_⟩,
    ⟨rfl, rfl, rfl, rfl⟩, rfl, rfl⟩
  · cases file <;> exact ⟨rfl, rfl⟩
  · refine mapError_eq_ok.mpr (LoadProfileConfig.fromBytes_eq_ok_iff.mpr ⟨rfl, ?_⟩)
    constructor <;> decide +kernel
  · exact Parsers.scriptFromBytes_utf8Bytes _
  · rfl
  · rfl

private def beforeRecording : OutputDir where
  path := .missing
  run := 0
  inputs := fun _ => ""
  stage := .idle

/-- The run fails to connect, and is repeated from what it has copied. -/
theorem run_repeats_afterFailure : ∃ outputs, machine.Reachable outputs ∧
    outputs.stage = .returned true (.error .phases) ∧
      ∃ again, LoadTestConfig.fromCli recordedParsers (outputs.read ())
        (inside recordedCli none false) = .ok again ∧ again.config = recorded.config := by
  have initial : machine.initial beforeRecording := ⟨rfl, rfl, fun _ => rfl⟩
  rcases machine.exists_reachable_of_exec initial
    [.start false fun file => textOf (recorded.inputs file).contents,
      .openDir ⟨false, false, false, false⟩, .write .written, .write .written, .write .written,
      .write .written, .phases true, .phases false]
    (fun outputs => decide (outputs.stage = .returned true (.error .phases) ∧
      ∀ file ∈ InputFile.named, outputs.inputs file = textOf (recorded.inputs file).contents))
    (by decide) with ⟨outputs, reachable, checked⟩
  rcases of_decide_eq_true checked with ⟨returned, inputs⟩
  have copied : outputs.stage.toCopy = some [] := by rw [returned]; rfl
  rcases run_repeats fromCli_recorded reachable (fun file => inputs file (file.mem_named)) copied
    () none false with ⟨again, configured, same, -⟩
  exact ⟨outputs, reachable, returned, again, configured, same⟩

end OneRun

end OutputDir

end CreoBench
