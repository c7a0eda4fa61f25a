import CreoBench.Library.TransitionSystem
import CreoBench.Persisters
import Mathlib.Logic.Function.Basic

/-!
# The output directory

Any number of runs use the same output directory, one after the other.  A run
copies its input files first, creates the two CSV files when all generators have
started, and writes its metadata at the end; it deletes nothing.  Every file
remembers the run that wrote it last.
-/

namespace CreoBench

inductive InputFile where
  | profile
  | script
  | registry
  | warmup
  deriving DecidableEq

inductive OutputFile where
  | input (file : InputFile)
  | interval
  | transactions
  | runJson
  deriving DecidableEq

namespace InputFile

/-- `InputFiles::named` -/
def named : List InputFile := [.profile, .script, .registry, .warmup]

theorem mem_named (file : InputFile) : file ∈ named := by
  cases file <;> decide

end InputFile

namespace OutputFile

def name : OutputFile → String
  | .input .profile => "profile.csv"
  | .input .script => "script.lua"
  | .input .registry => "registry.yaml"
  | .input .warmup => "warmup.yaml"
  | .interval => IntervalCsvPersister.fileName
  | .transactions => TransactionCsvPersister.fileName
  | .runJson => "run.json"

def all : List OutputFile := InputFile.named.map .input ++ [.interval, .transactions, .runJson]

theorem name_injective : Function.Injective name := by
  intro first second same
  rcases first with (_ | _ | _ | _) | _ | _ | _ <;>
    rcases second with (_ | _ | _ | _) | _ | _ | _ <;>
    first | rfl | exact absurd same (by decide)

end OutputFile

namespace OutputDir

/-- The contents of a file, and the number of the run that wrote them. -/
structure Entry where
  run : Nat
  contents : String
  deriving DecidableEq

abbrev Files := OutputFile → Option Entry

/-- What is at the configured path. -/
inductive Path where
  | missing
  | notADirectory
  | directory (files : Files)

def Path.file (file : OutputFile) : Path → Option Entry
  | .directory files => files file
  | _ => none

def Path.write (file : OutputFile) (entry : Entry) : Path → Path
  | .directory files => .directory (Function.update files file (some entry))
  | path => path

inductive OutputError where
  | createOutputDir
  | notADirectory
  | directoryRead
  | notEmpty
  | writeFile
  deriving DecidableEq

inductive Error where
  | output (error : OutputError)
  /-- Too many generators, or the connect, configure or start phase fails. -/
  | phases
  | persist
  | collect
  deriving DecidableEq

/-- The calls of `OutputDir::new` that fail. -/
structure Failures where
  tryExists : Bool
  create : Bool
  metadata : Bool
  read : Bool
  deriving DecidableEq

def Path.isMissing : Path → Bool
  | .missing => true
  | _ => false

/-- `OutputDir::new` -/
def new (path : Path) (overwrite : Bool) (failures : Failures) : Except OutputError Path :=
  if path.isMissing ∨ failures.tryExists then
    -- The call that creates it accepts an existing directory.
    match path, failures.create with
    | .missing, false => .ok (.directory fun _ => none)
    | .directory files, false => .ok (.directory files)
    | _, _ => .error .createOutputDir
  else
    match path, failures.metadata with
    | .directory files, false =>
        if overwrite then .ok (.directory files)
        else if failures.read then .error .directoryRead
        else if OutputFile.all.all fun file => (files file).isNone then .ok (.directory files)
        else .error .notEmpty
    | _, _ => .error .notADirectory

/-- How `write_file` goes: the file may stay as it was, or be left with something else. -/
inductive Write where
  | written
  | notOpened
  | partly (contents : String)
  deriving DecidableEq

/-- Where a run stands. -/
inductive Stage where
  | idle
  | opening (overwrite : Bool)
  | copying (remaining : List InputFile)
  | phases
  | creating (remaining : List OutputFile)
  | collecting
  | writingMetadata (json : String)
  /-- The run has returned; `copied` tells whether it had copied all its input files. -/
  | returned (copied : Bool) (result : Except Error Unit)
  deriving DecidableEq

inductive Event where
  | start (overwrite : Bool) (inputs : InputFile → String)
  | openDir (failures : Failures)
  | write (write : Write)
  | phases (succeeds : Bool)
  | create (succeeds : Bool)
  /-- The writer task writes to one of its files. -/
  | persist (file : OutputFile) (contents : String)
  /-- The reports are collected and persisted, or not. -/
  | collected (result : Except Error String)

end OutputDir

open OutputDir in
structure OutputDir where
  path : Path
  /-- The number of the latest run. -/
  run : Nat
  inputs : InputFile → String
  stage : Stage

namespace OutputDir

def file (outputs : OutputDir) (file : OutputFile) : Option Entry := outputs.path.file file

def goto (outputs : OutputDir) (stage : Stage) : OutputDir := { outputs with stage }

def fail (outputs : OutputDir) (copied : Bool) (error : Error) : OutputDir :=
  outputs.goto (.returned copied (.error error))

/-- The file is opened, truncated and written by the latest run. -/
def writeFile (outputs : OutputDir) (file : OutputFile) (contents : String) : OutputDir :=
  { outputs with path := outputs.path.write file ⟨outputs.run, contents⟩ }

/-- The files that the writer task has open. -/
def csvFiles : List OutputFile := [.interval, .transactions]

def step (outputs : OutputDir) : Event → Option OutputDir
  | .start overwrite inputs =>
      match outputs.stage with
      | .idle | .returned _ _ =>
          some { outputs with run := outputs.run + 1, inputs, stage := .opening overwrite }
      | _ => none
  | .openDir failures =>
      match outputs.stage with
      | .opening overwrite =>
          match OutputDir.new outputs.path overwrite failures with
          | .ok path => some { outputs with path, stage := .copying InputFile.named }
          | .error error => some (outputs.fail false (.output error))
      | _ => none
  | .write write =>
      match outputs.stage, write with
      | .copying (file :: remaining), .written =>
          some ((outputs.writeFile (.input file) (outputs.inputs file)).goto
            (.copying remaining))
      | .copying (file :: _), .partly contents =>
          some ((outputs.writeFile (.input file) contents).fail false (.output .writeFile))
      | .copying (_ :: _), .notOpened => some (outputs.fail false (.output .writeFile))
      | .writingMetadata json, .written =>
          some ((outputs.writeFile .runJson json).goto (.returned true (.ok ())))
      | .writingMetadata _, .partly contents =>
          some ((outputs.writeFile .runJson contents).fail true (.output .writeFile))
      | .writingMetadata _, .notOpened => some (outputs.fail true (.output .writeFile))
      | _, _ => none
  | .phases succeeds =>
      match outputs.stage, succeeds with
      | .copying [], _ => some (outputs.goto .phases)
      | .phases, true => some (outputs.goto (.creating csvFiles))
      | .phases, false => some (outputs.fail true .phases)
      | _, _ => none
  | .create succeeds =>
      match outputs.stage, succeeds with
      | .creating (file :: remaining), true =>
          some ((outputs.writeFile file "").goto (.creating remaining))
      | .creating (_ :: _), false => some (outputs.fail true .persist)
      | .creating [], _ => some (outputs.goto .collecting)
      | _, _ => none
  | .persist file contents =>
      if outputs.stage = .collecting ∧ file ∈ csvFiles then
        some ((outputs.writeFile file contents).goto .collecting)
      else none
  | .collected result =>
      match outputs.stage, result with
      | .collecting, .ok json => some (outputs.goto (.writingMetadata json))
      | .collecting, .error error => some (outputs.fail true error)
      | _, _ => none

/-- Any runs, one after the other, from a path without files of other runs. -/
def machine : Machine OutputDir Event where
  initial outputs := outputs.stage = .idle ∧ outputs.run = 0 ∧
    ∀ file, outputs.file file = none
  step := step

/-! ## What a run leaves behind -/

/-- The file was written by the latest run. -/
def Current (outputs : OutputDir) (file : OutputFile) : Prop :=
  ∃ entry, outputs.file file = some entry ∧ entry.run = outputs.run

/-- After a run has returned: `run.json` is there if and only if it succeeded, and then all
files are of this run; if it failed after copying its inputs, neither `run.json` nor a CSV
file of an earlier run is next to them. -/
def KeepsRunsApart (outputs : OutputDir) : Prop :=
  ∀ copied result, outputs.stage = .returned copied result →
    ((outputs.file .runJson).isSome ↔ result = .ok ()) ∧
    (result = .ok () → ∀ file, outputs.Current file) ∧
    (result ≠ .ok () → copied → ∀ file ∈ .runJson :: csvFiles, ∀ entry,
      outputs.file file = some entry → entry.run = outputs.run)

def Stage.isPastInputs : Stage → Bool
  | .phases | .creating _ | .collecting | .writingMetadata _ => true
  | _ => false

def Stage.isWritingMetadata : Stage → Bool
  | .writingMetadata _ => true
  | _ => false

def hasFailed (outputs : OutputDir) : Prop :=
  ∃ copied error, outputs.stage = .returned copied (.error error)

/-- A step may make the run fail only if there is no `run.json` and, once the inputs are
copied, no CSV file of an earlier run, and if it does not leave a part of `run.json`. -/
def FailsClean (outputs : OutputDir) (event : Event) : Prop :=
  ∀ next, outputs.step event = some next → next.hasFailed →
    outputs.file .runJson = none ∧
    (outputs.stage.isWritingMetadata → ∀ contents, event ≠ .write (.partly contents)) ∧
    (outputs.stage.isPastInputs → ∀ file ∈ csvFiles, ∀ entry,
      outputs.file file = some entry → entry.run = outputs.run)

/-- What a stage has written. -/
def StageSound (outputs : OutputDir) : Prop :=
  match outputs.stage with
  | .idle | .returned _ _ | .opening _ => True
  | .copying remaining =>
      (∃ files, outputs.path = .directory files) ∧
        ∀ file, file ∉ remaining → outputs.Current (.input file)
  | .phases => ∀ file, outputs.Current (.input file)
  | .creating remaining =>
      (∀ file, outputs.Current (.input file)) ∧ remaining ⊆ csvFiles ∧
        ∀ file ∈ csvFiles, file ∉ remaining → outputs.Current file
  | .collecting | .writingMetadata _ =>
      (∀ file, outputs.Current (.input file)) ∧ ∀ file ∈ csvFiles, outputs.Current file

theorem file_writeFile {outputs : OutputDir} {files : Files}
    (directory : outputs.path = .directory files) (written : OutputFile) (contents : String)
    (file : OutputFile) : (outputs.writeFile written contents).file file =
      if file = written then some ⟨outputs.run, contents⟩ else outputs.file file := by
  unfold OutputDir.file writeFile
  rw [directory]
  exact Function.update_apply files written _ file

theorem Current.isDirectory {outputs : OutputDir} {file : OutputFile}
    (current : outputs.Current file) : ∃ files, outputs.path = .directory files := by
  rcases current with ⟨entry, found, -⟩
  unfold OutputDir.file at found
  cases pathEq : outputs.path with
  | directory files => exact ⟨files, rfl⟩
  | missing | notADirectory =>
      rw [pathEq] at found
      cases found

/-- Writing makes files current and leaves them so. -/
theorem Current.writeFile {outputs : OutputDir} {files : Files} {file written : OutputFile}
    (directory : outputs.path = .directory files) (contents : String)
    (current : file ≠ written → outputs.Current file) :
    (outputs.writeFile written contents).Current file := by
  by_cases same : file = written
  · exact ⟨⟨outputs.run, contents⟩, by rw [file_writeFile directory, if_pos same], rfl⟩
  · rcases current same with ⟨entry, found, run⟩
    exact ⟨entry, by rw [file_writeFile directory, if_neg same, found], run⟩

/-- The invariant of all runs. -/
structure Sound (outputs : OutputDir) : Prop where
  notLater : ∀ file entry, outputs.file file = some entry → entry.run ≤ outputs.run
  earlier : ∀ overwrite, outputs.stage = .opening overwrite →
    ∀ file entry, outputs.file file = some entry → entry.run < outputs.run
  stage : outputs.StageSound

theorem Sound.goto {outputs : OutputDir} {stage : Stage} (sound : outputs.Sound)
    (notOpening : ∀ overwrite, stage ≠ .opening overwrite)
    (stageSound : (outputs.goto stage).StageSound) : (outputs.goto stage).Sound :=
  ⟨sound.notLater, fun overwrite opening => absurd opening (notOpening overwrite), stageSound⟩

theorem Sound.fail {outputs : OutputDir} (sound : outputs.Sound) (copied : Bool)
    (error : Error) : (outputs.fail copied error).Sound :=
  sound.goto nofun trivial

theorem Sound.writeFile {outputs : OutputDir} {files : Files} {written : OutputFile}
    {contents : String} {stage : Stage} (sound : outputs.Sound)
    (directory : outputs.path = .directory files)
    (notOpening : ∀ overwrite, stage ≠ .opening overwrite)
    (stageSound : ((outputs.writeFile written contents).goto stage).StageSound) :
    ((outputs.writeFile written contents).goto stage).Sound := by
  refine ⟨?_, fun overwrite opening => absurd opening (notOpening overwrite), stageSound⟩
  intro file entry found
  change (outputs.writeFile written contents).file file = some entry at found
  rw [file_writeFile directory] at found
  split_ifs at found
  · cases found
    exact Nat.le_refl _
  · exact sound.notLater file entry found

/-- `OutputDir::new` yields a directory with nothing in it that was not there before. -/
theorem new_eq_ok {path next : Path} {overwrite : Bool} {failures : Failures}
    (made : new path overwrite failures = .ok next) :
    (∃ files, next = .directory files) ∧
      ∀ file entry, next.file file = some entry → path.file file = some entry := by
  unfold new at made
  split at made
  · split at made <;> cases made
    · exact ⟨⟨_, rfl⟩, fun file entry found => by cases found⟩
    · exact ⟨⟨_, rfl⟩, fun file entry found => found⟩
  · split at made
    · split_ifs at made <;> cases made <;> exact ⟨⟨_, rfl⟩, fun file entry found => found⟩
    · cases made

theorem Sound.step {outputs next : OutputDir} {event : Event} (sound : outputs.Sound)
    (stepped : outputs.step event = some next) : next.Sound := by
  have stage := sound.stage
  unfold StageSound at stage
  revert stepped
  fun_cases OutputDir.step outputs event <;> intro stepped <;> cases stepped
  case case1 overwrite inputs _ | case2 overwrite inputs _ _ _ =>
    refine ⟨fun file entry found => ?_, fun _ _ file entry found => ?_, trivial⟩
    · exact (sound.notLater file entry found).trans (Nat.le_succ _)
    · exact Nat.lt_succ_of_le (sound.notLater file entry found)
  case case4 failures overwrite _ path made =>
    rcases new_eq_ok made with ⟨directory, kept⟩
    refine ⟨fun file entry found => ?_, nofun, directory, fun file absent => ?_⟩
    · exact sound.notLater file entry (kept file entry found)
    · exact absurd (InputFile.mem_named file) absent
  case case5 => exact sound.fail false _
  all_goals rename_i stageEq
  case case22 file contents =>
    rw [stageEq.1] at stage
    rcases stage with ⟨inputs, current⟩
    rcases (inputs .profile).isDirectory with ⟨files, directory⟩
    refine sound.writeFile directory nofun ⟨fun other => ?_, fun other member => ?_⟩
    · exact Current.writeFile directory _ fun _ => inputs other
    · exact Current.writeFile directory _ fun _ => current other member
  all_goals rw [stageEq] at stage
  case case7 file remaining =>
    rcases stage with ⟨⟨files, directory⟩, current⟩
    refine sound.writeFile directory nofun ⟨?_, fun other absent => ?_⟩
    · exact ⟨_, congrArg (Path.write _ _) directory⟩
    · refine Current.writeFile directory _ fun different => current other fun member => ?_
      rcases List.mem_cons.mp member with rfl | inRest
      · exact different rfl
      · exact absent inRest
  case case8 file remaining contents =>
    rcases stage with ⟨⟨files, directory⟩, -⟩
    exact sound.writeFile directory nofun trivial
  case case10 json | case11 json contents =>
    rcases (stage.1 .profile).isDirectory with ⟨files, directory⟩
    exact sound.writeFile directory nofun trivial
  case case14 =>
    exact sound.goto nofun fun file => stage.2 file List.not_mem_nil
  case case15 =>
    refine sound.goto nofun ⟨stage, List.Subset.refl _, fun file member absent => ?_⟩
    exact absurd member absent
  case case18 file remaining =>
    rcases stage with ⟨inputs, within, current⟩
    rcases (inputs .profile).isDirectory with ⟨files, directory⟩
    refine sound.writeFile directory nofun ⟨fun other => ?_, ?_, fun other member absent => ?_⟩
    · exact Current.writeFile directory _ fun _ => inputs other
    · exact fun other member => within (.tail _ member)
    · refine Current.writeFile directory _ fun different => current other member fun among => ?_
      rcases List.mem_cons.mp among with rfl | inRest
      · exact different rfl
      · exact absent inRest
  case case20 =>
    exact sound.goto nofun ⟨stage.1, fun file member => stage.2.2 file member List.not_mem_nil⟩
  case case24 json => exact sound.goto nofun stage
  all_goals exact sound.fail _ _

theorem sound_of_reachable {allowed : OutputDir → Event → Prop} {outputs : OutputDir}
    (reachable : machine.ReachableBy allowed outputs) : outputs.Sound := by
  apply reachable.invariant
  · rintro outputs ⟨idle, -, none⟩
    refine ⟨fun file entry found => ?_, fun overwrite opening => ?_, ?_⟩
    · rw [none file] at found
      cases found
    · rw [idle] at opening
      cases opening
    · unfold StageSound
      rw [idle]
      trivial
  · intro _ _ _ sound _ stepped
    exact sound.step stepped

/-! ## Failing runs -/

section TwoRuns

private def missing : OutputDir where
  path := .missing
  run := 0
  inputs := fun _ => ""
  stage := .idle

private def noFailures : Failures := ⟨false, false, false, false⟩

/-- A run up to its connect phase. -/
private def copies (overwrite : Bool) : List Event :=
  [.start overwrite fun _ => "", .openDir noFailures, .write .written, .write .written,
    .write .written, .write .written, .phases true]

/-- A run that succeeds. -/
private def succeeds (overwrite : Bool) : List Event :=
  copies overwrite ++ [.phases true, .create true, .create true, .create true,
    .persist .interval "", .collected (.ok "{}"), .write .written]

/-- Nothing is there when a run fails. -/
private def failsEmpty (outputs : OutputDir) (event : Event) : Bool :=
  match (outputs.step event).map (·.stage) with
  | some (Stage.returned _ (.error _)) =>
      (outputs.file .runJson).isNone && !outputs.stage.isWritingMetadata &&
        csvFiles.all fun file => (outputs.file file).isNone
  | _ => true

end TwoRuns

end OutputDir

end CreoBench
