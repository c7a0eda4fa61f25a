import CreoBench.SpecEntries
import Mathlib.Data.List.Perm.Subperm
import Mathlib.Data.List.Nodup

/-!
# Loading a script

A script is a module that returns a table with two functions.  Both are called, and the
sequence in the table that each returns is parsed into specs: it ends before the first
`nil`, whatever else the table holds.  The first fault ends the loading and names the
function and the position at which it was found.
-/

namespace CreoBench

namespace Parser

/-! ## Sequences -/

/-- The key of an index. -/
def PlainTable.key (index : Nat) : Value := .integer (Int64.ofNat index)

/-- The value at an index of a table, which is a 64-bit integer. -/
def PlainTable.at (table : PlainTable) (index : Nat) : Value :=
  if index < 2 ^ 63 then
    match table.entries.find? fun entry => entry.1 = key index with
    | some (_, value) => value
    | none => .nil
  else .nil

/-- The values from `index` on up to the first `nil`, and no more than `entries`. -/
def PlainTable.valuesFrom (table : PlainTable) : Nat → Nat → List Value
  | 0, _ => []
  | entries + 1, index =>
      if table.at index = .nil then []
      else table.at index :: table.valuesFrom entries (index + 1)

/-- `sequence_values`; a table has no more values than entries. -/
def PlainTable.sequenceValues (table : PlainTable) : List Value :=
  table.valuesFrom table.entries.length 1

/-- The values at the indices from one on, up to the first `nil`. -/
structure IsSequence (table : PlainTable) (values : List Value) : Prop where
  present : ∀ (index : Nat) (value : Value), values[index]? = some value →
    table.at (index + 1) = value ∧ value ≠ .nil
  ends : table.at (values.length + 1) = .nil

/-- A table has one sequence only. -/
theorem IsSequence.unique {table : PlainTable} {values values' : List Value}
    (isSequence : IsSequence table values) (isSequence' : IsSequence table values') :
    values = values' := by
  have length_le : ∀ {values values' : List Value}, IsSequence table values →
      IsSequence table values' → values.length ≤ values'.length := by
    intro values values' one other
    by_contra longer
    have inside := Nat.lt_of_not_le longer
    have present := one.present _ _ (List.getElem?_eq_getElem inside)
    exact present.2 (present.1.symm.trans other.ends)
  have lengths := Nat.le_antisymm (length_le isSequence isSequence')
    (length_le isSequence' isSequence)
  apply List.ext_getElem lengths
  intro index inside inside'
  rw [← (isSequence.present index _ (List.getElem?_eq_getElem inside)).1,
    (isSequence'.present index _ (List.getElem?_eq_getElem inside')).1]

namespace PlainTable

variable {table : PlainTable}

theorem mem_keys_of_at {index : Nat} (present : table.at index ≠ .nil) :
    index < 2 ^ 63 ∧ key index ∈ table.entries.map (·.1) := by
  unfold PlainTable.at at present
  by_cases small : index < 2 ^ 63
  · rw [if_pos small] at present
    refine ⟨small, ?_⟩
    cases found : table.entries.find? fun entry => entry.1 = key index with
    | none =>
        rw [found] at present
        exact absurd rfl present
    | some entry =>
        have keyEq : entry.1 = key index := by simpa using List.find?_some found
        rw [← keyEq]
        exact List.mem_map_of_mem (List.mem_of_find?_eq_some found)
  · rw [if_neg small] at present
    exact absurd rfl present

theorem key_injective {first second : Nat} (small : first < 2 ^ 63) (small' : second < 2 ^ 63)
    (same : key first = key second) : first = second := by
  have ints := congrArg Int64.toInt (Value.integer.inj same)
  rw [Int64.toInt_ofNat_of_lt small, Int64.toInt_ofNat_of_lt small'] at ints
  exact Int.ofNat_inj.mp ints

/-- There is no more room for values than there are entries. -/
theorem exists_nil_at (table : PlainTable) :
    ∃ index ≤ table.entries.length, table.at (index + 1) = .nil := by
  by_contra full
  have present : ∀ index ∈ List.range (table.entries.length + 1),
      table.at (index + 1) ≠ .nil := fun index member isNil =>
    full ⟨index, Nat.le_of_lt_succ (List.mem_range.mp member), isNil⟩
  have nodup : ((List.range (table.entries.length + 1)).map fun index => key (index + 1)).Nodup := by
    apply List.Nodup.map_on _ List.nodup_range
    intro first firstMem second secondMem same
    exact Nat.succ.inj (key_injective (mem_keys_of_at (present first firstMem)).1
      (mem_keys_of_at (present second secondMem)).1 same)
  have subset : ((List.range (table.entries.length + 1)).map fun index => key (index + 1)) ⊆
      table.entries.map (·.1) := by
    intro found member
    rcases List.mem_map.mp member with ⟨index, indexMem, rfl⟩
    exact (mem_keys_of_at (present index indexMem)).2
  have lengths := (nodup.subperm subset).length_le
  simp only [List.length_map, List.length_range] at lengths
  omega

/-- As long as the loop goes on, the values are those of the table, and it ends at a `nil` if
there is one within its reach. -/
theorem valuesFrom_spec (table : PlainTable) (entries first : Nat) :
    (∀ (index : Nat) (value : Value), (table.valuesFrom entries first)[index]? = some value →
      table.at (first + index) = value ∧ value ≠ .nil) ∧
    ((∃ index ≤ entries, table.at (first + index) = .nil) →
      table.at (first + (table.valuesFrom entries first).length) = .nil) := by
  induction entries generalizing first with
  | zero =>
      refine ⟨by simp [valuesFrom], ?_⟩
      rintro ⟨index, inside, isNil⟩
      rw [Nat.le_zero.mp inside] at isNil
      exact isNil
  | succ entries ih =>
      unfold valuesFrom
      by_cases ended : table.at first = .nil
      · rw [if_pos ended]
        exact ⟨by simp, fun _ => ended⟩
      · rw [if_neg ended]
        rcases ih (first + 1) with ⟨present, ends⟩
        have shift : ∀ index, first + (index + 1) = first + 1 + index := fun index => by omega
        constructor
        · intro index value found
          cases index with
          | zero =>
              obtain rfl := Option.some.inj found
              exact ⟨rfl, ended⟩
          | succ index =>
              rw [shift]
              exact present index value found
        · rintro ⟨index, inside, isNil⟩
          cases index with
          | zero => exact absurd isNil ended
          | succ index =>
              rw [shift] at isNil
              rw [List.length_cons, shift]
              exact ends ⟨index, Nat.le_of_succ_le_succ inside, isNil⟩

theorem isSequence_sequenceValues (table : PlainTable) :
    IsSequence table table.sequenceValues := by
  rcases valuesFrom_spec table table.entries.length 1 with ⟨present, ends⟩
  constructor
  · intro index value found
    rw [Nat.add_comm]
    exact present index value found
  · rw [Nat.add_comm]
    apply ends
    rcases exists_nil_at table with ⟨index, inside, isNil⟩
    exact ⟨index, inside, by rw [Nat.add_comm]; exact isNil⟩

end PlainTable

end Parser

/-! ## Modules -/

/-- The Lua runtime of a script: the evaluation of its source, the calls of its functions and
the tables as they stand. -/
structure ScriptHost (World : Type) where
  eval : World → Except String Parser.Value × World
  call : LuaFunction → World → Except String Parser.Value × World
  runtime : World → Parser.Runtime

/-- `SETUP_FN_NAME` and `USER_REQUEST_FN_NAME`. -/
def setupFnName : String := "setup"
def userRequestFnName : String := "requests"

namespace Loader

inductive LoadError where
  | moduleLoad (message : String)
  | moduleReturn (typeName : String)
  | missingFn (name : String)
  | tableValueNotFunction (key typeName : String)
  deriving DecidableEq

def LoadError.text : LoadError → String
  | .moduleLoad message => s!"failed to compile Lua script: {message}"
  | .moduleReturn typeName =>
      s!"invalid Lua module return type: expected `table`, but got type `{typeName}`"
  | .missingFn name => s!"missing `{name}` function in Lua module return table"
  | .tableValueNotFunction key typeName =>
      s!"expected `{key}` to be a function, but got type `{typeName}`"

/-- A compiled and valid user script. -/
structure UserScript (World : Type) where
  world : World
  setup : LuaFunction
  requests : LuaFunction

def moduleFunction (runtime : Parser.Runtime) (table : LuaTable) (key : String) :
    Except LoadError LuaFunction :=
  match runtime.get table key with
  | .nil => .error (.missingFn key)
  | .function function => .ok function
  | other => .error (.tableValueNotFunction key other.typeName)

variable {World : Type}

/-- The functions of a module. -/
def moduleScript (host : ScriptHost World) (world : World) :
    Parser.Value → Except LoadError (UserScript World)
  | .table table => do
      let setup ← moduleFunction (host.runtime world) table setupFnName
      let requests ← moduleFunction (host.runtime world) table userRequestFnName
      return { world, setup, requests }
  | other => .error (.moduleReturn other.typeName)

def load (host : ScriptHost World) (world : World) : Except LoadError (UserScript World) := do
  let module ← (host.eval world).1.mapError .moduleLoad
  moduleScript host (host.eval world).2 module

/-- What keeps a key of the module from being a function. -/
inductive FunctionFault (key : String) : Parser.Value → LoadError → Prop
  | missing : FunctionFault key .nil (.missingFn key)
  | noFunction {value : Parser.Value} :
      value ≠ .nil → (∀ function, value ≠ .function function) →
        FunctionFault key value (.tableValueNotFunction key value.typeName)

theorem moduleFunction_decides (runtime : Parser.Runtime) (table : LuaTable) (key : String) :
    Decides (moduleFunction runtime table key)
      (fun function => runtime.get table key = .function function)
      (FunctionFault key (runtime.get table key)) := by
  unfold moduleFunction
  generalize runtime.get table key = value
  cases value with
  | nil =>
      refine .of_error (by simp) fun err => ?_
      constructor
      · rintro (- | ⟨notNil, -⟩)
        · rfl
        · exact absurd rfl notNil
      · rintro rfl
        exact .missing
  | function function =>
      refine .of_ok (by simp [eq_comm]) fun err => ?_
      rintro (- | ⟨-, notFunction⟩)
      exact notFunction function rfl
  | boolean | integer | number | string | table | other =>
      refine .of_error (by simp) fun err => ?_
      constructor
      · rintro (- | -)
        rfl
      · rintro rfl
        exact .noFunction (by simp) (by simp)

/-- What loading gives. -/
inductive Loads (host : ScriptHost World) (world : World) : UserScript World → Prop
  | module {table : LuaTable} {after : World} {setup requests : LuaFunction} :
      host.eval world = (.ok (.table table), after) →
      (host.runtime after).get table setupFnName = .function setup →
      (host.runtime after).get table userRequestFnName = .function requests →
        Loads host world ⟨after, setup, requests⟩

inductive LoadFault (host : ScriptHost World) (world : World) : LoadError → Prop
  | raised {message : String} {after : World} :
      host.eval world = (.error message, after) → LoadFault host world (.moduleLoad message)
  | noTable {value : Parser.Value} {after : World} :
      host.eval world = (.ok value, after) → (∀ table, value ≠ .table table) →
        LoadFault host world (.moduleReturn value.typeName)
  | setup {table : LuaTable} {after : World} {err : LoadError} :
      host.eval world = (.ok (.table table), after) →
      FunctionFault setupFnName ((host.runtime after).get table setupFnName) err →
        LoadFault host world err
  | requests {table : LuaTable} {after : World} {setup : LuaFunction} {err : LoadError} :
      host.eval world = (.ok (.table table), after) →
      (host.runtime after).get table setupFnName = .function setup →
      FunctionFault userRequestFnName ((host.runtime after).get table userRequestFnName) err →
        LoadFault host world err

theorem load_decides (host : ScriptHost World) (world : World) :
    Decides (load host world) (Loads host world) (LoadFault host world) := by
  unfold load
  cases evalEq : host.eval world with
  | mk result after =>
      cases result with
      | error message =>
          refine .of_error ?_ fun err => ?_
          · rintro script ⟨loaded, -, -⟩
            cases evalEq.symm.trans loaded
          · constructor
            · rintro (loaded | ⟨loaded, -⟩ | ⟨loaded, -⟩ | ⟨loaded, -, -⟩)
              all_goals cases evalEq.symm.trans loaded
              rfl
            · rintro rfl
              exact .raised evalEq
      | ok value =>
          cases value with
          | table table =>
              have steps := (moduleFunction_decides (host.runtime after) table setupFnName).bind
                fun setup _ =>
                  (moduleFunction_decides (host.runtime after) table userRequestFnName).bind
                    fun requests _ => Decides.pure (⟨after, setup, requests⟩ : UserScript World)
              refine steps.congr (fun script => ?_) (fun err => ?_)
              · constructor
                · rintro ⟨setup, setupEq, requests, requestsEq, rfl⟩
                  exact .module evalEq setupEq requestsEq
                · rintro ⟨loaded, setupEq, requestsEq⟩
                  cases evalEq.symm.trans loaded
                  exact ⟨_, setupEq, _, requestsEq, rfl⟩
              · constructor
                · rintro (fault | ⟨setup, setupEq, fault | ⟨_, _, ⟨⟩⟩⟩)
                  · exact .setup evalEq fault
                  · exact .requests evalEq setupEq fault
                · rintro (loaded | ⟨loaded, notTable⟩ | ⟨loaded, fault⟩ | ⟨loaded, setupEq, fault⟩)
                  all_goals cases evalEq.symm.trans loaded
                  · exact absurd rfl (notTable table)
                  · exact .inl fault
                  · exact .inr ⟨_, setupEq, .inl fault⟩
          | nil | boolean | integer | number | string | function | other =>
              refine .of_error ?_ fun err => ?_
              · rintro script ⟨loaded, -, -⟩
                cases evalEq.symm.trans loaded
              · constructor
                · rintro (loaded | ⟨loaded, -⟩ | ⟨loaded, -⟩ | ⟨loaded, -, -⟩)
                  all_goals cases evalEq.symm.trans loaded
                  rfl
                · rintro rfl
                  exact .noTable evalEq (by simp)

end Loader

/-! ## Top-level functions -/

namespace Script

open CreoBench.Parser

inductive TopLevelError where
  | call (message : String)
  | nonTableReturn (typeName : String)
  | invalidSpec (index : Nat) (source : Parser.Error)
  deriving DecidableEq

def TopLevelError.text (runtime : Runtime) : TopLevelError → String
  | .call message => s!"an error occurred during the function call: {message}"
  | .nonTableReturn typeName =>
      s!"invalid return type: expected `table`, but got type `{typeName}`"
  | .invalidSpec index source =>
      s!"invalid spec at index `{index}` (1-based): {source.text runtime}"

variable {World : Type}

/-- One round of the loop over the values of a table, which are counted from zero. -/
def parseSpecAt (runtime : Runtime) (entry : Value × Nat) :
    Except TopLevelError LuaRequestSpec :=
  (parseSpec runtime entry.1).mapError (.invalidSpec (entry.2 + 1))

/-- The specs in the value that a function has returned. -/
def returnedSpecs (host : ScriptHost World) (world : World) :
    Value → Except TopLevelError (List LuaRequestSpec × World)
  | .table table => do
      let values := ((host.runtime world).contents table).sequenceValues
      let specs ← values.zipIdx.mapM (parseSpecAt (host.runtime world))
      return (specs, world)
  | other => .error (.nonTableReturn other.typeName)

def callTopLevelFunc (host : ScriptHost World) (function : LuaFunction) (world : World) :
    Except TopLevelError (List LuaRequestSpec × World) := do
  let result ← (host.call function world).1.mapError .call
  returnedSpecs host (host.call function world).2 result

/-- What a call of a top-level function gives: the specs of a whole sequence. -/
inductive GivesSpecs (host : ScriptHost World) (function : LuaFunction) (world : World) :
    List LuaRequestSpec × World → Prop
  | sequence {table : LuaTable} {after : World} {values : List Value}
      {specs : List LuaRequestSpec} :
      host.call function world = (.ok (.table table), after) →
      IsSequence ((host.runtime after).contents table) values →
      List.Forall₂ (Denotes (host.runtime after)) values specs →
        GivesSpecs host function world (specs, after)

inductive CallFault (host : ScriptHost World) (function : LuaFunction) (world : World) :
    TopLevelError → Prop
  | raised {message : String} {after : World} :
      host.call function world = (.error message, after) →
        CallFault host function world (.call message)
  | noTable {value : Value} {after : World} :
      host.call function world = (.ok value, after) → (∀ table, value ≠ .table table) →
        CallFault host function world (.nonTableReturn value.typeName)
  /-- The position is that of the first value that is no spec, counted from one. -/
  | invalid {table : LuaTable} {after : World} {before later : List Value} {value : Value}
      {err : Parser.Error} :
      host.call function world = (.ok (.table table), after) →
      IsSequence ((host.runtime after).contents table) (before ++ value :: later) →
      (∀ earlier ∈ before, IsSpec (host.runtime after) earlier) →
      SpecFault (host.runtime after) value err →
        CallFault host function world (.invalidSpec (before.length + 1) err)

/-- The loop over the values of a table. -/
theorem parseSpecs_decides (runtime : Runtime) (values : List Value) :
    Decides (values.zipIdx.mapM (parseSpecAt runtime))
      (fun specs => List.Forall₂ (Denotes runtime) values specs)
      (fun err => ∃ before value later source, values = before ++ value :: later ∧
        (∀ earlier ∈ before, IsSpec runtime earlier) ∧ SpecFault runtime value source ∧
          err = .invalidSpec (before.length + 1) source) := by
  have loop := Decides.mapM (fun entry : Value × Nat =>
    (parseSpec_decides runtime entry.1).mapError (TopLevelError.invalidSpec (entry.2 + 1)))
    values.zipIdx
  refine loop.congr (fun specs => ?_) (fun err => ?_)
  · rw [← List.forall₂_map_left_iff, List.zipIdx_map_fst]
  · constructor
    · rintro ⟨before, ⟨value, index⟩, after, split, earlier, source, fault, rfl⟩
      rcases List.zipIdx_eq_append_iff.mp split with ⟨first, rest, rfl, rfl, restEq⟩
      rcases List.zipIdx_eq_cons_iff.mp restEq.symm with ⟨_, later, rfl, sameEntry, -⟩
      cases sameEntry
      refine ⟨first, _, later, source, rfl, ?_, fault, by rw [Nat.zero_add]⟩
      intro value member
      rcases List.mem_iff_getElem?.mp member with ⟨position, found⟩
      rw [isSpec_iff]
      exact earlier (value, position) (by simp [List.mem_zipIdx_iff_getElem?, found])
    · rintro ⟨first, value, later, source, rfl, earlier, fault, rfl⟩
      refine ⟨first.zipIdx, (value, first.length), later.zipIdx (first.length + 1), ?_, ?_, source,
        fault, rfl⟩
      · rw [List.zipIdx_append, List.zipIdx_cons, Nat.zero_add]
      · rintro ⟨other, position⟩ member
        rw [← isSpec_iff]
        exact earlier other (List.fst_mem_of_mem_zipIdx member)

theorem callTopLevelFunc_decides (host : ScriptHost World) (function : LuaFunction)
    (world : World) :
    Decides (callTopLevelFunc host function world) (GivesSpecs host function world)
      (CallFault host function world) := by
  unfold callTopLevelFunc
  cases callEq : host.call function world with
  | mk result after =>
      cases result with
      | error message =>
          refine .of_error ?_ fun err => ?_
          · rintro _ ⟨called, -, -⟩
            cases callEq.symm.trans called
          · constructor
            · rintro (called | ⟨called, -⟩ | ⟨called, -, -, -⟩)
              all_goals cases callEq.symm.trans called
              rfl
            · rintro rfl
              exact .raised callEq
      | ok value =>
          cases value with
          | table table =>
              have isSequence := PlainTable.isSequence_sequenceValues
                ((host.runtime after).contents table)
              have steps := (parseSpecs_decides (host.runtime after)
                ((host.runtime after).contents table).sequenceValues).bind
                fun specs _ => Decides.pure (specs, after)
              refine steps.congr (fun answer => ?_) (fun err => ?_)
              · constructor
                · rintro ⟨specs, given, rfl⟩
                  exact .sequence callEq isSequence given
                · rintro ⟨called, isSequence', given⟩
                  cases callEq.symm.trans called
                  rw [isSequence'.unique isSequence] at given
                  exact ⟨_, given, rfl⟩
              · constructor
                · rintro (⟨before, value, later, source, split, earlier, fault, rfl⟩ | ⟨_, _, ⟨⟩⟩)
                  exact .invalid callEq (split ▸ isSequence) earlier fault
                · rintro (called | ⟨called, notTable⟩ | ⟨called, isSequence', earlier, fault⟩)
                  all_goals cases callEq.symm.trans called
                  · exact absurd rfl (notTable table)
                  · exact .inl ⟨_, _, _, _, isSequence.unique isSequence', earlier, fault, rfl⟩
          | nil | boolean | integer | number | string | function | other =>
              refine .of_error ?_ fun err => ?_
              · rintro _ ⟨called, -, -⟩
                cases callEq.symm.trans called
              · constructor
                · rintro (called | ⟨called, -⟩ | ⟨called, -, -, -⟩)
                  all_goals cases callEq.symm.trans called
                  rfl
                · rintro rfl
                  exact .noTable callEq (by simp)

end Script

/-! ## Runners -/

namespace ScriptRunner

open Script

variable {World : Type}

/-- The errors of `setup`; those of driving a runner are `Script.Error`. -/
inductive SetupError where
  | scriptLoad (source : Loader.LoadError)
  | topLevelFunctionCall (fnName : String) (source : TopLevelError)
  | emptyUserSpecs
  deriving DecidableEq

def SetupError.text (runtime : Parser.Runtime) : SetupError → String
  | .scriptLoad source => s!"failed to load Lua module: {source.text}"
  | .topLevelFunctionCall fnName source =>
      s!"failed to run function `{fnName}`: {source.text runtime}"
  | .emptyUserSpecs =>
      s!"top-level requests function `{userRequestFnName}` returned an empty request table"

/-- The end of `setup`. -/
def newRunner (setupSpecs userSpecs : List LuaRequestSpec) (world : World) :
    Except SetupError (ScriptRunner World) :=
  match ofSpecs setupSpecs userSpecs world with
  | some runner => .ok runner
  | none => .error .emptyUserSpecs

def setup (host : ScriptHost World) (world : World) : Except SetupError (ScriptRunner World) := do
  let script ← (Loader.load host world).mapError .scriptLoad
  let (setupSpecs, world) ← (callTopLevelFunc host script.setup script.world).mapError
    (.topLevelFunctionCall setupFnName)
  let (userSpecs, world) ← (callTopLevelFunc host script.requests world).mapError
    (.topLevelFunctionCall userRequestFnName)
  newRunner setupSpecs userSpecs world

/-- The runner of a script, which both functions of its module have been called for. -/
inductive SetsUp (host : ScriptHost World) (world : World) : ScriptRunner World → Prop
  | specs {script : Loader.UserScript World} {setupSpecs userSpecs : List LuaRequestSpec}
      {between after : World} {runner : ScriptRunner World} :
      Loader.Loads host world script →
      GivesSpecs host script.setup script.world (setupSpecs, between) →
      GivesSpecs host script.requests between (userSpecs, after) →
      ofSpecs setupSpecs userSpecs after = some runner → SetsUp host world runner

/-- The faults in the order in which they are found. -/
inductive SetupFault (host : ScriptHost World) (world : World) : SetupError → Prop
  | load {source : Loader.LoadError} :
      Loader.LoadFault host world source → SetupFault host world (.scriptLoad source)
  | setupCall {script : Loader.UserScript World} {source : TopLevelError} :
      Loader.Loads host world script → CallFault host script.setup script.world source →
        SetupFault host world (.topLevelFunctionCall setupFnName source)
  | requestsCall {script : Loader.UserScript World} {setupSpecs : List LuaRequestSpec}
      {between : World} {source : TopLevelError} :
      Loader.Loads host world script →
      GivesSpecs host script.setup script.world (setupSpecs, between) →
      CallFault host script.requests between source →
        SetupFault host world (.topLevelFunctionCall userRequestFnName source)
  | noUserSpecs {script : Loader.UserScript World} {setupSpecs : List LuaRequestSpec}
      {between after : World} :
      Loader.Loads host world script →
      GivesSpecs host script.setup script.world (setupSpecs, between) →
      GivesSpecs host script.requests between ([], after) →
        SetupFault host world .emptyUserSpecs

theorem newRunner_decides (setupSpecs userSpecs : List LuaRequestSpec) (world : World) :
    Decides (newRunner setupSpecs userSpecs world)
      (fun runner => ofSpecs setupSpecs userSpecs world = some runner)
      (fun err => userSpecs = [] ∧ err = .emptyUserSpecs) := by
  unfold newRunner ofSpecs
  cases userSpecs with
  | nil => exact .of_error (by simp) (by simp)
  | cons spec specs => exact .of_ok (by simp [eq_comm]) (by simp)

theorem setup_decides (host : ScriptHost World) (world : World) :
    Decides (setup host world) (SetsUp host world) (SetupFault host world) := by
  have steps := ((Loader.load_decides host world).mapError SetupError.scriptLoad).bind
    fun script _ => ((callTopLevelFunc_decides host script.setup script.world).mapError
      (SetupError.topLevelFunctionCall setupFnName)).bind
    fun first _ => ((callTopLevelFunc_decides host script.requests first.2).mapError
      (SetupError.topLevelFunctionCall userRequestFnName)).bind
    fun second _ => newRunner_decides first.1 second.1 second.2
  refine steps.congr (fun runner => ?_) (fun err => ?_)
  · constructor
    · rintro ⟨script, loads, ⟨setupSpecs, between⟩, first, ⟨userSpecs, after⟩, second, made⟩
      exact .specs loads first second made
    · rintro ⟨loads, first, second, made⟩
      exact ⟨_, loads, _, first, _, second, made⟩
  · constructor
    · rintro (⟨source, fault, rfl⟩ | ⟨script, loads, ⟨source, fault, rfl⟩ |
        ⟨⟨setupSpecs, between⟩, first, ⟨source, fault, rfl⟩ |
          ⟨⟨userSpecs, after⟩, second, empty, rfl⟩⟩⟩)
      · exact .load fault
      · exact .setupCall loads fault
      · exact .requestsCall loads first fault
      · obtain rfl : userSpecs = [] := empty
        exact .noUserSpecs loads first second
    · rintro (fault | ⟨loads, fault⟩ | ⟨loads, first, fault⟩ | ⟨loads, first, second⟩)
      · exact .inl ⟨_, fault, rfl⟩
      · exact .inr ⟨_, loads, .inl ⟨_, fault, rfl⟩⟩
      · exact .inr ⟨_, loads, .inr ⟨_, first, .inl ⟨_, fault, rfl⟩⟩⟩
      · exact .inr ⟨_, loads, .inr ⟨_, first, .inr ⟨_, second, rfl, rfl⟩⟩⟩

/-- A script is loaded exactly if its module has both functions, both return tables whose
sequences consist of specs, and there is a spec to cycle through; otherwise the first fault
is reported. -/
theorem setup_exact (host : ScriptHost World) (world : World) :
    (∀ runner, setup host world = .ok runner ↔ SetsUp host world runner) ∧
      ∀ err, setup host world = .error err ↔ SetupFault host world err :=
  ⟨(setup_decides host world).ok, (setup_decides host world).error⟩

end ScriptRunner

end CreoBench
