import CreoBench.Library.SortedMap
import CreoBench.Serde
import CreoBench.Transaction

/-!
# Driving a user script

A script declares a list of request specs, which its virtual user walks through
in a cycle.  A spec is static, or a Lua function that produces it or names
another spec to jump to.  What Lua does is a parameter: a call transforms the
state of its runtime in any way and returns or raises.  Nothing bounds a chain
of jumps, so resolution is given a number of calls after which it is unfinished.
-/

namespace CreoBench

/-- A Lua function, by its handle in the runtime's registry. -/
structure LuaFunction where
  handle : Nat
  deriving DecidableEq

/-- A Lua table, by its handle in the runtime's registry. -/
structure LuaTable where
  handle : Nat
  deriving DecidableEq

/-- A Lua value as far as the resolution of a spec tells values apart. -/
inductive LuaValue where
  | table (contents : LuaTable)
  | string (bytes : List UInt8)
  | other (typeName : String) (handle : Nat)
  deriving DecidableEq

def LuaValue.typeName : LuaValue → String
  | .table _ => "table"
  | .string _ => "string"
  | .other typeName _ => typeName

inductive HttpMethod where
  | get | post | put | delete | patch | head | options
  deriving DecidableEq

/-- A JSON document by its text. -/
structure JsonValue where
  text : String
  deriving DecidableEq

structure HttpStaticRequestSpec where
  method : HttpMethod
  service : String
  path : String
  headers : List (String × String)
  query : List (String × String)
  body : Option JsonValue
  extract : Option LuaFunction
  deriving DecidableEq

inductive RequestSpec where
  | http (spec : HttpStaticRequestSpec)
  deriving DecidableEq

inductive SpecType where
  | static (spec : RequestSpec)
  | dynamic (function : LuaFunction)
  deriving DecidableEq

structure LuaRequestSpec where
  name : Option String
  spec : SpecType
  deriving DecidableEq

/-- The response that an `extract` function gets to see. -/
structure Response where
  status : UInt16
  headers : List (String × String)
  body : Option (List UInt8)
  deriving DecidableEq

/-- The Lua runtime with the script's store, as transformers of `World`.  An error
of the runtime is its text. -/
structure Lua (World : Type) where
  call : LuaFunction → World → Except String LuaValue × World
  callExtract : LuaFunction → Response → World → Except String Unit × World
  parseStaticSpec : LuaTable → World → Except String RequestSpec
  debug : LuaValue → World → String

namespace Script

inductive CallError where
  | call (message : String)
  | notStringCoercible (value : String) (typeName : String)
  | nonUtf8String (value : String)
  | invalidSpec (index : Nat) (source : String)
  deriving DecidableEq

def CallError.text : CallError → String
  | .call message => s!"an error occurred during the function call: {message}"
  | .notStringCoercible value typeName =>
      s!"invalid type for jump return value `{value}`: expected string coercible type, " ++
        s!"but got type `{typeName}`"
  | .nonUtf8String value => s!"jump return value `{value}` is not a valid UTF-8 string"
  | .invalidSpec index source => s!"invalid spec at index `{index}` (1-based): {source}"

inductive ResolveError where
  | dynamic (index : Nat) (source : CallError)
  | unknownJump (index : Nat) (jump : String)
  deriving DecidableEq

def ResolveError.text : ResolveError → String
  | .dynamic index source =>
      s!"failed to resolve dynamic request spec at index `{index}` (1-based): " ++ source.text
  | .unknownJump index jump =>
      s!"unknown jump in dynamic request spec at index `{index}` (1-based): `{jump}` " ++
        "is not a valid jump"

inductive Error where
  | setupSpec (source : ResolveError)
  | userSpec (source : ResolveError)
  | httpExtract (message : String)
  deriving DecidableEq

def Error.text : Error → String
  | .setupSpec source => "failed to retrieve next setup request: " ++ source.text
  | .userSpec source => "failed to retrieve next user request: " ++ source.text
  | .httpExtract message => message

/-- How a call that runs script code ends: it returns, it panics, or it has not
returned yet. -/
inductive Run (Value : Type) where
  | returned (value : Value)
  | panicked
  | unfinished

def Run.map {First Second : Type} (convert : First → Second) : Run First → Run Second
  | .returned value => .returned (convert value)
  | .panicked => .panicked
  | .unfinished => .unfinished

inductive DynamicResolve where
  | spec (spec : RequestSpec)
  | jump (name : String)

variable {World : Type}

def coerceToString (lua : Lua World) (value : LuaValue) (world : World) :
    Except CallError String :=
  match value with
  | .string bytes =>
      match stringFromUtf8 bytes with
      | .ok string => .ok string
      | .error _ => .error (.nonUtf8String (lua.debug value world))
  | other => .error (.notStringCoercible (lua.debug other world) other.typeName)

def callDynamicFunc (lua : Lua World) (index : Nat) (function : LuaFunction) (world : World) :
    Except CallError DynamicResolve × World :=
  let (result, world) := lua.call function world
  let resolved := do
    match ← result.mapError CallError.call with
    | .table contents =>
        let spec ← (lua.parseStaticSpec contents world).mapError (.invalidSpec index)
        return .spec spec
    | other => return .jump (← coerceToString lua other world)
  (resolved, world)

/-- The position of each name, the last one where a name is given twice. -/
def specsByName (specs : List LuaRequestSpec) : SortedMap String Nat :=
  .ofEntries (specs.zipIdx.filterMap fun (spec, index) => spec.name.map (·, index))

def lookupSpec (byName : SortedMap String Nat) (name : String) : Option Nat :=
  (byName.entries.find? fun entry => entry.1 = name).map (·.2)

/-- At most `calls` further calls of dynamic functions. -/
def resolve (lua : Lua World) (specs : List LuaRequestSpec) (byName : SortedMap String Nat) :
    Nat → Nat → LuaFunction → World →
      Run (Except ResolveError (Nat × RequestSpec) × World)
  | 0, _, _, _ => .unfinished
  | calls + 1, cursor, function, world =>
      match callDynamicFunc lua cursor function world with
      | (.error source, world) => .returned (.error (.dynamic (cursor + 1) source), world)
      | (.ok (.spec spec), world) => .returned (.ok (cursor, spec), world)
      | (.ok (.jump jump), world) =>
          match lookupSpec byName jump with
          | none => .returned (.error (.unknownJump (cursor + 1) jump), world)
          | some index =>
              match specs[index]? with
              | none => .panicked
              | some ⟨_, .static spec⟩ => .returned (.ok (index, spec), world)
              | some ⟨_, .dynamic function⟩ =>
                  resolve lua specs byName calls index function world

/-- The spec at the cursor with its index; the caller moves the cursor behind it. -/
def nextSpec (lua : Lua World) (specs : List LuaRequestSpec) (byName : SortedMap String Nat)
    (calls cursor : Nat) (world : World) :
    Run (Except ResolveError (Nat × RequestSpec) × World) :=
  match specs[cursor]? with
  | none => .panicked
  | some ⟨_, .static spec⟩ => .returned (.ok (cursor, spec), world)
  | some ⟨_, .dynamic function⟩ => resolve lua specs byName calls cursor function world

theorem lookupSpec_lt {specs : List LuaRequestSpec} {name : String} {index : Nat}
    (found : lookupSpec (specsByName specs) name = some index) : index < specs.length := by
  rcases Option.map_eq_some_iff.mp found with ⟨entry, entryEq, rfl⟩
  have member := SortedMap.mem_ofEntries (List.mem_of_find?_eq_some entryEq)
  rcases List.mem_filterMap.mp member with ⟨⟨spec, position⟩, inSpecs, named⟩
  rcases Option.map_eq_some_iff.mp named with ⟨_, -, rfl⟩
  simpa using (List.mem_zipIdx inSpecs).2.1

/-- A resolution that ends has found one of the specs. -/
def FindsSpec (specs : List LuaRequestSpec) :
    Run (Except ResolveError (Nat × RequestSpec) × World) → Prop
  | .returned (.ok (index, _), _) => index < specs.length
  | .returned (.error _, _) | .unfinished => True
  | .panicked => False

theorem resolve_findsSpec (lua : Lua World) (specs : List LuaRequestSpec) {calls cursor : Nat}
    {function : LuaFunction} {world : World} (bound : cursor < specs.length) :
    FindsSpec specs (resolve lua specs (specsByName specs) calls cursor function world) := by
  induction calls generalizing cursor function world with
  | zero => trivial
  | succ calls ih =>
      unfold resolve
      split
      · trivial
      · exact bound
      · split
        · trivial
        · next index found =>
            have inside := lookupSpec_lt found
            split
            · next missing => exact absurd inside (List.getElem?_eq_none_iff.mp missing).not_gt
            · exact inside
            · exact ih inside

theorem nextSpec_findsSpec (lua : Lua World) {specs : List LuaRequestSpec} {calls cursor : Nat}
    {world : World} (bound : cursor < specs.length) :
    FindsSpec specs (nextSpec lua specs (specsByName specs) calls cursor world) := by
  unfold nextSpec
  split
  · next missing => exact absurd bound (List.getElem?_eq_none_iff.mp missing).not_gt
  · exact bound
  · exact resolve_findsSpec lua specs bound

end Script

def SpecId.ofIndex (index : Nat) : SpecId := ⟨UInt64.ofNat index⟩

structure ScriptRunner (World : Type) where
  world : World
  setupSpecs : List LuaRequestSpec
  setupSpecsByName : SortedMap String Nat
  setupCursor : Nat
  userSpecs : List LuaRequestSpec
  userSpecsByName : SortedMap String Nat
  userCursor : Nat

/-- The cursor from before the spec was taken. -/
structure RevertHandle where
  previousCursor : Nat
  deriving DecidableEq

namespace ScriptRunner

open Script

variable {World : Type}

/-- A runner for the specs that the script's two functions returned; `none` where
the request table is empty. -/
def ofSpecs (setupSpecs userSpecs : List LuaRequestSpec) (world : World) :
    Option (ScriptRunner World) :=
  if userSpecs.isEmpty then none
  else some
    { world
      setupSpecs
      setupSpecsByName := specsByName setupSpecs
      setupCursor := 0
      userSpecs
      userSpecsByName := specsByName userSpecs
      userCursor := 0 }

def nextSetupSpec (lua : Lua World) (calls : Nat) (runner : ScriptRunner World) :
    Run (Except Error (Option (SpecId × RequestSpec)) × ScriptRunner World) :=
  if runner.setupSpecs.isEmpty ∨ runner.setupSpecs.length ≤ runner.setupCursor then
    .returned (.ok none, runner)
  else
    (nextSpec lua runner.setupSpecs runner.setupSpecsByName calls runner.setupCursor
      runner.world).map fun
      | (.error source, world) => (.error (.setupSpec source), { runner with world })
      | (.ok (index, spec), world) =>
          (.ok (some (.ofIndex index, spec)), { runner with world, setupCursor := index + 1 })

def nextUserSpec (lua : Lua World) (calls : Nat) (runner : ScriptRunner World) :
    Run (Except Error (RevertHandle × SpecId × RequestSpec) × ScriptRunner World) :=
  (nextSpec lua runner.userSpecs runner.userSpecsByName calls runner.userCursor
    runner.world).map fun
    | (.error source, world) => (.error (.userSpec source), { runner with world })
    | (.ok (index, spec), world) =>
        (.ok (⟨runner.userCursor⟩, .ofIndex index, spec),
          { runner with world, userCursor := (index + 1) % runner.userSpecs.length })

/-- The user cursor points at a spec, and names are looked up among the specs. -/
structure WellFormed (runner : ScriptRunner World) : Prop where
  cursor : runner.userCursor < runner.userSpecs.length
  byName : runner.userSpecsByName = specsByName runner.userSpecs

/-- The same script with its user cursor at `cursor`, whatever its runtime has done. -/
structure MovedTo (before after : ScriptRunner World) (cursor : Nat) : Prop where
  specs : after.userSpecs = before.userSpecs
  byName : after.userSpecsByName = before.userSpecsByName
  cursor : after.userCursor = cursor

theorem WellFormed.movedTo {before after : ScriptRunner World} {cursor : Nat}
    (wellFormed : before.WellFormed) (moved : before.MovedTo after cursor)
    (bound : cursor < before.userSpecs.length) : after.WellFormed where
  cursor := by rw [moved.cursor, moved.specs]; exact bound
  byName := by rw [moved.byName, moved.specs, wellFormed.byName]

/-- `next_user_spec` never panics.  It moves the cursor behind the spec that it returns,
and not at all when it fails. -/
theorem nextUserSpec_spec (lua : Lua World) {calls : Nat} {runner : ScriptRunner World}
    (wellFormed : runner.WellFormed) :
    match runner.nextUserSpec lua calls with
    | .panicked => False
    | .unfinished => True
    | .returned (.error _, after) => runner.MovedTo after runner.userCursor
    | .returned (.ok (handle, specId, _), after) =>
        handle = ⟨runner.userCursor⟩ ∧ ∃ index < runner.userSpecs.length,
          specId = .ofIndex index ∧
            runner.MovedTo after ((index + 1) % runner.userSpecs.length) := by
  have finds : FindsSpec runner.userSpecs (nextSpec lua runner.userSpecs
      (specsByName runner.userSpecs) calls runner.userCursor runner.world) :=
    nextSpec_findsSpec lua wellFormed.cursor
  rw [← wellFormed.byName] at finds
  unfold nextUserSpec
  cases result : nextSpec lua runner.userSpecs runner.userSpecsByName calls runner.userCursor
      runner.world with
  | panicked => rw [result] at finds; exact finds
  | unfinished => trivial
  | returned value =>
      rw [result] at finds
      rcases value with ⟨_ | ⟨index, spec⟩, world⟩
      · exact ⟨rfl, rfl, rfl⟩
      · exact ⟨rfl, index, finds, rfl, rfl, rfl, rfl⟩

def revert (handle : RevertHandle) (runner : ScriptRunner World) : ScriptRunner World :=
  { runner with userCursor := handle.previousCursor }

def runHttpExtract (lua : Lua World) (runner : ScriptRunner World)
    (spec : HttpStaticRequestSpec) (response : Response) :
    Except Error Unit × ScriptRunner World :=
  match spec.extract with
  | none => (.ok (), runner)
  | some function =>
      let (result, world) := lua.callExtract function response runner.world
      (result.mapError .httpExtract, { runner with world })

end ScriptRunner

end CreoBench
