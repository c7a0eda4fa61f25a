import CreoBench.ScriptRunner

/-!
# Parsing the requests of a script

A script hands over its requests as Lua values: a function, a table that is a static
spec, or a table that gives a name to one of both.  The tables have no metatables, so
that reading a field runs no script code.  How the Lua library turns values into JSON
and numbers into strings is a parameter, and so is the lower case of the characters
outside of ASCII.
-/

namespace CreoBench

namespace Parser

/-- The types of values that no spec has a use for. -/
inductive OtherType where
  | lightUserData | thread | userData | error | other
  deriving DecidableEq

def OtherType.name : OtherType → String
  | .lightUserData => "lightuserdata"
  | .thread => "thread"
  | .userData => "userdata"
  | .error => "error"
  | .other => "other"

/-- `mlua::Value`; tables, functions and values of other types are known by their handles. -/
inductive Value where
  | nil
  | boolean (value : Bool)
  | integer (value : Int64)
  | number (value : Binary64)
  | string (bytes : List UInt8)
  | table (table : LuaTable)
  | function (function : LuaFunction)
  | other (type : OtherType) (handle : Nat)
  deriving DecidableEq

def Value.typeName : Value → String
  | .nil => "nil"
  | .boolean _ => "boolean"
  | .integer _ => "integer"
  | .number _ => "number"
  | .string _ => "string"
  | .table _ => "table"
  | .function _ => "function"
  | .other type _ => type.name

/-- The entries of a table without a metatable, in the order in which `next` visits them. -/
structure PlainTable where
  entries : List (Value × Value)
  nodup : (entries.map (·.1)).Nodup
  present : ∀ entry ∈ entries, entry.2 ≠ .nil

def PlainTable.get (table : PlainTable) (field : String) : Value :=
  match table.entries.find? fun entry => entry.1 = .string (utf8Bytes field) with
  | some (_, value) => value
  | none => .nil

/-- The lower case of characters outside of ASCII, which may depend on where they stand.  Two
of them have an ASCII letter in their lower case, U+0130 an `i` and U+212A a `k`. -/
structure UnicodeLowercase where
  map : List Char → Char → List Char → List Char
  map_ne_nil : ∀ before char after, map before char after ≠ []
  ascii : ∀ before char after, 128 ≤ char.val → ∀ letter ∈ map before char after,
    letter.val < 128 → letter = 'i' ∨ letter = 'k'

/-- The characters after `before` in lower case. -/
def UnicodeLowercase.lower (unicode : UnicodeLowercase) : List Char → List Char → List Char
  | _, [] => []
  | before, char :: after =>
      (if char.val < 128 then [char.toLower] else unicode.map before char after) ++
        unicode.lower (before ++ [char]) after

/-- `str::to_lowercase` -/
def UnicodeLowercase.toLowercase (unicode : UnicodeLowercase) (text : String) : String :=
  .ofList (unicode.lower [] text.toList)

/-- Why a key does not convert into a string. -/
inductive KeyError where
  | notUtf8 (bytes : List UInt8)
  | notCoercible (typeName : String)
  deriving DecidableEq

/-- The tables of the runtime, and what its library does with values. -/
structure Runtime where
  contents : LuaTable → PlainTable
  /-- The conversion into JSON. -/
  fromValue : Value → Except String JsonValue
  /-- A number as Lua converts it into a string. -/
  keyText : Binary64 → String
  /-- `Display` of a number. -/
  numberText : Binary64 → String
  unicode : UnicodeLowercase
  /-- `Debug` of a value and of a string, and `Display` of an error. -/
  debug : Value → String
  debugString : List UInt8 → String
  displayKeyError : KeyError → String

def Runtime.get (runtime : Runtime) (table : LuaTable) (field : String) : Value :=
  (runtime.contents table).get field

inductive HttpError where
  | unknownMethod (method : String)
  deriving DecidableEq

def HttpError.text : HttpError → String
  | .unknownMethod method =>
      s!"invalid value for field `method`: unknown HTTP method: `{method}`"

inductive Error where
  | lua (source : KeyError)
  | invalidProtocol (protocol : String)
  | invalidHttpSpec (source : HttpError)
  | requiredFieldMissing (field : String)
  | fieldNotString (field typeName : String)
  | fieldStringValueNotUtf8 (field : String) (value : List UInt8)
  | fieldNotTable (field typeName : String)
  | stringMapValueNotCoercible (field key : String) (value : Value)
  | bodyNotJson (source : String)
  | fieldNotFunction (field typeName : String)
  | invalidSpecType (typeName : String)
  | invalidRequestSpec (typeName : String)
  deriving DecidableEq

def Error.text (runtime : Runtime) : Error → String
  | .lua source => s!"unexpected Lua error: {runtime.displayKeyError source}"
  | .invalidProtocol protocol => s!"invalid `protocol` field: {protocol}"
  | .invalidHttpSpec source => s!"invalid http spec: {source.text}"
  | .requiredFieldMissing field => s!"field `{field}` is required, but is missing"
  | .fieldNotString field typeName =>
      s!"field `{field}` must be a string, but got type `{typeName}`"
  | .fieldStringValueNotUtf8 field value =>
      s!"field `{field}` is not a valid UTF-8 string (got `{runtime.debugString value}`)"
  | .fieldNotTable field typeName =>
      s!"field `{field}` must be a table, but got type `{typeName}`"
  | .stringMapValueNotCoercible field key value =>
      s!"value for key `{key}` in field `{field}` is not string-coercible " ++
        s!"(got `{runtime.debug value}`)"
  | .bodyNotJson source => s!"table in field `body` is not a valid JSON value: {source}"
  | .fieldNotFunction field typeName =>
      s!"field `{field}` must be a function, but got type `{typeName}`"
  | .invalidSpecType typeName =>
      s!"invalid request spec type: expected `table` or `function`, but got type `{typeName}`"
  | .invalidRequestSpec typeName =>
      s!"invalid request spec: expected `table`, but got type `{typeName}`"

end Parser

/-- The name of a method in lower case. -/
def HttpMethod.name : HttpMethod → String
  | .get => "get"
  | .post => "post"
  | .put => "put"
  | .delete => "delete"
  | .patch => "patch"
  | .head => "head"
  | .options => "options"

/-- `str::to_ascii_lowercase` -/
def toAsciiLowercase (text : String) : String := .ofList (text.toList.map Char.toLower)

def HttpMethod.fromStr (text : String) : Except Parser.HttpError HttpMethod :=
  match toAsciiLowercase text with
  | "get" => .ok .get
  | "post" => .ok .post
  | "put" => .ok .put
  | "delete" => .ok .delete
  | "patch" => .ok .patch
  | "head" => .ok .head
  | "options" => .ok .options
  | _ => .error (.unknownMethod text)

namespace Parser

/-! ## HTTP specs -/

def utf8String (field : String) (bytes : List UInt8) : Except Error String :=
  match stringFromUtf8 bytes with
  | .ok text => .ok text
  | .error _ => .error (.fieldStringValueNotUtf8 field bytes)

/-- The value of a required field. -/
def requiredString (field : String) : Value → Except Error String
  | .nil => .error (.requiredFieldMissing field)
  | .string bytes => utf8String field bytes
  | other => .error (.fieldNotString field other.typeName)

def parseMethod (runtime : Runtime) (table : LuaTable) : Except Error HttpMethod := do
  let method ← requiredString "method" (runtime.get table "method")
  (HttpMethod.fromStr method).mapError .invalidHttpSpec

def parseService (runtime : Runtime) (table : LuaTable) : Except Error String :=
  requiredString "service" (runtime.get table "service")

def parsePath (runtime : Runtime) (table : LuaTable) : Except Error String :=
  requiredString "path" (runtime.get table "path")

/-- The conversion of a key into a `String`. -/
def keyString (runtime : Runtime) : Value → Except KeyError String
  | .string bytes =>
      match stringFromUtf8 bytes with
      | .ok text => .ok text
      | .error _ => .error (.notUtf8 bytes)
  | .integer value => .ok (toString value.toInt)
  | .number value => .ok (runtime.keyText value)
  | other => .error (.notCoercible other.typeName)

def coerceToString (runtime : Runtime) : Value → Option String
  | .string bytes => (stringFromUtf8 bytes).toOption
  | .integer value => some (toString value.toInt)
  | .number value => some (runtime.numberText value)
  | .boolean value => some (toString value)
  | _ => none

/-- One round of the loop over the pairs of a table. -/
def parseEntry (runtime : Runtime) (field : String) (entry : Value × Value) :
    Except Error (String × String) := do
  let key ← (keyString runtime entry.1).mapError .lua
  match coerceToString runtime entry.2 with
  | some value => return (key, value)
  | none => throw (.stringMapValueNotCoercible field key entry.2)

def parseStringMap (runtime : Runtime) (table : LuaTable) (field : String) :
    Except Error (List (String × String)) :=
  match runtime.get table field with
  | .nil => .ok []
  | .table map => (runtime.contents map).entries.mapM (parseEntry runtime field)
  | other => .error (.fieldNotTable field other.typeName)

def parseBody (runtime : Runtime) (table : LuaTable) : Except Error (Option JsonValue) :=
  let body := runtime.get table "body"
  if body = .nil then .ok none
  else (some <$> runtime.fromValue body).mapError .bodyNotJson

def parseExtract (runtime : Runtime) (table : LuaTable) : Except Error (Option LuaFunction) :=
  match runtime.get table "extract" with
  | .nil => .ok none
  | .function function => .ok (some function)
  | other => .error (.fieldNotFunction "extract" other.typeName)

def parseHttpSpec (runtime : Runtime) (table : LuaTable) :
    Except Error HttpStaticRequestSpec := do
  let method ← parseMethod runtime table
  let service ← parseService runtime table
  let path ← parsePath runtime table
  let headers ← parseStringMap runtime table "headers"
  let query ← parseStringMap runtime table "query"
  let body ← parseBody runtime table
  let extract ← parseExtract runtime table
  return { method, service, path, headers, query, body, extract }

/-! ## Entries -/

def parseStaticSpec (runtime : Runtime) (table : LuaTable) : Except Error RequestSpec := do
  let protocol ← requiredString "protocol" (runtime.get table "protocol")
  match runtime.unicode.toLowercase protocol with
  | "http" => return .http (← parseHttpSpec runtime table)
  | protocol => throw (.invalidProtocol protocol)

def parseName (runtime : Runtime) (table : LuaTable) : Except Error (Option String) :=
  match runtime.get table "name" with
  | .nil => .ok none
  | .string bytes => some <$> utf8String "name" bytes
  | other => .error (.fieldNotString "name" other.typeName)

/-- What a table specifies, apart from its name. -/
def parseSpecType (runtime : Runtime) (table : LuaTable) :
    Option String → Except Error SpecType
  | none => .static <$> parseStaticSpec runtime table
  | some _ =>
      match runtime.get table "spec" with
      | .table spec => .static <$> parseStaticSpec runtime spec
      | .function function => .ok (.dynamic function)
      | other => .error (.invalidSpecType other.typeName)

def parseSpec (runtime : Runtime) : Value → Except Error LuaRequestSpec
  | .table table => do
      let name ← parseName runtime table
      let spec ← parseSpecType runtime table name
      return { name, spec }
  | .function function => .ok { name := none, spec := .dynamic function }
  | other => .error (.invalidRequestSpec other.typeName)

end Parser

end CreoBench
