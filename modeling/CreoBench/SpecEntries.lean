import CreoBench.JumpResolution
import CreoBench.SpecGrammar

/-!
# Static specs and the entries of a script

The fields of a static spec are parsed one after the other, and an entry is a function,
a static spec, or one of both with a name.  An entry that the grammar accepts is parsed
with all that it gives, and any other one is refused with the fault of the first field
that does not comply.
-/

namespace CreoBench

namespace Parser

open FirstFault (cons_iff cons_iff_bind nil_iff)

/-! ## Fields -/

/-- The fields of a static spec. -/
inductive StaticField where
  | protocol | method | service | path | headers | query | body | extract

namespace StaticField

def name : StaticField → String
  | protocol => "protocol"
  | method => "method"
  | service => "service"
  | path => "path"
  | headers => "headers"
  | query => "query"
  | body => "body"
  | extract => "extract"

/-- The fields of an HTTP spec, in the order in which they are parsed. -/
def http : List StaticField := [method, service, path, headers, query, body, extract]

def all : List StaticField := protocol :: http

end StaticField

inductive ProtocolFault (runtime : Runtime) : Value → Error → Prop
  | noText {value : Value} {err : Error} :
      NoText "protocol" value err → ProtocolFault runtime value err
  | unknown {value : Value} {text : String} :
      value.IsText text → ¬SameIgnoringCase text "http" →
        ProtocolFault runtime value (.invalidProtocol (runtime.unicode.toLowercase text))

/-- What the grammar demands of the value of a field. -/
def Complies (runtime : Runtime) : StaticField → Value → Prop
  | .protocol, value => ∃ text, value.IsText text ∧ SameIgnoringCase text "http"
  | .method, value => ∃ (text : String) (method : HttpMethod),
      value.IsText text ∧ SameIgnoringCase text method.name
  | .service, value | .path, value => ∃ text, value.IsText text
  | .headers, value | .query, value => IsMap runtime value
  | .body, value => value = .nil ∨ ∃ json, runtime.fromValue value = .ok json
  | .extract, value => value = .nil ∨ ∃ function, value = .function function

def Offends (runtime : Runtime) : StaticField → Value → Error → Prop
  | .protocol => ProtocolFault runtime
  | .method => MethodFault
  | .service => NoText "service"
  | .path => NoText "path"
  | .headers => MapFault runtime "headers"
  | .query => MapFault runtime "query"
  | .body => BodyFault runtime
  | .extract => ExtractFault

/-- The first of the fields of a table that does not comply has this fault. -/
def StaticFault (runtime : Runtime) (fields : List StaticField) (table : LuaTable)
    (err : Error) : Prop :=
  FirstFault (fun field => Complies runtime field (runtime.get table field.name))
    (fun field => Offends runtime field (runtime.get table field.name)) fields err

theorem complies_method {runtime : Runtime} {value : Value} :
    Complies runtime .method value ↔ ∃ method, GivesMethod value method :=
  exists_comm

theorem isMap_iff {runtime : Runtime} {value : Value} :
    IsMap runtime value ↔ ∃ pairs, GivesPairs runtime value pairs := by
  constructor
  · rintro (rfl | ⟨map, rfl, entries⟩)
    · exact ⟨[], .absent⟩
    · have given : ∀ entry ∈ (runtime.contents map).entries, ∃ pair,
          GivesEntry runtime entry pair := fun entry member => isEntry_iff.mp (entries entry member)
      choose! pair pairGiven using given
      refine ⟨(runtime.contents map).entries.map pair, .table ?_⟩
      rw [List.forall₂_map_right_iff, List.forall₂_same]
      exact pairGiven
  · rintro ⟨pairs, given⟩
    cases given with
    | absent => exact .inl rfl
    | @table map pairs entries =>
        have each := entries.imp fun entry pair pairGiven =>
          And.intro (isEntry_iff.mpr ⟨pair, pairGiven⟩) pairGiven
        exact .inr ⟨map, rfl, ((List.forall₂_and_left _ _).mp each).1⟩

theorem complies_body {runtime : Runtime} {value : Value} :
    Complies runtime .body value ↔ ∃ body, GivesBody runtime value body := by
  constructor
  · rintro (rfl | ⟨json, converted⟩)
    · exact ⟨none, .absent⟩
    · by_cases absent : value = .nil
      · exact ⟨none, absent ▸ .absent⟩
      · exact ⟨some json, .json absent converted⟩
  · rintro ⟨body, - | ⟨-, converted⟩⟩
    · exact .inl rfl
    · exact .inr ⟨_, converted⟩

theorem complies_extract {runtime : Runtime} {value : Value} :
    Complies runtime .extract value ↔ ∃ extract, GivesExtract value extract := by
  constructor
  · rintro (rfl | ⟨function, rfl⟩)
    · exact ⟨none, .absent⟩
    · exact ⟨some function, .function function⟩
  · rintro ⟨extract, - | function⟩
    · exact .inl rfl
    · exact .inr ⟨function, rfl⟩

/-! ## Static specs -/

/-- The contents of the fields of an HTTP spec. -/
structure GivesHttp (runtime : Runtime) (table : LuaTable) (spec : HttpStaticRequestSpec) :
    Prop where
  method : GivesMethod (runtime.get table "method") spec.method
  service : (runtime.get table "service").IsText spec.service
  path : (runtime.get table "path").IsText spec.path
  headers : GivesPairs runtime (runtime.get table "headers") spec.headers
  query : GivesPairs runtime (runtime.get table "query") spec.query
  body : GivesBody runtime (runtime.get table "body") spec.body
  extract : GivesExtract (runtime.get table "extract") spec.extract

/-- The only protocol is HTTP. -/
inductive GivesStatic (runtime : Runtime) (table : LuaTable) : RequestSpec → Prop
  | http {spec : HttpStaticRequestSpec} :
      Complies runtime .protocol (runtime.get table "protocol") → GivesHttp runtime table spec →
        GivesStatic runtime table (.http spec)

/-- A valid static spec. -/
def IsStatic (runtime : Runtime) (table : LuaTable) : Prop :=
  ∀ field : StaticField, Complies runtime field (runtime.get table field.name)

theorem isStatic_iff {runtime : Runtime} {table : LuaTable} :
    IsStatic runtime table ↔ ∃ spec, GivesStatic runtime table spec := by
  constructor
  · intro isStatic
    obtain ⟨method, methodGiven⟩ := complies_method.mp (isStatic .method)
    obtain ⟨service, serviceGiven⟩ := isStatic .service
    obtain ⟨path, pathGiven⟩ := isStatic .path
    obtain ⟨headers, headersGiven⟩ := isMap_iff.mp (isStatic .headers)
    obtain ⟨query, queryGiven⟩ := isMap_iff.mp (isStatic .query)
    obtain ⟨body, bodyGiven⟩ := complies_body.mp (isStatic .body)
    obtain ⟨extract, extractGiven⟩ := complies_extract.mp (isStatic .extract)
    exact ⟨.http ⟨method, service, path, headers, query, body, extract⟩, .http (isStatic .protocol)
      ⟨methodGiven, serviceGiven, pathGiven, headersGiven, queryGiven, bodyGiven, extractGiven⟩⟩
  · rintro ⟨-, protocol, given⟩ field
    cases field with
    | protocol => exact protocol
    | method => exact complies_method.mpr ⟨_, given.method⟩
    | service => exact ⟨_, given.service⟩
    | path => exact ⟨_, given.path⟩
    | headers => exact isMap_iff.mpr ⟨_, given.headers⟩
    | query => exact isMap_iff.mpr ⟨_, given.query⟩
    | body => exact complies_body.mpr ⟨_, given.body⟩
    | extract => exact complies_extract.mpr ⟨_, given.extract⟩

theorem parseHttpSpec_decides (runtime : Runtime) (table : LuaTable) :
    Decides (parseHttpSpec runtime table) (GivesHttp runtime table)
      (StaticFault runtime StaticField.http table) := by
  have steps := (parseMethod_decides runtime table).bind fun method _ =>
    (requiredString_decides "service" (runtime.get table "service")).bind fun service _ =>
    (requiredString_decides "path" (runtime.get table "path")).bind fun path _ =>
    (parseStringMap_decides runtime table "headers").bind fun headers _ =>
    (parseStringMap_decides runtime table "query").bind fun query _ =>
    (parseBody_decides runtime table).bind fun body _ =>
    (parseExtract_decides runtime table).bind fun extract _ =>
    Decides.pure ({ method, service, path, headers, query, body, extract } :
      HttpStaticRequestSpec)
  refine steps.congr (fun spec => ?_) (fun err => ?_)
  · constructor
    · rintro ⟨_, method, _, service, _, path, _, headers, _, query, _, body, _, extract, rfl⟩
      exact ⟨method, service, path, headers, query, body, extract⟩
    · rintro ⟨method, service, path, headers, query, body, extract⟩
      exact ⟨_, method, _, service, _, path, _, headers, _, query, _, body, _, extract, rfl⟩
  · symm
    rw [StaticFault, StaticField.http]
    refine cons_iff_bind ?method <| cons_iff_bind ?service <| cons_iff_bind ?path <|
      cons_iff_bind ?headers <| cons_iff_bind ?query <| cons_iff_bind ?body <|
      cons_iff_bind ?extract nil_iff
    case method => exact complies_method
    case service | path => exact Iff.rfl
    case headers | query => exact isMap_iff
    case body => exact complies_body
    case extract => exact complies_extract

theorem parseStaticSpec_eq (runtime : Runtime) (table : LuaTable) :
    parseStaticSpec runtime table =
      requiredString "protocol" (runtime.get table "protocol") >>= fun text =>
        if runtime.unicode.toLowercase text = "http" then
          RequestSpec.http <$> parseHttpSpec runtime table
        else .error (.invalidProtocol (runtime.unicode.toLowercase text)) := by
  unfold parseStaticSpec
  congr 1
  funext text
  split
  case h_1 lower => rw [if_pos lower, map_eq_pure_bind]
  case h_2 other => exact (if_neg other).symm

theorem parseStaticSpec_decides (runtime : Runtime) (table : LuaTable) :
    Decides (parseStaticSpec runtime table) (GivesStatic runtime table)
      (StaticFault runtime StaticField.all table) := by
  have http := (parseHttpSpec_decides runtime table).map RequestSpec.http
  have protocol : ∀ text, (runtime.get table "protocol").IsText text →
      Decides (if runtime.unicode.toLowercase text = "http" then
            RequestSpec.http <$> parseHttpSpec runtime table
          else .error (.invalidProtocol (runtime.unicode.toLowercase text)))
        (fun spec => SameIgnoringCase text "http" ∧
          ∃ http, GivesHttp runtime table http ∧ .http http = spec)
        (fun err => ¬SameIgnoringCase text "http" ∧
            err = .invalidProtocol (runtime.unicode.toLowercase text) ∨
          SameIgnoringCase text "http" ∧ StaticFault runtime StaticField.http table err) := by
    intro text _
    split
    case isTrue lower =>
      have isHttp := toLowercase_eq_http_iff.mp lower
      refine http.congr (fun spec => ?_) (fun err => ?_)
      · exact (and_iff_right isHttp).symm
      · simp [isHttp]
    case isFalse other =>
      have notHttp := toLowercase_eq_http_iff.not.mp other
      refine .of_error (fun spec given => notHttp given.1) fun err => ?_
      simp [notHttp]
  rw [parseStaticSpec_eq]
  refine ((requiredString_decides "protocol" _).bind protocol).congr (fun spec => ?_)
    (fun err => ?_)
  · constructor
    · rintro ⟨text, isText, isHttp, http, given, rfl⟩
      exact .http ⟨text, isText, isHttp⟩ given
    · rintro ⟨⟨text, isText, isHttp⟩, given⟩
      exact ⟨text, isText, isHttp, _, given, rfl⟩
  · simp only [StaticFault, StaticField.all, cons_iff]
    constructor
    · rintro (noText | ⟨text, isText, ⟨notHttp, rfl⟩ | ⟨isHttp, isFault⟩⟩)
      · exact .inl (.noText noText)
      · exact .inl (.unknown isText notHttp)
      · exact .inr ⟨⟨text, isText, isHttp⟩, isFault⟩
    · rintro ((noText | ⟨isText, notHttp⟩) | ⟨⟨text, isText, isHttp⟩, isFault⟩)
      · exact .inl noText
      · exact .inr ⟨_, isText, .inl ⟨notHttp, rfl⟩⟩
      · exact .inr ⟨text, isText, .inr ⟨isHttp, isFault⟩⟩

/-! ## Entries -/

inductive GivesName : Value → Option String → Prop
  | absent : GivesName .nil none
  | text {value : Value} {name : String} : value.IsText name → GivesName value (some name)

/-- A named table gives its spec in a field of its own. -/
inductive GivesType (runtime : Runtime) (table : LuaTable) : Option String → SpecType → Prop
  | anonymous {spec : RequestSpec} :
      GivesStatic runtime table spec → GivesType runtime table none (.static spec)
  | static {name : String} {inner : LuaTable} {spec : RequestSpec} :
      runtime.get table "spec" = .table inner → GivesStatic runtime inner spec →
        GivesType runtime table (some name) (.static spec)
  | dynamic {name : String} {function : LuaFunction} :
      runtime.get table "spec" = .function function →
        GivesType runtime table (some name) (.dynamic function)

inductive TypeFault (runtime : Runtime) (table : LuaTable) : Option String → Error → Prop
  | anonymous {err : Error} :
      StaticFault runtime StaticField.all table err → TypeFault runtime table none err
  | static {name : String} {inner : LuaTable} {err : Error} :
      runtime.get table "spec" = .table inner → StaticFault runtime StaticField.all inner err →
        TypeFault runtime table (some name) err
  | notSpec {name : String} :
      (∀ inner, runtime.get table "spec" ≠ .table inner) →
        (∀ function, runtime.get table "spec" ≠ .function function) →
          TypeFault runtime table (some name)
            (.invalidSpecType (runtime.get table "spec").typeName)

/-- What an entry denotes. -/
inductive Denotes (runtime : Runtime) : Value → LuaRequestSpec → Prop
  | function (function : LuaFunction) :
      Denotes runtime (.function function) ⟨none, .dynamic function⟩
  | table {table : LuaTable} {name : Option String} {spec : SpecType} :
      GivesName (runtime.get table "name") name → GivesType runtime table name spec →
        Denotes runtime (.table table) ⟨name, spec⟩

/-- The grammar of entries. -/
inductive IsSpec (runtime : Runtime) : Value → Prop
  | function (function : LuaFunction) : IsSpec runtime (.function function)
  | anonymous {table : LuaTable} :
      runtime.get table "name" = .nil → IsStatic runtime table → IsSpec runtime (.table table)
  | namedStatic {table inner : LuaTable} {name : String} :
      (runtime.get table "name").IsText name → runtime.get table "spec" = .table inner →
        IsStatic runtime inner → IsSpec runtime (.table table)
  | namedDynamic {table : LuaTable} {function : LuaFunction} {name : String} :
      (runtime.get table "name").IsText name → runtime.get table "spec" = .function function →
        IsSpec runtime (.table table)

inductive SpecFault (runtime : Runtime) : Value → Error → Prop
  | notSpec {value : Value} :
      (∀ table, value ≠ .table table) → (∀ function, value ≠ .function function) →
        SpecFault runtime value (.invalidRequestSpec value.typeName)
  | name {table : LuaTable} {err : Error} :
      NotText "name" (runtime.get table "name") err → SpecFault runtime (.table table) err
  | type {table : LuaTable} {name : Option String} {err : Error} :
      GivesName (runtime.get table "name") name → TypeFault runtime table name err →
        SpecFault runtime (.table table) err

theorem isSpec_iff {runtime : Runtime} {value : Value} :
    IsSpec runtime value ↔ ∃ spec, Denotes runtime value spec := by
  constructor
  · rintro (function | ⟨unnamed, isStatic⟩ | ⟨named, inner, isStatic⟩ | ⟨named, function⟩)
    · exact ⟨_, .function function⟩
    · obtain ⟨spec, given⟩ := isStatic_iff.mp isStatic
      exact ⟨_, .table (unnamed ▸ .absent) (.anonymous given)⟩
    · obtain ⟨spec, given⟩ := isStatic_iff.mp isStatic
      exact ⟨_, .table (.text named) (.static inner given)⟩
    · exact ⟨_, .table (.text named) (.dynamic function)⟩
  · rintro ⟨spec, given⟩
    cases given with
    | function function => exact .function function
    | @table table name spec givesName givesType =>
        generalize nameEq : runtime.get table "name" = value at givesName
        rcases givesName with - | named
        · rcases givesType with ⟨given⟩
          exact .anonymous nameEq (isStatic_iff.mpr ⟨_, given⟩)
        · subst nameEq
          rcases givesType with - | ⟨inner, given⟩ | function
          · exact .namedStatic named inner (isStatic_iff.mpr ⟨_, given⟩)
          · exact .namedDynamic named function

theorem parseName_decides (runtime : Runtime) (table : LuaTable) :
    Decides (parseName runtime table) (GivesName (runtime.get table "name"))
      (NotText "name" (runtime.get table "name")) := by
  unfold parseName
  cases runtime.get table "name" with
  | nil =>
      refine .of_ok (fun name => ?_) (fun err => ?_)
      · constructor
        · rintro (- | ⟨⟨⟩⟩)
          rfl
        · rintro rfl
          exact .absent
      · rintro (- | ⟨present, -⟩)
        exact present rfl
  | string bytes =>
      refine ((utf8String_decides "name" bytes).map some).congr (fun name => ?_) (fun _ => Iff.rfl)
      constructor
      · rintro ⟨text, isText, rfl⟩
        exact .text isText
      · rintro (- | isText)
        exact ⟨_, isText, rfl⟩
  | boolean | integer | number | table | function | other =>
      refine .of_error (by rintro _ (- | ⟨⟨⟩⟩)) fun err => ?_
      exact notText_iff (by rintro ⟨⟩) (by rintro bytes ⟨⟩)

theorem parseSpecType_decides (runtime : Runtime) (table : LuaTable) (name : Option String) :
    Decides (parseSpecType runtime table name) (GivesType runtime table name)
      (TypeFault runtime table name) := by
  cases name with
  | none =>
      refine ((parseStaticSpec_decides runtime table).map SpecType.static).congr (fun spec => ?_)
        (fun err => ?_)
      · constructor
        · rintro ⟨spec, given, rfl⟩
          exact .anonymous given
        · rintro ⟨given⟩
          exact ⟨_, given, rfl⟩
      · exact ⟨.anonymous, by rintro ⟨isFault⟩; exact isFault⟩
  | some name =>
      rw [parseSpecType]
      cases valueEq : runtime.get table "spec" with
      | table inner =>
          refine ((parseStaticSpec_decides runtime inner).map SpecType.static).congr
            (fun spec => ?_) (fun err => ?_)
          · constructor
            · rintro ⟨spec, given, rfl⟩
              exact .static valueEq given
            · rintro (- | ⟨innerEq, given⟩ | functionEq)
              · cases valueEq.symm.trans innerEq
                exact ⟨_, given, rfl⟩
              · cases valueEq.symm.trans functionEq
          · constructor
            · exact .static valueEq
            · rintro (- | ⟨innerEq, isFault⟩ | ⟨notTable, -⟩)
              · cases valueEq.symm.trans innerEq
                exact isFault
              · exact absurd valueEq (notTable inner)
      | function function =>
          refine .of_ok (fun spec => ?_) (fun err => ?_)
          · constructor
            · rintro (- | ⟨innerEq, -⟩ | functionEq)
              · cases valueEq.symm.trans innerEq
              · cases valueEq.symm.trans functionEq
                rfl
            · rintro rfl
              exact .dynamic valueEq
          · rintro (- | ⟨innerEq, -⟩ | ⟨-, notFunction⟩)
            · cases valueEq.symm.trans innerEq
            · exact notFunction function valueEq
      | nil | boolean | integer | number | string | other =>
          refine .of_error (fun spec given => ?_) fun err => ?_
          · rcases given with - | ⟨innerEq, -⟩ | functionEq
            · cases valueEq.symm.trans innerEq
            · cases valueEq.symm.trans functionEq
          · rw [← valueEq]
            constructor
            · rintro (- | ⟨innerEq, -⟩ | -)
              · cases valueEq.symm.trans innerEq
              · rfl
            · rintro rfl
              exact .notSpec (by simp [valueEq]) (by simp [valueEq])

theorem parseSpec_decides (runtime : Runtime) (value : Value) :
    Decides (parseSpec runtime value) (Denotes runtime value) (SpecFault runtime value) := by
  cases value with
  | table table =>
      have steps := (parseName_decides runtime table).bind fun name _ =>
        (parseSpecType_decides runtime table name).bind fun spec _ =>
        Decides.pure ({ name, spec } : LuaRequestSpec)
      refine steps.congr (fun spec => ?_) (fun err => ?_)
      · constructor
        · rintro ⟨name, givesName, type, givesType, rfl⟩
          exact .table givesName givesType
        · rintro (- | ⟨givesName, givesType⟩)
          exact ⟨_, givesName, _, givesType, rfl⟩
      · constructor
        · rintro (notText | ⟨name, givesName, isFault | ⟨_, _, ⟨⟩⟩⟩)
          · exact .name notText
          · exact .type givesName isFault
        · rintro (⟨notTable, -⟩ | notText | ⟨givesName, isFault⟩)
          · exact absurd rfl (notTable table)
          · exact .inl notText
          · exact .inr ⟨_, givesName, .inl isFault⟩
  | function function =>
      refine .of_ok (fun spec => ?_) (fun err => ?_)
      · exact ⟨by rintro ⟨⟩; rfl, by rintro rfl; exact .function function⟩
      · rintro ⟨-, notFunction⟩
        exact notFunction function rfl
  | nil | boolean | integer | number | string | other =>
      refine .of_error (by rintro spec ⟨⟩) fun err => ?_
      constructor
      · rintro ⟨⟩
        rfl
      · rintro rfl
        exact .notSpec (by rintro _ ⟨⟩) (by rintro _ ⟨⟩)

/-! ## Acceptance and attribution -/

/-- The same name, and the same values in the fields that an entry with this name has. -/
structure SameFields (runtime : Runtime) (table other : LuaTable) : Prop where
  name : runtime.get other "name" = runtime.get table "name"
  spec : runtime.get table "name" ≠ .nil → runtime.get other "spec" = runtime.get table "spec"
  fields : runtime.get table "name" = .nil → ∀ field : StaticField,
    runtime.get other field.name = runtime.get table field.name

theorem parseStaticSpec_congr {runtime : Runtime} {table other : LuaTable}
    (same : ∀ field : StaticField,
      runtime.get other field.name = runtime.get table field.name) :
    parseStaticSpec runtime other = parseStaticSpec runtime table := by
  have protocol := same .protocol
  have method := same .method
  have service := same .service
  have path := same .path
  have headers := same .headers
  have query := same .query
  have body := same .body
  have extract := same .extract
  simp only [StaticField.name] at protocol method service path headers query body extract
  simp only [parseStaticSpec, parseHttpSpec, parseMethod, parseService, parsePath, parseStringMap,
    parseBody, parseExtract, protocol, method, service, path, headers, query, body, extract]

/-- Fields that an entry does not have are ignored. -/
theorem parseSpec_congr {runtime : Runtime} {table other : LuaTable}
    (same : SameFields runtime table other) :
    parseSpec runtime (.table other) = parseSpec runtime (.table table) := by
  have names : parseName runtime other = parseName runtime table := by
    rw [parseName, parseName, same.name]
  by_cases unnamed : runtime.get table "name" = .nil
  · have anonymous : parseName runtime table = .ok none := by
      rw [parseName, unnamed]
    simp only [parseSpec, names, anonymous, parseSpecType, parseStaticSpec_congr (same.fields unnamed)]
    rfl
  · have types : ∀ name, parseSpecType runtime other (some name) =
        parseSpecType runtime table (some name) := by
      intro name
      rw [parseSpecType, parseSpecType, same.spec unnamed]
    simp only [parseSpec, names]
    cases found : parseName runtime table with
    | error err => rfl
    | ok name =>
        have given := ((parseName_decides runtime table).ok name).mp found
        cases name with
        | none =>
            generalize runtime.get table "name" = value at given unnamed
            cases given
            exact absurd rfl unnamed
        | some name =>
            exact congrArg (· >>= fun spec => pure (⟨some name, spec⟩ : LuaRequestSpec))
              (types name)

/-- The field that an error names. -/
def Error.field : Error → Option String
  | .invalidProtocol _ => some "protocol"
  | .invalidHttpSpec _ => some "method"
  | .bodyNotJson _ => some "body"
  | .requiredFieldMissing field | .fieldNotString field _ | .fieldStringValueNotUtf8 field _
  | .fieldNotTable field _ | .stringMapValueNotCoercible field _ _ | .fieldNotFunction field _ =>
      some field
  | .lua _ | .invalidSpecType _ | .invalidRequestSpec _ => none

theorem NoText.field {field : String} {value : Value} {err : Error}
    (noText : NoText field value err) : err.field = some field := by
  rcases noText with ⟨-, rfl⟩ | (- | -) <;> rfl

/-- The error of a field names it, unless Lua refuses to convert a key. -/
theorem field_of_offends {runtime : Runtime} {field : StaticField} {value : Value} {err : Error}
    (offends : Offends runtime field value err) :
    err.field = some field.name ∨
      (field = .headers ∨ field = .query) ∧ ∃ source, err = .lua source := by
  have entries : ∀ name, MapFault runtime name value err →
      err.field = some name ∨ ∃ source, err = .lua source := by
    rintro name (⟨-, -, -, -, -, - | -⟩ | -)
    · exact .inr ⟨_, rfl⟩
    · exact .inl rfl
    · exact .inl rfl
  cases field with
  | protocol =>
      rcases offends with noText | -
      · exact .inl noText.field
      · exact .inl rfl
  | method =>
      rcases offends with noText | -
      · exact .inl noText.field
      · exact .inl rfl
  | service | path => exact .inl (NoText.field offends)
  | headers => exact (entries "headers" offends).imp_right fun key => ⟨.inl rfl, key⟩
  | query => exact (entries "query" offends).imp_right fun key => ⟨.inr rfl, key⟩
  | body =>
      cases offends
      exact .inl rfl
  | extract =>
      cases offends
      exact .inl rfl

/-- The parser accepts exactly the entries of the grammar, with exactly what they give,
refuses any other value with the fault that comes first, and ignores all other fields. -/
theorem parseSpec_exact (runtime : Runtime) (value : Value) :
    ((∃ spec, parseSpec runtime value = .ok spec) ↔ IsSpec runtime value) ∧
      (∀ spec, parseSpec runtime value = .ok spec ↔ Denotes runtime value spec) ∧
      (∀ err, parseSpec runtime value = .error err ↔ SpecFault runtime value err) ∧
      ∀ table other, value = .table table → SameFields runtime table other →
        parseSpec runtime (.table other) = parseSpec runtime value := by
  have decides := parseSpec_decides runtime value
  refine ⟨?_, decides.ok, decides.error, ?_⟩
  · rw [isSpec_iff]
    exact exists_congr decides.ok
  · rintro table other rfl same
    exact parseSpec_congr same

/-! ## Tables that functions return -/

section Answers

open Script

variable {World : Type}

/-- A runtime whose static specs are parsed here. -/
def parsing (lua : Lua World) (runtime : World → Runtime) : Lua World :=
  { lua with
    parseStaticSpec := fun table world =>
      (parseStaticSpec (runtime world) table).mapError (Error.text (runtime world)) }

theorem answer_table {lua : Lua World} {runtime : World → Runtime} {function : LuaFunction}
    {world after : World} {table : LuaTable}
    (called : lua.call function world = (.ok (.table table), after)) :
    (parsing lua runtime).answer function world =
      match (parseStaticSpec (runtime after) table).mapError (Error.text (runtime after)) with
      | .error source => (.failed (.malformedTable source), after)
      | .ok spec => (.spec spec, after) := by
  have sameCall : (parsing lua runtime).call function world = lua.call function world := rfl
  rw [Lua.answer, sameCall, called]
  rfl

/-- A table that a dynamic function returns is a request if it is a static spec, and is
reported with its first fault if it is none. -/
theorem answer_of_table {lua : Lua World} {runtime : World → Runtime} {function : LuaFunction}
    {world after : World} {table : LuaTable}
    (called : lua.call function world = (.ok (.table table), after)) :
    (∃ spec, GivesStatic (runtime after) table spec ∧
        (parsing lua runtime).answer function world = (.spec spec, after)) ∨
      ∃ err, StaticFault (runtime after) StaticField.all table err ∧
        (parsing lua runtime).answer function world =
          (.failed (.malformedTable (err.text (runtime after))), after) := by
  have decides := parseStaticSpec_decides (runtime after) table
  rw [answer_table called]
  cases parsed : parseStaticSpec (runtime after) table with
  | ok spec => exact .inl ⟨spec, (decides.ok spec).mp parsed, rfl⟩
  | error err => exact .inr ⟨err, (decides.error err).mp parsed, rfl⟩

end Answers

/-! ## One table -/

/-- A runtime with one named spec and its headers; characters outside of ASCII have no other
case there. -/
def shop : Runtime where
  contents
    | ⟨0⟩ => ⟨[(.string (utf8Bytes "name"), .string (utf8Bytes "order")),
        (.string (utf8Bytes "spec"), .table ⟨1⟩)], by decide, by decide⟩
    | ⟨1⟩ => ⟨[(.string (utf8Bytes "protocol"), .string (utf8Bytes "Http")),
        (.string (utf8Bytes "method"), .string (utf8Bytes "pOST")),
        (.string (utf8Bytes "service"), .string (utf8Bytes "shop")),
        (.string (utf8Bytes "path"), .string []), (.integer 7, .boolean true),
        (.string (utf8Bytes "headers"), .table ⟨2⟩),
        (.string (utf8Bytes "body"), .boolean false)], by decide, by decide⟩
    | ⟨2⟩ => ⟨[(.integer 1, .boolean true), (.string (utf8Bytes "n"), .integer (-3))],
        by decide, by decide⟩
    | _ => ⟨[], .nil, by simp⟩
  fromValue
    | .boolean value => .ok ⟨toString value⟩
    | value => .error value.typeName
  keyText _ := ""
  numberText _ := ""
  unicode := ⟨fun _ char _ => [char], by simp, by
    intro before char after notAscii letter member ascii
    rw [List.mem_singleton.mp member] at ascii
    exact absurd ascii (UInt32.not_lt.mpr notAscii)⟩
  debug _ := ""
  debugString _ := ""
  displayKeyError _ := ""

example : (parseSpec shop (.table ⟨0⟩)).toOption = some ⟨some "order", .static (.http
    { method := .post
      service := "shop"
      path := ""
      headers := [("1", "true"), ("n", "-3")]
      query := []
      body := some ⟨"false"⟩
      extract := none })⟩ := by
  decide

end Parser

end CreoBench
