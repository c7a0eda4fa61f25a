import CreoBench.Library.Checks
import CreoBench.SpecParser

/-!
# The grammar of specs

Which Lua values are specs, what a spec denotes and which fault a value has that is
none: the parser decides all three.  A static spec has eight fields, which are looked
at in their order, so that the error is that of the first field that is not in order.
Whatever else a table holds is ignored.
-/

namespace CreoBench

namespace Parser

/-! ## Fields of tables -/

namespace PlainTable

variable {table : PlainTable} {field : String}

/-- A field has the value of the entry with its name as the key. -/
theorem get_eq_iff {value : Value} (present : value ≠ .nil) :
    table.get field = value ↔ (.string (utf8Bytes field), value) ∈ table.entries := by
  unfold get
  cases found : table.entries.find? fun entry => entry.1 = .string (utf8Bytes field) with
  | none =>
      refine iff_of_false present.symm fun member => ?_
      have other := List.find?_eq_none.mp found _ member
      simp at other
  | some entry =>
      have member := List.mem_of_find?_eq_some found
      have key : entry.1 = .string (utf8Bytes field) := by
        simpa using List.find?_some found
      constructor
      · rintro rfl
        rw [← key]
        exact member
      · intro named
        have same := List.inj_on_of_nodup_map table.nodup member named key
        rw [same]

/-- A field without an entry is `nil`. -/
theorem get_eq_nil_iff :
    table.get field = .nil ↔ ∀ value, (.string (utf8Bytes field), value) ∉ table.entries := by
  constructor
  · intro absent value member
    have present := table.present _ member
    rw [← get_eq_iff present, absent] at member
    exact present member.symm
  · intro absent
    by_contra present
    exact absent _ ((get_eq_iff present).mp rfl)

end PlainTable

/-! ## Texts -/

/-- Equal apart from the case of ASCII letters. -/
def SameIgnoringCase (first second : String) : Prop :=
  toAsciiLowercase first = toAsciiLowercase second

def Value.IsText (value : Value) (text : String) : Prop := value = .string (utf8Bytes text)

theorem utf8Bytes_injective : Function.Injective utf8Bytes := by
  intro first second same
  have decoded := stringFromUtf8_utf8Bytes first
  rw [same, stringFromUtf8_utf8Bytes] at decoded
  exact (Except.ok.inj decoded).symm

/-- No string and not UTF-8. -/
inductive NotText (field : String) : Value → Error → Prop
  | notUtf8 {bytes : List UInt8} :
      (∀ text, bytes ≠ utf8Bytes text) →
        NotText field (.string bytes) (.fieldStringValueNotUtf8 field bytes)
  | notString {value : Value} :
      value ≠ .nil → (∀ bytes, value ≠ .string bytes) →
        NotText field value (.fieldNotString field value.typeName)

theorem stringFromUtf8_error {bytes : List UInt8} {err : SerdeError}
    (invalid : stringFromUtf8 bytes = .error err) (text : String) : bytes ≠ utf8Bytes text := by
  rintro rfl
  rw [stringFromUtf8_utf8Bytes] at invalid
  cases invalid

theorem utf8String_decides (field : String) (bytes : List UInt8) :
    Decides (utf8String field bytes) (fun text => (Value.string bytes).IsText text)
      (NotText field (.string bytes)) := by
  unfold utf8String
  cases decoded : stringFromUtf8 bytes with
  | ok text =>
      obtain rfl := stringFromUtf8_eq_ok_iff.mp decoded
      refine .of_ok (fun other => ?_) (fun err => ?_)
      · constructor
        · intro same
          exact (utf8Bytes_injective (Value.string.inj same)).symm
        · rintro rfl
          rfl
      · rintro (⟨never⟩ | ⟨-, never⟩)
        · exact never text rfl
        · exact never _ rfl
  | error failure =>
      have never := stringFromUtf8_error decoded
      refine .of_error (fun text same => never text (Value.string.inj same)) fun err => ?_
      constructor
      · rintro (⟨-⟩ | ⟨-, notString⟩)
        · rfl
        · exact absurd rfl (notString bytes)
      · rintro rfl
        exact .notUtf8 never

/-- The value of a required text field is missing or no text. -/
def NoText (field : String) (value : Value) (err : Error) : Prop :=
  value = .nil ∧ err = .requiredFieldMissing field ∨ NotText field value err

/-- A value that is neither `nil` nor a string. -/
theorem notText_iff {field : String} {value : Value} (present : value ≠ .nil)
    (notString : ∀ bytes, value ≠ .string bytes) {err : Error} :
    NotText field value err ↔ err = .fieldNotString field value.typeName := by
  constructor
  · rintro (⟨-⟩ | ⟨-, -⟩)
    · exact absurd rfl (notString _)
    · rfl
  · rintro rfl
    exact .notString present notString

theorem requiredString_decides (field : String) (value : Value) :
    Decides (requiredString field value) value.IsText (NoText field value) := by
  cases value with
  | nil =>
      refine .of_error (by rintro text ⟨⟩) fun err => ?_
      constructor
      · rintro (⟨-, same⟩ | isNil)
        · exact same
        · cases isNil with
          | notString present => exact absurd rfl present
      · exact fun same => .inl ⟨rfl, same⟩
  | string bytes =>
      refine (utf8String_decides field bytes).congr (fun text => Iff.rfl) (fun err => ?_)
      constructor
      · exact .inr
      · rintro (⟨⟨⟩, -⟩ | notText)
        exact notText
  | boolean | integer | number | table | function | other =>
      refine .of_error (by rintro text ⟨⟩) fun err => ?_
      refine Iff.trans ?_ (notText_iff (by rintro ⟨⟩) (by rintro bytes ⟨⟩))
      constructor
      · rintro (⟨⟨⟩, -⟩ | notText)
        exact notText
      · exact .inr

/-! ## Lower case -/

theorem toLower_of_not_ascii {char : Char} (notAscii : 128 ≤ char.val) :
    char.toLower = char := by
  unfold Char.toLower
  split
  case isTrue upper =>
    have bound : char.val ≤ 90 := upper.2
    exact absurd (UInt32.le_trans notAscii bound) (by decide)
  case isFalse => rfl

/-- Lower case outside of ASCII makes no difference to a word without an `i` and a `k`. -/
theorem UnicodeLowercase.lower_eq_iff (unicode : UnicodeLowercase) {before chars word : List Char}
    (plain : ∀ letter ∈ word, letter.val < 128 ∧ letter ≠ 'i' ∧ letter ≠ 'k') :
    unicode.lower before chars = word ↔ chars.map Char.toLower = word := by
  induction chars generalizing before word with
  | nil => rfl
  | cons char after ih =>
      unfold lower
      cases word with
      | nil =>
          refine iff_of_false (fun empty => ?_) (by rintro ⟨⟩)
          have none := (List.append_eq_nil_iff.mp empty).1
          split_ifs at none with ascii
          exact unicode.map_ne_nil before char after none
      | cons letter word =>
          obtain ⟨first, rest⟩ := List.forall_mem_cons.mp plain
          rw [List.map_cons]
          by_cases ascii : char.val < 128
          · rw [if_pos ascii, List.singleton_append, List.cons.injEq, List.cons.injEq, ih rest]
          · have notAscii : 128 ≤ char.val := UInt32.not_lt.mp ascii
            rw [if_neg ascii, toLower_of_not_ascii notAscii]
            obtain ⟨head, others, mapped⟩ :=
              List.exists_cons_of_ne_nil (unicode.map_ne_nil before char after)
            refine iff_of_false (fun same => ?_) (fun same => ?_)
            · rw [mapped, List.cons_append] at same
              obtain rfl := (List.cons.inj same).1
              rcases unicode.ascii before char after notAscii head (mapped ▸ List.mem_cons_self)
                first.1 with isI | isK
              · exact first.2.1 isI
              · exact first.2.2 isK
            · exact ascii ((List.cons.inj same).1 ▸ first.1)

theorem toLowercase_eq_http_iff {unicode : UnicodeLowercase} {text : String} :
    unicode.toLowercase text = "http" ↔ SameIgnoringCase text "http" := by
  have plain : ∀ letter ∈ ['h', 't', 't', 'p'],
      letter.val < 128 ∧ letter ≠ 'i' ∧ letter ≠ 'k' := by
    simp only [List.forall_mem_cons, List.not_mem_nil, false_imp_iff, implies_true, and_true]
    decide
  have lower : toAsciiLowercase "http" = "http" := by decide
  rw [SameIgnoringCase, lower, ← String.toList_inj, ← String.toList_inj,
    UnicodeLowercase.toLowercase, toAsciiLowercase, String.toList_ofList, String.toList_ofList,
    String.toList_ofList, unicode.lower_eq_iff plain]

theorem name_injective : Function.Injective HttpMethod.name := by
  intro first second same
  cases first <;> cases second <;> first | rfl | exact absurd same (by decide)

theorem sameIgnoringCase_name {text : String} {method : HttpMethod} :
    SameIgnoringCase text method.name ↔ toAsciiLowercase text = method.name := by
  have lower : toAsciiLowercase method.name = method.name := by
    cases method <;> decide
  rw [SameIgnoringCase, lower]

theorem fromStr_decides (text : String) :
    Decides (HttpMethod.fromStr text) (fun method => SameIgnoringCase text method.name)
      (fun err => (∀ method : HttpMethod, ¬SameIgnoringCase text method.name) ∧
        err = .unknownMethod text) := by
  have found : ∀ method : HttpMethod, toAsciiLowercase text = method.name →
      Decides (.ok method : Except HttpError HttpMethod)
        (fun method => SameIgnoringCase text method.name)
        (fun err => (∀ method : HttpMethod, ¬SameIgnoringCase text method.name) ∧
          err = .unknownMethod text) := by
    intro method lower
    refine .of_ok (fun other => ?_) (fun err isFault => ?_)
    · rw [sameIgnoringCase_name, lower]
      exact ⟨fun same => (name_injective same).symm, fun same => same ▸ rfl⟩
    · exact isFault.1 method (sameIgnoringCase_name.mpr lower)
  unfold HttpMethod.fromStr
  split
  case h_1 lower => exact found .get lower
  case h_2 lower => exact found .post lower
  case h_3 lower => exact found .put lower
  case h_4 lower => exact found .delete lower
  case h_5 lower => exact found .patch lower
  case h_6 lower => exact found .head lower
  case h_7 lower => exact found .options lower
  case h_8 get post put delete patch head options =>
    have unknown : ∀ method : HttpMethod, ¬SameIgnoringCase text method.name := by
      intro method same
      have lower := sameIgnoringCase_name.mp same
      cases method with
      | get => exact get lower
      | post => exact post lower
      | put => exact put lower
      | delete => exact delete lower
      | patch => exact patch lower
      | head => exact head lower
      | options => exact options lower
    exact .of_error unknown fun err => and_iff_right unknown

/-! ## Maps -/

/-- A UTF-8 string or a number. -/
def IsKey (value : Value) : Prop :=
  (∃ text, value.IsText text) ∨ (∃ integer, value = .integer integer) ∨
    ∃ number, value = .number number

def IsScalar (value : Value) : Prop := IsKey value ∨ ∃ boolean, value = .boolean boolean

inductive GivesKey (runtime : Runtime) : Value → String → Prop
  | string {text : String} : GivesKey runtime (.string (utf8Bytes text)) text
  | integer (value : Int64) : GivesKey runtime (.integer value) (toString value.toInt)
  | number (value : Binary64) : GivesKey runtime (.number value) (runtime.keyText value)

inductive GivesText (runtime : Runtime) : Value → String → Prop
  | string {text : String} : GivesText runtime (.string (utf8Bytes text)) text
  | integer (value : Int64) : GivesText runtime (.integer value) (toString value.toInt)
  | number (value : Binary64) : GivesText runtime (.number value) (runtime.numberText value)
  | boolean (value : Bool) : GivesText runtime (.boolean value) (toString value)

inductive KeyFault : Value → KeyError → Prop
  | notUtf8 {bytes : List UInt8} :
      (∀ text, bytes ≠ utf8Bytes text) → KeyFault (.string bytes) (.notUtf8 bytes)
  | notCoercible {value : Value} :
      (∀ bytes, value ≠ .string bytes) → (∀ integer, value ≠ .integer integer) →
        (∀ number, value ≠ .number number) → KeyFault value (.notCoercible value.typeName)

/-- The key and the value of an entry as strings. -/
def GivesEntry (runtime : Runtime) (entry : Value × Value) (pair : String × String) : Prop :=
  GivesKey runtime entry.1 pair.1 ∧ GivesText runtime entry.2 pair.2

def IsEntry (entry : Value × Value) : Prop := IsKey entry.1 ∧ IsScalar entry.2

inductive EntryFault (runtime : Runtime) (field : String) : Value × Value → Error → Prop
  | key {entry : Value × Value} {source : KeyError} :
      KeyFault entry.1 source → EntryFault runtime field entry (.lua source)
  | value {entry : Value × Value} {key : String} :
      GivesKey runtime entry.1 key → ¬IsScalar entry.2 →
        EntryFault runtime field entry (.stringMapValueNotCoercible field key entry.2)

/-- Every entry of a table, once and in order; `nil` has none. -/
inductive GivesPairs (runtime : Runtime) : Value → List (String × String) → Prop
  | absent : GivesPairs runtime .nil []
  | table {map : LuaTable} {pairs : List (String × String)} :
      List.Forall₂ (GivesEntry runtime) (runtime.contents map).entries pairs →
        GivesPairs runtime (.table map) pairs

def IsMap (runtime : Runtime) (value : Value) : Prop :=
  value = .nil ∨ ∃ map, value = .table map ∧
    ∀ entry ∈ (runtime.contents map).entries, IsEntry entry

inductive MapFault (runtime : Runtime) (field : String) : Value → Error → Prop
  | entry {map : LuaTable} {err : Error} :
      FirstFault IsEntry (EntryFault runtime field) (runtime.contents map).entries err →
        MapFault runtime field (.table map) err
  | notTable {value : Value} :
      value ≠ .nil → (∀ map, value ≠ .table map) →
        MapFault runtime field value (.fieldNotTable field value.typeName)

theorem isKey_iff (runtime : Runtime) {value : Value} :
    IsKey value ↔ ∃ key, GivesKey runtime value key := by
  constructor
  · rintro (⟨text, rfl⟩ | ⟨integer, rfl⟩ | ⟨number, rfl⟩)
    · exact ⟨_, .string⟩
    · exact ⟨_, .integer integer⟩
    · exact ⟨_, .number number⟩
  · rintro ⟨key, given⟩
    cases given with
    | string => exact .inl ⟨key, rfl⟩
    | integer integer => exact .inr (.inl ⟨integer, rfl⟩)
    | number number => exact .inr (.inr ⟨number, rfl⟩)

theorem isScalar_iff (runtime : Runtime) {value : Value} :
    IsScalar value ↔ ∃ text, GivesText runtime value text := by
  constructor
  · rintro ((⟨text, rfl⟩ | ⟨integer, rfl⟩ | ⟨number, rfl⟩) | ⟨boolean, rfl⟩)
    · exact ⟨_, .string⟩
    · exact ⟨_, .integer integer⟩
    · exact ⟨_, .number number⟩
    · exact ⟨_, .boolean boolean⟩
  · rintro ⟨text, given⟩
    cases given with
    | string => exact .inl (.inl ⟨text, rfl⟩)
    | integer integer => exact .inl (.inr (.inl ⟨integer, rfl⟩))
    | number number => exact .inl (.inr (.inr ⟨number, rfl⟩))
    | boolean boolean => exact .inr ⟨boolean, rfl⟩

theorem keyString_decides (runtime : Runtime) (value : Value) :
    Decides (keyString runtime value) (GivesKey runtime value) (KeyFault value) := by
  cases value with
  | string bytes =>
      rw [keyString]
      cases decoded : stringFromUtf8 bytes with
      | ok text =>
          obtain rfl := stringFromUtf8_eq_ok_iff.mp decoded
          refine .of_ok (fun other => ?_) (fun err => ?_)
          · constructor
            · intro given
              generalize bytesEq : utf8Bytes text = bytes at given
              cases given
              exact (utf8Bytes_injective bytesEq).symm
            · rintro rfl
              exact .string
          · rintro (never | notString)
            · exact never text rfl
            · exact notString _ rfl
      | error failure =>
          have never := stringFromUtf8_error decoded
          refine .of_error (fun text given => ?_) fun err => ?_
          · cases given
            exact never text rfl
          · constructor
            · rintro (- | notString)
              · rfl
              · exact absurd rfl (notString bytes)
            · rintro rfl
              exact .notUtf8 never
  | integer integer =>
      refine .of_ok (fun other => ?_) (fun err => ?_)
      · exact ⟨by rintro ⟨⟩; rfl, by rintro rfl; exact .integer integer⟩
      · rintro (- | ⟨-, notInteger, -⟩)
        exact notInteger integer rfl
  | number number =>
      refine .of_ok (fun other => ?_) (fun err => ?_)
      · exact ⟨by rintro ⟨⟩; rfl, by rintro rfl; exact .number number⟩
      · rintro (- | ⟨-, -, notNumber⟩)
        exact notNumber number rfl
  | nil | boolean | table | function | other =>
      refine .of_error (by rintro text ⟨⟩) fun err => ?_
      constructor
      · rintro ⟨⟩
        rfl
      · rintro rfl
        exact .notCoercible (by rintro _ ⟨⟩) (by rintro _ ⟨⟩) (by rintro _ ⟨⟩)

theorem coerceToString_eq_some_iff {runtime : Runtime} {value : Value} {text : String} :
    coerceToString runtime value = some text ↔ GivesText runtime value text := by
  constructor
  · intro coerced
    cases value with
    | string bytes =>
        rw [coerceToString] at coerced
        cases decoded : stringFromUtf8 bytes with
        | ok found =>
            rw [decoded] at coerced
            cases coerced
            obtain rfl := stringFromUtf8_eq_ok_iff.mp decoded
            exact .string
        | error failure =>
            rw [decoded] at coerced
            cases coerced
    | integer integer =>
        cases coerced
        exact .integer integer
    | number number =>
        cases coerced
        exact .number number
    | boolean boolean =>
        cases coerced
        exact .boolean boolean
    | nil | table | function | other => cases coerced
  · intro given
    cases given with
    | string => rw [coerceToString, stringFromUtf8_utf8Bytes]; rfl
    | integer | number | boolean => rfl

theorem coerceToString_decides (runtime : Runtime) (value : Value) (failure : Error) :
    Decides ((coerceToString runtime value).elim (.error failure) .ok) (GivesText runtime value)
      (fun err => ¬IsScalar value ∧ err = failure) := by
  cases coerced : coerceToString runtime value with
  | some text =>
      have given := coerceToString_eq_some_iff.mp coerced
      refine .of_ok (fun other => ?_) (fun err isFault => ?_)
      · rw [← coerceToString_eq_some_iff, coerced, Option.some.injEq]
        exact eq_comm
      · exact isFault.1 ((isScalar_iff runtime).mpr ⟨text, given⟩)
  | none =>
      have notScalar : ¬IsScalar value := by
        rw [isScalar_iff runtime]
        rintro ⟨text, given⟩
        rw [coerceToString_eq_some_iff.mpr given] at coerced
        cases coerced
      refine .of_error (fun text given => ?_) fun err => and_iff_right notScalar
      exact notScalar ((isScalar_iff runtime).mpr ⟨text, given⟩)

/-- The key of an entry is looked at before its value. -/
theorem parseEntry_eq (runtime : Runtime) (field : String) (entry : Value × Value) :
    parseEntry runtime field entry =
      (keyString runtime entry.1).mapError .lua >>= fun key =>
        (key, ·) <$> (coerceToString runtime entry.2).elim
          (.error (.stringMapValueNotCoercible field key entry.2)) .ok := by
  unfold parseEntry
  congr 1
  funext key
  cases coerceToString runtime entry.2 <;> rfl

theorem parseEntry_decides (runtime : Runtime) (field : String) (entry : Value × Value) :
    Decides (parseEntry runtime field entry) (GivesEntry runtime entry)
      (EntryFault runtime field entry) := by
  have keys := (keyString_decides runtime entry.1).mapError Error.lua
  have values (key : String) := (coerceToString_decides runtime entry.2
    (.stringMapValueNotCoercible field key entry.2)).map (Prod.mk key)
  rw [parseEntry_eq]
  refine (keys.bind fun key _ => values key).congr (fun pair => ?_) (fun err => ?_)
  · constructor
    · rintro ⟨key, given, text, isText, rfl⟩
      exact ⟨given, isText⟩
    · rintro ⟨key, text⟩
      exact ⟨pair.1, key, pair.2, text, rfl⟩
  · constructor
    · rintro (⟨source, isFault, rfl⟩ | ⟨key, given, notScalar, rfl⟩)
      · exact .key isFault
      · exact .value given notScalar
    · intro isFault
      cases isFault with
      | key isFault => exact .inl ⟨_, isFault, rfl⟩
      | value given notScalar => exact .inr ⟨_, given, notScalar, rfl⟩

theorem isEntry_iff {runtime : Runtime} {entry : Value × Value} :
    IsEntry entry ↔ ∃ pair, GivesEntry runtime entry pair := by
  rw [IsEntry, isKey_iff runtime, isScalar_iff runtime]
  constructor
  · rintro ⟨⟨key, givenKey⟩, text, givenText⟩
    exact ⟨(key, text), givenKey, givenText⟩
  · rintro ⟨pair, givenKey, givenText⟩
    exact ⟨⟨_, givenKey⟩, _, givenText⟩

theorem parseStringMap_decides (runtime : Runtime) (table : LuaTable) (field : String) :
    Decides (parseStringMap runtime table field) (GivesPairs runtime (runtime.get table field))
      (MapFault runtime field (runtime.get table field)) := by
  unfold parseStringMap
  cases runtime.get table field with
  | nil =>
      refine .of_ok (fun pairs => ?_) (fun err => ?_)
      · exact ⟨by rintro ⟨⟩; rfl, by rintro rfl; exact .absent⟩
      · rintro (- | ⟨present, -⟩)
        exact present rfl
  | table map =>
      refine (Decides.mapM (parseEntry_decides runtime field) _).congr (fun pairs => ?_)
        (fun err => ?_)
      · exact ⟨.table, by rintro (- | entries); exact entries⟩
      · simp only [← isEntry_iff]
        constructor
        · exact .entry
        · rintro (isFault | ⟨-, notTable⟩)
          · exact isFault
          · exact absurd rfl (notTable map)
  | boolean | integer | number | string | function | other =>
      refine .of_error (by rintro pairs ⟨⟩) fun err => ?_
      constructor
      · rintro ⟨⟩
        rfl
      · rintro rfl
        exact .notTable (by rintro ⟨⟩) (by rintro _ ⟨⟩)

/-! ## Bodies and functions -/

/-- A body is absent exactly if it is `nil`; `false` is a body. -/
inductive GivesBody (runtime : Runtime) : Value → Option JsonValue → Prop
  | absent : GivesBody runtime .nil none
  | json {value : Value} {json : JsonValue} :
      value ≠ .nil → runtime.fromValue value = .ok json → GivesBody runtime value (some json)

inductive BodyFault (runtime : Runtime) : Value → Error → Prop
  | notJson {value : Value} {source : String} :
      value ≠ .nil → runtime.fromValue value = .error source →
        BodyFault runtime value (.bodyNotJson source)

inductive GivesExtract : Value → Option LuaFunction → Prop
  | absent : GivesExtract .nil none
  | function (function : LuaFunction) : GivesExtract (.function function) (some function)

inductive ExtractFault : Value → Error → Prop
  | notFunction {value : Value} :
      value ≠ .nil → (∀ function, value ≠ .function function) →
        ExtractFault value (.fieldNotFunction "extract" value.typeName)

theorem GivesBody.eq_none_iff {runtime : Runtime} {value : Value} {body : Option JsonValue}
    (given : GivesBody runtime value body) : body = none ↔ value = .nil := by
  rcases given with - | ⟨present, -⟩
  · exact iff_of_true rfl rfl
  · exact iff_of_false (by rintro ⟨⟩) present

theorem parseBody_decides (runtime : Runtime) (table : LuaTable) :
    Decides (parseBody runtime table) (GivesBody runtime (runtime.get table "body"))
      (BodyFault runtime (runtime.get table "body")) := by
  unfold parseBody
  generalize runtime.get table "body" = value
  dsimp only
  split_ifs with absent
  · subst absent
    refine .of_ok (fun body => ?_) (fun err => ?_)
    · constructor
      · rintro (- | ⟨present, -⟩)
        · rfl
        · exact absurd rfl present
      · rintro rfl
        exact .absent
    · rintro ⟨present, -⟩
      exact present rfl
  · cases converted : runtime.fromValue value with
    | ok json =>
        refine .of_ok (fun body => ?_) (fun err => ?_)
        · constructor
          · rintro (- | ⟨-, other⟩)
            · exact absurd rfl absent
            · rw [converted] at other
              rw [Except.ok.inj other]
          · rintro rfl
            exact .json absent converted
        · rintro ⟨-, failed⟩
          rw [converted] at failed
          cases failed
    | error source =>
        refine .of_error (fun body given => ?_) fun err => ?_
        · rcases given with - | ⟨-, other⟩
          · exact absent rfl
          · rw [converted] at other
            cases other
        · constructor
          · rintro ⟨-, other⟩
            rw [converted] at other
            rw [Except.error.inj other]
          · rintro rfl
            exact .notJson absent converted

theorem parseExtract_decides (runtime : Runtime) (table : LuaTable) :
    Decides (parseExtract runtime table) (GivesExtract (runtime.get table "extract"))
      (ExtractFault (runtime.get table "extract")) := by
  unfold parseExtract
  cases runtime.get table "extract" with
  | nil =>
      refine .of_ok (fun extract => ?_) (fun err => ?_)
      · exact ⟨by rintro ⟨⟩; rfl, by rintro rfl; exact .absent⟩
      · rintro ⟨present, -⟩
        exact present rfl
  | function function =>
      refine .of_ok (fun extract => ?_) (fun err => ?_)
      · exact ⟨by rintro ⟨⟩; rfl, by rintro rfl; exact .function function⟩
      · rintro ⟨-, notFunction⟩
        exact notFunction function rfl
  | boolean | integer | number | string | table | other =>
      refine .of_error (by rintro extract ⟨⟩) fun err => ?_
      constructor
      · rintro ⟨⟩
        rfl
      · rintro rfl
        exact .notFunction (by rintro ⟨⟩) (by rintro _ ⟨⟩)

/-! ## Required fields and methods -/

def GivesMethod (value : Value) (method : HttpMethod) : Prop :=
  ∃ text, value.IsText text ∧ SameIgnoringCase text method.name

inductive MethodFault : Value → Error → Prop
  | noText {value : Value} {err : Error} : NoText "method" value err → MethodFault value err
  | unknown {value : Value} {text : String} :
      value.IsText text → (∀ method : HttpMethod, ¬SameIgnoringCase text method.name) →
        MethodFault value (.invalidHttpSpec (.unknownMethod text))

theorem parseMethod_decides (runtime : Runtime) (table : LuaTable) :
    Decides (parseMethod runtime table) (GivesMethod (runtime.get table "method"))
      (MethodFault (runtime.get table "method")) := by
  refine ((requiredString_decides "method" _).bind fun text _ =>
    (fromStr_decides text).mapError Error.invalidHttpSpec).congr (fun method => Iff.rfl)
      (fun err => ?_)
  constructor
  · rintro (noText | ⟨text, isText, _, ⟨unknown, rfl⟩, rfl⟩)
    · exact .noText noText
    · exact .unknown isText unknown
  · rintro (noText | ⟨isText, unknown⟩)
    · exact .inl noText
    · exact .inr ⟨_, isText, _, ⟨unknown, rfl⟩, rfl⟩

end Parser

end CreoBench
