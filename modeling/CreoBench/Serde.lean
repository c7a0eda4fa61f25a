import CreoBench.Library.BigEndian
import CreoBench.Library.Binary64
import CreoBench.Library.Codec
import CreoBench.Library.SortedMap
import Mathlib.Data.String.Basic

/-!
# The binary serializer and deserializer

`BytesSerializer` and `BytesDeserializer`: big-endian numbers, byte strings and
sequences after their length in eight bytes, variants after their index in four.
Structs and enums add their names to the failures of their parts.  A `usize` has
64 bits, so no length exceeds it.
-/

namespace CreoBench

structure SerdeError where
  msg : String
  deriving DecidableEq

namespace SerdeError

/-- `Error::custom`, which has the same text for both directions. -/
def custom (msg : String) : SerdeError :=
  ⟨"failed to serialize data: " ++ msg⟩

/-- `TryGetError`, raised by the buffer itself. -/
def unexpectedEnd (requested available : Nat) : SerdeError :=
  ⟨s!"unexpected end of buffer: expected `{requested}` bytes but only `{available}` bytes remain"⟩

/-- A failure of a part, with what was done with which part. -/
def context (failed : String) (err : SerdeError) : SerdeError :=
  let msg := err.msg
  custom s!"{failed}: {msg}"

end SerdeError

/-- Why bytes are not UTF-8; no length if they end within a character. -/
structure Utf8Error where
  validUpTo : Nat
  errorLen : Option Nat
  deriving DecidableEq

namespace Utf8Error

/-- The ranges of the bytes that may follow a first byte. -/
def following (first : UInt8) : Option (List (UInt8 × UInt8)) :=
  if first ≤ 0x7F then some []
  else if 0xC2 ≤ first ∧ first ≤ 0xDF then some [(0x80, 0xBF)]
  else if first = 0xE0 then some [(0xA0, 0xBF), (0x80, 0xBF)]
  else if first = 0xED then some [(0x80, 0x9F), (0x80, 0xBF)]
  else if 0xE1 ≤ first ∧ first ≤ 0xEF then some [(0x80, 0xBF), (0x80, 0xBF)]
  else if first = 0xF0 then some [(0x90, 0xBF), (0x80, 0xBF), (0x80, 0xBF)]
  else if 0xF1 ≤ first ∧ first ≤ 0xF3 then some [(0x80, 0xBF), (0x80, 0xBF), (0x80, 0xBF)]
  else if first = 0xF4 then some [(0x80, 0x8F), (0x80, 0xBF), (0x80, 0xBF)]
  else none

/-- Match the bytes after a first byte; `matched` bytes of the character are valid. -/
def continuation (matched : Nat) : List (UInt8 × UInt8) → List UInt8 →
    Except (Option Nat) (List UInt8)
  | [], bytes => .ok bytes
  | _ :: _, [] => .error none
  | (low, high) :: ranges, byte :: bytes =>
      if low ≤ byte ∧ byte ≤ high then continuation (matched + 1) ranges bytes
      else .error (some matched)

/-- The first error from `position` on, within `fuel` characters. -/
def findFrom : Nat → Nat → List UInt8 → Option Utf8Error
  | 0, _, _ | _, _, [] => none
  | fuel + 1, position, first :: bytes =>
      match following first with
      | none => some ⟨position, some 1⟩
      | some ranges =>
          match continuation 1 ranges bytes with
          | .error errorLen => some ⟨position, errorLen⟩
          | .ok rest => findFrom fuel (position + 1 + ranges.length) rest

def find (bytes : List UInt8) : Option Utf8Error := findFrom bytes.length 0 bytes

/-- The text of the error. -/
def text (err : Utf8Error) : String :=
  let validUpTo := err.validUpTo
  match err.errorLen with
  | some errorLen => s!"invalid utf-8 sequence of {errorLen} bytes from index {validUpTo}"
  | none => s!"incomplete utf-8 byte sequence from index {validUpTo}"

end Utf8Error

/-- `str::from_utf8`. -/
def stringFromUtf8 (bytes : List UInt8) : Except SerdeError String :=
  match String.fromUTF8? ⟨bytes.toArray⟩ with
  | some string => .ok string
  | none =>
      let text := ((Utf8Error.find bytes).map Utf8Error.text).getD ""
      .error ⟨s!"string bytes are not valid UTF-8: {text}"⟩

def utf8Bytes (string : String) : List UInt8 := string.toByteArray.data.toList

theorem stringFromUtf8_utf8Bytes (string : String) :
    stringFromUtf8 (utf8Bytes string) = .ok string := by
  have sameBytes : (⟨(utf8Bytes string).toArray⟩ : ByteArray) = string.toByteArray := by
    simp [utf8Bytes]
  rw [stringFromUtf8, sameBytes, String.fromUTF8?, dif_pos string.isValidUTF8]
  rfl

theorem stringFromUtf8_eq_ok_iff {bytes : List UInt8} {text : String} :
    stringFromUtf8 bytes = .ok text ↔ bytes = utf8Bytes text := by
  constructor
  · intro decoded
    unfold stringFromUtf8 at decoded
    split at decoded <;> cases decoded
    rename_i found
    unfold String.fromUTF8? at found
    split_ifs at found with valid
    cases found
    rfl
  · rintro rfl
    exact stringFromUtf8_utf8Bytes text

namespace BytesSerializer

def putNumber (width number : Nat) : Written SerdeError :=
  .ok (BigEndian.bytes width number)

/-- The length of something before its content. -/
def putLength (what : String) (length : Nat) : Written SerdeError :=
  if length < 2 ^ 64 then putNumber 8 length
  else ⟨[], some (.custom s!"{what} length exceeds `18446744073709551615` bytes")⟩

theorem putLength_succeeds {what : String} {length : Nat}
    (succeeds : (putLength what length).failure = none) :
    length < 2 ^ 64 ∧ putLength what length = .ok (BigEndian.bytes 8 length) := by
  unfold putLength at succeeds ⊢
  split_ifs at succeeds ⊢ with fits
  · exact ⟨fits, rfl⟩

end BytesSerializer

namespace BytesDeserializer

/-- `try_get_u8` and its wider siblings. -/
def tryGet (width : Nat) (input : List UInt8) : Reading SerdeError Nat :=
  if width ≤ input.length then
    .done (BigEndian.value (input.take width)) (input.drop width)
  else .failed (.unexpectedEnd width input.length)

def deserializeAndEnsureLength (input : List UInt8) : Reading SerdeError Nat :=
  (tryGet 8 input).andThen fun len rest =>
    let remaining := rest.length
    if remaining < len then
      .failed (.custom s!"unexpected end of buffer: expected `{len}` bytes but only `{remaining}` bytes remain")
    else .done len rest

def deserializeBoolFromByte (input : List UInt8) : Reading SerdeError Bool :=
  (tryGet 1 input).andThen fun byte rest =>
    match byte with
    | 0 => .done false rest
    | 1 => .done true rest
    | _ => .failed (.custom s!"invalid byte value: expected `0` or `1` but got `{byte}`")

theorem tryGet_append {width : Nat} {bytes : List UInt8} (lengthEq : bytes.length = width)
    (rest : List UInt8) :
    tryGet width (bytes ++ rest) = .done (BigEndian.value bytes) rest := by
  subst lengthEq
  simp [tryGet]

theorem tryGet_eq_done {width number : Nat} {input rest : List UInt8}
    (got : tryGet width input = .done number rest) :
    ∃ used, input = used ++ rest ∧ used.length = width ∧ BigEndian.value used = number := by
  unfold tryGet at got
  split_ifs at got with enough
  cases got
  exact ⟨input.take width, (List.take_append_drop ..).symm, List.length_take_of_le enough, rfl⟩

theorem tryGet_ne_panicked (width : Nat) (input : List UInt8) :
    tryGet width input ≠ .panicked := by
  unfold tryGet
  split_ifs <;> nofun

theorem deserializeBoolFromByte_ne_panicked (input : List UInt8) :
    deserializeBoolFromByte input ≠ .panicked := by
  have noPanic := tryGet_ne_panicked 1 input
  unfold deserializeBoolFromByte
  cases got : tryGet 1 input with
  | done byte rest =>
      rw [Reading.andThen]
      split <;> nofun
  | failed err => nofun
  | panicked => exact absurd got noPanic

/-- A length is followed by at least as many bytes. -/
theorem ensureLength_append {length : Nat} (fits : length < 2 ^ 64) {rest : List UInt8}
    (enough : length ≤ rest.length) :
    deserializeAndEnsureLength (BigEndian.bytes 8 length ++ rest) = .done length rest := by
  have valueEq : BigEndian.value (BigEndian.bytes 8 length) = length := by
    rw [BigEndian.value_bytes]
    exact Nat.mod_eq_of_lt fits
  rw [deserializeAndEnsureLength, tryGet_append (BigEndian.length_bytes _ _), valueEq,
    Reading.andThen]
  simp [Nat.not_lt.mpr enough]

theorem ensureLength_eq_done {length : Nat} {input rest : List UInt8}
    (ensured : deserializeAndEnsureLength input = .done length rest) :
    ∃ used, input = used ++ rest ∧ used.length = 8 ∧ length ≤ rest.length ∧
      ∀ other : List UInt8, length ≤ other.length →
        deserializeAndEnsureLength (used ++ other) = .done length other := by
  obtain ⟨number, between, got, ensured⟩ := Reading.andThen_eq_done ensured
  dsimp only at ensured
  split_ifs at ensured with short
  cases ensured
  obtain ⟨used, rfl, lengthEq, rfl⟩ := tryGet_eq_done got
  refine ⟨used, rfl, lengthEq, Nat.not_lt.mp short, fun other enough => ?_⟩
  rw [deserializeAndEnsureLength, tryGet_append lengthEq, Reading.andThen]
  simp [Nat.not_lt.mpr enough]

theorem ensureLength_ne_panicked (input : List UInt8) :
    deserializeAndEnsureLength input ≠ .panicked := by
  have noPanic := tryGet_ne_panicked 8 input
  unfold deserializeAndEnsureLength
  cases got : tryGet 8 input with
  | done number rest =>
      simp only [Reading.andThen]
      split_ifs <;> nofun
  | failed err => nofun
  | panicked => exact absurd got noPanic

end BytesDeserializer

namespace SerdeCodec

open BytesSerializer BytesDeserializer

variable {Mark : Type} {Fatal : Mark → Prop} {Value Value' : Type}

/-- An unsigned number in `width` bytes. -/
def number (width : Nat) : Codec SerdeError Fatal Nat where
  write := putNumber width
  read := tryGet width
  scan input :=
    if width ≤ input.length then ⟨[], some (input.drop width)⟩ else .malformed
  seen number := number % 256 ^ width
  Survives _ := True
  minSize := width
  roundTrip number _ _ rest := by
    rw [putNumber, Written.ok, tryGet_append (BigEndian.length_bytes _ _),
      BigEndian.value_bytes]
  readsPrefix input number rest got := by
    obtain ⟨used, rfl, lengthEq, rfl⟩ := tryGet_eq_done got
    exact ⟨used, rfl, lengthEq.ge, tryGet_append lengthEq⟩
  explains input := by
    unfold tryGet
    split_ifs
    · exact ⟨rfl, nofun⟩
    · exact ⟨rfl, nofun⟩

def u8 : Codec SerdeError Fatal UInt8 := (number 1).imap UInt8.ofNat UInt8.toNat
def u16 : Codec SerdeError Fatal UInt16 := (number 2).imap UInt16.ofNat UInt16.toNat
def u32 : Codec SerdeError Fatal UInt32 := (number 4).imap UInt32.ofNat UInt32.toNat
def u64 : Codec SerdeError Fatal UInt64 := (number 8).imap UInt64.ofNat UInt64.toNat

/-- `f64` as its bit pattern. -/
def f64 : Codec SerdeError Fatal Binary64 := u64.imap Binary64.mk Binary64.bits

/-- A byte that is zero or one. -/
def bool : Codec SerdeError Fatal Bool where
  write bool := .ok [if bool then 1 else 0]
  read input := (deserializeBoolFromByte input).map id (.context "failed to deserialize bool")
  scan input :=
    match deserializeBoolFromByte input with
    | .done _ rest => ⟨[], some rest⟩
    | _ => .malformed
  seen bool := bool
  Survives _ := True
  minSize := 1
  roundTrip bool _ _ rest := by cases bool <;> rfl
  readsPrefix input bool rest read := by
    obtain ⟨bool, got, rfl⟩ := Reading.map_eq_done read
    obtain ⟨byte, between, got, matched⟩ := Reading.andThen_eq_done got
    obtain ⟨used, rfl, lengthEq, rfl⟩ := tryGet_eq_done got
    refine ⟨used, ?_, lengthEq.ge, fun other => ?_⟩
    · split at matched <;> cases matched <;> rfl
    · rw [deserializeBoolFromByte, tryGet_append lengthEq]
      split at matched
      · rename_i valueEq
        cases matched
        simp [Reading.andThen, valueEq, Reading.map]
      · rename_i valueEq
        cases matched
        simp [Reading.andThen, valueEq, Reading.map]
      · cases matched
  explains input := by
    cases got : deserializeBoolFromByte input with
    | done bool rest => exact ⟨rfl, nofun⟩
    | failed err => exact ⟨rfl, nofun⟩
    | panicked => exact absurd got (deserializeBoolFromByte_ne_panicked input)

theorem bool_calm : (bool : Codec SerdeError Fatal Bool).Calm := by
  intro input panicked
  have noPanic := deserializeBoolFromByte_ne_panicked input
  change (deserializeBoolFromByte input).map id _ = .panicked at panicked
  cases got : deserializeBoolFromByte input with
  | done bool rest => simp [got, Reading.map] at panicked
  | failed err => simp [got, Reading.map] at panicked
  | panicked => exact noPanic got

theorem number_calm (width : Nat) : (number width : Codec SerdeError Fatal Nat).Calm :=
  tryGet_ne_panicked width

theorem f64_calm : (f64 : Codec SerdeError Fatal Binary64).Calm :=
  ((number_calm 8).adapt _ _ _ _).adapt _ _ _ _

/-- A byte that says whether a value follows. -/
def option (codec : Codec SerdeError Fatal Value) : Codec SerdeError Fatal (Option Value) :=
  .choose bool bool_calm Option.isSome (fun _ => ⟨trivial, rfl⟩) fun isSome =>
    if isSome then codec.restrict some id (.custom "no value")
    else Codec.unit.imap (fun _ => none) fun _ => ()

/-- A length, and then so many bytes or elements. -/
def sequence (what : String) (codec : Codec SerdeError Fatal Value)
    (nonempty : 0 < codec.minSize) : Codec SerdeError Fatal (List Value) where
  write values := (putLength what values.length).append (codec.writeMany values)
  read input := (deserializeAndEnsureLength input).andThen codec.readMany
  scan input :=
    match deserializeAndEnsureLength input with
    | .done length rest => codec.scanMany length rest
    | _ => .malformed
  seen values := values.map codec.seen
  Survives values := ∀ value ∈ values, codec.Survives value
  minSize := 8
  roundTrip values succeeds survive rest := by
    obtain ⟨lengthOk, valuesOk, bytesEq⟩ := Written.append_succeeds succeeds
    obtain ⟨fits, lengthEq⟩ := putLength_succeeds lengthOk
    have enough : values.length ≤ ((codec.writeMany values).bytes ++ rest).length := by
      have long := codec.length_writeMany valuesOk survive
      have each := Nat.le_mul_of_pos_right values.length nonempty
      rw [List.length_append]
      omega
    rw [bytesEq, lengthEq, Written.ok, List.append_assoc, ensureLength_append fits enough,
      Reading.andThen, codec.readMany_writeMany valuesOk survive]
  readsPrefix input values rest read := by
    obtain ⟨length, between, ensured, manyRead⟩ := Reading.andThen_eq_done read
    obtain ⟨used, rfl, lengthEq, -, elsewhere⟩ := ensureLength_eq_done ensured
    obtain ⟨used', rfl, long, manyElsewhere⟩ := codec.readMany_readsPrefix manyRead
    refine ⟨used ++ used', (List.append_assoc ..).symm, ?_, fun other => ?_⟩
    · rw [List.length_append, lengthEq]
      exact Nat.le_add_right _ _
    · have each := Nat.le_mul_of_pos_right length nonempty
      have enough : length ≤ (used' ++ other).length := by
        rw [List.length_append]
        omega
      rw [List.append_assoc, elsewhere _ enough, Reading.andThen, manyElsewhere]
  explains input := by
    cases ensured : deserializeAndEnsureLength input with
    | done length rest => exact codec.scanMany_explains length rest
    | failed err => exact ⟨rfl, nofun⟩
    | panicked => exact absurd ensured (ensureLength_ne_panicked input)

/-- A string after the number of its bytes. -/
def string : Codec SerdeError Fatal String where
  write string :=
    (putLength "string" (utf8Bytes string).length).append (.ok (utf8Bytes string))
  read input := (deserializeAndEnsureLength input).andThen fun length rest =>
    match stringFromUtf8 (rest.take length) with
    | .ok string => .done string (rest.drop length)
    | .error err => .failed err
  scan input :=
    match deserializeAndEnsureLength input with
    | .done length rest =>
        match stringFromUtf8 (rest.take length) with
        | .ok _ => ⟨[], some (rest.drop length)⟩
        | .error _ => .malformed
    | _ => .malformed
  seen string := string
  Survives _ := True
  minSize := 8
  roundTrip string succeeds _ rest := by
    obtain ⟨lengthOk, -, bytesEq⟩ := Written.append_succeeds succeeds
    obtain ⟨fits, lengthEq⟩ := putLength_succeeds lengthOk
    rw [bytesEq, lengthEq, Written.ok, Written.ok, List.append_assoc,
      ensureLength_append fits (by simp), Reading.andThen]
    simp [stringFromUtf8_utf8Bytes]
  readsPrefix input value rest read := by
    obtain ⟨length, between, ensured, decoded⟩ := Reading.andThen_eq_done read
    obtain ⟨used, rfl, lengthEq, enough, elsewhere⟩ := ensureLength_eq_done ensured
    split at decoded
    · rename_i valid
      cases decoded
      refine ⟨used ++ between.take length, ?_, ?_, fun other => ?_⟩
      · rw [List.append_assoc, List.take_append_drop]
      · rw [List.length_append, lengthEq]
        exact Nat.le_add_right _ _
      · have takenLength : (between.take length).length = length :=
          List.length_take_of_le enough
        rw [List.append_assoc, elsewhere _ (by rw [List.length_append, takenLength]; omega),
          Reading.andThen, List.take_left' takenLength, List.drop_left' takenLength, valid]
    · cases decoded
  explains input := by
    cases ensured : deserializeAndEnsureLength input with
    | done length rest =>
        simp only [Reading.andThen]
        cases stringFromUtf8 (rest.take length) with
        | ok string => exact ⟨rfl, nofun⟩
        | error err => exact ⟨rfl, nofun⟩
    | failed err => exact ⟨rfl, nofun⟩
    | panicked => exact absurd ensured (ensureLength_ne_panicked input)

/-- A map is a sequence of keys and values. -/
def map : Codec SerdeError Fatal (SortedMap String String) :=
  (sequence "map" (string.pair string) (Nat.succ_pos 15)).imap SortedMap.ofEntries SortedMap.entries

def newtypeStruct (name : String) (codec : Codec SerdeError Fatal Value) :
    Codec SerdeError Fatal Value :=
  codec.mapFailures (.context s!"failed to serialize `{name}`")
    (.context s!"failed to deserialize `{name}`")

/-- The field `key` of the struct `name`. -/
def field (name key : String) (codec : Codec SerdeError Fatal Value) :
    Codec SerdeError Fatal Value :=
  codec.mapFailures (.context s!"failed to serialize `{key}` in `{name}`")
    (.context s!"failed to deserialize `{key}` in `{name}`")

/-- The field `key` of a variant of the enum `name`; reading does not say of which. -/
def variantField (name variant key : String) (codec : Codec SerdeError Fatal Value) :
    Codec SerdeError Fatal Value :=
  codec.mapFailures (.context s!"failed to serialize `{key}` in `{name}::{variant}`")
    (.context s!"failed to deserialize `{key}` in `{name}`")

/-- A variant of an enum: the values that are of this variant and how they are written
after its index. -/
structure Variant (Fatal : Mark → Prop) (Value : Type) where
  holds : Value → Bool
  codec : Codec SerdeError Fatal Value

namespace Variant

/-- A variant with the content that `parts` takes out of a value. -/
def of (content : Codec SerdeError Fatal Value') (build : Value' → Value)
    (parts : Value → Option Value') : Variant Fatal Value where
  holds value := (parts value).isSome
  codec := content.restrict build parts (.custom "another variant")

def unit [DecidableEq Value] (value : Value) : Variant Fatal Value :=
  .of .unit (fun _ => value) fun other => if other = value then some () else none

def newtype (name variant : String) (content : Codec SerdeError Fatal Value')
    (build : Value' → Value) (parts : Value → Option Value') : Variant Fatal Value :=
  .of (content.mapFailures (.context s!"failed to serialize `{name}::{variant}`")
    (.context s!"failed to deserialize `{name}::{variant}`")) build parts

end Variant

/-- The index of the variant of a value. -/
def variantIndex (variants : List (Variant Fatal Value)) (value : Value) : Nat :=
  variants.findIdx (·.holds value)

/-- The index of a variant in four bytes and then its content. -/
def enum (name : String) (variants : List (Variant Fatal Value))
    (few : variants.length < 2 ^ 32) : Codec SerdeError Fatal Value :=
  .choose (number 4) (number_calm 4) (variantIndex variants)
    (fun _ => ⟨trivial, Nat.mod_eq_of_lt (Nat.lt_of_le_of_lt List.findIdx_le_length few)⟩)
    fun index =>
      match variants[index]? with
      | some variant => variant.codec
      | none =>
          let last := variants.length - 1
          .reject (.custom "no variant")
            (.custom s!"invalid variant index `{index}` for enum `{name}` (expected `0`..`{last}`)")

theorem delivers_u8 (number : UInt8) :
    (u8 : Codec SerdeError Fatal UInt8).Delivers number number :=
  ⟨trivial, UInt8.toNat_inj.mp (by simp [u8, Codec.imap, Codec.adapt, SerdeCodec.number])⟩

theorem delivers_u16 (number : UInt16) :
    (u16 : Codec SerdeError Fatal UInt16).Delivers number number :=
  ⟨trivial, UInt16.toNat_inj.mp (by simp [u16, Codec.imap, Codec.adapt, SerdeCodec.number])⟩

theorem delivers_u32 (number : UInt32) :
    (u32 : Codec SerdeError Fatal UInt32).Delivers number number :=
  ⟨trivial, UInt32.toNat_inj.mp (by simp [u32, Codec.imap, Codec.adapt, SerdeCodec.number])⟩

theorem delivers_u64 (number : UInt64) :
    (u64 : Codec SerdeError Fatal UInt64).Delivers number number :=
  ⟨trivial, UInt64.toNat_inj.mp (by simp [u64, Codec.imap, Codec.adapt, SerdeCodec.number])⟩

theorem delivers_f64 (number : Binary64) :
    (f64 : Codec SerdeError Fatal Binary64).Delivers number number :=
  (delivers_u64 number.bits).imap rfl rfl

theorem delivers_string (text : String) :
    (string : Codec SerdeError Fatal String).Delivers text text :=
  ⟨trivial, rfl⟩

theorem delivers_option {codec : Codec SerdeError Fatal Value} {value : Option Value}
    {arrives : Value → Value} (delivers : ∀ inner, value = some inner →
      codec.Delivers inner (arrives inner)) :
    (option codec).Delivers value (value.map arrives) := by
  cases value with
  | none => exact ⟨trivial, rfl⟩
  | some inner =>
      have inside : (codec.restrict some id (.custom "no value")).Delivers (some inner)
          (some (arrives inner)) := (delivers inner rfl).restrict rfl rfl
      exact ⟨inside.survives, inside.seen⟩

theorem delivers_sequence {what : String} {codec : Codec SerdeError Fatal Value}
    {nonempty : 0 < codec.minSize} {values : List Value} {arrives : Value → Value}
    (delivers : ∀ value ∈ values, codec.Delivers value (arrives value)) :
    (sequence what codec nonempty).Delivers values (values.map arrives) :=
  ⟨fun value member => (delivers value member).survives,
    List.map_congr_left fun value member => (delivers value member).seen⟩

theorem delivers_map (services : SortedMap String String) :
    (map : Codec SerdeError Fatal (SortedMap String String)).Delivers services services := by
  have entries : (sequence "map" (string.pair string) (Nat.succ_pos 15) :
      Codec SerdeError Fatal (List (String × String))).Delivers services.entries
        (services.entries.map id) :=
    delivers_sequence fun entry _ => (delivers_string entry.1).pair (delivers_string entry.2)
  rw [List.map_id] at entries
  exact entries.imap rfl (SortedMap.ofEntries_entries services)

/-- A value is delivered as its variant delivers it. -/
theorem delivers_enum {name : String} {variants : List (Variant Fatal Value)}
    {few : variants.length < 2 ^ 32} {value value' : Value} {variant : Variant Fatal Value}
    (chosen : variants[variantIndex variants value]? = some variant)
    (delivers : variant.codec.Delivers value value') :
    (enum name variants few).Delivers value value' := by
  constructor
  · simp only [enum, Codec.choose, chosen]
    exact delivers.survives
  · simp only [enum, Codec.choose, chosen]
    exact delivers.seen

/-! ## Which values are written -/

theorem writes_number (width value : Nat) :
    (number width : Codec SerdeError Fatal Nat).Writes value := rfl

theorem writes_bool (value : Bool) : (bool : Codec SerdeError Fatal Bool).Writes value := rfl

theorem putLength_succeeds_iff {what : String} {length : Nat} :
    (putLength what length).failure = none ↔ length < 2 ^ 64 := by
  unfold putLength
  split_ifs with fits
  · exact iff_of_true rfl fits
  · exact iff_of_false nofun fits

theorem writes_string {text : String} :
    (string : Codec SerdeError Fatal String).Writes text ↔ (utf8Bytes text).length < 2 ^ 64 := by
  refine Written.append_failure_eq_none_iff.trans ?_
  rw [putLength_succeeds_iff]
  exact and_iff_left rfl

theorem writes_sequence {what : String} {codec : Codec SerdeError Fatal Value}
    {nonempty : 0 < codec.minSize} {values : List Value} :
    (sequence what codec nonempty).Writes values ↔
      values.length < 2 ^ 64 ∧ ∀ value ∈ values, codec.Writes value := by
  refine Written.append_failure_eq_none_iff.trans ?_
  rw [putLength_succeeds_iff, Codec.writes_many]

theorem writes_option {codec : Codec SerdeError Fatal Value} {value : Option Value} :
    (option codec).Writes value ↔ ∀ inner, value = some inner → codec.Writes inner := by
  rw [option, Codec.writes_choose, and_iff_right (writes_bool _)]
  cases value with
  | none =>
      rw [Option.isSome_none, if_neg Bool.false_ne_true, Codec.writes_imap]
      constructor
      · rintro - inner ⟨⟩
      · intro _
        exact Codec.writes_unit
  | some inner =>
      rw [Option.isSome_some, if_pos rfl, Codec.writes_restrict]
      simp

/-- A value is written as its variant writes it. -/
theorem writes_enum {name : String} {variants : List (Variant Fatal Value)}
    {few : variants.length < 2 ^ 32} {value : Value} {variant : Variant Fatal Value}
    (chosen : variants[variantIndex variants value]? = some variant) :
    (enum name variants few).Writes value ↔ variant.codec.Writes value := by
  rw [enum, Codec.writes_choose, and_iff_right (writes_number _ _), chosen]

namespace Variant

theorem writes_of {content : Codec SerdeError Fatal Value'} {build : Value' → Value}
    {parts : Value → Option Value'} {value : Value} :
    (Variant.of content build parts).codec.Writes value ↔
      ∃ inner, parts value = some inner ∧ content.Writes inner :=
  Codec.writes_restrict

theorem writes_newtype {name variant : String} {content : Codec SerdeError Fatal Value'}
    {build : Value' → Value} {parts : Value → Option Value'} {value : Value} :
    (Variant.newtype name variant content build parts).codec.Writes value ↔
      ∃ inner, parts value = some inner ∧ content.Writes inner := by
  simp only [newtype, writes_of, Codec.writes_mapFailures]

end Variant

end SerdeCodec

end CreoBench
