import CreoBench.SerdeDataModel

/-!
# Which values are read back

The format of every type, which the serializer writes and the deserializer
accepts.  The length of a sequence is checked against the bytes that are left,
although it counts elements.  Elements that take no bytes can therefore be
missing the bytes that their number asks for, and only they can.
-/

namespace CreoBench

open BytesSerializer BytesDeserializer

mutual

/-- The types whose values take no bytes. -/
def Shape.isEmpty : Shape → Bool
  | .unit | .unitStruct _ => true
  | .newtypeStruct _ inner => inner.isEmpty
  | .tuple fields | .tupleStruct _ fields | .struct _ fields => fields.isEmpty
  | .bool | .number _ | .char | .string | .bytes | .option _ | .seq _ | .map _ _
  | .enum _ _ => false

def Fields.isEmpty : Fields → Bool
  | .nil => true
  | .cons _ type rest => type.isEmpty && rest.isEmpty

end

/-! ## The formats of the parts -/

/-- A number in so many bytes. -/
def wordFormat {Value : Type} (width : Nat) (bits : Value → Nat) : ByteFormat Value where
  encoding value := BigEndian.bytes width (bits value)
  Fits _ _ := True

def boolFormat : ByteFormat Bool where
  encoding value := [if value then 1 else 0]
  Fits _ _ := True

/-- Bytes after their number. -/
def bytesFormat : ByteFormat (List UInt8) where
  encoding bytes := BigEndian.bytes 8 bytes.length ++ bytes
  Fits bytes _ := bytes.length < 2 ^ 64

def stringFormat : ByteFormat String where
  encoding text := bytesFormat.encoding (utf8Bytes text)
  Fits text := bytesFormat.Fits (utf8Bytes text)

def optionFormat {Value : Type} (inner : ByteFormat Value) : ByteFormat (Option Value) where
  encoding
    | none => [0]
    | some value => 1 :: inner.encoding value
  Fits
    | none, _ => True
    | some value, after => inner.Fits value after

/-- Elements after their number.  If they are `empty`, which is to take no bytes, as many
bytes have to follow. -/
def sequenceFormat {Value : Type} (empty : Bool) (element : ByteFormat Value) :
    ByteFormat (List Value) where
  encoding values := BigEndian.bytes 8 values.length ++ element.many.encoding values
  Fits values after :=
    values.length < 2 ^ 64 ∧ (empty = true → values.length ≤ after) ∧
      element.many.Fits values after

/-- No values. -/
def emptyFormat : ByteFormat Empty where
  encoding := Empty.elim
  Fits := Empty.elim

/-- The content of a variant after its index. -/
def enumFormat {Value : Type} (index : Value → Nat) (content : ByteFormat Value) :
    ByteFormat Value where
  encoding value := BigEndian.bytes 4 (index value) ++ content.encoding value
  Fits value after := index value < 2 ^ 32 ∧ content.Fits value after

def sumFormat {Value Value' : Type} (first : ByteFormat Value) (second : ByteFormat Value') :
    ByteFormat (Value ⊕ Value') where
  encoding := Sum.elim first.encoding second.encoding
  Fits := Sum.elim first.Fits second.Fits

/-- The position of the variant that a value is of. -/
def Variants.index : (variants : Variants) → variants.Value → Nat
  | .nil => Empty.elim
  | .cons _ _ rest => Sum.elim (fun _ => 0) fun value => rest.index value + 1

mutual

def Shape.format : (shape : Shape) → ByteFormat shape.Value
  | .bool => boolFormat
  | .number type => wordFormat type.width type.bits
  | .char => wordFormat 4 Char.toNat
  | .string => stringFormat
  | .bytes => bytesFormat
  | .unit => .unit
  | .unitStruct _ => .unit
  | .option inner => optionFormat inner.format
  | .newtypeStruct _ inner => inner.format
  | .tuple elements => elements.format
  | .tupleStruct _ fields => fields.format
  | .struct _ fields => fields.format
  | .seq element => sequenceFormat element.isEmpty element.format
  | .map key value =>
      sequenceFormat (key.isEmpty && value.isEmpty) (key.format.pair value.format)
  | .enum _ variants => enumFormat variants.index variants.format

def Fields.format : (fields : Fields) → ByteFormat fields.Value
  | .nil => .unit
  | .cons _ type rest => type.format.pair rest.format

def Content.format : (content : Content) → ByteFormat content.Value
  | .unit => .unit
  | .newtype inner => inner.format
  | .tuple fields => fields.format
  | .struct fields => fields.format

/-- The contents of the variants, without their indices. -/
def Variants.format : (variants : Variants) → ByteFormat variants.Value
  | .nil => emptyFormat
  | .cons _ content rest => sumFormat content.format rest.format

end

theorem bytes_append_ne_nil {width : Nat} (positive : 0 < width) (number : Nat)
    (tail : List UInt8) : BigEndian.bytes width number ++ tail ≠ [] := by
  intro nil
  have length := congrArg List.length nil
  rw [List.length_append, BigEndian.length_bytes, List.length_nil] at length
  omega

theorem NumberType.bytes_ne_nil (type : NumberType) (number : Nat) :
    BigEndian.bytes type.width number ≠ [] := by
  have positive : 0 < type.width := by cases type <;> decide
  simpa using bytes_append_ne_nil positive number []

theorem encoding_pair_eq_nil_iff {Value Value' : Type} {first : ByteFormat Value}
    {second : ByteFormat Value'} {empty empty' : Bool}
    (firstNil : ∀ value, first.encoding value = [] ↔ empty = true)
    (secondNil : ∀ value, second.encoding value = [] ↔ empty' = true)
    (values : Value × Value') :
    (first.pair second).encoding values = [] ↔ (empty && empty') = true := by
  rw [Bool.and_eq_true, ← firstNil values.1, ← secondNil values.2]
  exact List.append_eq_nil_iff

mutual

theorem Shape.encoding_eq_nil_iff : (shape : Shape) → (value : shape.Value) →
    (shape.format.encoding value = [] ↔ shape.isEmpty = true)
  | .bool, _ => iff_of_false (List.cons_ne_nil _ _) Bool.false_ne_true
  | .number type, _ => iff_of_false (type.bytes_ne_nil _) Bool.false_ne_true
  | .char, _ => iff_of_false (NumberType.bytes_ne_nil .u32 _) Bool.false_ne_true
  | .string, _ | .bytes, _ | .seq _, _ | .map _ _, _ =>
      iff_of_false (bytes_append_ne_nil (by decide) _ _) Bool.false_ne_true
  | .enum _ _, _ => iff_of_false (bytes_append_ne_nil (by decide) _ _) Bool.false_ne_true
  | .option _, none | .option _, some _ =>
      iff_of_false (List.cons_ne_nil _ _) Bool.false_ne_true
  | .unit, _ | .unitStruct _, _ => iff_of_true rfl rfl
  | .newtypeStruct _ inner, value => inner.encoding_eq_nil_iff value
  | .tuple fields, values | .tupleStruct _ fields, values | .struct _ fields, values =>
      fields.encoding_eq_nil_iff values

theorem Fields.encoding_eq_nil_iff : (fields : Fields) → (values : fields.Value) →
    (fields.format.encoding values = [] ↔ fields.isEmpty = true)
  | .nil, _ => iff_of_true rfl rfl
  | .cons _ type rest, values =>
      encoding_pair_eq_nil_iff type.encoding_eq_nil_iff rest.encoding_eq_nil_iff values

end

/-- Elements that take bytes bring along as many as the deserializer asks for. -/
theorem sequence_enough_iff {Value : Type} {element : ByteFormat Value} {empty : Bool}
    (takesNoBytes : ∀ value, element.encoding value = [] ↔ empty = true)
    (values : List Value) (after : Nat) :
    values.length ≤ (element.many.encoding values).length + after ↔
      (empty = true → values.length ≤ after) := by
  cases empty with
  | false =>
      have long := ByteFormat.length_le_many fun value (_ : value ∈ values) =>
        mt (takesNoBytes value).mp Bool.false_ne_true
      exact iff_of_true (by omega) fun impossible => absurd impossible Bool.false_ne_true
  | true =>
      have none : element.many.encoding values = [] :=
        List.flatMap_eq_nil_iff.mpr fun value _ => (takesNoBytes value).mpr rfl
      rw [none, List.length_nil, Nat.zero_add]
      exact ⟨fun enough _ => enough, fun enough => enough rfl⟩

/-! ## Writers -/

theorem writes_serializeBytes : bytesFormat.Writes serializeBytes := by
  intro bytes after fits
  have fits : bytes.length < 2 ^ 64 := fits
  rw [serializeBytes, if_pos fits]
  rfl

theorem writes_serializeStr : stringFormat.Writes serializeStr := by
  intro text after fits
  have fits : (utf8Bytes text).length < 2 ^ 64 := fits
  rw [serializeStr, putLength, if_pos fits]
  rfl

theorem writes_putLength {Value : Type} {element : ByteFormat Value}
    {write : Value → Written SerdeError} (writes : element.Writes write) (empty : Bool)
    (what : String) :
    (sequenceFormat empty element).Writes fun values =>
      (putLength what values.length).append (ByteFormat.writeMany write values) := by
  rintro values after ⟨small, -, fits⟩
  dsimp only
  rw [putLength, if_pos small, writes.many values after fits]
  rfl

mutual

theorem Shape.writes : (shape : Shape) → shape.format.Writes shape.serialize
  | .bool => fun _ _ _ => rfl
  | .number _ => fun _ _ _ => rfl
  | .char => fun _ _ _ => rfl
  | .string => writes_serializeStr
  | .bytes => writes_serializeBytes
  | .unit => ByteFormat.writes_unit
  | .unitStruct _ => ByteFormat.writes_unit
  | .option inner => by
      rintro (_ | value) after fits
      · rfl
      · change (Written.ok [1]).append (inner.serialize value) = _
        rw [inner.writes value after fits]
        rfl
  | .newtypeStruct _ inner => inner.writes.mapFailure _
  | .tuple elements => elements.writes _
  | .tupleStruct _ fields => fields.writes _
  | .struct _ fields => fields.writes _
  | .seq element => writes_putLength element.writes _ "sequence"
  | .map key value => writes_putLength (key.writes.pair value.writes) _ "map"
  | .enum name variants => by
      rintro value after ⟨-, fits⟩
      exact (variants.writes name 0 value after fits).trans (by rw [Nat.zero_add]; rfl)

theorem Fields.writes (onFailure : String → SerdeError → SerdeError) :
    (fields : Fields) → fields.format.Writes (fields.serialize onFailure)
  | .nil => ByteFormat.writes_unit
  | .cons key type rest => (type.writes.mapFailure (onFailure key)).pair (rest.writes onFailure)

theorem Content.writes (name variant : String) (index : Nat) :
    (content : Content) → (value : content.Value) → (after : Nat) →
      content.format.Fits value after →
        content.serialize name variant index value =
          .ok (BigEndian.bytes 4 index ++ content.format.encoding value)
  | .unit, _, _, _ => congrArg Written.ok (List.append_nil _).symm
  | .newtype inner, value, after, fits => by
      change (putVariantIndex index).append ((inner.serialize value).mapFailure _) = _
      rw [inner.writes value after fits]
      rfl
  | .tuple fields, values, after, fits => by
      change (putVariantIndex index).append (fields.serialize _ values) = _
      rw [fields.writes _ values after fits]
      rfl
  | .struct fields, values, after, fits => by
      change (putVariantIndex index).append (fields.serialize _ values) = _
      rw [fields.writes _ values after fits]
      rfl

theorem Variants.writes (name : String) :
    (variants : Variants) → (first : Nat) → (value : variants.Value) → (after : Nat) →
      variants.format.Fits value after →
        variants.serialize name first value =
          .ok (BigEndian.bytes 4 (first + variants.index value) ++ variants.format.encoding value)
  | .cons variant content _, first, .inl value, after, fits =>
      content.writes name variant first value after fits
  | .cons _ _ rest, first, .inr value, after, fits => by
      have later := rest.writes name (first + 1) value after fits
      rw [Nat.add_right_comm, Nat.add_assoc] at later
      exact later

end

/-! ## Readers -/

theorem tryGet_eq_done_iff {width number : Nat} {input rest : List UInt8} :
    tryGet width input = .done number rest ↔
      input = BigEndian.bytes width number ++ rest ∧ number < 256 ^ width := by
  constructor
  · intro got
    obtain ⟨used, rfl, rfl, rfl⟩ := tryGet_eq_done got
    exact ⟨by rw [BigEndian.bytes_value], BigEndian.value_lt used⟩
  · rintro ⟨rfl, small⟩
    rw [tryGet_append (BigEndian.length_bytes _ _), BigEndian.value_bytes,
      Nat.mod_eq_of_lt small]

theorem ensureLength_eq_done_iff {length : Nat} {input rest : List UInt8} :
    deserializeAndEnsureLength input = .done length rest ↔
      input = BigEndian.bytes 8 length ++ rest ∧ length < 2 ^ 64 ∧ length ≤ rest.length := by
  constructor
  · intro ensured
    obtain ⟨number, between, got, ensured⟩ := Reading.andThen_eq_done ensured
    dsimp only at ensured
    split_ifs at ensured with short
    cases ensured
    obtain ⟨inputEq, small⟩ := tryGet_eq_done_iff.mp got
    exact ⟨inputEq, small, Nat.not_lt.mp short⟩
  · rintro ⟨rfl, small, enough⟩
    exact ensureLength_append small enough

theorem reads_word {Value : Type} {width : Nat} {bits : Value → Nat} {ofBits : Nat → Value}
    (bits_lt : ∀ value, bits value < 256 ^ width) (ofBits_bits : ∀ value, ofBits (bits value) = value)
    (bits_ofBits : ∀ number, number < 256 ^ width → bits (ofBits number) = number) :
    (wordFormat width bits).Reads fun input =>
      ((tryGet width input).map ofBits id : Reading SerdeError Value) := by
  intro input value rest
  simp only [Reading.map_eq_done_iff, tryGet_eq_done_iff]
  constructor
  · rintro ⟨number, ⟨rfl, small⟩, rfl⟩
    refine ⟨?_, trivial⟩
    change _ = BigEndian.bytes width (bits (ofBits number)) ++ rest
    rw [bits_ofBits number small]
  · rintro ⟨rfl, -⟩
    exact ⟨bits value, ⟨rfl, bits_lt value⟩, ofBits_bits value⟩

theorem reads_deserializeBool : boolFormat.Reads deserializeBool := by
  intro input value rest
  simp only [deserializeBool, deserializeBoolFromByte, Reading.map_eq_done_iff,
    Reading.andThen_eq_done_iff, tryGet_eq_done_iff]
  constructor
  · rintro ⟨_, ⟨number, between, ⟨rfl, -⟩, matched⟩, rfl⟩
    split at matched <;> cases matched
    · exact ⟨rfl, trivial⟩
    · exact ⟨rfl, trivial⟩
  · rintro ⟨rfl, -⟩
    cases value with
    | false => exact ⟨false, ⟨0, rest, ⟨rfl, by decide⟩, rfl⟩, rfl⟩
    | true => exact ⟨true, ⟨1, rest, ⟨rfl, by decide⟩, rfl⟩, rfl⟩

theorem toNat_charOfNat {codepoint : Nat} (valid : codepoint.isValidChar) :
    (Char.ofNat codepoint).toNat = codepoint := by
  rw [Char.ofNat, dif_pos valid]
  rfl

theorem reads_deserializeChar : (wordFormat 4 Char.toNat).Reads deserializeChar := by
  intro input char rest
  simp only [deserializeChar, Reading.andThen_eq_done_iff, tryGet_eq_done_iff]
  constructor
  · rintro ⟨codepoint, between, ⟨rfl, -⟩, found⟩
    split_ifs at found with valid
    cases found
    refine ⟨?_, trivial⟩
    change _ = BigEndian.bytes 4 (Char.ofNat codepoint).toNat ++ rest
    rw [toNat_charOfNat valid]
  · rintro ⟨rfl, -⟩
    have small : char.toNat < 256 ^ 4 := char.val.toNat_lt
    have valid : char.toNat.isValidChar := char.valid
    exact ⟨char.toNat, rest, ⟨rfl, small⟩, by rw [if_pos valid, Char.ofNat_toNat]⟩

theorem reads_deserializeByteBuf : bytesFormat.Reads deserializeByteBuf := by
  intro input bytes rest
  simp only [deserializeByteBuf, Reading.andThen_eq_done_iff, ensureLength_eq_done_iff]
  constructor
  · rintro ⟨length, between, ⟨rfl, small, enough⟩, ⟨⟩⟩
    have lengthEq := List.length_take_of_le enough
    refine ⟨?_, ?_⟩
    · change _ = BigEndian.bytes 8 (between.take length).length ++ between.take length ++ _
      rw [lengthEq, List.append_assoc, List.take_append_drop]
    · change (between.take length).length < 2 ^ 64
      rwa [lengthEq]
  · rintro ⟨rfl, small⟩
    refine ⟨bytes.length, bytes ++ rest, ⟨List.append_assoc .., small, by simp⟩, ?_⟩
    rw [List.take_left' rfl, List.drop_left' rfl]

theorem reads_deserializeString : stringFormat.Reads deserializeString := by
  intro input text rest
  simp only [deserializeString, Reading.andThen_eq_done_iff, reads_deserializeByteBuf input]
  constructor
  · rintro ⟨bytes, between, ⟨rfl, small⟩, matched⟩
    split at matched <;> cases matched
    rename_i valid
    obtain rfl := stringFromUtf8_eq_ok_iff.mp valid
    exact ⟨rfl, small⟩
  · rintro ⟨rfl, small⟩
    exact ⟨utf8Bytes text, rest, ⟨rfl, small⟩, by rw [stringFromUtf8_utf8Bytes]⟩

theorem reads_sequence {Value : Type} {element : ByteFormat Value} {empty : Bool}
    {read : List UInt8 → Reading SerdeError Value} (reads : element.Reads read)
    (takesNoBytes : ∀ value, element.encoding value = [] ↔ empty = true) :
    (sequenceFormat empty element).Reads fun input =>
      (deserializeAndEnsureLength input).andThen (ByteFormat.readMany read) := by
  intro input values rest
  have enough_iff := sequence_enough_iff takesNoBytes values rest.length
  simp only [Reading.andThen_eq_done_iff, ensureLength_eq_done_iff, reads.many]
  constructor
  · rintro ⟨length, _, ⟨rfl, small, enough⟩, rfl, rfl, fits⟩
    rw [List.length_append] at enough
    exact ⟨(List.append_assoc ..).symm, small, enough_iff.mp enough, fits⟩
  · rintro ⟨rfl, small, enough, fits⟩
    refine ⟨values.length, _, ⟨List.append_assoc .., small, ?_⟩, rfl, rfl, fits⟩
    rw [List.length_append]
    exact enough_iff.mpr enough

theorem reads_option {Value : Type} {inner : ByteFormat Value}
    {read : List UInt8 → Reading SerdeError Value} (reads : inner.Reads read) :
    (optionFormat inner).Reads fun input =>
      (deserializeBool input).andThen fun isSome rest =>
        if isSome then (read rest).map some id else .done none rest := by
  intro input value rest
  simp only [Reading.andThen_eq_done_iff, reads_deserializeBool input]
  constructor
  · rintro ⟨isSome, between, ⟨rfl, -⟩, found⟩
    cases isSome with
    | false =>
        cases found
        exact ⟨rfl, trivial⟩
    | true =>
        obtain ⟨value, got, rfl⟩ := Reading.map_eq_done found
        obtain ⟨rfl, fits⟩ := (reads _ _ _).mp got
        exact ⟨rfl, fits⟩
  · rintro ⟨rfl, fits⟩
    cases value with
    | none => exact ⟨false, rest, ⟨rfl, trivial⟩, rfl⟩
    | some value =>
        refine ⟨true, inner.encoding value ++ rest, ⟨rfl, trivial⟩, ?_⟩
        rw [if_pos rfl, (reads _ _ _).mpr ⟨rfl, fits⟩]
        rfl

/-- A reader that is told the position of the variant. -/
def ReadsAt {Value : Type} (index : Value → Nat) (content : ByteFormat Value)
    (read : Nat → List UInt8 → Reading SerdeError Value) : Prop :=
  ∀ position input value rest, read position input = .done value rest ↔
    index value = position ∧ input = content.encoding value ++ rest ∧
      content.Fits value rest.length

theorem reads_enum {Value : Type} {index : Value → Nat} {content : ByteFormat Value}
    {read : Nat → List UInt8 → Reading SerdeError Value} (reads : ReadsAt index content read) :
    (enumFormat index content).Reads fun input =>
      (tryGet 4 input).andThen fun position rest => read position rest := by
  intro input value rest
  simp only [Reading.andThen_eq_done_iff, tryGet_eq_done_iff, reads _ _]
  constructor
  · rintro ⟨_, _, ⟨rfl, small⟩, rfl, rfl, fits⟩
    exact ⟨(List.append_assoc ..).symm, small, fits⟩
  · rintro ⟨rfl, small, fits⟩
    exact ⟨_, _, ⟨List.append_assoc .., small⟩, rfl, rfl, fits⟩

section Sum

variable {Value Value' : Type} {first : ByteFormat Value} {others : ByteFormat Value'}
variable {index : Value' → Nat} {input rest : List UInt8} {value : Value ⊕ Value'}

theorem map_inl_eq_done_iff {read : List UInt8 → Reading SerdeError Value}
    (reads : first.Reads read) :
    (read input).map Sum.inl id = .done value rest ↔
      Sum.elim (fun _ => 0) (fun other => index other + 1) value = 0 ∧
        input = (sumFormat first others).encoding value ++ rest ∧
          (sumFormat first others).Fits value rest.length := by
  simp only [Reading.map_eq_done_iff, reads input]
  cases value with
  | inl value =>
      constructor
      · rintro ⟨_, ⟨rfl, fits⟩, ⟨⟩⟩
        exact ⟨rfl, rfl, fits⟩
      · rintro ⟨-, rfl, fits⟩
        exact ⟨value, ⟨rfl, fits⟩, rfl⟩
  | inr value =>
      constructor
      · rintro ⟨_, -, ⟨⟩⟩
      · rintro ⟨⟨⟩, -⟩

theorem map_inr_eq_done_iff {read : Nat → List UInt8 → Reading SerdeError Value'}
    (reads : ReadsAt index others read) {position : Nat} :
    (read position input).map Sum.inr id = .done value rest ↔
      Sum.elim (fun _ => 0) (fun other => index other + 1) value = position + 1 ∧
        input = (sumFormat first others).encoding value ++ rest ∧
          (sumFormat first others).Fits value rest.length := by
  simp only [Reading.map_eq_done_iff, reads position input]
  cases value with
  | inl value =>
      constructor
      · rintro ⟨_, -, ⟨⟩⟩
      · rintro ⟨⟨⟩, -⟩
  | inr value =>
      constructor
      · rintro ⟨_, ⟨rfl, rfl, fits⟩, ⟨⟩⟩
        exact ⟨rfl, rfl, fits⟩
      · rintro ⟨found, rfl, fits⟩
        exact ⟨value, ⟨Nat.succ.inj found, rfl, fits⟩, rfl⟩

end Sum

mutual

theorem Shape.reads : (shape : Shape) → shape.format.Reads shape.deserialize
  | .bool => reads_deserializeBool
  | .number type => reads_word type.bits_lt type.ofBits_bits fun _ => type.bits_ofBits
  | .char => reads_deserializeChar
  | .string => reads_deserializeString
  | .bytes => reads_deserializeByteBuf
  | .unit => ByteFormat.reads_unit
  | .unitStruct _ => ByteFormat.reads_unit
  | .option inner => reads_option inner.reads
  | .newtypeStruct _ inner => inner.reads.mapFailure _
  | .tuple elements => elements.reads _
  | .tupleStruct _ fields => fields.reads _
  | .struct _ fields => fields.reads _
  | .seq element => reads_sequence element.reads element.encoding_eq_nil_iff
  | .map key value =>
      reads_sequence (key.reads.pair value.reads)
        (encoding_pair_eq_nil_iff key.encoding_eq_nil_iff value.encoding_eq_nil_iff)
  | .enum name variants =>
      -- the index is looked up and told again to the variants
      fun input value rest =>
        @reads_enum _ _ _ (fun index => variants.deserialize name variants.count index index)
          (fun position => variants.reads name variants.count position position) input value rest

theorem Fields.reads (onFailure : String → SerdeError → SerdeError) :
    (fields : Fields) → fields.format.Reads (fields.deserialize onFailure)
  | .nil => ByteFormat.reads_unit
  | .cons key type rest => (type.reads.mapFailure (onFailure key)).pair (rest.reads onFailure)

theorem Content.reads (name variant : String) :
    (content : Content) → content.format.Reads (content.deserialize name variant)
  | .unit => ByteFormat.reads_unit
  | .newtype inner => inner.reads.mapFailure _
  | .tuple fields => (fields.reads _).mapFailure _
  | .struct fields => fields.reads _

theorem Variants.reads (name : String) (count index : Nat) :
    (variants : Variants) →
      ReadsAt variants.index variants.format (variants.deserialize name count index)
  | .nil => fun _ _ value _ => Empty.elim value
  | .cons variant content _ => fun
    | 0, _, _, _ => map_inl_eq_done_iff (content.reads name variant)
    | _ + 1, _, _, _ => map_inr_eq_done_iff (Variants.reads name count index _)

end

/-! ## The round trip -/

/-- The bytes that are written for a value are read as this value, and nothing of
what follows, exactly if no sequence or map in it has more elements without
bytes than bytes follow it. -/
theorem Shape.roundTrip_iff (shape : Shape) (value : shape.Value) (rest : List UInt8) :
    shape.deserialize ((shape.serialize value).bytes ++ rest) = .done value rest ↔
      shape.format.Fits value rest.length :=
  ByteFormat.readsBack_iff shape.writes shape.reads value rest

/-- Three units that are at the end of the input are not read back. -/
theorem Shape.units_not_read_back :
    ¬ ∀ (shape : Shape) (value : shape.Value) (rest : List UInt8),
      shape.deserialize ((shape.serialize value).bytes ++ rest) = .done value rest := by
  intro readBack
  have units : (deserializeAndEnsureLength [0, 0, 0, 0, 0, 0, 0, 3]).andThen
      (ByteFormat.readMany fun rest => Shape.unit.deserialize rest) = .done [(), (), ()] [] :=
    readBack (.seq .unit) [(), (), ()] []
  have failed : deserializeAndEnsureLength [0, 0, 0, 0, 0, 0, 0, 3] = .failed (.custom
      "unexpected end of buffer: expected `3` bytes but only `0` bytes remain") := by
    decide
  rw [failed] at units
  cases units

end CreoBench
