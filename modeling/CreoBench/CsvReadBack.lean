import CreoBench.Library.Csv
import CreoBench.Persisters

/-!
# Reading the CSV files back

Whatever the fields of a row contain, the text of a file is parsed into the rows
that it was written from.  `escape_field` encodes a single field; everything
that concerns several fields or rows is a property of the parser.
-/

namespace CreoBench

theorem encodes_escapeField (value : String) :
    Csv.Encodes (escapeField value).toList value.toList := by
  unfold escapeField
  split_ifs with special
  · simp only [String.toList_append, String.toList_ofList]
    exact .quoted
  · refine .plain fun char member => ?_
    have notSpecial : isSpecial char = false := by
      simpa using fun isSpecial => special (List.any_eq_true.mpr ⟨char, member, isSpecial⟩)
    exact notSpecial

theorem escapeField_eq_empty_iff {value : String} :
    (escapeField value).toList = [] ↔ value = "" := by
  unfold escapeField
  split_ifs with special
  · constructor
    · simp
    · rintro rfl
      simp at special
  · exact String.toList_eq_nil_iff

theorem toList_csvRow (fields : List String) :
    (csvRow fields).toList =
      [','].intercalate (fields.map fun field => (escapeField field).toList) := by
  rw [csvRow, String.toList_intercalate, List.map_map]
  rfl

theorem toList_fileText (lines : List String) :
    (fileText lines).toList = (lines.map fun line => line.toList ++ ['\n']).flatten := by
  induction lines with
  | nil => rfl
  | cons line lines ih => simp [ih]

/-- Rows that no reader takes for a blank line. -/
def Readable (skipsBlankLines : Bool) (row : List String) : Prop :=
  row ≠ [] ∧ (skipsBlankLines = true → row ≠ [""])

theorem isLine_csvRow {skipsBlankLines : Bool} {row : List String}
    (readable : Readable skipsBlankLines row) :
    Csv.IsLine skipsBlankLines ((csvRow row).toList ++ ['\n']) row := by
  refine ⟨row.map fun field => (escapeField field).toList, ['\n'], ?_, ?_, ?_, .inl rfl, ?_⟩
  · simpa using readable.1
  · intro skips blank
    refine readable.2 skips ?_
    obtain ⟨field, rfl, empty⟩ := List.map_eq_singleton_iff.mp blank
    rw [escapeField_eq_empty_iff.mp empty]
  · rw [List.forall₂_map_left_iff, List.forall₂_same]
    exact fun field _ => encodes_escapeField field
  · rw [toList_csvRow]

theorem parse_csvRows {skipsBlankLines : Bool} {rows : List (List String)}
    (readable : ∀ row ∈ rows, Readable skipsBlankLines row) :
    Csv.parse skipsBlankLines (fileText (rows.map csvRow)).toList = some rows := by
  rw [toList_fileText, List.map_map]
  refine Csv.parse_lines ?_
  rw [List.forall₂_map_left_iff, List.forall₂_same]
  exact fun row member => isLine_csvRow (readable row member)

theorem readable_of_two_le (skipsBlankLines : Bool) {row : List String}
    (several : 2 ≤ row.length) : Readable skipsBlankLines row := by
  constructor
  · rintro rfl
    simp at several
  · rintro - rfl
    simp at several

/-- The rows of a CSV file are read back as they were, whatever its reader makes
of blank lines. -/
theorem fileText_read_back (skipsBlankLines : Bool) (rows : List (List String))
    (several : ∀ row ∈ rows, 2 ≤ row.length) :
    Csv.parse skipsBlankLines (fileText (rows.map csvRow)).toList = some rows :=
  parse_csvRows fun row member => readable_of_two_le skipsBlankLines (several row member)

theorem fileText_read_back_specials :
    Csv.parse true (fileText ([["a\"", ",\r\n"], ["", "", "\""], ["\n", ""]].map csvRow)).toList =
      some [["a\"", ",\r\n"], ["", "", "\""], ["\n", ""]] :=
  fileText_read_back true _ (by decide)

/-! ## The files of a run -/

namespace IntervalCsvPersister

def columns : List String :=
  ["target_time", "load_level", "successful_transactions", "failed_transactions",
    "timeout_transactions", "dropped_transactions", "avg_service_time", "final_batch_time",
    "phase"]

theorem header_eq : header = csvRow columns := by decide +kernel

/-- The fields of a report's row. -/
def fields (texts : Texts) (report : IntervalReport) (phase : Phase) : List String :=
  [texts.seconds report.targetTime.duration.asSecsF64,
    toString report.loadLevel.toNat,
    toString report.stats.successfulTransactions.toNat,
    toString report.stats.failedTransactions.toNat,
    toString report.stats.timeoutTransactions.toNat,
    toString report.stats.droppedTransactions.toNat,
    toString report.stats.averageResponseTime.toNat,
    (report.finalBatchTime.map fun time => texts.seconds time.duration.asSecsF64).getD "",
    phase.text]

theorem formatRow_eq (texts : Texts) (report : IntervalReport) (phase : Phase) :
    formatRow texts report phase = csvRow (fields texts report phase) := rfl

/-- `interval.csv` has its column names and one row for every report. -/
theorem parse_expected (skipsBlankLines : Bool) (texts : Texts)
    (warmupDuration warmupPause : UInt32) (reports : List IntervalReport) :
    Csv.parse skipsBlankLines (expected texts warmupDuration warmupPause reports).toList =
      some (columns :: reports.mapIdx fun index report =>
        fields texts report (phaseOf warmupDuration warmupPause index)) := by
  have lines : header :: (reports.mapIdx fun index report =>
      formatRow texts report (phaseOf warmupDuration warmupPause index)) =
        (columns :: reports.mapIdx fun index report =>
          fields texts report (phaseOf warmupDuration warmupPause index)).map csvRow := by
    rw [List.map_cons, ← header_eq]
    congr 1
    rw [List.mapIdx_eq_iff]
    intro index
    rw [List.getElem?_map, List.getElem?_mapIdx, Option.map_map]
    rfl
  rw [expected, lines]
  refine parse_csvRows fun row member => readable_of_two_le _ ?_
  rcases List.mem_cons.mp member with rfl | member
  · decide
  · obtain ⟨index, _, rfl⟩ := List.mem_mapIdx.mp member
    simp [fields]

end IntervalCsvPersister

namespace TransactionCsvPersister

def columns : List String :=
  ["target_time", "start_time", "send_time", "load_generator_id", "virtual_user_id", "spec_id",
    "response_time_ms", "service_time_ms", "outcome", "reason"]

theorem header_eq : header = csvRow columns := by decide

def sentFields (texts : Texts) (metadata : ResultMetadata) (responseTime : ResponseTime)
    (serviceTime : ServiceTime) (outcome reason : String) : List String :=
  [texts.seconds metadata.targetTime.duration.asSecsF64,
    texts.seconds metadata.startTime.duration.asSecsF64,
    texts.seconds metadata.sendTime.duration.asSecsF64,
    toString metadata.loadgeneratorId.value.toNat,
    toString metadata.virtualUserId.value.toNat,
    toString metadata.specId.value.toNat,
    toString responseTime.asMillis.toNat,
    toString serviceTime.asMillis.toNat,
    outcome,
    reason]

/-- The fields of a result's row. -/
def fields (texts : Texts) : TransactionResult → List String
  | .success metadata responseTime serviceTime =>
      sentFields texts metadata responseTime serviceTime "success" ""
  | .failed metadata responseTime serviceTime code =>
      sentFields texts metadata responseTime serviceTime "failed" (code.text texts)
  | .timeout metadata responseTime serviceTime code =>
      sentFields texts metadata responseTime serviceTime "timeout" (code.text texts)
  | .dropped metadata responseTime code =>
      [texts.seconds metadata.targetTime.duration.asSecsF64,
        texts.seconds metadata.startTime.duration.asSecsF64,
        "",
        toString metadata.loadgeneratorId.value.toNat,
        (metadata.virtualUserId.map fun id => toString id.value.toNat).getD "",
        "",
        toString responseTime.asMillis.toNat,
        "",
        "dropped",
        code.text texts]

theorem formatRow_eq (texts : Texts) (result : TransactionResult) :
    formatRow texts result = csvRow (fields texts result) := by
  cases result <;> rfl

theorem length_fields (texts : Texts) (result : TransactionResult) :
    (fields texts result).length = columns.length := by
  cases result <;> rfl

/-- `transactions.csv` has its column names and one row for every result. -/
theorem parse_expected (skipsBlankLines : Bool) (texts : Texts)
    (reports : List IntervalReport) :
    Csv.parse skipsBlankLines (expected texts reports).toList =
      some (columns :: (reports.flatMap (·.results)).map (fields texts)) := by
  have lines : header :: (reports.flatMap (·.results)).map (formatRow texts) =
      (columns :: (reports.flatMap (·.results)).map (fields texts)).map csvRow := by
    rw [List.map_cons, ← header_eq, List.map_map]
    congr 2
    funext result
    exact formatRow_eq texts result
  rw [expected, lines]
  refine parse_csvRows fun row member => readable_of_two_le _ ?_
  rcases List.mem_cons.mp member with rfl | member
  · decide
  · obtain ⟨result, -, rfl⟩ := List.mem_map.mp member
    rw [length_fields]
    decide

end TransactionCsvPersister

end CreoBench
