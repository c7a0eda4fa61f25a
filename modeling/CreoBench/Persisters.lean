import CreoBench.DropSummary

/-!
# The CSV files of a run

The two persisters that write files.  Both write lines of escaped fields through
a `BufWriter`; how the standard library prints binary64 numbers and quoted
strings is left open.
-/

namespace CreoBench

/-- The characters that make a field be quoted. -/
def isSpecial (char : Char) : Bool := char ∈ ['"', ',', '\n', '\r']

def escapeField (value : String) : String :=
  if value.toList.any isSpecial then
    "\"" ++ String.ofList (value.toList.flatMap fun char =>
      if char = '"' then ['"', '"'] else [char]) ++ "\""
  else value

/-- Escaped fields, separated by commas. -/
def csvRow (fields : List String) : String :=
  ",".intercalate (fields.map escapeField)

/-- Conversions of the standard library into text. -/
structure Texts where
  /-- `f64::to_string` -/
  seconds : Binary64 → String
  /-- `{:?}` of a string -/
  quoted : String → String

namespace Phase

def text : Phase → String
  | .warmup => "warmup"
  | .pause => "pause"
  | .load => "load"

end Phase

/-! ## `std::io::BufWriter` -/

/-- Text that has reached the file and text that has not. -/
structure BufWriter where
  file : String
  buffer : String
  deriving DecidableEq

namespace BufWriter

def capacity : Nat := 8192

def new : BufWriter := ⟨"", ""⟩

def flush (writer : BufWriter) : BufWriter := ⟨writer.file ++ writer.buffer, ""⟩

/-- `write_all`, which writes the buffer first if the text does not fit in, and text that
fits in no buffer directly. -/
@[irreducible]
def writeAll (writer : BufWriter) (text : String) : BufWriter :=
  if writer.buffer.utf8ByteSize + text.utf8ByteSize < capacity then
    { writer with buffer := writer.buffer ++ text }
  else
    let writer :=
      if capacity < writer.buffer.utf8ByteSize + text.utf8ByteSize then writer.flush else writer
    if capacity ≤ text.utf8ByteSize then { writer with file := writer.file ++ text }
    else { writer with buffer := writer.buffer ++ text }

/-- `writeln!` -/
def writeLine (writer : BufWriter) (line : String) : BufWriter :=
  (writer.writeAll line).writeAll "\n"

/-- Everything that was written so far. -/
def text (writer : BufWriter) : String := writer.file ++ writer.buffer

@[simp]
theorem text_new : new.text = "" := rfl

@[simp]
theorem text_flush (writer : BufWriter) : writer.flush.text = writer.text := by
  simp [flush, text]

@[simp]
theorem buffer_flush (writer : BufWriter) : writer.flush.buffer = "" := rfl

@[simp]
theorem text_writeAll (writer : BufWriter) (text : String) :
    (writer.writeAll text).text = writer.text ++ text := by
  unfold writeAll
  by_cases fits : writer.buffer.utf8ByteSize + text.utf8ByteSize < capacity
  · rw [if_pos fits]
    simp [BufWriter.text, String.append_assoc]
  rw [if_neg fits]
  by_cases full : capacity < writer.buffer.utf8ByteSize + text.utf8ByteSize
  · rw [if_pos full]
    by_cases large : capacity ≤ text.utf8ByteSize
    · simp [large, BufWriter.text, flush]
    · simp [large, BufWriter.text, flush]
  · rw [if_neg full]
    by_cases large : capacity ≤ text.utf8ByteSize
    · have empty : writer.buffer = "" := by
        rw [← String.utf8ByteSize_eq_zero_iff]
        omega
      simp [large, BufWriter.text, empty]
    · simp [large, BufWriter.text, String.append_assoc]

@[simp]
theorem text_writeLine (writer : BufWriter) (line : String) :
    (writer.writeLine line).text = writer.text ++ line ++ "\n" := by
  simp [writeLine]

/-- What a file holds once its writer is flushed. -/
theorem file_eq_text {writer : BufWriter} (flushed : writer.buffer = "") :
    writer.file = writer.text := by
  rw [text, flushed]
  simp

end BufWriter

/-- Lines as they stand in a file. -/
def fileText (lines : List String) : String :=
  String.join (lines.map (· ++ "\n"))

@[simp]
theorem fileText_nil : fileText [] = "" := rfl

@[simp]
theorem fileText_cons (line : String) (lines : List String) :
    fileText (line :: lines) = line ++ "\n" ++ fileText lines := by
  simp [fileText]

@[simp]
theorem fileText_append (first second : List String) :
    fileText (first ++ second) = fileText first ++ fileText second := by
  simp [fileText]

/-! ## `interval.csv` -/

namespace IntervalCsvPersister

def fileName : String := "interval.csv"

def header : String :=
  "target_time,load_level,successful_transactions,failed_transactions,timeout_transactions," ++
    "dropped_transactions,avg_service_time,final_batch_time,phase"

def new : BufWriter := BufWriter.new.writeLine header

def formatRow (texts : Texts) (report : IntervalReport) (phase : Phase) : String :=
  csvRow
    [texts.seconds report.targetTime.duration.asSecsF64,
      toString report.loadLevel.toNat,
      toString report.stats.successfulTransactions.toNat,
      toString report.stats.failedTransactions.toNat,
      toString report.stats.timeoutTransactions.toNat,
      toString report.stats.droppedTransactions.toNat,
      toString report.stats.averageResponseTime.toNat,
      (report.finalBatchTime.map fun time => texts.seconds time.duration.asSecsF64).getD "",
      phase.text]

def persist (texts : Texts) (writer : BufWriter) (report : IntervalReport) (phase : Phase) :
    BufWriter :=
  writer.writeLine (formatRow texts report phase)

/-- The file of a run that has merged these reports. -/
def expected (texts : Texts) (warmupDuration warmupPause : UInt32)
    (reports : List IntervalReport) : String :=
  fileText (header :: reports.mapIdx fun index report =>
    formatRow texts report (phaseOf warmupDuration warmupPause index))

theorem expected_append (texts : Texts) (warmupDuration warmupPause : UInt32)
    (reports : List IntervalReport) (report : IntervalReport) :
    expected texts warmupDuration warmupPause (reports ++ [report]) =
      expected texts warmupDuration warmupPause reports ++
        formatRow texts report (phaseOf warmupDuration warmupPause reports.length) ++ "\n" := by
  simp [expected, List.mapIdx_append, String.append_assoc]

theorem text_new (texts : Texts) (warmupDuration warmupPause : UInt32) :
    new.text = expected texts warmupDuration warmupPause [] := by
  simp [new, expected]

/-- A report adds its row. -/
theorem text_persist {texts : Texts} {warmupDuration warmupPause : UInt32} {writer : BufWriter}
    {reports : List IntervalReport} {report : IntervalReport} {phase : Phase}
    (written : writer.text = expected texts warmupDuration warmupPause reports)
    (phaseEq : phase = phaseOf warmupDuration warmupPause reports.length) :
    (persist texts writer report phase).text =
      expected texts warmupDuration warmupPause (reports ++ [report]) := by
  rw [persist, BufWriter.text_writeLine, written, phaseEq, expected_append]

end IntervalCsvPersister

/-! ## `transactions.csv` -/

/-- How the `code` of a result is printed with `{:?}`. -/
def DroppedCode.text (texts : Texts) : DroppedCode → String
  | .noVirtualUser => "NoVirtualUser"
  | .late => "Late"
  | .error message => "Error(" ++ texts.quoted message ++ ")"

def FailedCode.text (texts : Texts) : FailedCode → String
  | .send message => "Send(" ++ texts.quoted message ++ ")"
  | .extract message => "Extract(" ++ texts.quoted message ++ ")"
  | .status code => "Status(" ++ toString code.toNat ++ ")"

def TimeoutCode.text (texts : Texts) : TimeoutCode → String
  | .error message => "Error(" ++ texts.quoted message ++ ")"

namespace TransactionCsvPersister

def fileName : String := "transactions.csv"

def header : String :=
  "target_time,start_time,send_time,load_generator_id,virtual_user_id,spec_id," ++
    "response_time_ms,service_time_ms,outcome,reason"

def new : BufWriter := BufWriter.new.writeLine header

/-- The row of a request that was sent. -/
def sentRow (texts : Texts) (metadata : ResultMetadata) (responseTime : ResponseTime)
    (serviceTime : ServiceTime) (outcome reason : String) : String :=
  csvRow
    [texts.seconds metadata.targetTime.duration.asSecsF64,
      texts.seconds metadata.startTime.duration.asSecsF64,
      texts.seconds metadata.sendTime.duration.asSecsF64,
      toString metadata.loadgeneratorId.value.toNat,
      toString metadata.virtualUserId.value.toNat,
      toString metadata.specId.value.toNat,
      toString responseTime.asMillis.toNat,
      toString serviceTime.asMillis.toNat,
      outcome,
      reason]

def formatRow (texts : Texts) : TransactionResult → String
  | .success metadata responseTime serviceTime =>
      sentRow texts metadata responseTime serviceTime "success" ""
  | .failed metadata responseTime serviceTime code =>
      sentRow texts metadata responseTime serviceTime "failed" (code.text texts)
  | .timeout metadata responseTime serviceTime code =>
      sentRow texts metadata responseTime serviceTime "timeout" (code.text texts)
  | .dropped metadata responseTime code =>
      csvRow
        [texts.seconds metadata.targetTime.duration.asSecsF64,
          texts.seconds metadata.startTime.duration.asSecsF64,
          "",
          toString metadata.loadgeneratorId.value.toNat,
          (metadata.virtualUserId.map fun id => toString id.value.toNat).getD "",
          "",
          toString responseTime.asMillis.toNat,
          "",
          "dropped",
          code.text texts]

def persist (texts : Texts) (writer : BufWriter) (report : IntervalReport) : BufWriter :=
  report.results.foldl (fun writer result => writer.writeLine (formatRow texts result)) writer

/-- The file of a run that has merged these reports. -/
def expected (texts : Texts) (reports : List IntervalReport) : String :=
  fileText (header :: (reports.flatMap (·.results)).map (formatRow texts))

theorem expected_append (texts : Texts) (reports : List IntervalReport)
    (report : IntervalReport) :
    expected texts (reports ++ [report]) =
      expected texts reports ++ fileText (report.results.map (formatRow texts)) := by
  simp [expected, String.append_assoc]

theorem text_new (texts : Texts) : new.text = expected texts [] := by
  simp [new, expected]

/-- A report adds the rows of all its results. -/
theorem text_persist {texts : Texts} {writer : BufWriter} {reports : List IntervalReport}
    {report : IntervalReport} (written : writer.text = expected texts reports) :
    (persist texts writer report).text = expected texts (reports ++ [report]) := by
  have rows : ∀ start : BufWriter,
      (report.results.foldl (fun writer result => writer.writeLine (formatRow texts result))
        start).text = start.text ++ fileText (report.results.map (formatRow texts)) := by
    induction report.results with
    | nil => simp
    | cons result results ih =>
        intro start
        rw [List.foldl_cons, ih, BufWriter.text_writeLine]
        simp [String.append_assoc]
  rw [persist, rows, written, expected_append]

end TransactionCsvPersister

end CreoBench
