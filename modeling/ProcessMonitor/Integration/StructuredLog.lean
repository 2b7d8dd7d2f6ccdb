import ProcessMonitor.Integration.Logger
import ProcessMonitor.Lib.Json

/-!
# The lines of the structured log

In structured mode `log_message`, `log_with_context` and `log_performance` of
`src/04-integration/logger.c` print an object of JSON with a format: the message is escaped by
`escape_json_string`, the other strings stand as they are. `structured_iff` is the answer: a call
that logs appends one line with the object it means exactly when those of its strings that come from
the caller need no escape.
-/

namespace ProcessMonitor.Integration

open CString Decimal Json

/-! ## What the records mean -/

/-- A byte that `escape_json_string` does not leave out. -/
def kept (b : UInt8) : Bool := isprint b || b == 10 || b == 13 || b == 9

/-- The bytes of a message that are in its escaped text. -/
def printable (message : List UInt8) : List UInt8 := message.filter kept

section fields

variable (m : Moment)

/-- The members of `log_message`. -/
def messageFields (level : LogLevel) (file : List UInt8) (line : ℤ) (func message : List UInt8) :
    List (List UInt8 × Printed) :=
  [(bytes "timestamp", .raw (getTimestamp m.time)),
   (bytes "level", .raw level.text),
   (bytes "file", .raw (cstr file)),
   (bytes "line", .numeral (intText line)),
   (bytes "function", .raw (cstr func)),
   (bytes "message", .escaped (printable message) (escapedMessage message)),
   (bytes "pid", .numeral (intText m.pid)),
   (bytes "thread", .raw (bytes "0x" ++ hexText m.thread))]

/-- The members of `log_with_context`. -/
def contextFields (level : LogLevel) (component function : List UInt8) (line : ℤ)
    (message : List UInt8) : List (List UInt8 × Printed) :=
  [(bytes "timestamp", .raw (getTimestamp m.time)),
   (bytes "level", .raw level.text),
   (bytes "component", .raw (cstr component)),
   (bytes "function", .raw (cstr function)),
   (bytes "line", .numeral (intText line)),
   (bytes "message", .escaped (printable message) (escapedMessage message)),
   (bytes "pid", .numeral (intText m.pid))]

/-- The members of `log_performance`. -/
def performanceFields (operation : List UInt8) (negative : Bool) (durationMs : ℚ≥0) :
    List (List UInt8 × Printed) :=
  [(bytes "timestamp", .raw (getTimestamp m.time)),
   (bytes "level", .raw (bytes "PERF")),
   (bytes "operation", .raw (cstr operation)),
   (bytes "duration_ms", .numeral (fixed3Text negative durationMs)),
   (bytes "pid", .numeral (intText m.pid))]

variable {s : Logger} (h : s.structuredMode ≠ 0)
include h

/-- The format of `log_message` prints these members. -/
lemma messageRecord_eq (level : LogLevel) (file : List UInt8) (line : ℤ)
    (func message : List UInt8) :
    messageRecord s m level file line func message =
      objectText (messageFields m level file line func message) ++ [10] := by
  rw [messageRecord, if_pos h]
  simp only [objectText, messageFields, membersText, memberText, Printed.text, List.append_assoc,
    List.cons_append, List.nil_append]
  rfl

/-- The format of `log_with_context` prints these members. -/
lemma contextRecord_eq (level : LogLevel) (component function : List UInt8) (line : ℤ)
    (message : List UInt8) :
    contextRecord s m level component function line message =
      objectText (contextFields m level component function line message) ++ [10] := by
  rw [contextRecord, if_pos h]
  simp only [objectText, contextFields, membersText, memberText, Printed.text, List.append_assoc,
    List.cons_append, List.nil_append]
  rfl

/-- The format of `log_performance` prints these members. -/
lemma performanceRecord_eq (operation : List UInt8) (negative : Bool) (durationMs : ℚ≥0) :
    performanceRecord s m operation negative durationMs =
      objectText (performanceFields m operation negative durationMs) ++ [10] := by
  rw [performanceRecord, if_pos h]
  simp only [objectText, performanceFields, membersText, memberText, Printed.text,
    List.append_assoc, List.cons_append, List.nil_append]
  rfl

end fields

/-! ## The escaped message -/

/-- What the loop writes for a byte. -/
def escapeByte (b : UInt8) : List UInt8 :=
  match escapeLetter b with
  | some c => [92, c]
  | none => if isprint b then [b] else []

/-- Two bytes at most. -/
lemma length_escapeByte_le (b : UInt8) : (escapeByte b).length ≤ 2 := by
  unfold escapeByte
  cases escapeLetter b with
  | some c => exact le_rfl
  | none => by_cases hb : isprint b = true <;> simp [hb]

/-- **The buffer is large enough**: nothing is cut where it has two bytes for each byte left and two
besides. -/
lemma escapeLoop_eq {outputSize : ℕ} {input output : List UInt8}
    (h : output.length + 2 * input.length + 2 ≤ outputSize) :
    escapeLoop outputSize output input = output ++ input.flatMap escapeByte := by
  induction input generalizing output with
  | nil => exact (List.append_nil output).symm
  | cons b input ih =>
      rw [List.length_cons] at h
      have hstep : escapeStep outputSize output b = output ++ escapeByte b := by
        unfold escapeStep escapeByte
        cases escapeLetter b with
        | some c => exact if_pos (by omega)
        | none =>
            by_cases hb : isprint b = true
            · simp only [if_pos hb]
            · simp only [if_neg hb, List.append_nil]
      have hlength := length_escapeByte_le b
      rw [escapeLoop, if_pos (by omega), hstep, ih, List.flatMap_cons, List.append_assoc]
      rw [List.length_append]
      omega

/-- A byte is escaped, stands as it is, or is left out. -/
lemma escapeByte_cases (b : UInt8) :
    (kept b = true ∧ special b = true ∧ ∃ c, (b, c) ∈ shortEscapes ∧ escapeByte b = [92, c]) ∨
      (kept b = true ∧ plainByte b = true ∧ escapeByte b = [b]) ∨
      (kept b = false ∧ escapeByte b = []) := by
  by_cases hescape : b = 10 ∨ b = 13 ∨ b = 9 ∨ b = 34 ∨ b = 92
  · left
    rcases hescape with rfl | rfl | rfl | rfl | rfl
    · exact ⟨rfl, rfl, 110, by decide, rfl⟩
    · exact ⟨rfl, rfl, 114, by decide, rfl⟩
    · exact ⟨rfl, rfl, 116, by decide, rfl⟩
    · exact ⟨rfl, rfl, 34, by decide, rfl⟩
    · exact ⟨rfl, rfl, 92, by decide, rfl⟩
  · right
    obtain ⟨h10, h13, h9, h34, h92⟩ : b ≠ 10 ∧ b ≠ 13 ∧ b ≠ 9 ∧ b ≠ 34 ∧ b ≠ 92 := by
      simpa only [not_or] using hescape
    have hletter : escapeLetter b = none := by
      rw [escapeLetter, if_neg h10, if_neg h13, if_neg h9, if_neg h34, if_neg h92]
    have hkept : kept b = isprint b := by
      simp only [kept, beq_eq_false_iff_ne.mpr h10, beq_eq_false_iff_ne.mpr h13,
        beq_eq_false_iff_ne.mpr h9, Bool.or_false]
    have hplain : plainByte b = isprint b := by
      simp only [plainByte, isprint, bne_iff_ne.mpr h34, bne_iff_ne.mpr h92, Bool.and_true]
    rw [hkept, hplain, escapeByte, hletter]
    cases isprint b with
    | true => exact Or.inl ⟨rfl, rfl, rfl⟩
    | false => exact Or.inr ⟨rfl, rfl⟩

/-- **The escaped text is that of the printable part**, in as few bytes as can be. -/
lemma stringBody_escape (message : List UInt8) :
    StringBody (printable message) (message.flatMap escapeByte) ∧
      (message.flatMap escapeByte).length = cost (printable message) := by
  induction message with
  | nil => exact ⟨.nil, rfl⟩
  | cons b message ih =>
      obtain ⟨hbody, hlength⟩ := ih
      rw [List.flatMap_cons, printable]
      rcases escapeByte_cases b with ⟨hkept, hspecial, c, hc, heq⟩ | ⟨hkept, hplain, heq⟩ |
        ⟨hkept, heq⟩
      · rw [heq, List.filter_cons_of_pos hkept, cost_cons, if_pos hspecial]
        refine ⟨.short hc hbody, ?_⟩
        rw [List.length_append, hlength]
        rfl
      · obtain ⟨ch, hch, hutf8⟩ := exists_utf8_of_plainByte hplain
        have hspecial : special b = false :=
          (special_utf8 hch b (by rw [hutf8]; exact List.mem_singleton_self b)).2
        have hnext := StringBody.char hch hbody
        rw [hutf8] at hnext
        rw [heq, List.filter_cons_of_pos hkept, cost_cons, hspecial]
        refine ⟨hnext, ?_⟩
        rw [List.length_append, hlength]
        rfl
      · rw [heq, List.filter_cons_of_neg (by rw [hkept]; decide)]
        exact ⟨hbody, hlength⟩

/-- The escaped text of a message is never cut. -/
lemma escapedMessage_eq (text : List UInt8) :
    escapedMessage (cstr (snprintf maxLogLength text)) =
      (cstr (snprintf maxLogLength text)).flatMap escapeByte := by
  have hcut := length_snprintf_le maxLogLength text
  have hcstr : (cstr (snprintf maxLogLength text)).length ≤ maxLogLength - 1 :=
    ((List.takeWhile_prefix _).length_le).trans hcut
  rw [escapedMessage, escapeJsonString, cstr_eq_self (zero_notMem_cstr _), escapeLoop_eq]
  · rfl
  · simp only [List.length_nil, maxLogLength] at hcstr ⊢
    omega

/-! ## The fields -/

/-- The time is plain. -/
lemma plain_getTimestamp (t : Tm) : Plain (getTimestamp t) := by
  have hdash : Plain (bytes "-") := plain_of_ascii (by decide)
  have hblank : Plain (bytes " ") := plain_of_ascii (by decide)
  have hcolon : Plain (bytes ":") := plain_of_ascii (by decide)
  have hdate : Plain (intText t.year ++ bytes "-" ++ twoDigits t.month ++ bytes "-" ++
      twoDigits t.day) :=
    ((((plain_intText t.year).append hdash).append (plain_twoDigits _)).append hdash).append
      (plain_twoDigits _)
  have hminute := ((hdate.append hblank).append (plain_twoDigits t.hour)).append hcolon
  exact ((hminute.append (plain_twoDigits t.minute)).append hcolon).append
    (plain_twoDigits t.second)

/-- So is the name of a level. -/
lemma plain_text (level : LogLevel) : Plain level.text := by
  cases level <;> exact plain_of_ascii (by decide)

/-- A call that logs, in the terms of its line. -/
structure Line where
  level : LogLevel
  fields : List (List UInt8 × Printed)

/-- The level of a call and the members it means to print. -/
def LogCall.line (m : Moment) : LogCall → Line
  | .message level text =>
      ⟨level, messageFields m level sourceFile level.function.2 level.function.1
        (cstr (snprintf maxLogLength text))⟩
  | .context level component function line text =>
      ⟨level, contextFields m level component function line (cstr (snprintf maxLogLength text))⟩
  | .performance operation negative durationMs =>
      ⟨.debug, performanceFields m operation negative durationMs⟩

/-- The strings of the caller that are printed as they are. -/
def LogCall.strings : LogCall → List (List UInt8)
  | .message _ _ => []
  | .context _ component function _ _ => [cstr component, cstr function]
  | .performance operation _ _ => [cstr operation]

/-- **The code of a call** prints its line in structured mode. -/
lemma code_eq_logRecord_line (m : Moment) (c : LogCall) :
    ∃ record, c.code m = logRecord (c.line m).level record ∧
      ∀ s : Logger, s.structuredMode ≠ 0 → record s = objectText (c.line m).fields ++ [10] := by
  cases c with
  | message level text =>
      cases level <;> exact ⟨_, rfl, fun s hs => messageRecord_eq m hs _ _ _ _ _⟩
  | context level component function line text =>
      exact ⟨_, rfl, fun s hs => contextRecord_eq m hs _ _ _ _ _⟩
  | performance operation negative durationMs =>
      exact ⟨_, rfl, fun s hs => performanceRecord_eq m hs _ _ _⟩

section line

variable (m : Moment) (c : LogCall)

/-- The names of the members are plain. -/
lemma plain_names : ∀ f ∈ (c.line m).fields, Plain f.1 := by
  have hbytes : ((c.line m).fields.map Prod.fst).all (fun key => key.all plainByte) = true := by
    cases c with
    | message level text => rfl
    | context level component function line text => rfl
    | performance operation negative durationMs => rfl
  intro f hf
  have hkey := List.all_eq_true.mp hbytes f.1 (List.mem_map_of_mem hf)
  exact plain_of_ascii (List.all_eq_true.mp hkey)

/-- What was escaped was escaped right, and the numerals are numbers. -/
lemma line_sound : ∀ f ∈ (c.line m).fields, f.2.Sound := by
  have hmessage (text : List UInt8) :
      (Printed.escaped (printable (cstr (snprintf maxLogLength text)))
        (escapedMessage (cstr (snprintf maxLogLength text)))).Sound := by
    rw [Printed.Sound, escapedMessage_eq]
    exact stringBody_escape _
  cases c with
  | message level text =>
      simp only [LogCall.line, messageFields, List.forall_mem_cons, List.not_mem_nil,
        false_imp_iff, implies_true, and_true]
      exact ⟨trivial, trivial, trivial, number_intText _, trivial, hmessage text,
        number_intText _, trivial⟩
  | context level component function line text =>
      simp only [LogCall.line, contextFields, List.forall_mem_cons, List.not_mem_nil,
        false_imp_iff, implies_true, and_true]
      exact ⟨trivial, trivial, trivial, trivial, number_intText _, hmessage text,
        number_intText _⟩
  | performance operation negative durationMs =>
      simp only [LogCall.line, performanceFields, List.forall_mem_cons, List.not_mem_nil,
        false_imp_iff, implies_true, and_true]
      exact ⟨trivial, trivial, trivial, number_fixed3Text _ _, number_intText _⟩

/-- Of the strings printed as they are, all but those of the caller are plain. -/
lemma line_fine_iff :
    (∀ f ∈ (c.line m).fields, f.2.Fine) ↔ ∀ v ∈ c.strings, Plain v := by
  have htime := plain_getTimestamp m.time
  have hlevel (level : LogLevel) : Plain level.text := plain_text level
  cases c with
  | message level text =>
      have hfile : Plain (cstr sourceFile) := plain_of_ascii (by decide)
      have hfunction : Plain (cstr level.function.1) := by
        cases level <;> exact plain_of_ascii (by decide)
      have hthread : Plain (bytes "0x" ++ hexText m.thread) :=
        (plain_of_ascii (by decide)).append (plain_hexText _)
      simp only [LogCall.line, messageFields, LogCall.strings, List.forall_mem_cons,
        List.not_mem_nil, false_imp_iff, implies_true, and_true, Printed.Fine, true_and, iff_true]
      exact ⟨htime, hlevel level, hfile, hfunction, hthread⟩
  | context level component function line text =>
      simp only [LogCall.line, contextFields, LogCall.strings, List.forall_mem_cons,
        List.not_mem_nil, false_imp_iff, implies_true, and_true, Printed.Fine, htime, hlevel,
        true_and]
  | performance operation negative durationMs =>
      have hperf : Plain (bytes "PERF") := plain_of_ascii (by decide)
      simp only [LogCall.line, performanceFields, LogCall.strings, List.forall_mem_cons,
        List.not_mem_nil, false_imp_iff, implies_true, and_true, Printed.Fine, htime, hperf,
        true_and]

/-- **A line is the object it means** exactly when the strings of the caller are plain. -/
lemma isObject_line_iff :
    IsObject (members (c.line m).fields) (objectText (c.line m).fields) ↔
      ∀ v ∈ c.strings, Plain v := by
  have hne : (c.line m).fields ≠ [] := by cases c <;> exact List.cons_ne_nil _ _
  rw [isObject_objectText_iff hne (plain_names m c) (line_sound m c)]
  exact line_fine_iff m c

/-- Then there is no newline in it. -/
lemma newline_notMem_line (h : ∀ v ∈ c.strings, Plain v) :
    (10 : UInt8) ∉ objectText (c.line m).fields := by
  intro hmem
  have hle := le_of_mem_objectText (plain_names m c) (line_sound m c)
    ((line_fine_iff m c).mpr h) 10 hmem
  exact absurd hle (by decide)

end line

/-! ## What a call appends -/

/-- The call appends nothing where its level is not written, and else one line to the open log file:
an object with the members it means, and a newline. -/
def AppendsObject (opened : Bool) (s : Logger) (m : Moment) (c : LogCall) : Prop :=
  if s.logs (c.line m).level then
    ∃ path object, s.logFile = some path ∧
      s.after opened (c.code m) = (s.print (object ++ [10])).rotated opened ∧
      (10 : UInt8) ∉ object ∧ IsObject (members (c.line m).fields) object
  else s.after opened (c.code m) = s

section appends

variable {opened : Bool} {s : Logger} (hs : s.structuredMode ≠ 0) {m : Moment} {c : LogCall}
include hs

/-- What a call appends in structured mode. -/
lemma after_code : s.after opened (c.code m) =
    if s.logs (c.line m).level then
      (s.print (objectText (c.line m).fields ++ [10])).rotated opened
    else s := by
  obtain ⟨record, hcode, hrecord⟩ := code_eq_logRecord_line m c
  rw [hcode, after_logRecord, hrecord s hs]

/-- The line appended to an open file is no other. -/
lemma AppendsObject.plain (hlogs : s.logs (c.line m).level = true)
    (h : AppendsObject opened s m c) :
    s.logFile.isSome = true ∧ ∀ v ∈ c.strings, Plain v := by
  rw [AppendsObject, if_pos hlogs] at h
  obtain ⟨path, object, hfile, hafter, -, hobject⟩ := h
  rw [after_code hs, if_pos hlogs] at hafter
  have hprinted := congrArg Logger.printed hafter
  rw [printed_rotated, printed_rotated, Logger.print, Logger.print, hfile] at hprinted
  have hline : objectText (c.line m).fields = object := by
    have hlast := List.append_cancel_left hprinted
    exact List.append_cancel_right (List.cons.inj hlast).1
  rw [← hline] at hobject
  exact ⟨by rw [hfile]; rfl, (isObject_line_iff m c).mp hobject⟩

end appends

/-- **Structured output is JSON** exactly when it can be: in structured mode a call appends what it
should if and only if its level is not written, or the log file is open and the component and the
function of `log_with_context`, or the operation of `log_performance`, are UTF-8 without a quote, a
backslash or a control character. -/
theorem structured_iff (opened : Bool) (s : Logger) (hs : s.structuredMode ≠ 0) (m : Moment)
    (c : LogCall) :
    AppendsObject opened s m c ↔
      s.logs (c.line m).level = false ∨
        (s.logFile.isSome = true ∧ ∀ v ∈ c.strings, Plain v) := by
  constructor
  · intro h
    cases hlogs : s.logs (c.line m).level with
    | false => exact Or.inl rfl
    | true => exact Or.inr (AppendsObject.plain hs hlogs h)
  · intro h
    rw [AppendsObject]
    split_ifs with hlogs
    · obtain ⟨hfile, hplain⟩ := h.resolve_left (by rw [hlogs]; decide)
      obtain ⟨path, hpath⟩ := Option.isSome_iff_exists.mp hfile
      refine ⟨path, objectText (c.line m).fields, hpath, ?_, newline_notMem_line m c hplain,
        (isObject_line_iff m c).mpr hplain⟩
      rw [after_code hs, if_pos hlogs]
    · rw [after_code hs, if_neg hlogs]

/-- A logger in structured mode whose file is open. -/
def openLogger : Logger :=
  { Logger.static fun _ => none with
    logFile := some defaultLogFile
    initialized := true
    structuredMode := 1 }

/-- A quote in a message is escaped. -/
theorem message_escaped :
    AppendsObject true openLogger ⟨⟨2024, 1, 1, 0, 0, 0⟩, 1, 0⟩
      (.message .warn (bytes "read \"stat\" failed")) :=
  (structured_iff true openLogger (by decide) _ _).mpr
    (Or.inr ⟨rfl, fun _ hv => absurd hv List.not_mem_nil⟩)

/-- A quote in a component is not. -/
theorem component_not_escaped :
    openLogger.structuredMode ≠ 0 ∧
      ¬ AppendsObject true openLogger ⟨⟨2024, 1, 1, 0, 0, 0⟩, 1, 0⟩
        (.context .warn (bytes "room \"a\"") (bytes "poll") 1 (bytes "late")) := by
  have hs : openLogger.structuredMode ≠ 0 := by decide
  refine ⟨hs, ?_⟩
  intro h
  have hplain := (AppendsObject.plain hs rfl h).2 (bytes "room \"a\"") (List.mem_cons_self ..)
  have hquote := (hplain.special_eq_false 34 (by decide)).2
  exact absurd hquote (by decide)

end ProcessMonitor.Integration
