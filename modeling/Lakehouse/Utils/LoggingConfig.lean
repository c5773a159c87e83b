import Mathlib.Data.List.Forall2
import Lakehouse.Compactor.Exceptions
import Lakehouse.Foundation.Dict
import Lakehouse.Foundation.IsoFormat
import Lakehouse.Foundation.JsonLines

/-!
# Structured logs

The root logger as `setup_logging` leaves it, and the lines which its handlers write.  The first
setup decides on the handlers and their format, later ones only on the level, and `log_event` does
not ask for the level.
-/

namespace Lakehouse

open Foundation Foundation.Calendar
open Foundation.Json (entry)
open Foundation.Json.Value (ofText)

/-! ## Records -/

/-- `getattr(logging, name, logging.INFO)` for a name in upper case, as `setLevel` takes it.  Two
attributes with such names are no levels: the default format, and the table of the styles. -/
def levelNamed (name : String) : Except PyException Nat :=
  match name with
  | "CRITICAL" | "FATAL" => .ok 50
  | "ERROR" => .ok 40
  | "WARNING" | "WARN" => .ok 30
  | "DEBUG" => .ok 10
  | "NOTSET" => .ok 0
  | "BASIC_FORMAT" =>
      .error (.valueError "Unknown level: '%(levelname)s:%(name)s:%(message)s'")
  | "_STYLES" =>
      .error (.typeError ("Level not an integer or a valid string: " ++
        "\x7b'%': (<class 'logging.PercentStyle'>, '%(levelname)s:%(name)s:%(message)s'), " ++
        "'\x7b': (<class 'logging.StrFormatStyle'>, " ++
        "'\x7blevelname\x7d:\x7bname\x7d:\x7bmessage\x7d'), " ++
        "'$': (<class 'logging.StringTemplateStyle'>, " ++
        "'$\x7blevelname\x7d:$\x7bname\x7d:$\x7bmessage\x7d')\x7d"))
  | _ => .ok 20

/-- `logging.getLevelName` -/
def levelText (level : Nat) : String :=
  match level with
  | 50 => "CRITICAL"
  | 40 => "ERROR"
  | 30 => "WARNING"
  | 20 => "INFO"
  | 10 => "DEBUG"
  | 0 => "NOTSET"
  | other => "Level " ++ toString other

abbrev LogMembers := List (List Char × Json.Value)

structure LogRecord where
  name : String
  level : Nat
  message : String
  structuredFields : Option LogMembers := none
  /-- The formatted exception. -/
  exception : Option String := none

def logTimestamp (now : Int) : String :=
  String.ofList (Iso.writeZulu (DateTime.ofInstant now) (some 0))

/-- The dictionary which `JsonFormatter.format` writes. -/
def LogRecord.payload (record : LogRecord) (now : Int) : LogMembers :=
  let payload := [entry "timestamp" (ofText (logTimestamp now)),
    entry "level" (ofText (levelText record.level)), entry "logger" (ofText record.name),
    entry "message" (ofText record.message)]
  let structured := Dict.assign payload (record.structuredFields.getD [])
  match record.exception with
  | none => structured
  | some text => Dict.assign structured [entry "exception" (ofText text)]

/-- `logging.Formatter.format` behind its format string: an exception starts a line. -/
def LogRecord.withException (record : LogRecord) (formatted : List Char) : List Char :=
  match record.exception with
  | none => formatted
  | some text =>
      (if formatted.getLast? = some '\n' then formatted else formatted ++ ['\n']) ++ text.toList

/-- The line without JSON. -/
def LogRecord.line (record : LogRecord) (asctime : String) : List Char :=
  record.withException
    (asctime.toList ++ " | ".toList ++ (levelText record.level).toList.rightpad 8 ' ' ++
      " | ".toList ++ record.name.toList ++ " | ".toList ++ record.message.toList)

/-- The arguments of `log_event`; Python keeps the keywords apart and off the parameters. -/
structure LogEventCall where
  logger : String
  event : String
  level : Nat := 20
  message : Option String := none
  fields : LogMembers := []
  distinct : (fields.map Prod.fst).Nodup
  keywords : ∀ parameter ∈ ["logger", "event", "level", "message"],
    parameter.toList ∉ fields.map Prod.fst

/-- The record which `log_event` makes. -/
def LogEventCall.record (call : LogEventCall) : LogRecord where
  name := call.logger
  level := call.level
  message := match call.message with
    | none => call.event
    | some message => if message = "" then call.event else message
  structuredFields := some (entry "event" (ofText call.event) :: call.fields)

/-! ## The root logger -/

inductive Destination
  | stdout
  | stderr
  | file (path : String)
  deriving DecidableEq

structure LogHandler where
  destination : Destination
  jsonFormat : Bool

/-- What the clock shows to the formatter of each handler, and as which text. -/
structure LogClock where
  now : Destination → Int
  asctime : String

/-- A handler writes a formatted record and the end of a line. -/
def LogHandler.emit (handler : LogHandler) (record : LogRecord) (clock : LogClock)
    (content : Option (List Char)) : Option (List Char) :=
  if handler.jsonFormat then
    Json.appendLine (.object (record.payload (clock.now handler.destination))) content
  else
    some (content.getD [] ++ (record.line clock.asctime ++ ['\n']))

structure SetupArgs where
  /-- `level.upper()` -/
  level : String := "INFO"
  logFile : Option String := none
  jsonFormat : Bool := false
  /-- What `FileHandler` does when it opens its file. -/
  fileOpens : Except PyException Unit := .ok ()

/-- The root logger, and what has been written. -/
structure Logging where
  level : Nat := 30
  handlers : List LogHandler := []
  written : Destination → Option (List Char)

/-- The handlers which `setup_logging` adds to a root without any. -/
def addHandlers (args : SetupArgs) (state : Logging) : Except PyException Unit × Logging :=
  let console : LogHandler := { destination := .stdout, jsonFormat := args.jsonFormat }
  let consoled := { state with handlers := [console] }
  match args.logFile with
  | none => (.ok (), consoled)
  | some path =>
      if path = "" then
        (.ok (), consoled)
      else
        match args.fileOpens with
        | .error exc => (.error exc, consoled)
        | .ok () =>
            let file := { console with destination := .file path }
            (.ok (), { state with handlers := [console, file] })

/-- `setup_logging` -/
def setupLogging (args : SetupArgs) (state : Logging) : Except PyException Unit × Logging :=
  match levelNamed args.level with
  | .error exc => (.error exc, state)
  | .ok level =>
      let leveled := { state with level := level }
      if state.handlers = [] then addHandlers args leveled else (.ok (), leveled)

/-- `logger.handle`: all handlers of the root write the record; without any, warnings go to the
standard error. -/
def handleRecord (record : LogRecord) (clock : LogClock) (state : Logging) : Logging :=
  if state.handlers = [] then
    if 30 ≤ record.level then
      { state with
        written := Function.update state.written .stderr
          (some ((state.written .stderr).getD [] ++
            (record.withException record.message.toList ++ ['\n']))) }
    else
      state
  else
    { state with
      written := state.handlers.foldl
        (fun written handler => Function.update written handler.destination
          (handler.emit record clock (written handler.destination)))
        state.written }

/-! ## One line -/

/-- What a line tells of its record. -/
structure Shown (record : LogRecord) (now : Int) (members : LogMembers) : Prop where
  level : Json.Value.get? members "level".toList = some (ofText (levelText record.level))
  logger : Json.Value.get? members "logger".toList = some (ofText record.name)
  message : Json.Value.get? members "message".toList = some (ofText record.message)
  fields : ∀ field ∈ record.structuredFields.getD [],
    Json.Value.get? members field.1 = some field.2
  exception : ∀ text ∈ record.exception,
    Json.Value.get? members "exception".toList = some (ofText text)
  timestamp : "timestamp".toList ∉ (record.structuredFields.getD []).map Prod.fst →
    Json.Value.get? members "timestamp".toList = some (ofText (logTimestamp now))

/-- A record as the loggers make them. -/
structure LogRecord.Proper (record : LogRecord) : Prop where
  distinct : ((record.structuredFields.getD []).map Prod.fst).Nodup
  keywords : ∀ parameter ∈ ["logger", "level", "message"],
    parameter.toList ∉ (record.structuredFields.getD []).map Prod.fst
  plain : record.structuredFields = none ∨ record.exception = none

theorem LogEventCall.proper_record (call : LogEventCall) : call.record.Proper where
  distinct := by
    have no_event := call.keywords "event" (by simp)
    exact List.nodup_cons.mpr ⟨no_event, call.distinct⟩
  keywords parameter named := by
    have keyword := call.keywords parameter (by simp at named ⊢; tauto)
    have no_event : parameter.toList ≠ "event".toList := by
      rintro same
      rw [String.toList_inj.mp same] at named
      simp at named
    simpa [record, entry] using ⟨no_event, by simpa using keyword⟩
  plain := .inr rfl

namespace LogRecord

variable {record : LogRecord}

/-- The members which every record has. -/
def common (record : LogRecord) (now : Int) : LogMembers :=
  [entry "timestamp" (ofText (logTimestamp now)),
    entry "level" (ofText (levelText record.level)), entry "logger" (ofText record.name),
    entry "message" (ofText record.message)]

theorem payload_eq (record : LogRecord) (now : Int) :
    record.payload now =
      Dict.assign (Dict.assign (record.common now) (record.structuredFields.getD []))
        (record.exception.toList.map fun text => entry "exception" (ofText text)) := by
  rw [payload]
  cases record.exception <;> rfl

theorem nodup_keys_payload (record : LogRecord) (now : Int) :
    ((record.payload now).map Prod.fst).Nodup := by
  have distinct : ((record.common now).map Prod.fst).Nodup := by
    simp only [common, entry, List.map_cons, List.map_nil]
    decide
  rw [payload_eq]
  exact Dict.nodup_keys_assign (Dict.nodup_keys_assign distinct _) _

/-- Of members with one name `json.loads` keeps the last. -/
theorem valueGet?_eq (members : LogMembers) (name : List Char) :
    Json.Value.get? members name = Dict.get? members.reverse name := by
  rw [Json.Value.get?, Dict.get?]
  congr 1
  exact beq_ext _ _ fun _ _ => by simp

theorem get?_payload (record : LogRecord) (now : Int) (name : List Char) :
    Json.Value.get? (record.payload now) name =
      (Dict.get? (record.exception.toList.map fun text => entry "exception" (ofText text)) name).or
        ((Dict.get? (record.structuredFields.getD []).reverse name).or
          (Dict.get? (record.common now) name)) := by
  have last : Json.Value.get? (record.payload now) name = Dict.get? (record.payload now) name := by
    rw [valueGet?_eq, Dict.get?_reverse (record.nodup_keys_payload now)]
  rw [last, payload_eq, Dict.get?_assign, Dict.get?_assign]
  cases record.exception <;> rfl

/-- A member which neither the fields nor an exception replace. -/
theorem get?_payload_common (record : LogRecord) {now : Int} {name : String}
    (kept : name.toList ∉ (record.structuredFields.getD []).map Prod.fst)
    (other : name ≠ "exception") :
    Json.Value.get? (record.payload now) name.toList =
      Dict.get? (record.common now) name.toList := by
  have no_exception : Dict.get?
      (record.exception.toList.map fun text => entry "exception" (ofText text)) name.toList =
        none := by
    refine Dict.get?_eq_none fun member => ?_
    obtain ⟨pair, listed, same⟩ := List.mem_map.mp member
    obtain ⟨text, -, rfl⟩ := List.mem_map.mp listed
    exact other (String.toList_inj.mp same.symm)
  have no_field : Dict.get? (record.structuredFields.getD []).reverse name.toList = none :=
    Dict.get?_eq_none (by simpa using kept)
  rw [get?_payload, no_exception, no_field, Option.none_or, Option.none_or]

/-- The line of a record shows all of it. -/
theorem Proper.shown (proper : record.Proper) (now : Int) :
    Shown record now (record.payload now) where
  level := by
    rw [get?_payload_common record (proper.keywords "level" (by simp)) (by decide)]
    rfl
  logger := by
    rw [get?_payload_common record (proper.keywords "logger" (by simp)) (by decide)]
    rfl
  message := by
    rw [get?_payload_common record (proper.keywords "message" (by simp)) (by decide)]
    rfl
  timestamp kept := by
    rw [get?_payload_common record kept (by decide)]
    rfl
  fields field member := by
    rcases proper.plain with no_fields | no_exception
    · simp [no_fields] at member
    · have found : Dict.get? (record.structuredFields.getD []) field.1 = some field.2 :=
        (Dict.mem_iff_get? proper.distinct).mp member
      rw [get?_payload, no_exception, Dict.get?_reverse proper.distinct, found]
      rfl
  exception text raised := by
    rw [get?_payload, Option.mem_def.mp raised]
    rfl

end LogRecord

/-! ## Runs -/

inductive LoggingStep
  | setup (args : SetupArgs)
  | event (call : LogEventCall) (clock : LogClock)
  /-- `logger.info`, `logger.error` or `logger.exception`. -/
  | log (name : String) (level : Nat) (message : String) (exception : Option String)
      (clock : LogClock)
  /-- A plain `print`, as of the table of a dry run. -/
  | print (text : String)

namespace LoggingStep

def apply (state : Logging) : LoggingStep → Logging
  | .setup args => (setupLogging args state).2
  | .event call clock => handleRecord call.record clock state
  | .log name level message exception clock =>
      if state.level ≤ level then
        handleRecord { name := name, level := level, message := message, exception := exception }
          clock state
      else
        state
  | .print text =>
      { state with
        written := Function.update state.written .stdout
          (some ((state.written .stdout).getD [] ++ (text.toList ++ ['\n']))) }

/-- The step prints on the destination. -/
def PrintsOn (destination : Destination) : LoggingStep → Prop
  | .print _ => destination = .stdout
  | _ => False

end LoggingStep

def runLogging (steps : List LoggingStep) (state : Logging) : Logging :=
  steps.foldl LoggingStep.apply state

/-- The level after a step. -/
def LoggingStep.levelAfter (level : Nat) : LoggingStep → Nat
  | .setup args =>
      match levelNamed args.level with
      | .error _ => level
      | .ok named => named
  | _ => level

/-- The record of a step which is not below the level. -/
def LoggingStep.handled? (level : Nat) : LoggingStep → Option (LogRecord × LogClock)
  | .setup _ => none
  | .print _ => none
  | .event call clock => some (call.record, clock)
  | .log name least message exception clock =>
      if level ≤ least then
        some ({ name := name, level := least, message := message, exception := exception }, clock)
      else
        none

/-- The records which are handled. -/
def handledFrom : Nat → List LoggingStep → List (LogRecord × LogClock)
  | _, [] => []
  | level, step :: steps =>
      (step.handled? level).toList ++ handledFrom (step.levelAfter level) steps

/-! ## What is written -/

section Writing

variable {state : Logging} {handlers : List LogHandler} {destination : Destination}
  {values : List Json.Value} {level : Nat}

/-- A handler among others with other destinations writes one line. -/
theorem foldl_emit {handler : LogHandler} (distinct : (handlers.map LogHandler.destination).Nodup)
    (attached : handler ∈ handlers) (record : LogRecord) (clock : LogClock)
    (written : Destination → Option (List Char)) :
    handlers.foldl
        (fun written handler => Function.update written handler.destination
          (handler.emit record clock (written handler.destination)))
        written handler.destination =
      handler.emit record clock (written handler.destination) := by
  have elsewhere : ∀ {others : List LogHandler} {written : Destination → Option (List Char)},
      handler.destination ∉ others.map LogHandler.destination →
        others.foldl
            (fun written handler => Function.update written handler.destination
              (handler.emit record clock (written handler.destination)))
            written handler.destination =
          written handler.destination := by
    intro others
    induction others with
    | nil => exact fun _ => rfl
    | cons other others ih =>
        intro written missing
        rw [List.map_cons, List.mem_cons, not_or] at missing
        rw [List.foldl_cons, ih missing.2, Function.update_of_ne missing.1]
  induction handlers generalizing written with
  | nil => simp at attached
  | cons first rest ih =>
      rw [List.map_cons, List.nodup_cons] at distinct
      rw [List.foldl_cons]
      rcases List.mem_cons.mp attached with rfl | later
      · rw [elsewhere distinct.1, Function.update_self]
      · have other : handler.destination ≠ first.destination := fun same =>
          distinct.1 (same ▸ List.mem_map_of_mem later)
        rw [ih distinct.2 later, Function.update_of_ne other]

/-- The handlers are attached, and a file of JSON lines holds these values. -/
structure Attached (handlers : List LogHandler) (destination : Destination) (level : Nat)
    (values : List Json.Value) (state : Logging) : Prop where
  handlers_eq : state.handlers = handlers
  level_eq : state.level = level
  json : { destination := destination, jsonFormat := true } ∈ handlers
  distinct : (handlers.map LogHandler.destination).Nodup
  records : Json.Records (state.written destination) values

theorem Attached.handle (attached : Attached handlers destination level values state)
    (record : LogRecord) (clock : LogClock) :
    Attached handlers destination level
      (values ++ [.object (record.payload (clock.now destination))])
      (handleRecord record clock state) := by
  have some_handler : state.handlers ≠ [] := by
    rw [attached.handlers_eq]
    exact List.ne_nil_of_mem attached.json
  rw [handleRecord, if_neg some_handler]
  refine ⟨attached.handlers_eq, attached.level_eq, attached.json, attached.distinct, ?_⟩
  have written := foldl_emit attached.distinct attached.json record clock state.written
  rw [LogHandler.emit, if_pos rfl] at written
  simp only [attached.handlers_eq]
  rw [written]
  exact attached.records.append _

/-- A step writes the record which it handles, and a setup changes nothing but the level. -/
theorem Attached.apply (attached : Attached handlers destination level values state)
    {step : LoggingStep} (quiet : ¬step.PrintsOn destination) :
    Attached handlers destination (step.levelAfter level)
      (values ++ (step.handled? level).toList.map fun entry =>
        .object (entry.1.payload (entry.2.now destination)))
      (step.apply state) := by
  have some_handler : state.handlers ≠ [] := by
    rw [attached.handlers_eq]
    exact List.ne_nil_of_mem attached.json
  cases step with
  | setup args =>
      rw [LoggingStep.apply, setupLogging, LoggingStep.levelAfter]
      cases levelNamed args.level with
      | error exc => simpa [LoggingStep.handled?] using attached
      | ok named =>
          dsimp only
          rw [if_neg some_handler]
          exact ⟨attached.handlers_eq, rfl, attached.json, attached.distinct,
            by simpa [LoggingStep.handled?] using attached.records⟩
  | event call clock => exact attached.handle call.record clock
  | log name least message exception clock =>
      rw [LoggingStep.apply, LoggingStep.handled?, attached.level_eq]
      split
      · exact attached.handle _ clock
      · simpa [LoggingStep.levelAfter] using attached
  | print text =>
      refine ⟨attached.handlers_eq, attached.level_eq, attached.json, attached.distinct, ?_⟩
      have kept : (LoggingStep.apply state (.print text)).written destination =
          state.written destination := Function.update_of_ne quiet _ _
      rw [kept]
      simpa [LoggingStep.handled?] using attached.records

theorem Attached.run (attached : Attached handlers destination level values state)
    {steps : List LoggingStep} (quiet : ∀ step ∈ steps, ¬step.PrintsOn destination) :
    Json.Records ((runLogging steps state).written destination)
      (values ++ (handledFrom level steps).map fun entry =>
        .object (entry.1.payload (entry.2.now destination))) := by
  induction steps generalizing level values state with
  | nil => simpa [handledFrom, runLogging] using attached.records
  | cons step steps ih =>
      have later := ih (attached.apply (quiet step List.mem_cons_self))
        fun other member => quiet other (List.mem_cons_of_mem _ member)
      rwa [List.append_assoc, ← List.map_append] at later

theorem proper_of_mem_handledFrom {steps : List LoggingStep} {handled : LogRecord × LogClock}
    (member : handled ∈ handledFrom level steps) : handled.1.Proper := by
  induction steps generalizing level with
  | nil => simp [handledFrom] at member
  | cons step steps ih =>
      rcases List.mem_append.mp member with here | later
      · cases step with
        | setup args => simp [LoggingStep.handled?] at here
        | print text => simp [LoggingStep.handled?] at here
        | event call clock =>
            obtain rfl : handled = (call.record, clock) := by
              simpa [LoggingStep.handled?] using here
            exact call.proper_record
        | log name least message exception clock =>
            rw [LoggingStep.handled?] at here
            split at here
            · obtain rfl := by simpa using here
              exact ⟨by simp, by simp, .inl rfl⟩
            · simp at here
      · exact ih later

/-- A setup of a root without handlers which attaches one for JSON lines, at this level. -/
structure SetupArgs.Attaches (args : SetupArgs) (level : Nat) (destination : Destination) :
    Prop where
  leveled : levelNamed args.level = .ok level
  jsonFormat : args.jsonFormat = true
  listed : destination = .stdout ∨
    ∃ path, args.logFile = some path ∧ path ≠ "" ∧ args.fileOpens = .ok () ∧
      destination = .file path

theorem attached_setup (fresh : state.handlers = []) {args : SetupArgs}
    (attaches : args.Attaches level destination)
    (records : Json.Records (state.written destination) values) :
    ∃ handlers, Attached handlers destination level values (setupLogging args state).2 := by
  obtain ⟨leveled, json, listed⟩ := attaches
  have added : (setupLogging args state).2 =
      (addHandlers args { state with level := level }).2 := by
    simp [setupLogging, leveled, fresh]
  rw [added]
  rcases listed with rfl | ⟨path, named, nonempty, opens, rfl⟩
  · have console_only : ∀ others, (.stdout : Destination) ∉ others.map LogHandler.destination →
        (others.map LogHandler.destination).Nodup →
        (addHandlers args { state with level := level }).2 =
            { state with
              level := level
              handlers := { destination := .stdout, jsonFormat := args.jsonFormat } :: others } →
          ∃ handlers, Attached handlers .stdout level values
            (addHandlers args { state with level := level }).2 := by
      intro others apart distinct result
      rw [result, json]
      exact ⟨_, rfl, rfl, List.mem_cons_self, List.nodup_cons.mpr ⟨apart, distinct⟩, records⟩
    cases named : args.logFile with
    | none => exact console_only [] (by simp) .nil (by simp [addHandlers, named])
    | some path =>
        by_cases empty : path = ""
        · exact console_only [] (by simp) .nil (by simp [addHandlers, named, empty])
        · cases opens : args.fileOpens with
          | error exc =>
              exact console_only [] (by simp) .nil (by simp [addHandlers, named, empty, opens])
          | ok done =>
              exact console_only [{ destination := .file path, jsonFormat := args.jsonFormat }]
                (by simp) (by simp) (by simp [addHandlers, named, empty, opens])
  · have both : (addHandlers args { state with level := level }).2 =
        { state with
          level := level
          handlers := [{ destination := .stdout, jsonFormat := true },
            { destination := .file path, jsonFormat := true }] } := by
      simp [addHandlers, named, nonempty, opens, json]
    rw [both]
    exact ⟨_, rfl, rfl, by simp, by simp, records⟩

/-- Before the first setup only prints and the standard error are written. -/
theorem runLogging_fresh (fresh : state.handlers = []) {steps : List LoggingStep}
    (none_setup : ∀ args, .setup args ∉ steps) (no_stderr : destination ≠ .stderr)
    (undisturbed : ∀ step ∈ steps, ¬step.PrintsOn destination) :
    (runLogging steps state).handlers = [] ∧
      (runLogging steps state).written destination = state.written destination := by
  have handled : ∀ {state : Logging}, state.handlers = [] → ∀ record clock,
      (handleRecord record clock state).handlers = [] ∧
        (handleRecord record clock state).written destination = state.written destination := by
    intro state fresh record clock
    rw [handleRecord, if_pos fresh]
    split
    · exact ⟨fresh, Function.update_of_ne no_stderr _ _⟩
    · exact ⟨fresh, rfl⟩
  induction steps generalizing state with
  | nil => exact ⟨fresh, rfl⟩
  | cons step steps ih =>
      rw [List.forall_mem_cons] at undisturbed
      have quiet : (step.apply state).handlers = [] ∧
          (step.apply state).written destination = state.written destination := by
        cases step with
        | setup args => exact absurd List.mem_cons_self (none_setup args)
        | event call clock => exact handled fresh call.record clock
        | log name least message exception clock =>
            rw [LoggingStep.apply]
            split
            · exact handled fresh _ clock
            · exact ⟨fresh, rfl⟩
        | print text => exact ⟨fresh, Function.update_of_ne undisturbed.1 _ _⟩
      obtain ⟨later_fresh, later⟩ := ih quiet.1
        (fun args member => none_setup args (List.mem_cons_of_mem _ member)) undisturbed.2
      exact ⟨later_fresh, later.trans quiet.2⟩

/-- After the first setup, if it names a level and asks for JSON, the log file reads back line by
line as the records handled since, in order, whatever they hold and whatever is set up later, and so
does the console if nothing is printed on it; events are never below the level. -/
theorem log_lines_read_back {before later : List LoggingStep} {args : SetupArgs}
    (fresh : state.handlers = []) (first : ∀ other, .setup other ∉ before)
    (attaches : args.Attaches level destination)
    (undisturbed : ∀ step ∈ before ++ later, ¬step.PrintsOn destination)
    (records : Json.Records (state.written destination) values) :
    ∃ lines, Json.readLines
        ((runLogging (before ++ .setup args :: later) state).written destination) =
          some (values ++ lines) ∧
      List.Forall₂ (fun handled line => ∃ members, line = Json.Value.object members ∧
          Shown handled.1 (handled.2.now destination) members)
        (handledFrom level later) lines := by
  have no_stderr : destination ≠ .stderr := by
    rintro rfl
    obtain ⟨-, -, listed | ⟨path, -, -, -, listed⟩⟩ := attaches <;> cases listed
  rw [List.forall_mem_append] at undisturbed
  obtain ⟨still_fresh, unchanged⟩ := runLogging_fresh fresh first no_stderr undisturbed.1
  obtain ⟨handlers, attached⟩ := attached_setup still_fresh attaches
    (unchanged.symm ▸ records)
  have written := (attached.run undisturbed.2).read
  refine ⟨_, by rw [← written, runLogging, List.foldl_append]; rfl, ?_⟩
  rw [List.forall₂_map_right_iff, List.forall₂_same]
  intro handled member
  exact ⟨_, rfl, (proper_of_mem_handledFrom member).shown _⟩

end Writing

/-! ### An event below the level -/

def intervalField : LogMembers := [entry "interval_seconds" (Json.Value.ofInt 3600)]

theorem nodup_intervalField : (intervalField.map Prod.fst).Nodup := by decide

theorem intervalField_keywords : ∀ parameter ∈ ["logger", "event", "level", "message"],
    parameter.toList ∉ intervalField.map Prod.fst := by decide

/-- What a daemon logs first. -/
def daemonStarted : LogEventCall where
  logger := "compaction_daemon"
  event := "daemon_started"
  message := some "Compaction daemon started"
  fields := intervalField
  distinct := nodup_intervalField
  keywords := intervalField_keywords

def epochClock : LogClock where
  now _ := 0
  asctime := "1970-01-01T00:00:00"

/-- With the level `ERROR` the event is written, and the information which follows is not. -/
def quietSteps : List LoggingStep :=
  [.event daemonStarted epochClock, .print "  No eligible partitions found.",
    .log "compaction_daemon" 20 "idle" none epochClock]

theorem log_lines_read_back_quiet :
    ∃ lines, Json.readLines
        ((runLogging (.setup { level := "ERROR", logFile := "daemon.log", jsonFormat := true } ::
          quietSteps) { written := fun _ => none }).written (.file "daemon.log")) = some lines ∧
      lines.length = 1 := by
  have attaches : SetupArgs.Attaches
      { level := "ERROR", logFile := "daemon.log", jsonFormat := true } 40 (.file "daemon.log") :=
    ⟨by rfl, rfl, .inr ⟨"daemon.log", rfl, by decide, rfl, rfl⟩⟩
  obtain ⟨lines, read, shown⟩ := @log_lines_read_back { written := fun _ => none }
    (.file "daemon.log") [] 40 [] quietSteps _ rfl (by simp) attaches
    (by simp [quietSteps, LoggingStep.PrintsOn]) Json.records_none
  exact ⟨lines, read, shown.length_eq.symm⟩

end Lakehouse
