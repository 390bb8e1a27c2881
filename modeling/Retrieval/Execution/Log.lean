/-
  Retrieval/Execution/Log.lean
  ============================
  **Log records of executions.**

  A report or a notice becomes a record with a level, a target and fields.  A logger
  decides which answers count as slow and whether the text of a request may be shown.
-/
import Retrieval.Execution.Run

namespace Retrieval

open Json

/-- How urgent a record is. -/
inductive Level where
  | debug
  | info
  | warn
deriving DecidableEq, Repr

def Level.name : Level → String
  | .debug => "DEBUG"
  | .info => "INFO"
  | .warn => "WARN"

/-- A log record. -/
structure LogRecord where
  level : Level
  target : String
  fields : Dict Json
deriving DecidableEq

def LogRecord.toJson (r : LogRecord) : Json :=
  record [("level", .string r.level.name), ("target", .string r.target),
    ("fields", .object r.fields)]

/-- What a logger shows. -/
structure Logger where
  /-- Whether the text of a request is shown. -/
  showsText : Bool
  /-- From when on an answer is slow. -/
  slowAfter : Option Duration
deriving DecidableEq, Repr

namespace Logger

def ofConfig (c : Config) : Logger := ⟨c.logQueryText, c.slowAfter?⟩

def reportTarget : String := "skewer::executor"

def noticeTarget : String := "skewer::result"

def requestText (l : Logger) (event : QueryEvent) : String :=
  if l.showsText then event.request else "<redacted>"

/-- Whether an answer after the given time is slow. -/
def isSlow (l : Logger) (elapsed : Duration) : Bool :=
  match l.slowAfter with
  | some limit => limit ≤ elapsed
  | none => false

def commonFields (event : QueryEvent) (text : String) : List (String × Json) :=
  [("backend", .string event.backend), ("index", .string event.index), ("message", .string text)]

/-- The field for the time since the start. -/
def elapsedField (elapsed : Duration) : String × Json := ("elapsed_ms", natural elapsed.millis)

def report (l : Logger) (event : QueryEvent) (progress : Progress) (elapsed : Duration) :
    LogRecord :=
  let request := ("query", Json.string (l.requestText event))
  match progress with
  | .started =>
    ⟨.debug, reportTarget, Dict.ofEntries (commonFields event "Executing query" ++ [request])⟩
  | .succeeded total returned =>
    let counts := [("total_found", natural total), ("returned", natural returned.toUInt64)]
    if l.isSlow elapsed then
      ⟨.warn, reportTarget, Dict.ofEntries
        (commonFields event "Slow query" ++ [request, elapsedField elapsed] ++ counts)⟩
    else
      ⟨.info, reportTarget, Dict.ofEntries
        (commonFields event "Query completed" ++ [elapsedField elapsed] ++ counts)⟩
  | .failed error =>
    ⟨.warn, reportTarget, Dict.ofEntries
      (commonFields event "Query failed" ++
        [request, elapsedField elapsed, ("error", .string error.message)])⟩

end Logger

def Notice.record : Notice → LogRecord
  | .unordered docs =>
    ⟨.debug, Logger.noticeTarget, Dict.ofEntries
      [("docs", natural docs.toUInt64),
       ("message",
        .string "quality filter applied to scores that are not in descending order")]⟩

def Logger.records (l : Logger) (trace : List Occurrence) : List LogRecord :=
  trace.filterMap fun
    | .sent _ => none
    | .reported event progress elapsed => some (l.report event progress elapsed)
    | .noted notice => some notice.record

end Retrieval
