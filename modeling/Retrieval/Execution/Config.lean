/-
  Retrieval/Execution/Config.lean
  ===============================
  **How searches are executed.**

  A configuration is read from a JSON record in which every part has a default.  A
  timeout of zero would fail every search and is refused.

  A configuration counts milliseconds.  Time itself is counted in nanoseconds, so that a
  caller can set a timeout that no configuration can.
-/
import Retrieval.Failure
import Retrieval.Json.Decode

namespace Retrieval

open Json

/-! ### Spans of time -/

/-- A span of time. -/
structure Duration where
  nanos : Nat
deriving DecidableEq, Repr

namespace Duration

def zero : Duration := ⟨0⟩

def ofMillis (ms : UInt64) : Duration := ⟨ms.toNat * 1000000⟩

/-- The number of whole milliseconds, as a 64-bit word. -/
def millis (d : Duration) : UInt64 := (d.nanos / 1000000).toUInt64

instance : LE Duration := ⟨fun a b => a.nanos ≤ b.nanos⟩

instance (a b : Duration) : Decidable (a ≤ b) := inferInstanceAs (Decidable (a.nanos ≤ b.nanos))

end Duration

/-! ### Configurations -/

/-- How searches are executed.  Times are in milliseconds. -/
structure Config where
  /-- How long to wait for a backend. -/
  timeoutMs : UInt64
  /-- From when on an answer is reported as slow.  Zero reports none. -/
  slowQueryMs : UInt64
  /-- Whether reports show the text of a request. -/
  logQueryText : Bool
deriving DecidableEq, Repr

namespace Config

/-- Five seconds of patience, reports after one, with texts. -/
def standard : Config := ⟨5000, 1000, true⟩

def toJson (c : Config) : Json :=
  record [("timeout_ms", natural c.timeoutMs), ("slow_query_ms", natural c.slowQueryMs),
    ("log_query_text", .bool c.logQueryText)]

def decoder : Decoder Config := fun levels source => do
  let r ← Record.ofSource? ["timeout_ms", "slow_query_ms", "log_query_text"] levels source
  pure ⟨← r.orDefault "timeout_ms" Decode.natural64 standard.timeoutMs,
    ← r.orDefault "slow_query_ms" Decode.natural64 standard.slowQueryMs,
    ← r.orDefault "log_query_text" Decode.flag standard.logQueryText⟩

/-- Refuse a configuration that cannot work. -/
def validate (c : Config) : Except Failure Unit :=
  if c.timeoutMs = 0 then .error (.config .zeroTimeout) else .ok ()

def ofText (text : String) : Except Failure Config :=
  match decoder.ofText? text with
  | none => .error (.config .unreadable)
  | some c => do
    c.validate
    pure c

/-- How long to wait for a backend. -/
def timeout (c : Config) : Duration := .ofMillis c.timeoutMs

/-- From when on an answer is slow, if that is reported at all. -/
def slowAfter? (c : Config) : Option Duration :=
  if c.slowQueryMs = 0 then none else some (.ofMillis c.slowQueryMs)

end Config

end Retrieval
