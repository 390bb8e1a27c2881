/-
  Retrieval/Failure.lean
  ======================
  **What can go wrong.**

  A failure is a cause with the data that belongs to it.  The wording is in one place,
  `Failure.message`, so that a cause can be recognised without looking at a text.

  Failures fall into two groups.  Those of the first arise while a request is put
  together and say that it cannot be sent.  Those of the second, the *backend
  failures*, arise from the answer to a request, or from its absence, and name the
  request as it was sent.

  Code outside this library can report failures of its own: each family of causes has
  a constructor `custom` for them.
-/
import Retrieval.Query.Inspect

namespace Retrieval

open Decimal

/-- Why a value is refused. -/
inductive QueryFault where
  | latitude (value : Scalar)
  | longitude (value : Scalar)
  | missingAttribute (name : String)
  | custom (text : String)
deriving DecidableEq

/-- Why a field declaration is refused. -/
inductive SchemaFault where
  | emptyName
  | duplicateName (name : String)
  | custom (text : String)
deriving DecidableEq

/-- Why a configuration is refused. -/
inductive ConfigFault where
  | unreadable
  | zeroTimeout
  | custom (text : String)
deriving DecidableEq

/-- What a request syntax cannot express. -/
inductive Unsupported where
  /-- Sorting by an expression that computes no score. -/
  | sortTarget (query : Query)
  /-- Matching a named field against a scoring function. -/
  | matchedFunction (query : Query) (field : String)
  /-- Matching the default fields against an expression. -/
  | unscopedMatch (query : Query)
  /-- An expression at the end of a range. -/
  | rangeEnd (query : Query)
  /-- An expression inside a scoring script. -/
  | scriptTerm (query : Query)
  | custom (text : String)
deriving DecidableEq

/-- Why the body of an answer is refused. -/
inductive ResponseFault where
  | unreadable
  | missingSection (name : String)
  | facetValue
  | facetCount
  | facetLength
  | custom (text : String)
deriving DecidableEq

/-- What went wrong. -/
inductive Failure where
  | query (fault : QueryFault)
  | schema (fault : SchemaFault)
  | config (fault : ConfigFault)
  | unsupported (what : Unsupported)
  /-- The backend reported an error or could not be reached. -/
  | transport (status : Option UInt16) (reason request : String)
  /-- The backend answered with a body that does not make sense. -/
  | response (fault : ResponseFault) (body request : String)
  /-- The backend did not answer in time. -/
  | timeout (elapsedMs : UInt64) (request : String)
  /-- A JSON value does not have the shape that was asked for. -/
  | json
  | other (text : String)
  /-- A failure of code outside this library. -/
  | foreign (text : String)
deriving DecidableEq

/-! ### Wording -/

def QueryFault.message : QueryFault → String
  | .latitude value => "Invalid latitude: " ++ value.plain ++ " (must be between -90 and 90)"
  | .longitude value => "Invalid longitude: " ++ value.plain ++ " (must be between -180 and 180)"
  | .missingAttribute name => "Missing attribute '" ++ name ++ "'"
  | .custom text => text

def SchemaFault.message : SchemaFault → String
  | .emptyName => "Field name cannot be empty"
  | .duplicateName name => "Field '" ++ name ++ "' already exists"
  | .custom text => text

def ConfigFault.message : ConfigFault → String
  | .unreadable => "executor config: not a readable configuration"
  | .zeroTimeout => "timeout_ms must be greater than zero"
  | .custom text => text

/-- The wording of what cannot be expressed. -/
def Unsupported.message : Unsupported → String
  | .sortTarget q => "sorting by non-function expression " ++ q.inspect
  | .matchedFunction q field =>
    "function " ++ q.inspect ++ " used as a match clause on '" ++ field ++ "'"
  | .unscopedMatch q => "unscoped clause " ++ q.inspect
  | .rangeEnd q => "range bound " ++ q.inspect
  | .scriptTerm q => "script rendering of " ++ q.inspect
  | .custom text => text

def ResponseFault.message : ResponseFault → String
  | .unreadable => "unreadable body"
  | .missingSection name => "missing '" ++ name ++ "' section"
  | .facetValue => "non-scalar facet value"
  | .facetCount => "non-integer facet count"
  | .facetLength => "odd-length facet list"
  | .custom text => text

namespace Failure

def message : Failure → String
  | .query fault => "Query error: " ++ fault.message
  | .schema fault => "Schema error: " ++ fault.message
  | .config fault => "Invalid configuration: " ++ fault.message
  | .unsupported what => "Not implemented: " ++ what.message
  | .transport status reason request =>
    "Transport error (status " ++ Text.Inspect.option (status.map fun s => naturalText s.toNat) ++ "): " ++
      reason ++ " [query: " ++ request ++ "]"
  | .response fault body request =>
    "Parse error: " ++ fault.message ++ " [query: " ++ request ++ "] [body: " ++ body ++ "]"
  | .timeout elapsedMs request =>
    "Timeout after " ++ naturalText elapsedMs.toNat ++ "ms [query: " ++ request ++ "]"
  | .json => "JSON error: unexpected value"
  | .other text => "Error: " ++ text
  | .foreign text => "Anyhow error: " ++ text

/-- Whether the failure came from the exchange with the backend. -/
def isBackendFailure : Failure → Bool
  | .transport .. | .response .. | .timeout .. => true
  | _ => false

end Failure

end Retrieval
