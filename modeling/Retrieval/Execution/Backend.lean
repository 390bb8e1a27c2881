/-
  Retrieval/Execution/Backend.lean
  ================================
  **Backends: a request syntax together with the reading of its answers.**
-/
import Retrieval.Flat.Params
import Retrieval.Results.Flat
import Retrieval.Results.Structured
import Retrieval.Structured.Body

namespace Retrieval

/-- A backend whose requests have type `Q` and whose answers have bodies of type `B`. -/
structure Backend (Q B : Type) where
  name : String
  /-- The request for a search. -/
  compile : Search → Except Failure Q
  /-- The text of a request. -/
  text : Q → String
  /-- The answer in a body. -/
  read : Q → B → Except Failure Results

namespace Backend

/-- The backend that takes parameters and answers with JSON text. -/
def flat : Backend Flat.Params String where
  name := "flat"
  compile := Flat.Params.ofSearch
  text := Flat.Params.formBody
  read params body := Flat.readResults body params.formBody

/-- The start of the window that a structured request asks for. -/
def requestedStart (body : Json) : UInt64 := ((body.member? "from").bind Json.natural?).getD 0

/-- The backend that takes a JSON body and answers with one. -/
def structured : Backend Json Json where
  name := "structured"
  compile := Structured.body
  text := Json.print
  read request body := Structured.readResults body (requestedStart request) request.print

end Backend

end Retrieval
