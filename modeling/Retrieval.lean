import Retrieval.Builder
import Retrieval.Clause.Serial
import Retrieval.Execution.Client
import Retrieval.Execution.Log
import Retrieval.Execution.Paging
import Retrieval.Search.Serial
import Retrieval.Proofs.Denotation
import Retrieval.Proofs.Structured.QueryObject
import Retrieval.Proofs.Structured.Assembly
import Retrieval.Proofs.Flat.Protection
import Retrieval.Proofs.Structured.Preservation
import Retrieval.Proofs.Flat.Units
import Retrieval.Proofs.Flat.Preservation
import Retrieval.Proofs.Flat.Combination
import Retrieval.Proofs.Flat.Nesting
import Retrieval.Proofs.Execution.Protocol
import Retrieval.Proofs.Execution.Interleaving
import Retrieval.Proofs.Execution.Scheduling
import Retrieval.Proofs.Execution.Windows
import Retrieval.Proofs.Search.Calls
import Retrieval.Proofs.Flat.CallOrder
import Retrieval.Proofs.Acceptance
import Retrieval.Proofs.Flat.Operators
import Retrieval.Proofs.Flat.RoundTrip
import Retrieval.Proofs.Structured.Formula
import Retrieval.Proofs.Structured.Splicing
import Retrieval.Proofs.Structured.Scoring
import Retrieval.Proofs.Structured.Rescoring
import Retrieval.Proofs.Search.Independence
import Retrieval.Proofs.Search.Verdict
import Retrieval.Proofs.ZeroWeights
import Retrieval.Proofs.Json.Shape
import Retrieval.Proofs.Results.ReportedErrors
import Retrieval.Proofs.Dict
import Retrieval.Proofs.Reach
import Retrieval.Proofs.Results.CutoffPoint
import Retrieval.Proofs.Json.Restoring
import Retrieval.Proofs.Search.Saving
import Retrieval.Proofs.Results.ExactCutoff
import Retrieval.Proofs.FieldNames
import Retrieval.Proofs.Complement
import Retrieval.Proofs.Structured.Demotion
import Retrieval.Proofs.Structured.Parameters
import Retrieval.Proofs.Escaping
import Retrieval.Proofs.RangeEnds
import Retrieval.Proofs.Results.Highlights
import Retrieval.Proofs.Structured.Restriction
import Retrieval.Proofs.Json.Content
import Retrieval.Proofs.Results.FlatContent
import Retrieval.Proofs.Results.StructuredContent
import Retrieval.Proofs.Results.Alignment
import Retrieval.Proofs.Declarations
