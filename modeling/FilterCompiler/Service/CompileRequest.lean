import FilterCompiler.Complaint
import FilterCompiler.Fault
import FilterCompiler.Json

/-! Requests to compile, and what may become of the body of a message that should be one. -/

namespace FilterCompiler.Service

/-- What is asked of the compiler: the columns are a table, with every number in it once. All
texts in it are sequences of characters, so that an answer which repeats them can be encoded. -/
structure CompileRequest where
  dialect : String
  fields : List (Int × String) := []
  condition : Json := .null
  limit : Option Int := none
  validates : Option Bool := none
deriving Inhabited

/-- What becomes of a body: a request, complaints about what does not fit, no JSON that is
supported, or a fault. -/
inductive CompileRequest.Reading where
  | request (request : CompileRequest)
  | complaints (complaints : List Complaint)
  | unsupported
  | failed (fault : Fault)

end FilterCompiler.Service
