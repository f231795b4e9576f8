import FilterCompiler.Graph.Data
import FilterCompiler.Launch
import FilterCompiler.Service.BodyLimit
import FilterCompiler.Service.CompileRequest
import FilterCompiler.Service.Deployment
import FilterCompiler.Validator

/-! The service: it tells that it is well, lists its dialects, and compiles. The limit on
bodies comes before everything else. A condition that cannot be read is answered with
status 400, a request that cannot be read or compiled with 422, and a statement that the
check finds fault with is answered all the same, with warnings. How a body is read as a request
and an SQL text as statements is given to the service. -/

namespace FilterCompiler.Service

/-- What the service leaves to others: to read a body as a request, in which every text is a
sequence of characters, and an SQL text as statements. -/
structure Tools where
  readBody : Headers → ByteArray → CompileRequest.Reading
  parse : Sql.Parser

inductive Route where
  | health
  | dialects
  | compile
deriving DecidableEq, Repr

namespace Route

def path : Route → String
  | health => "/health"
  | dialects => "/dialects"
  | compile => "/compile"

def method : Route → String
  | health | dialects => "GET"
  | compile => "POST"

def ofPath? (path : String) : Option Route :=
  [health, dialects, compile].find? fun r => r.path == path

end Route

/-- An answer, or the fault that kept the service from answering. -/
abbrev Answer := Except Fault Response

def stepData : Step → Json
  | .name s => .text s
  | .position n => .integer n

def complaintsResponse (complaints : List Complaint) : Response :=
  { status := 422
    body := .object [("detail", .array (complaints.map fun c => .object
      [("type", .text c.mismatch.word), ("loc", .array (c.place.map stepData))]))] }

def detailData (g : Graph) : Fault.Detail → Except Fault Json
  | .operand x => g.toData nestingLimit x
  | .text s => .ok (.text s)
  | .texts ss => .ok (.array (ss.map .text))
  | .absent => .ok .null

/-- The answer that tells a fault. There is none if a detail has no JSON form. -/
def faultResponse (g : Graph) (status : Nat) (f : Fault) : Answer := do
  let details ← f.details.mapM fun (name, d) => return (name, ← detailData g d)
  return { status
           body := .object [("error", .text (f.code?.getD "")), ("message", .text f.message),
             ("details", .object details)] }

/-- The answer with a statement and what the check found. -/
def sqlResponse (dialect sql : String) (findings : List String) : Response :=
  { status := 200
    body := .object [("sql", .text sql), ("dialect", .text dialect),
      ("warnings", .array (findings.map fun text => .text ("SQL validation: " ++ text))),
      ("sql_valid", .truth findings.isEmpty)] }

/-- The fields of a request as a compiler takes them. -/
def fieldsOf (r : CompileRequest) : Fields :=
  r.fields.map fun (n, column) => (.lit (.integer n), some column)

/-- The condition of a request, added to a graph; null is no condition. -/
def conditionOf (g : Graph) : Json → Except Fault (Operand × Graph)
  | .null => .ok (.lit .null, g)
  | data =>
    let (raw, g) := g.addData data
    RawForm.read [] g raw

/-- What the check finds in a statement, if it is asked for. -/
def findings (t : Tools) (d : Deployment) (r : CompileRequest) (sql : String) :
    Except Fault (List String) :=
  if r.validates.getD d.settings.validates then Sql.Validator.check t.parse sql r.dialect
  else .ok []

/-- The limit of a request. -/
def limitOf (r : CompileRequest) : Operand := .lit ((r.limit.map Literal.integer).getD .null)

/-- The answer to a request that the compiler reports on. -/
def reportResponse (t : Tools) (d : Deployment) (r : CompileRequest) (g : Graph)
    (report : Report) : Answer :=
  match report.fault with
  | some f => faultResponse g 422 f
  | none => do
    let sql ← report.unwrap
    return sqlResponse r.dialect sql (← findings t d r sql)

def compileResponse (t : Tools) (d : Deployment) (r : CompileRequest) (g : Graph)
    (condition : Operand) : Answer := do
  let query ← Query.make g condition (limitOf r)
  match d.compiler.compile g r.dialect (fieldsOf r) query with
  | .reported report => reportResponse t d r g report
  | .left f => throw f

def compile (t : Tools) (d : Deployment) (r : CompileRequest) : Answer :=
  match conditionOf d.graph r.condition with
  | .ok (condition, g) => compileResponse t d r g condition
  | .error f => if f.isOwn then faultResponse d.graph 400 f else .error f

/-- The answer to a body that should be a request to compile. -/
def compileBody (t : Tools) (s : Slot) (m : Request) (body : ByteArray) : Answer :=
  match t.readBody m.headers body with
  | .unsupported => .ok (.detail 400 "There was an error parsing the body")
  | .complaints complaints => .ok (complaintsResponse complaints)
  | .failed f => .error f
  | .request r => do compile t (← s.deployment "Transpiler") r

def dialectsResponse (c : Compiler) : Response :=
  { status := 200
    body := .object [("dialects", .array (c.dialects.map fun n => .object [("name", .text n)]))] }

def healthResponse : Response :=
  { status := 200, body := .object [("status", .text "ok"), ("version", .text version)] }

/-- The answer on a route to a message with a body within the limit. -/
def onRoute (t : Tools) (s : Slot) (route : Route) (m : Request) (body : ByteArray) : Answer :=
  match route with
  | .health => .ok healthResponse
  | .dialects => do return dialectsResponse (← s.compiler)
  | .compile => compileBody t s m body

/-- The answer to a request whose body is within the limit. -/
def routed (t : Tools) (s : Slot) (r : Request) (body : ByteArray) : Answer :=
  match Route.ofPath? r.path with
  | none => .ok (.detail 404 "Not Found")
  | some route =>
    if r.method = route.method then onRoute t s route r body
    else .ok (.detail 405 "Method Not Allowed")

/-- The answer to a request. Every answer tells how long it took. -/
def handle (t : Tools) (s : Slot) (r : Request) : Answer :=
  (BodyLimit.guarded BodyLimit.bytes (routed t s r) r).map fun response =>
    { response with timed := true }

end FilterCompiler.Service
