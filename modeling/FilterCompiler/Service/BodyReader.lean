import FilterCompiler.Given
import FilterCompiler.Json.Encoding
import FilterCompiler.Service
import FilterCompiler.Sql.Parser
import FilterCompiler.Text.Blank

/-! A reader of the bodies of messages as requests to compile. Every part that does not fit is
complained about, in the order of the parts. With the parser of SQL texts it is what the service
runs with. -/

namespace FilterCompiler.Service

namespace Headers

/-- The kind that the body is said to be of, without what is said about it behind a
semicolon. -/
def kind (headers : Headers) : String :=
  let stated := ((headers.find? "content-type").getD "").toList.takeWhile (· != ';')
  (String.ofList (Text.trim Text.isSpace stated)).toLower

/-- Whether the body is said to be JSON, or of a kind that goes by its rules. -/
def hasJson (headers : Headers) : Bool :=
  match (headers.kind.toList.splitOn '/').map String.ofList with
  | ["application", form] => form == "json" || form.endsWith "+json"
  | _ => false

end Headers

namespace CompileRequest

/-- One field number with its column. The number is complained about first. -/
def field (name : String) (column : Json) : Checked (Int × String) :=
  let start : Checked (Int → String → Int × String) := .ok Prod.mk
  let place : List Step := [.name "body", .name "fields", .name name]
  start
    |>.and (Checked.located (place ++ [.name "[key]"]) (Given.integerOfText name))
    |>.and (Checked.located place column.given.toText)

/-- Field numbers with their columns. -/
def fieldTable (entries : List (String × Json)) : Checked (List (Int × String)) :=
  entries.foldr (fun (name, column) rest =>
    let start : Checked _ := .ok List.cons
    start |>.and (field name column) |>.and rest) (.ok [])

/-- A limit is not negative. -/
def limitOf (x : Given) : Except Mismatch Int :=
  match x.toInteger with
  | .ok n => if n < 0 then .error .negative else .ok n
  | .error m => .error m

/-- One part of a request, or its default. -/
def part {α : Type} (entries : List (String × Json)) (name : String)
    (convert : Json → Except Mismatch α) (default : Except Mismatch α) : Checked α :=
  Checked.located [.name "body", .name name] <|
    match entries.lookup name with
    | some x => convert x
    | none => default

/-- One part of a request that is a single value, or its default. -/
def single {α : Type} (entries : List (String × Json)) (name : String)
    (convert : Given → Except Mismatch α) (default : Except Mismatch α) : Checked α :=
  part entries name (fun x => convert x.given) default

/-- Sets the column of a number, in place of the one before if there is one. -/
def setColumn (t : List (Int × String)) (number : Int) (column : String) : List (Int × String) :=
  match t with
  | [] => [(number, column)]
  | (other, old) :: rest =>
    if other = number then (other, column) :: rest
    else (other, old) :: setColumn rest number column

/-- The fields of a request. Texts that are the same number set the same column. -/
def fieldsPart (entries : List (String × Json)) : Checked (List (Int × String)) :=
  match entries.lookup "fields" with
  | none => .ok []
  | some (.object fields) =>
    (fieldTable fields).map fun found => found.foldl (fun t (n, column) => setColumn t n column) []
  | some _ => .error [⟨.notRecord, [.name "body", .name "fields"]⟩]

def ofData : Json → Checked CompileRequest
  | .object entries =>
    let start : Checked _ := .ok CompileRequest.mk
    start
      |>.and (single entries "dialect" Given.toText (.error .missing))
      |>.and (fieldsPart entries)
      |>.and (part entries "where" .ok (.ok .null))
      |>.and (single entries "limit" (Given.orNull limitOf) (.ok none))
      |>.and (single entries "validate_sql" (Given.orNull Given.toTruth) (.ok none))
  | _ => .error [⟨.notObject, [.name "body"]⟩]

/-- The value at a place. -/
def valueAt (data : Json) : List Step → Json
  | .name name :: rest => valueAt ((data.get? name).getD .null) rest
  | _ => data

/-- What a complaint is about: the value at its place, and the whole where a part is missing.
A numeral is about nothing but a text. -/
def subject (data : Json) (c : Complaint) : Json :=
  match c.mismatch with
  | .missing => data
  | .integerText | .integerTextTooLong => .null
  | _ => valueAt data c.place.tail

/-- Reads the data of a body. Complaints are answered with what they are about, which cannot be
written when there is a number in it that is not finite. -/
def read (data : Json) : Reading :=
  match ofData data with
  | .ok r => .request r
  | .error complaints =>
    if complaints.all fun c => (subject data c).isFinite then .complaints complaints
    else .failed .unwritable

/-- Reads a text that should be JSON. Nothing is asked with half of a pair of codes on its own:
no answer that tells of it could be encoded. -/
def ofText (s : String) : Reading :=
  match Json.read s with
  | .ok data => read data
  | .error (.invalid position) => .complaints [⟨.notJson, [.name "body", .position position]⟩]
  | .error .unsupported => .unsupported
  | .error .halfPair => .failed .unencodable

/-- Reads a body; one that is not JSON holds no object. -/
def ofBody (json : Bool) (body : ByteArray) : Reading :=
  if body.isEmpty then .complaints [⟨.missing, [.name "body"]⟩]
  else if !json then .complaints [⟨.notObject, [.name "body"]⟩]
  else
    match Json.decode body with
    | .ok s => ofText s
    | .error .halfPair => .failed .unencodable
    | .error _ => .unsupported

end CompileRequest

/-- What the service runs with. -/
def Tools.standard : Tools where
  readBody headers := CompileRequest.ofBody headers.hasJson
  parse := Sql.parse

end FilterCompiler.Service
