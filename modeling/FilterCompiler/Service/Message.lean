import FilterCompiler.Json

/-! Messages of the service: requests, whose body arrives in pieces, and responses. -/

namespace FilterCompiler.Service

/-- What is said about a message, by name. -/
abbrev Headers := List (String × String)

/-- The first header of a name, given in small letters. -/
def Headers.find? (headers : Headers) (name : String) : Option String :=
  (List.find? (fun h => h.1.toLower == name) headers).map Prod.snd

structure Request where
  method : String
  path : String
  headers : Headers := []
  pieces : List ByteArray := []
deriving Inhabited

namespace Request

def header? (r : Request) (name : String) : Option String := r.headers.find? name

def content (r : Request) : ByteArray := r.pieces.foldl ByteArray.append .empty

end Request

/-- A response; a timed one tells how long it took. -/
structure Response where
  status : Nat
  body : Json
  timed : Bool := false
deriving Inhabited

namespace Response

def detail (status : Nat) (text : String) : Response :=
  { status, body := .object [("detail", .text text)] }

end Response

end FilterCompiler.Service
