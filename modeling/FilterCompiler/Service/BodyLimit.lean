import FilterCompiler.Number.Numeral
import FilterCompiler.Service.Message

/-! The limit on request bodies. A length that is declared above the limit is refused at
once. Where a body is expected its bytes are counted as well while they arrive, so what
is kept never exceeds the limit, whatever was declared. -/

namespace FilterCompiler.Service.BodyLimit

def bytes : Nat := 1024 * 1024

/-- The length that a request declares, if it reads as one. -/
def declared? (r : Request) : Option Int :=
  (r.header? "content-length").bind fun s => (Numeral.integer 10 s.toList).toOption

def expectsBody (method : String) : Bool := ["POST", "PUT", "PATCH"].contains method

/-- What is there of a body while it is read: the pieces that are kept, and how many bytes were
counted. -/
structure Intake where
  kept : Array ByteArray := #[]
  total : Nat := 0

namespace Intake

/-- Counts a piece, and keeps it unless there are more bytes now than a limit allows. -/
def take? (max : Nat) (i : Intake) (piece : ByteArray) : Option Intake :=
  let total := i.total + piece.size
  if max < total then none else some ⟨i.kept.push piece, total⟩

def content (i : Intake) : ByteArray := i.kept.foldl ByteArray.append .empty

end Intake

/-- Reads pieces one after the other, and no further once there are more bytes than a limit
allows. -/
def gather (max : Nat) (pieces : List ByteArray) : Option Intake :=
  pieces.foldlM (Intake.take? max) {}

/-- The body of a request, if it is within a limit. -/
def accept (max : Nat) (r : Request) : Option ByteArray :=
  if (declared? r).any fun n => decide ((max : Int) < n) then none
  else if expectsBody r.method then (gather max r.pieces).map Intake.content
  else some r.content

def refusal (max : Nat) : Response :=
  .detail 413 ("Request body too large (max " ++ Integer.text max ++ " bytes)")

/-- The answer to a request with a limit in front of what answers its body. -/
def guarded {ε : Type} (max : Nat) (answer : ByteArray → Except ε Response) (r : Request) :
    Except ε Response :=
  match accept max r with
  | some body => answer body
  | none => .ok (refusal max)

end FilterCompiler.Service.BodyLimit
