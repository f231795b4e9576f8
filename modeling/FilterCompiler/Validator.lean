import FilterCompiler.Fault
import FilterCompiler.NameTable

/-! The check of a compiled text: it should be one `SELECT` statement of its dialect. What the
statements of a text are is for a parser of SQL to say, which is given; the check counts them and
looks at what the only one does. A text that the parser refuses is reported in its words. -/

namespace FilterCompiler.Sql

/-- A statement: a query without set operations, or one of another kind with the word for
it. -/
inductive Statement where
  | select
  | other (keyword : String)
deriving DecidableEq, Repr

def Statement.keyword : Statement → String
  | select => "SELECT"
  | other keyword => keyword

/-- Why a parser gives no statements: it refuses the text, or fails for another reason. -/
inductive Refusal where
  | refused (message : String)
  | failed (fault : Fault)

/-- What gives the statements of a text in a dialect, which goes by the parser's name for it. A
statement of which there is nothing but its end is none. -/
abbrev Parser := String → String → Except Refusal (List (Option Statement))

namespace Validator

/-- The parser's names for the dialects that can be checked. -/
def targets : NameTable String :=
  [("postgres", "postgres"), ("mysql", "mysql"), ("sqlserver", "tsql")]

/-- What is wrong with statements, of which there should be one. -/
def findings : List Statement → List String
  | [.select] => []
  | [s] => ["Expected a SELECT statement, found " ++ s.keyword]
  | ss => ["Expected one SELECT statement, found " ++ Integer.text ss.length]

/-- What is wrong with a text that should be one `SELECT` statement. -/
def check (parse : Parser) (sql dialect : String) : Except Fault (List String) :=
  match targets.find? dialect with
  | none => .ok ["Unknown dialect '" ++ dialect ++ "', skipping SQL validation"]
  | some target =>
    match parse target sql with
    | .ok statements => .ok (findings statements.reduceOption)
    | .error (.refused message) => .ok [message]
    | .error (.failed f) => .error f

end Validator

end FilterCompiler.Sql
