import FilterCompiler.Sql.Query
import FilterCompiler.Validator

/-! Statements of SQL, as far as a check of their form needs them: queries, and the plain forms
of the statements that change something. A statement is known by what it does. Nesting is
followed to a fixed depth, which is more than a compiled condition can reach. -/

namespace FilterCompiler.Sql

namespace Statement

/-- The deepest nesting of parentheses. -/
def depthLimit : Nat := 500

def creatables : List String :=
  ["COLUMN", "CONSTRAINT", "DATABASE", "DICTIONARY", "FOREIGN KEY", "FUNCTION", "INDEX",
   "NAMESPACE", "PROCEDURE", "SCHEMA", "SEQUENCE", "STAGE", "STREAMLIT", "TABLE", "TAG", "VIEW",
   "WAREHOUSE"]

/-- Words that a statement of which only the kind is told begins with. -/
def leadingWords : List (String × String) :=
  [("ALTER", "ALTER"), ("ANALYZE", "ANALYZE"), ("BEGIN", "TRANSACTION"), ("COMMENT", "COMMENT"),
   ("COMMIT", "COMMIT"), ("COPY", "COPY"), ("CREATE", "CREATE"), ("DESC", "DESCRIBE"),
   ("DESCRIBE", "DESCRIBE"), ("GRANT", "GRANT"), ("KILL", "KILL"), ("MERGE", "MERGE"),
   ("ROLLBACK", "ROLLBACK"), ("SET", "SET"), ("TRUNCATE", "TRUNCATETABLE"), ("USE", "USE"),
   ("CALL", "COMMAND"), ("EXECUTE", "COMMAND"), ("EXPLAIN", "COMMAND"), ("OPTIMIZE", "COMMAND"),
   ("PREPARE", "COMMAND"), ("SHOW", "COMMAND"), ("VACUUM", "COMMAND")]

open Phrase Grammar

section

variable (r : Rules) (size : Nat) (inner : Inner)

/-- What a statement gives back of the rows that it changes. -/
def returning : Phrase := all [word "RETURNING", sparse size (aliased r size inner)]

/-- Everything behind `INSERT`. -/
def insertion : Phrase := all
  [optional (word "OVERWRITE"), optional (word "IGNORE"), optional (word "INTO"),
   optional (word "TABLE"), path r size,
   optional (parenthesised (sparse size (name r))),
   optional (all [word "AS", name r]), optional (words ["DEFAULT", "VALUES"]),
   optional (query r size inner), optional (all
    [word "ON", any
      [all [word "CONFLICT", optional (parenthesised (sparse size (name r))), word "DO", any
        [word "NOTHING", all [words ["UPDATE", "SET"], sparse size (expression r size inner),
          optional (condition r size inner)]]],
       all [words ["DUPLICATE", "KEY", "UPDATE"], sparse size (expression r size inner)]]]),
   optional (returning r size inner)]

/-- Everything behind `UPDATE`. -/
def change : Phrase := all
  [sourceBefore r size inner (word "SET"), joins r size inner,
   optional (all [word "SET", sparse size (expression r size inner)]),
   sources r size inner, optional (condition r size inner),
   optional (returning r size inner), optional (ordering size (expression r size inner)),
   optional (limit r size inner)]

/-- Everything behind `DELETE`. -/
def deletion : Phrase := all
  [optional (barring (word "FROM") (list size (source r size inner))),
   optional (all [word "FROM", source r size inner, joins r size inner]),
   optional (all [word "USING", list size (source r size inner)]),
   optional (condition r size inner), optional (returning r size inner),
   optional (ordering size (expression r size inner)), optional (limit r size inner)]

/-- Everything behind `DROP`. -/
def removal : Phrase := all
  [optional (oneOf ["TEMP", "TEMPORARY"]), optional (word "MATERIALIZED"), oneOf creatables,
   optional (word "CONCURRENTLY"), optional (words ["IF", "EXISTS"]), path r size,
   optional (parenthesised (sparse size (type r size inner))),
   optional (word "CASCADE"), optional (word "CONSTRAINTS"), optional (word "PURGE")]

/-- What the tokens behind a query make of it: the last set operation counts. -/
def combined : Nat → Statement → List Token → Option Statement
  | 0, _, _ => none
  | times + 1, s, ts =>
    let next := setWords.findSome? fun w =>
      (setOperation r size inner w ts).map fun rest => (other w, rest)
    match next with
    | some (s, rest) => combined times s rest
    | none => if Clauses.behind (clauses r size inner) size [] ts = some [] then some s else none

/-- What an expression is that is made of a single operand. -/
def operandWord (ts : List Token) : String :=
  match ts with
  | .number _ :: _ | .text _ :: _ => "LITERAL"
  | .sign "*" :: _ => "STAR"
  | t :: _ =>
    if t.isWord "NULL" then "NULL"
    else if t.isWord "TRUE" || t.isWord "FALSE" then "BOOLEAN" else "COLUMN"
  | [] => "COLUMN"

def expressed? (ts : List Token) : Option Statement :=
  if (parenthesised inner.query) ts = some [] then some (other "SUBQUERY")
  else if (parenthesised inner.expression) ts = some [] then some (other "PAREN")
  else if any [literal size, sign "*", all [name r, many size (all [sign ".", name r])]] ts
      = some [] then some (other (operandWord ts))
  else none

/-- A query, also one that begins with a query between parentheses. -/
def queried? (ts : List Token) : Option Statement :=
  match selection r size inner ts with
  | some rest => combined r size inner (size + 1) select rest
  | none =>
    match rows size inner ts with
    | some rest => combined r size inner (size + 1) (other "VALUES") rest
    | none =>
      (parenthesised inner.query ts).bind (combined r size inner (size + 1) (other "SUBQUERY"))

end

def plain? (r : Rules) (ts : List Token) : Option Statement :=
  let size := ts.length
  let inner := inside r size depthLimit
  let whole (keyword : String) (p : Phrase) (rest : List Token) : Option Statement :=
    if p rest = some [] then some (other keyword) else none
  match ts with
  | [.semicolon _] => some (other "SEMICOLON")
  | .word letters :: rest =>
    match letters.toUpper with
    | "INSERT" => whole "INSERT" (insertion r size inner) rest
    | "UPDATE" => whole "UPDATE" (change r size inner) rest
    | "DELETE" => whole "DELETE" (deletion r size inner) rest
    | "DROP" =>
      match whole "DROP" (removal r size inner) rest with
      | some s => some s
      | none => if rest.head?.any (fun t => creatables.any t.isWord) then none
        else some (other "COMMAND")
    | w =>
      match leadingWords.lookup w with
      | some keyword => some (other keyword)
      | none => queried? r size inner ts <|> expressed? r size inner ts
  | _ => queried? r size inner ts <|> expressed? r size inner ts

def read? (r : Rules) (ts : List Token) : Option Statement :=
  let size := ts.length
  match commonQueries r size (inside r size depthLimit) ts with
  | some rest => plain? r rest
  | none => plain? r ts

end Statement

end FilterCompiler.Sql
