import FilterCompiler.Sql.Expression

/-! Queries of SQL: a list of columns, what the rows come from, and clauses, which may stand in
any order but settle nothing twice. -/

namespace FilterCompiler.Sql.Grammar

open Phrase

/-- Words that are names but not of what stands before them in a list of sources. -/
def notAliases : List String :=
  ["ANTI", "ASOF", "FULL", "LEFT", "LOCK", "NATURAL", "RIGHT", "SEMI", "WINDOW"]

variable (r : Rules) (size : Nat) (inner : Inner)

def isSourceAlias (t : Token) : Bool :=
  isText t || isName r t && !(notAliases ++ r.hints).any t.isWord

/-- A name given to a source, and names for its columns. What follows the source may begin with
a word that is no name then. -/
def sourceNaming (following : Phrase) : Phrase := any
  [all [naming r size inner (barring following (nameOf r (isSourceAlias r))),
    optional (parenthesised (list size (name r)))],
   parenthesised (list size (name r))]

/-- Parts of a name with points between them, of which those in the middle may be absent. -/
def pathOf (part : Phrase) : Phrase :=
  all [part, many size (all [sign ".", optional (sign "."), part])]

/-- A name with the names of what holds it before it. -/
def path : Phrase := pathOf size (any [name r, token isText])

/-- A name of a source, for which a call of a function may stand. -/
def sourcePath : Phrase := pathOf size (any
  [all [token (isFunction r), arguments size inner], name r, token isText])

/-- Advice on how to look rows up. -/
def hints : Phrase := any
  [all [word "WITH", parenthesised (sparse size (all
    [token isAnyName, optional (arguments size inner)]))],
   many size (all
    [oneOf r.hints, optional (oneOf ["INDEX", "KEY"]),
     optional (all [word "FOR", token isAnyName]), parenthesised (sparse size (name r))])]

def rows : Phrase := all
  [word "VALUES", list size (any [parenthesised (sparse size inner.aliased), inner.aliased])]

/-- What rows come from, in front of something else. -/
def sourceBefore (following : Phrase) : Phrase := all [optional (word "LATERAL"), any
  [all [parenthesised inner.source, optional (sourceNaming r size inner following)],
   all [rows size inner, optional (sourceNaming r size inner following)],
   inner.query,
   all [if r.reserved.contains "ONLY" then optional (word "ONLY") else all [],
    sourcePath r size inner, optional (bracketed size inner), optional (sign "*"),
    optional (sourceNaming r size inner following), optional (hints r size inner)]]]

def source : Phrase := sourceBefore r size inner absent

def join : Phrase := any
  [all [sign ",", source r size inner],
   all [any
    [all [optional (oneOf ["ASOF", "NATURAL"]), optional (oneOf ["ANTI", "LEFT", "RIGHT", "FULL"]),
      optional (oneOf ["OUTER", "CROSS", "INNER", "SEMI"]), word "JOIN"],
     word "STRAIGHT_JOIN", words ["CROSS", "APPLY"], words ["OUTER", "APPLY"]],
    source r size inner,
    optional (any
     [all [word "ON", expression r size inner],
      all [word "USING", parenthesised (list size (name r))]])]]

/-- Joins; a comma may stand behind the last one. -/
def joins : Phrase := all [many size (join r size inner), optional (sign ",")]

def lock : Phrase := all
  [any [words ["FOR", "UPDATE"], words ["FOR", "SHARE"], words ["LOCK", "IN", "SHARE", "MODE"]],
   optional (all [word "OF", list size (path r size)]),
   optional (any [word "NOWAIT", words ["SKIP", "LOCKED"]])]

def fetching : Phrase := all
  [word "FETCH", optional (oneOf ["FIRST", "NEXT"]), optional (term r size inner),
   optional (oneOf ["ROW", "ROWS"]), optional (any [word "ONLY", words ["WITH", "TIES"]])]

def condition : Phrase := all [word "WHERE", expression r size inner]

def clauses : Clauses :=
  let value := expression r size inner
  [(["where"], condition r size inner),
   (["group"], all [word "GROUP BY", optional (word "ALL"), sparse size value]),
   (["having"], all [word "HAVING", value]),
   (["qualify"], all [word "QUALIFY", value]),
   (["order"], ordering size value),
   (["limit", "offset"], all [limit r size inner, sign ",", term r size inner]),
   (["limit"], limit r size inner),
   (["limit"], fetching r size inner),
   (["offset"], offset r size inner),
   (["locks"], all [lock r size, many size (lock r size)])]

/-- A limit at the head of a query, in the dialects that have it there. -/
def headLimit : Phrase := all
  [word "TOP", any [token isNumber, parenthesised inner.expression],
   optional (any [word "PERCENT", sign "%"]), optional (words ["WITH", "TIES"])]

def columns : Phrase := all
  [sparse size (aliased r size inner),
   optional (all [word "INTO", optional (oneOf ["TEMP", "TEMPORARY"]), optional (word "TABLE"),
    path r size])]

def sources : Phrase := all [clause "FROM" (source r size inner), joins r size inner]

/-- What follows the head of a query: columns, sources and clauses. -/
def body (settled : List String) : Phrase := all
  [columns r size inner, sources r size inner,
   Clauses.behind (clauses r size inner) size settled]

/-- A query without set operations. The sources may come first. -/
def selection : Phrase := any
  [all [word "SELECT", optional (word "ALL"),
    optional (all [word "DISTINCT", optional (all [word "ON", group size inner])]), any
    [if r.limitAtHead then all [headLimit inner, body r size inner ["limit"]] else absent,
     barring (if r.limitAtHead then word "TOP" else absent) (body r size inner [])]],
   all [word "FROM", source r size inner, joins r size inner, any
    [all [word "SELECT", columns r size inner,
      Clauses.behind (clauses r size inner) size []],
     Clauses.behind (clauses r size inner) size []]]]

def setWords : List String := ["UNION", "EXCEPT", "INTERSECT"]

/-- What stands behind a set operation: a query, also one between parentheses. -/
def operandQuery : Phrase := any
  [selection r size inner, rows size inner,
   all [parenthesised inner.source, optional (sourceNaming r size inner absent)]]

def setOperation (w : String) : Phrase := all
  [word w, optional (oneOf ["ALL", "DISTINCT"]), optional (words ["BY", "NAME"]),
   operandQuery r size inner]

def commonQueries : Phrase := all
  [word "WITH", optional (word "RECURSIVE"), list size (all
    [name r, optional (parenthesised (list size (name r))), word "AS",
     optional (all [optional (word "NOT"), word "MATERIALIZED"]),
     parenthesised inner.query])]

def query : Phrase := all
  [optional (commonQueries r size inner),
   any [selection r size inner, rows size inner],
   many size (any (setWords.map (setOperation r size inner)))]

/-- What may stand between the parentheses of a source: a query or sources, with clauses. -/
def innerSource : Phrase := any
  [all [any [query r size inner, all [parenthesised inner.source,
      optional (sourceNaming r size inner absent)]],
    many size (any (setWords.map (setOperation r size inner))), joins r size inner,
    Clauses.behind (clauses r size inner) size []],
   barring (sign "(") (all [source r size inner, joins r size inner,
    Clauses.behind (clauses r size inner) size []])]

/-- What is found between parentheses that nest at most `depth` deep. -/
def inside (r : Rules) (size : Nat) : Nat → Inner
  | 0 => {}
  | depth + 1 =>
    let inner := inside r size depth
    ⟨expression r size inner, aliased r size inner, query r size inner, innerSource r size inner⟩

end FilterCompiler.Sql.Grammar
