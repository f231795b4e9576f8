import FilterCompiler.Sql.Phrase

/-! Expressions of SQL, as far as a check of their form needs them: operands with signs and
words between them. What stands between parentheses is given as phrases for less deeply nested
text. -/

namespace FilterCompiler.Sql.Grammar

open Phrase

def reserved : List String :=
  ["ALTER", "ANALYZE", "AND", "AS", "BETWEEN", "CREATE", "CROSS", "DISTINCT", "DROP", "ELSE",
   "EXCEPT", "FETCH", "FOR", "FROM", "GLOB", "GRANT", "HAVING", "ILIKE", "IN", "INNER", "INSERT",
   "INTERSECT", "INTO", "JOIN", "LATERAL", "LIKE", "NOT", "NOTNULL", "ON", "OR", "OUTER", "OVER",
   "QUALIFY", "REGEXP", "RETURNING", "REVOKE", "RLIKE", "ROLLBACK", "SELECT", "STRAIGHT_JOIN",
   "TABLESAMPLE", "THEN", "UNCACHE", "UNION", "USING", "VALUES", "WHEN", "WHERE", "WITH", "XOR",
   "GROUP BY", "ORDER BY", "PARTITION BY", "CLUSTER BY", "DISTRIBUTE BY", "SORT BY", "CONNECT BY",
   "START WITH", "PRIMARY KEY", "GROUPING SETS", "SIMILAR TO", "CHARACTER SET"]

/-- Words that are no names but may be those of functions. -/
def functionWords : List String :=
  ["GLOB", "ILIKE", "INSERT", "LIKE", "PRIMARY KEY", "REGEXP", "RLIKE", "VALUES", "XOR"]

/-- Words that make a literal of the one behind them. -/
def literalKinds : List String :=
  ["BIGINT", "BINARY", "BIT", "BOOLEAN", "CHAR", "DATE", "DATETIME", "DECIMAL", "DOUBLE", "FLOAT",
   "INT", "INTEGER", "JSON", "JSONB", "NCHAR", "NUMERIC", "NVARCHAR", "REAL", "SMALLINT", "TEXT",
   "TIME", "TIMESTAMP", "TIMESTAMPTZ", "TINYINT", "UUID", "VARBINARY", "VARCHAR", "XML"]

/-- Signs between operands that make up one term. -/
def termSigns : List String :=
  ["+", "-", "*", "/", "%", "||", "&", "|", "^", "??", "->", "->>", "#>", "#>>"]

def comparisonSigns : List String :=
  ["=", "<>", "!=", "==", "<", ">", "<=", ">=", "<=>", "&&", "~", "~*", "~~", "~~*", "~~~",
   "@>", "<@", "?&", "?|", "@@"]

def comparisonWords : List String :=
  ["GLOB", "ILIKE", "LIKE", "OVERLAPS", "REGEXP", "RLIKE", "SIMILAR TO"]

/-- What is found between parentheses: expressions, also with names behind them, queries, and
what rows come from. -/
structure Inner where
  expression : Phrase := fun _ => none
  aliased : Phrase := fun _ => none
  query : Phrase := fun _ => none
  source : Phrase := fun _ => none

variable (r : Rules) (size : Nat) (inner : Inner)

def isNameWord (t : Token) : Bool :=
  match t with
  | .word letters => !(reserved.contains letters.toUpper || r.reserved.contains letters.toUpper)
  | .sign s => s == "\x60"
  | _ => false

def isName (t : Token) : Bool :=
  match t with
  | .name _ => true
  | t => isNameWord r t

/-- Whether a token may be a name where only a name can follow. -/
def isAnyName : Token → Bool
  | .word letters => letters.toUpper != "SELECT"
  | .name _ | .text _ | .number _ => true
  | _ => false

def isText : Token → Bool
  | .text _ => true
  | _ => false

def isNumber : Token → Bool
  | .number _ => true
  | _ => false

def placeholder : Phrase := any
  [sign "?", all [sign ":", token (isName r)], all [sign "@", token isAnyName]]

def nameOf (p : Token → Bool) : Phrase := all
  [if r.hashedNames then many 2 (sign "#") else all [], any [token p, placeholder r]]

def name : Phrase := nameOf r (isName r)

def group : Phrase := parenthesised (any [inner.query, sparse size inner.aliased])

def bracketed : Phrase := all [sign "[", sparse size inner.aliased, sign "]"]

def ordering (expression : Phrase) : Phrase := all
  [word "ORDER BY", list size (all
    [expression, optional (oneOf ["ASC", "DESC"]),
     optional (all [word "NULLS", oneOf ["FIRST", "LAST"]])])]

def window : Phrase := all
  [optional (all [word "FILTER", parenthesised (all [word "WHERE", inner.expression])]),
   optional (all [word "OVER", any [name r, parenthesised (all
    [optional (all [word "PARTITION BY", list size inner.expression]),
     optional (ordering size inner.expression)])]])]

def arguments : Phrase := parenthesised (any
  [inner.query,
   all [optional (word "DISTINCT"), sparse size inner.aliased,
    optional (ordering size inner.expression)]])

def isFunction (t : Token) : Bool := isName r t || functionWords.any t.isWord

def function : Phrase := all [token (isFunction r), arguments size inner, window r size inner]

def type : Phrase := all
  [token (isName r), optional (parenthesised (sparse size inner.expression)),
   many size (all [sign "[", optional (token isNumber), sign "]"])]

def choice : Phrase := all
  [word "CASE", optional inner.expression,
   many size (all [word "WHEN", inner.expression, word "THEN", inner.expression]),
   optional (all [word "ELSE", inner.expression]), word "END"]

def conversion : Phrase := all
  [oneOf ["CAST", "TRY_CAST"],
   parenthesised (all [inner.expression, word "AS", type r size inner])]

def span : Phrase := all
  [word "INTERVAL", any [token isText, token isNumber], optional (token (isNameWord r))]

/-- Texts one after the other are one. -/
def literal : Phrase := any
  [all [token isText, many size (token isText)], token isNumber,
   all [sign ".", token isNumber], oneOf ["NULL", "TRUE", "FALSE"],
   all [oneOf literalKinds, any [token isText, token isNumber]]]

def primary : Phrase := any
  [literal size, sign "*", group size inner, choice size inner, conversion r size inner, span r,
   function r size inner, name r, bracketed size inner]

/-- What continues an operand: a part of it, or its type. -/
def selector : Phrase := any
  [bracketed size inner,
   all [sign ".", any [all [token isAnyName, optional (arguments size inner)], sign "*"]],
   all [sign "::", type r size inner]]

def operand : Phrase := all
  [many size (any [word "NOT", oneSignOf ["!", "-", "+", "~", "|/", "||/"]]),
   primary r size inner, many size (selector r size inner)]

def term : Phrase := all
  [operand r size inner,
   many size (all [any [oneSignOf termSigns, oneOf ["DIV", "COLLATE"]], operand r size inner])]

def continuation : Phrase :=
  let term := term r size inner
  any
  [all [any [oneOf ["AND", "OR", "XOR"], oneSignOf comparisonSigns], term],
   all [word "IS", optional (word "NOT"), any [all [words ["DISTINCT", "FROM"], term], term]],
   all [optional (word "NOT"), any
    [all [word "IN", any [group size inner, bracketed size inner, name r]],
     all [oneOf comparisonWords, term, optional (all [word "ESCAPE", term])],
     all [word "BETWEEN", term, word "AND", term], oneOf ["ISNULL", "NOTNULL"]]],
   all [word "NOT", optional (word "NULL")]]

def expression : Phrase :=
  all [term r size inner, many size (continuation r size inner)]

def limit : Phrase := all
  [word "LIMIT", term r size inner, optional (any [word "PERCENT", sign "%"]),
   optional (oneOf ["ROW", "ROWS"]), optional (word "ONLY"), optional (words ["WITH", "TIES"])]

def offset : Phrase :=
  all [word "OFFSET", term r size inner, optional (oneOf ["ROW", "ROWS"])]

/-- A name given to what stands before it. The words for limits are names only where no limit
follows them. -/
def naming (ownName : Phrase) : Phrase :=
  barring (any [limit r size inner, offset r size inner])
    (any [all [word "AS", optional (nameOf r isAnyName)], ownName])

def aliased : Phrase := all
  [expression r size inner, optional (naming r size inner (any
    [parenthesised (sparse size (name r)), name r,
     if r.textAliases then token isText else absent]))]

end FilterCompiler.Sql.Grammar
