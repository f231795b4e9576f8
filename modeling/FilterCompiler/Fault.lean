import FilterCompiler.Calendar
import FilterCompiler.Complaint
import FilterCompiler.DefinitionFile.Problem
import FilterCompiler.Graph
import FilterCompiler.RawForm.Problem

/-! Faults: every way in which reading, compiling or configuring can fail, one
constructor a cause. The faults that belong to compiling have a code, a message and
details that a caller gets to see; the others have a category and a message, and are
reported under a code of their own when a dialect meets them. What an application puts in place
of a capability may fail with a fault that cannot be worded: wording it ends in another fault. -/

namespace FilterCompiler

inductive Fault where
  | stated (message : String) (details : List (String × Operand))
  | unknownDialect (name : String) (available : List String)
  | unknownField (number : Operand) (shown : String)
  | undefinedName (name : Operand) (shown : String)
  | circular (tag : String) (name : Option Operand)
  | dialectFailed (message : String) (cause : Option String)
  | unsupportedNode (kind : String)
  | unsupportedValue (kind : String)
  | malformed (problem : RawForm.Problem) (place : String)
  | badFile (problem : DefinitionFile.Problem)
  | nestedTooDeep
  | undecodable
  | integerTooLong
  | integerTextTooLong (digits : Nat)
  | notInteger (base : Nat) (shown : String)
  | notNumber (shown : String)
  | notDate (problem : Calendar.Problem)
  | keyless (kind : String)
  | signalHashed
  | signalCompared
  | noEntry (shown : String)
  | emptyNumeral
  | crowdedNumeral
  | noCharacter
  | characterTooLarge
  | floatTooLarge
  | dateTooLarge
  | badOffset (shown : String)
  | sizeless (kind : String)
  | nullInPath
  | unwritable
  | unencodable
  | noData (kind : String)
  | notIterable (kind : String)
  | nothingToCompare (tag : String)
  | listedNotText (position : Nat) (kind : String)
  | limitNotInteger (kind : String)
  | negativeLimit (shown : String)
  | emptyOutcome
  | unknownLevel (name : String)
  | fixedDefinitions
  | noConfiguration (what : String)
  | unfit (complaints : List Complaint)
  | raised (category message : String)
  | unworded (category : String) (failure : Fault)
deriving DecidableEq, Repr

namespace Fault

/-- What a caller gets to see beside the message. -/
inductive Detail where
  | operand (x : Operand)
  | text (s : String)
  | texts (ss : List String)
  | absent
deriving DecidableEq, Repr

/-- Whether a fault belongs to compiling; all others come from elsewhere. -/
def isOwn : Fault → Bool
  | stated .. | unknownDialect .. | unknownField .. | undefinedName .. | circular ..
  | dialectFailed .. | unsupportedNode _ | unsupportedValue _ | malformed .. | badFile _ => true
  | _ => false

/-- The code of a fault; a fault from elsewhere has none. -/
def code? : Fault → Option String
  | stated .. => some "TRANSPILE_ERROR"
  | unknownDialect .. => some "UNKNOWN_DIALECT"
  | unknownField .. => some "UNKNOWN_FIELD"
  | undefinedName .. => some "MACRO_NOT_FOUND"
  | circular .. => some "CIRCULAR_DEPENDENCY"
  | dialectFailed .. => some "FORMATTER_ERROR"
  | unsupportedNode _ => some "UNSUPPORTED_NODE"
  | unsupportedValue _ => some "UNSUPPORTED_VALUE"
  | malformed .. => some "EXPRESSION_SYNTAX"
  | badFile _ => some "MACRO_FILE"
  | _ => none

/-- The category of a fault from elsewhere; the faults of compiling have none. -/
def category? : Fault → Option String
  | nestedTooDeep => some "RecursionError"
  | undecodable => some "UnicodeDecodeError"
  | unencodable => some "UnicodeEncodeError"
  | integerTooLong | integerTextTooLong _ | notInteger .. | notNumber _ | notDate _
  | nothingToCompare _ | negativeLimit _ | emptyOutcome | unknownLevel _ | crowdedNumeral
  | noCharacter | badOffset _ | nullInPath | unwritable => some "ValueError"
  | keyless _ | signalHashed | notIterable _ | listedNotText .. | limitNotInteger _
  | fixedDefinitions | sizeless _ | noData _ => some "TypeError"
  | characterTooLarge | floatTooLarge | dateTooLarge => some "OverflowError"
  | signalCompared => some "InvalidOperation"
  | noEntry _ => some "KeyError"
  | emptyNumeral => some "IndexError"
  | noConfiguration _ => some "RuntimeError"
  | unfit _ => some "ValidationError"
  | raised category _ | unworded category _ => some category
  | _ => none

/-- The text of a fault; one that cannot be worded has none. -/
def message : Fault → String
  | stated text _ => text
  | unknownDialect name available =>
    "No formatter found for dialect '" ++ name ++ "'. Available: " ++
      ", ".intercalate available
  | unknownField _ shown => "Unknown field number: " ++ shown
  | undefinedName _ shown => "Macro not found: " ++ shown
  | circular .. => "Circular dependency detected"
  | dialectFailed text _ => text
  | unsupportedNode kind => "No operator renderer for node type '" ++ kind ++ "'"
  | unsupportedValue kind => "No value renderer for literal type '" ++ kind ++ "'"
  | malformed problem place =>
    problem.message ++ " (at " ++ (if place = "" then "root" else place) ++ ")"
  | badFile problem => problem.message
  | nestedTooDeep => "maximum recursion depth exceeded"
  | undecodable => "invalid start byte"
  | integerTooLong =>
    "Exceeds the limit (4300 digits) for integer string conversion; " ++
      "use sys.set_int_max_str_digits() to increase the limit"
  | integerTextTooLong digits =>
    "Exceeds the limit (4300 digits) for integer string conversion: value has " ++
      String.ofList (Integer.digits digits) ++
      " digits; use sys.set_int_max_str_digits() to increase the limit"
  | notInteger base shown =>
    "invalid literal for int() with base " ++ String.ofList (Integer.digits base) ++ ": " ++ shown
  | notNumber shown => "could not convert string to float: " ++ shown
  | notDate problem => problem.message
  | keyless kind => "unhashable type: '" ++ kind ++ "'"
  | signalHashed => "Cannot hash a signaling NaN value"
  | signalCompared => "[<class 'decimal.InvalidOperation'>]"
  | noEntry shown => shown
  | emptyNumeral => "string index out of range"
  | crowdedNumeral => "too many values to unpack (expected 2)"
  | noCharacter => "chr() arg not in range(0x110000)"
  | characterTooLarge => "Python int too large to convert to C int"
  | floatTooLarge => "int too large to convert to float"
  | dateTooLarge => "date value out of range"
  | badOffset shown =>
    "offset must be a timedelta strictly between -timedelta(hours=24) and " ++
      "timedelta(hours=24), not " ++ shown ++ "."
  | sizeless kind => "object of type '" ++ kind ++ "' has no len()"
  | nullInPath => "embedded null byte"
  | unwritable => "Out of range float values are not JSON compliant"
  | unencodable => "surrogates not allowed"
  | noData kind => "Object of type " ++ kind ++ " is not JSON serializable"
  | notIterable kind => "'" ++ kind ++ "' object is not iterable"
  | nothingToCompare tag => "'" ++ tag ++ "' needs at least one comparison value"
  | listedNotText position kind =>
    "sequence item " ++ String.ofList (Integer.digits position) ++ ": expected str instance, " ++
      kind ++ " found"
  | limitNotInteger kind => "limit must be an integer, got " ++ kind
  | negativeLimit shown => "limit must be non-negative, got " ++ shown
  | emptyOutcome => "CompileResult carries neither SQL nor an error"
  | unknownLevel name => "Unknown level: " ++ name
  | fixedDefinitions => "'mappingproxy' object does not support item assignment"
  | noConfiguration what => what ++ " not initialised; call init_transpiler() first"
  | unfit complaints => ", ".intercalate (complaints.map fun c => c.mismatch.word)
  | raised _ text => text
  | unworded .. => ""

/-- The text of a fault, or the fault that wording it ends in. -/
def wording : Fault → Except Fault String
  | unworded _ failure => .error failure
  | f => .ok f.message

/-- What a caller gets to see beside code and message, by name. -/
def details : Fault → List (String × Detail)
  | stated _ given => given.map fun (name, x) => (name, .operand x)
  | unknownDialect name available => [("dialect", .text name), ("available", .texts available)]
  | unknownField number _ => [("field", .operand number)]
  | undefinedName name _ => [("macro", .operand name)]
  | circular tag name => [("tag", .text tag), ("macro", (name.map Detail.operand).getD .absent)]
  | dialectFailed _ cause => (cause.map fun c => [("cause", Detail.text c)]).getD []
  | unsupportedNode kind => [("node_type", .text kind)]
  | unsupportedValue kind => [("value_type", .text kind)]
  | malformed _ place => [("path", .text place)]
  | _ => []

def attributes : Fault → List (String × Detail)
  | unknownDialect name available => [("dialect_name", .text name), ("available", .texts available)]
  | unknownField number _ => [("number", .operand number)]
  | undefinedName name _ => [("name", .operand name)]
  | circular tag name => [("tag", .text tag), ("macro", (name.map Detail.operand).getD .absent)]
  | unsupportedNode kind => [("node_type", .text kind)]
  | unsupportedValue kind => [("value_type", .text kind)]
  | malformed _ place => [("path", .text place)]
  | _ => []

/-- A fault met while a dialect was at work, as its caller gets it if it can be worded: the faults
of compiling as they are, any other wrapped with its category as the cause. -/
def within (dialect : String) (f : Fault) : Fault :=
  match f.category? with
  | none => f
  | some category =>
    .dialectFailed ("Formatter for dialect '" ++ dialect ++ "' failed: " ++ f.message)
      (some category)

theorem code?_isSome_iff (f : Fault) : f.code?.isSome = true ↔ f.isOwn = true := by
  cases f <;> simp [code?, isOwn]

theorem category?_eq_none_iff (f : Fault) : f.category? = none ↔ f.isOwn = true := by
  cases f <;> simp [category?, isOwn]

theorem within_of_isOwn {dialect : String} {f : Fault} (h : f.isOwn = true) :
    f.within dialect = f := by
  simp [within, (category?_eq_none_iff f).2 h]

theorem isOwn_within (dialect : String) (f : Fault) : (f.within dialect).isOwn = true := by
  unfold within
  cases h : f.category? with
  | none => exact (category?_eq_none_iff f).1 h
  | some category => rfl

def IsWorded (f : Fault) : Prop := f.wording = .ok f.message

theorem isWorded_of_isOwn {f : Fault} (h : f.isOwn = true) : f.IsWorded := by
  cases f <;> first | rfl | cases h

end Fault

/-- What rendering gives: a text, or the first fault. -/
abbrev Rendered := Except Fault String

end FilterCompiler
