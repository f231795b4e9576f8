/-! What can be wrong with a raw form, and where. A place is the way from the whole
form down to the element at fault, outermost step first. -/

namespace FilterCompiler.RawForm

/-- A step from a form to one of its elements: an index, or some argument that the parser
of a custom tag passed on. -/
inductive Step where
  | index (i : Nat)
  | passedOn
deriving DecidableEq, Repr

/-- The way to an element. -/
abbrev Place := List Step

namespace Place

def stepText : Step → String
  | .index i => "[" ++ Nat.repr i ++ "]"
  | .passedOn => "[*]"

/-- A place as text; the whole form has the empty text. -/
def text (p : Place) : String := String.join (p.map stepText)

end Place

inductive Problem where
  | notAList
  | tagNotText
  | wrongCount (tag : String) (expected given : Nat)
  | nothingToCompare (tag : String)
  | nameNotText
  | numberNotInteger
  | unknownTag (shown : String)
  | notAValue (kind : String)
  | stated (message : String)
deriving DecidableEq, Repr

def Problem.message : Problem → String
  | notAList => "Expected a non-empty list expression"
  | tagNotText => "Expression tag must be a string"
  | wrongCount tag expected given =>
    "'" ++ tag ++ "' expects " ++ Nat.repr expected ++
      (if expected = 1 then " argument" else " arguments") ++ ", got " ++ Nat.repr given
  | nothingToCompare tag => "'" ++ tag ++ "' expects a value and at least one comparison value"
  | nameNotText => "Macro name must be a string"
  | numberNotInteger => "Field number must be an integer"
  | unknownTag shown => "Unknown expression tag: " ++ shown
  | notAValue kind => "Expected a literal or field reference, got " ++ kind
  | stated message => message

end FilterCompiler.RawForm
