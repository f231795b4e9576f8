import FilterCompiler.Number.Integer

/-! What can be wrong with a file of named conditions, and the limits it is held to. -/

namespace FilterCompiler.DefinitionFile

/-- The most characters of a file. -/
def sizeLimit : Nat := 1000000

/-- The most elements of a file's data. -/
def countLimit : Nat := 50000

/-- The deepest level of a file's data. -/
def depthLimit : Nat := 64

inductive Problem where
  | tooLong (size : Nat)
  | anchored
  | notMarkup (file : String)
  | notARecord (file kind : String)
  | tooMany
  | tooDeep
  | badBody (name file reason : String)
  | unreadable (path reason : String)
  | stated (message : String)
deriving DecidableEq, Repr

def Problem.message : Problem → String
  | tooLong size =>
    "Macro file exceeds maximum size (" ++ Integer.grouped size ++ " chars > " ++
      Integer.grouped sizeLimit ++ " limit)"
  | anchored => "YAML anchors/aliases are not supported in macro files"
  | notMarkup file => "Invalid YAML in " ++ file
  | notARecord file kind => "Macro file " ++ file ++ " must contain a mapping, got " ++ kind
  | tooMany => "Macro file exceeds maximum node count (" ++ Integer.grouped countLimit ++ ")"
  | tooDeep =>
    "Macro file exceeds maximum nesting depth (" ++ String.ofList (Integer.digits depthLimit) ++ ")"
  | badBody name file reason => "Macro '" ++ name ++ "' in " ++ file ++ ": " ++ reason
  | unreadable path reason => "Cannot read macro file " ++ path ++ ": " ++ reason
  | stated message => message

end FilterCompiler.DefinitionFile
