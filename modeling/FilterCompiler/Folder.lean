import FilterCompiler.Text.Escaped

/-! Files in a folder. A path is resolved step by step from the folder: a step into
something that is missing or no folder is refused even if a later one leads back. -/

namespace FilterCompiler

inductive Entry where
  | file (content : ByteArray)
  | folder
deriving Inhabited

inductive FileProblem where
  | missing
  | isFolder
  | notFolder
  | nameTooLong
deriving DecidableEq, Repr

namespace FileProblem

def number : FileProblem → String
  | missing => "2"
  | isFolder => "21"
  | notFolder => "20"
  | nameTooLong => "36"

def words : FileProblem → String
  | missing => "No such file or directory"
  | isFolder => "Is a directory"
  | notFolder => "Not a directory"
  | nameTooLong => "File name too long"

def message (p : FileProblem) (path : String) : String :=
  "[Errno " ++ p.number ++ "] " ++ p.words ++ ": " ++ Text.Escaped.text path

end FileProblem

/-- A path as steps from the folder or, behind one or two slashes, from the root of all
files. -/
structure FilePath where
  slashes : Nat := 0
  steps : List String := []
deriving DecidableEq, Repr

namespace FilePath

/-- The slashes that count at the start of a path: two are kept, more are one. -/
def leadingSlashes (s : String) : Nat :=
  match (s.toList.takeWhile (· == '/')).length with
  | 0 => 0
  | 2 => 2
  | _ => 1

/-- Reads a path; empty steps and single dots do not count. -/
def ofString (s : String) : FilePath :=
  ⟨leadingSlashes s, (s.splitOn "/").filter fun step => step != "" && step != "."⟩

def isAbsolute (p : FilePath) : Bool := p.slashes != 0

def text (p : FilePath) : String :=
  if !p.isAbsolute && p.steps.isEmpty then "."
  else String.ofList (List.replicate p.slashes '/') ++ "/".intercalate p.steps

/-- The most bytes of a path. -/
def sizeLimit : Nat := 4095

/-- The most bytes of a step. -/
def stepLimit : Nat := 255

def isTooLong (p : FilePath) : Bool := sizeLimit < p.text.utf8ByteSize

/-- Whether a path holds a null, which no file's does. -/
def hasNull (p : FilePath) : Bool := p.steps.any fun step => step.toList.contains '\x00'

end FilePath

structure Folder where
  files : List (FilePath × ByteArray) := []
deriving Inhabited

namespace Folder

def add (f : Folder) (path : FilePath) (content : ByteArray) : Folder :=
  ⟨(path, content) :: f.files.filter fun (other, _) => other != path⟩

/-- What a path without steps back leads to. -/
def entry? (f : Folder) (path : FilePath) : Option Entry :=
  match f.files.lookup path with
  | some content => some (.file content)
  | none =>
    let leadsOn := f.files.any fun (other, _) =>
      other.isAbsolute == path.isAbsolute && path.steps.isPrefixOf other.steps
    if leadsOn || path.steps.isEmpty then some .folder else none

/-- Follows steps; `here` holds the steps taken, the last one first. A step back from the
root of all files stays there, one from the folder leads out to folders of which nothing else
is known. -/
def follow (f : Folder) (slashes : Nat) : List String → List String → Except FileProblem Entry
  | here, [] =>
    match f.entry? ⟨slashes, here.reverse⟩ with
    | some e => .ok e
    | none => .error .missing
  | here, step :: rest =>
    match f.entry? ⟨slashes, here.reverse⟩ with
    | none => .error .missing
    | some (.file _) => .error .notFolder
    | some .folder =>
      if step = ".." then
        match here with
        | [] =>
          if slashes ≠ 0 then follow f slashes [] rest
          else if rest.all (· == "..") then .ok .folder
          else .error .missing
        | _ :: outer => follow f slashes outer rest
      else if FilePath.stepLimit < step.utf8ByteSize then .error .nameTooLong
      else follow f slashes (step :: here) rest

def open? (f : Folder) (path : FilePath) : Except FileProblem ByteArray :=
  if path.isTooLong then .error .nameTooLong
  else match follow f path.slashes [] path.steps with
  | .ok (.file content) => .ok content
  | .ok .folder => .error .isFolder
  | .error p => .error p

end Folder

end FilterCompiler
