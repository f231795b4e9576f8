import FilterCompiler.Compiler
import FilterCompiler.DefinitionFile
import FilterCompiler.Given
import FilterCompiler.Settings.Assignment
import FilterCompiler.Text.Case

/-! Settings of the service. Each has a default; a value in the folder's file of
assignments goes before it, one in the environment before that, and one that is given
directly before all. Names are compared without regard to case, and unknown names do not
count. -/

namespace FilterCompiler

structure Settings where
  logLevel : String := "INFO"
  table : Option String := some "data"
  definitionFile : Option String := none
  validates : Bool := true
  host : String := "localhost"
  port : Int := 8000
  assignedPort : Option Int := none
deriving DecidableEq, Repr, Inhabited

namespace Settings

/-- The port to listen on: the assigned one, if there is one. -/
def effectivePort (s : Settings) : Int := s.assignedPort.getD s.port

def assignmentFile : String := ".env"

/-- Values by name, those that go before others first. -/
structure Sources where
  given : List (String × Given) := []
  environment : List (String × String) := []
  assignments : NameTable (Option String) := []

def firstUnder {α : Type} (name : String) (entries : List (String × α)) : Option α :=
  (entries.find? fun e => Text.smalls e.1 == name).map Prod.snd

def lastUnder {α : Type} (name : String) (entries : List (String × α)) : Option α :=
  firstUnder name entries.reverse

namespace Sources

def find? (s : Sources) (name : String) : Option Given :=
  let text (value : String) : Given := .literal (.text value)
  firstUnder name s.given <|> (lastUnder name s.environment).map text <|>
    (lastUnder name s.assignments).join.map text

/-- The converted value of a setting, or its default. -/
def setting {α : Type} (s : Sources) (name : String) (convert : Given → Except Mismatch α)
    (default : α) : Checked α :=
  match s.find? name with
  | some x => Checked.located [.name name] (convert x)
  | none => .ok default

def settings (s : Sources) : Checked Settings :=
  let usual : Settings := {}
  let start : Checked _ := .ok Settings.mk
  start
    |>.and (s.setting "log_level" Given.toText usual.logLevel)
    |>.and (s.setting "table_name" (Given.orNull Given.toText) usual.table)
    |>.and (s.setting "macros_file" (Given.orNull Given.toText) usual.definitionFile)
    |>.and (s.setting "validate_sql" Given.toTruth usual.validates)
    |>.and (s.setting "api_server_host" Given.toText usual.host)
    |>.and (s.setting "api_server_port" Given.toInteger usual.port)
    |>.and (s.setting "port" (Given.orNull Given.toInteger) usual.assignedPort)

end Sources

/-- The assignments in a folder; no file, no assignments. -/
def assignments (environment : List (String × String)) (folder : Folder) :
    Except Fault (NameTable (Option String)) :=
  match folder.open? (FilePath.ofString assignmentFile) with
  | .error _ => .ok []
  | .ok content =>
    match Text.decode? content with
    | some s => .ok (Assignment.table environment (Assignment.ofText (Text.withoutMark s.toList)))
    | none => .error .undecodable

def read (given : List (String × Given)) (environment : List (String × String))
    (folder : Folder) : Except Fault Settings := do
  let found := Sources.mk given environment (← assignments environment folder)
  match found.settings with
  | .ok s => return s
  | .error complaints => throw (.unfit complaints)

/-- The named conditions of the settings' file; an empty name is no file. -/
def definitions (s : Settings) (g : Graph) (folder : Folder) : DefinitionFile.Loaded :=
  match s.definitionFile with
  | none | some "" => .ok ([], g)
  | some path => DefinitionFile.load g folder (FilePath.ofString path)

/-- The table as what a compiler takes. -/
def source (s : Settings) : Operand :=
  match s.table with
  | some name => .lit (.text name)
  | none => .lit .null

/-- The compiler of the settings, and the graph of its conditions. -/
def compiler (s : Settings) (g : Graph) (folder : Folder) : Except Fault (Compiler × Graph) :=
  (s.definitions g folder).map fun (table, g) =>
    ({ table := s.source, definitions := table }, g)

end Settings

end FilterCompiler
