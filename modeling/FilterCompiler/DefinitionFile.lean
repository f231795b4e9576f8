import FilterCompiler.DefinitionFile.Safety
import FilterCompiler.DefinitionFile.Shape
import FilterCompiler.Folder
import FilterCompiler.Log
import FilterCompiler.Markup.Reader
import FilterCompiler.RawForm
import FilterCompiler.Text.Decoded

/-! Files of named conditions. A file is a record in markup: each key names the condition
whose raw form it stands for. Keys of any kind are names by their text; where two keys
have one text the later condition stands in the place of the earlier one. -/

namespace FilterCompiler.DefinitionFile

abbrev Loaded := Except Fault (Definitions × Graph)

def refuse {α : Type} (p : Problem) : Except Fault α := .error (.badFile p)

def nameOf (g : Graph) (key : Operand) : Rendered :=
  match g.text? key with
  | some name => .ok name
  | none => .error .integerTooLong

/-- Reads the conditions of a record in turn. A condition that cannot be read is reported
under its name. -/
def readBodies (file : String) :
    Definitions → Graph → List (Operand × Operand) → Loaded
  | table, g, [] => .ok (table, g)
  | table, g, (key, raw) :: rest =>
    match RawForm.read [] g raw with
    | .ok (node, g) => do readBodies file (table.insert (← nameOf g key) node) g rest
    | .error f =>
      if f.isOwn then do refuse (.badBody (← nameOf g key) file f.message) else .error f

/-- The conditions of data that was read from a file. No data are no conditions. -/
def ofData (file : String) (g : Graph) (data : Operand) : Loaded :=
  match data, g.entries? data with
  | .lit .null, _ => .ok ([], g)
  | _, some entries =>
    match checkShape g data with
    | .error p => refuse p
    | .ok () => readBodies file [] g entries
  | _, none => refuse (.notARecord file (g.kind data))

/-- The data of a text, or the fault that a file is refused with. -/
def dataOf (file : String) : Markup.Reads Operand → Except Fault Operand
  | .ok data => .ok data
  | .error .malformed => refuse (.notMarkup file)
  | .error (.faulty f) => .error f

/-- A way to read markup: it gives the data of a text and the graph that they were added to. -/
abbrev MarkupReading := Graph → String → Markup.Reads Operand × Graph

/-- The conditions of a text whose markup is read in some way. A text that may not be safe is not
read at all. -/
def ofTextBy (read : MarkupReading) (file : String) (g : Graph) (text : String) : Loaded :=
  match checkSafety text.toList with
  | .error p => refuse p
  | .ok () =>
    let (data, g) := read g text
    (dataOf file data).bind (ofData file g)

/-- The way in which a reader of markup reads its next text. -/
def readingOf (r : Markup.Reader) : MarkupReading := fun g text =>
  let (data, _, g) := r.read g text
  (data, g)

def ofText : String → Graph → String → Loaded := ofTextBy (readingOf {})

/-- What loads texts one after the other: a reader of markup and the graph. -/
structure Loader where
  reader : Markup.Reader := {}
  graph : Graph := {}
deriving Inhabited

/-- Loads a text that was found to be safe. -/
def Loader.loadSafe (l : Loader) (file text : String) : Except Fault Definitions × Loader :=
  let (data, reader, graph) := l.reader.read l.graph text
  match (dataOf file data).bind (ofData file graph) with
  | .ok (table, graph) => (.ok table, ⟨reader, graph⟩)
  | .error f => (.error f, ⟨reader, graph⟩)

/-- The conditions of a text. A text that may not be safe is not read at all. -/
def Loader.load (l : Loader) (file text : String) : Except Fault Definitions × Loader :=
  match checkSafety text.toList with
  | .error p => (refuse p, l)
  | .ok () => l.loadSafe file text

/-- A loader gives the conditions that a text has by its reader of markup. -/
theorem Loader.load_fst (l : Loader) (file text : String) :
    (l.load file text).1 = (ofTextBy (readingOf l.reader) file l.graph text).map Prod.fst := by
  unfold Loader.load ofTextBy
  cases checkSafety text.toList with
  | error p => rfl
  | ok u =>
    dsimp only [Loader.loadSafe, readingOf]
    cases (dataOf file (l.reader.read l.graph text).1).bind
      (ofData file (l.reader.read l.graph text).2.2) <;> rfl

def decode (content : ByteArray) : Rendered :=
  match Text.decode? content with
  | some s => .ok s
  | none => .error .undecodable

/-- The conditions of a file in a folder, whose markup is read in some way. -/
def loadBy (read : MarkupReading) (g : Graph) (folder : Folder) (path : FilePath) : Loaded :=
  if path.hasNull then .error .nullInPath
  else match folder.open? path with
    | .error p => refuse (.unreadable path.text (p.message path.text))
    | .ok content => do ofTextBy read path.text g (← decode content)

def load : Graph → Folder → FilePath → Loaded := loadBy (readingOf {})

/-- What loading a file writes to the log. -/
def entry (path : FilePath) (table : Definitions) : LogEntry :=
  ⟨.info, "filterql.loader",
    "loaded " ++ String.ofList (Integer.digits table.length) ++ " macros from " ++ path.text⟩

end FilterCompiler.DefinitionFile
