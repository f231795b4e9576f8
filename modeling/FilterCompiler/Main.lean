import FilterCompiler.Service.BodyReader
import FilterCompiler.Service.Host

/-! The program: it reads its settings, logs its start and answers requests. A request is
a line of JSON on the standard input, an object with `method`, `path`, `headers` and
`body`; its answer is a line on the standard output, an object with `status` and `body`. -/

namespace FilterCompiler.Program

open Service

def settingNames : List String :=
  ["log_level", "table_name", "macros_file", "validate_sql", "api_server_host",
   "api_server_port", "port"]

/-- The settings in the environment, those with names in capitals last. -/
def environment : IO (List (String × String)) := do
  let names := settingNames ++ settingNames.map String.toUpper
  let found ← names.mapM fun name => return (name, ← IO.getEnv name)
  return found.filterMap fun (name, value) => value.map fun v => (name, v)

/-- Takes a file into a folder, if it can be read. -/
def take (folder : Folder) (path : String) : IO Folder := do
  try return folder.add (FilePath.ofString path) (← IO.FS.readBinFile path)
  catch _ => return folder

def requestOf (line : String) : Request :=
  let data := (Json.read line).toOption.getD .null
  let textAt (name : String) : String := match data.get? name with
    | some (.text s) => s
    | _ => ""
  let headers := match data.get? "headers" with
    | some (.object entries) => entries.filterMap fun (name, x) =>
      (x.given.toText).toOption.map fun s => (name, s)
    | _ => []
  ⟨textAt "method", textAt "path", headers, [(textAt "body").toUTF8]⟩

def lineOf (answer : Answer) : String :=
  let (status, body) : Int × Json := match answer with
    | .ok r => (r.status, r.body)
    | .error f => (500, .object [("detail", .text f.message)])
  Json.render (.object [("status", .integer status), ("body", body)])

/-- Answers requests to the application that was made first until there are no more. -/
partial def serve (host : Host) (input output : IO.FS.Stream) : IO Unit := do
  let line ← input.getLine
  if line.isEmpty then return
  if let some answer := host.answer? .standard 0 (requestOf line) then
    output.putStrLn (lineOf answer)
  output.flush
  serve host input output

/-- Tells a fault that keeps the program from serving. -/
def giveUp (f : Fault) : IO UInt32 := do
  IO.eprintln f.message
  return 1

/-- Logs the start and serves with what settings describe. -/
def start (s : Settings) (folder : Folder) : IO UInt32 := do
  match Launch.ofSettings s with
  | .error f => giveUp f
  | .ok _ =>
    IO.eprintln (Launch.entry s).text
    match Deployment.ofSettings s folder with
    | .error f => giveUp f
    | .ok deployment =>
      serve (Host.create {} deployment) (← IO.getStdin) (← IO.getStdout)
      return 0

def run : IO UInt32 := do
  let folder ← take {} Settings.assignmentFile
  match Settings.read [] (← environment) folder with
  | .error f => giveUp f
  | .ok s => start s (← take folder (s.definitionFile.getD ""))

end FilterCompiler.Program

def main : IO UInt32 := FilterCompiler.Program.run
