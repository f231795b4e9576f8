import FilterCompiler.Settings
import FilterCompiler.Text.Case
import FilterCompiler.Text.Escaped

/-! The launch of the service: the level of its log is checked, its start is logged, and
the plan says where to listen. -/

namespace FilterCompiler

def version : String := "0.1.0"

/-- Where the service listens, and how much its server logs. -/
structure Launch where
  host : String
  port : Int
  logLevel : String
deriving DecidableEq, Repr

namespace Launch

def levels : List String :=
  ["CRITICAL", "FATAL", "ERROR", "WARN", "WARNING", "INFO", "DEBUG", "NOTSET"]

def entry (s : Settings) : LogEntry :=
  ⟨.info, "filterql.api", "filterql API server v" ++ version ++ " starting (host=" ++ s.host ++
    ", port=" ++ Integer.text s.effectivePort ++ ")"⟩

def ofSettings (s : Settings) : Except Fault Launch :=
  let level := Text.capitals s.logLevel
  if levels.contains level then .ok ⟨s.host, s.effectivePort, Text.smalls s.logLevel⟩
  else .error (.unknownLevel (Text.Escaped.text level))

end Launch

end FilterCompiler
