/-! Log entries: a level, the name of what reports, and a text. -/

namespace FilterCompiler

inductive Level where
  | debug
  | info
  | warning
  | error
  | critical
deriving DecidableEq, Repr

def Level.word : Level → String
  | debug => "DEBUG"
  | info => "INFO"
  | warning => "WARNING"
  | error => "ERROR"
  | critical => "CRITICAL"

structure LogEntry where
  level : Level
  reporter : String
  text : String
deriving DecidableEq, Repr

end FilterCompiler
