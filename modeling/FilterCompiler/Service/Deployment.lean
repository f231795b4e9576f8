import FilterCompiler.Settings

/-! Deployments: what requests are answered with. A process has one slot for them, so
making another application puts its deployment in place of the one before, for every
application of the process. -/

namespace FilterCompiler.Service

/-- A compiler, the graph of its conditions, and settings. -/
structure Deployment where
  settings : Settings
  compiler : Compiler
  graph : Graph := {}

def Deployment.ofSettings (s : Settings) (folder : Folder) : Except Fault Deployment :=
  (s.compiler {} folder).map fun (c, g) => ⟨s, c, g⟩

/-- The place that all applications of a process look into. -/
structure Slot where
  current : Option Deployment := none

namespace Slot

/-- Makes an application. -/
def install (_ : Slot) (d : Deployment) : Slot := ⟨some d⟩

def clear (_ : Slot) : Slot := ⟨none⟩

/-- The deployment in the slot; the fault of an empty slot tells what was looked for. -/
def deployment (s : Slot) (what : String) : Except Fault Deployment :=
  match s.current with
  | some d => .ok d
  | none => .error (.noConfiguration what)

def compiler (s : Slot) : Except Fault Compiler :=
  (s.deployment "Transpiler").map Deployment.compiler

def settings (s : Slot) : Except Fault Settings :=
  (s.deployment "Settings").map Deployment.settings

end Slot

end FilterCompiler.Service
