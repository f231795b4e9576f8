import FilterCompiler.Service

/-! Hosts: a process makes applications one after the other, and requests come to any of them in
between. All of them look into the one slot of the process. -/

namespace FilterCompiler.Service

/-- What happens in a process: an application is made, or one is asked, which is given by its
number. -/
inductive Event where
  | creation (d : Deployment)
  | request (application : Nat) (r : Request)

/-- What the applications of a process were made with, in turn, and the slot of the process. -/
structure Host where
  made : List Deployment := []
  slot : Slot := {}

namespace Host

/-- Makes an application, which puts its deployment into the slot. -/
def create (h : Host) (d : Deployment) : Host := ⟨h.made ++ [d], h.slot.install d⟩

/-- What an application answers, if it was made. -/
def answer? (t : Tools) (h : Host) (application : Nat) (r : Request) : Option Answer :=
  h.made[application]?.map fun _ => handle t h.slot r

def step (h : Host) : Event → Host
  | .creation d => h.create d
  | .request _ _ => h

/-- A new host after several things have happened. -/
def run (events : List Event) : Host := events.foldl step {}

end Host

end FilterCompiler.Service
