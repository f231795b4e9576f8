import FilterCompiler.Proofs.Acceptance
import FilterCompiler.RawForm.Extension

/-! Readers of tags step by step. What the reader of a tag does with the arguments is a procedure:
it reads one of them as a condition or as a value, adds a part, looks at the graph, and goes on from
what that gave, until it gives a node or ends with a fault. Proved here: the built-in tags are read
by procedures, and so are the custom ones that the library brings along; what every procedure does
is followed by induction on it. -/

namespace FilterCompiler

namespace RawForm

/-! ### Procedures -/

/-- What is done with the arguments of a tag. A fault may say where it was met. -/
inductive Procedure where
  | give (x : Operand)
  | fail (fault : Place → Fault)
  | condition (step : Step) (raw : Operand) (next : Operand → Procedure)
  | value (step : Step) (raw : Operand) (next : Operand → Procedure)
  | add (part : Part) (next : Operand → Procedure)
  | look (next : Graph → Procedure)

namespace Procedure

/-- Does what a procedure says, with a reader of conditions and one of values. -/
def run (condition value : Step → Operand → Reading Operand) (place : Place) :
    Procedure → Reading Operand
  | give x => return x
  | .fail fault => throw (fault place)
  | .condition step raw next => do (next (← condition step raw)).run condition value place
  | .value step raw next => do (next (← value step raw)).run condition value place
  | add part next => do (next (← addPart part)).run condition value place
  | .look next => do (next (← RawForm.look Memory.graph)).run condition value place

/-- The reader of a custom tag that does what a procedure says. Where it stands is not told to
it. -/
def reader (procedure : List Operand → Procedure) : TagReader := fun arguments condition value =>
  (procedure arguments).run (fun _ => condition) (fun _ => value) []

/-- An operand may come to be read as a condition, in a graph that grows from a given one. -/
def MayRead (g : Graph) (y : Operand) : Procedure → Prop
  | give _ | .fail _ => False
  | .condition _ raw next => raw = y ∨ ∃ x, (next x).MayRead g y
  | .value _ _ next | add _ next => ∃ x, (next x).MayRead g y
  | .look next => ∃ G, g.Extends G ∧ (next G).MayRead g y

/-- Only some operands are read as conditions, and no fault of its own is one that the reading of
conditions ends with when rows stand in themselves or in too many others. -/
def IsProper (arguments : List Operand) : Procedure → Prop
  | give _ => True
  | .fail fault => ∀ place, fault place ≠ .nestedTooDeep ∧
      ∀ tag name, fault place ≠ .circular tag name
  | .condition _ raw next => raw ∈ arguments ∧ ∀ x, (next x).IsProper arguments
  | .value _ _ next | add _ next => ∀ x, (next x).IsProper arguments
  | .look next => ∀ g, (next g).IsProper arguments

theorem IsProper.mem {p : Procedure} {arguments : List Operand} {g : Graph} {y : Operand}
    (h : p.IsProper arguments) (hy : p.MayRead g y) : y ∈ arguments := by
  induction p with
  | give x | fail fault => exact hy.elim
  | condition step raw next ih =>
    rcases hy with rfl | ⟨x, hy⟩
    · exact h.1
    · exact ih x (h.2 x) hy
  | value step raw next ih | add part next ih =>
    obtain ⟨x, hy⟩ := hy
    exact ih x (h x) hy
  | look next ih =>
    obtain ⟨G, _, hy⟩ := hy
    exact ih G (h G) hy

/-! ### The built-in tags -/

def refuse (problem : Problem) : Procedure := .fail fun place => .malformed problem place.text

def wrongCount (tag : String) (expected : Nat) (arguments : List Operand) : Procedure :=
  refuse (.wrongCount tag expected arguments.length)

def addNode (n : Node) : Procedure := .add (.node n) .give

/-- Values behind the first, one after the other. -/
def values : Nat → List Operand → (List Operand → Procedure) → Procedure
  | _, [], next => next []
  | i, raw :: rest, next =>
    .value (.index i) raw fun x => values (i + 1) rest fun xs => next (x :: xs)

def field : List Operand → Procedure
  | [.lit (.integer n)] => addNode (.field (.lit (.integer n)))
  | [_] => refuse .numberNotInteger
  | arguments => wrongCount "field" 1 arguments

def reference : List Operand → Procedure
  | [.lit (.text name)] => addNode (.reference (.lit (.text name)))
  | [_] => refuse .nameNotText
  | arguments => wrongCount "macro" 1 arguments

/-- One argument, which is read in a way of its own. -/
def single (read : Step → Operand → (Operand → Procedure) → Procedure) (make : Operand → Node)
    (tag : String) : List Operand → Procedure
  | [x] => read (.index 1) x fun y => addNode (make y)
  | arguments => wrongCount tag 1 arguments

def pair (read : Step → Operand → (Operand → Procedure) → Procedure)
    (make : Operand → Operand → Node) (tag : String) : List Operand → Procedure
  | [l, r] => read (.index 1) l fun x => read (.index 2) r fun y => addNode (make x y)
  | arguments => wrongCount tag 2 arguments

def membership (make : Operand → Operand → Node) (tag : String) : List Operand → Procedure
  | x :: y :: rest => .value (.index 1) x fun operand => values 2 (y :: rest) fun xs =>
      .add (.tuple xs) fun compared => addNode (make operand compared)
  | _ => refuse (.nothingToCompare tag)

end Procedure

/-- What is done with the arguments of a built-in tag. -/
def Head.procedure (arguments : List Operand) (head : Head) : Procedure :=
  match head with
  | join k => .pair .condition k.node head.tag arguments
  | not => .single .condition .not head.tag arguments
  | ordering greater => .pair .value (.ordering greater) head.tag arguments
  | equality negated => .membership (.equality negated) head.tag arguments
  | nullCheck negated => .single .value (.nullCheck negated) head.tag arguments
  | reference => .reference arguments
  | field => .field arguments

section

variable {condition value : Step → Operand → Reading Operand} {arguments : List Operand}
  {place : Place}

theorem Procedure.run_values {i : Nat} {next : List Operand → Procedure} :
    (values i arguments next).run condition (fun step => readValue (place ++ [step])) place =
      readValues place i arguments >>= fun xs =>
        (next xs).run condition (fun step => readValue (place ++ [step])) place := by
  induction arguments generalizing i next with
  | nil => rfl
  | cons raw rest ih =>
    simp only [values, run, readValues, ih, bind_assoc, pure_bind]

/-- The reader of a built-in tag does what the procedure of the tag says. -/
theorem Head.read_eq_run (condition : Place → Operand → Reading Operand) (head : Head) :
    head.read condition arguments place = (head.procedure arguments).run
      (fun step => condition (place ++ [step])) (fun step => readValue (place ++ [step]))
      place := by
  cases head with
  | equality negated =>
    rcases arguments with _ | ⟨x, _ | ⟨y, rest⟩⟩
    · rfl
    · rfl
    · simp only [Head.read, Head.procedure, readMembership, Procedure.membership, Procedure.run,
        Procedure.run_values]
      rfl
  | reference | field =>
    rcases arguments with _ | ⟨v | n, _ | ⟨y, rest⟩⟩
    case cons.lit.nil | cons.lit.cons => cases v <;> rfl
    all_goals rfl
  | join k | not | ordering greater | nullCheck negated =>
    rcases arguments with _ | ⟨x, _ | ⟨y, _ | ⟨z, rest⟩⟩⟩ <;> rfl

end

/-! ### Custom tags -/

namespace Procedure

/-- The argument at an index. -/
def argument (arguments : List Operand) (i : Nat) (next : Operand → Procedure) : Procedure :=
  match arguments[i]? with
  | some x => next x
  | none => .fail fun _ => .raised "IndexError" "list index out of range"

def pairSteps (arguments : List Operand) : Procedure :=
  argument arguments 0 fun x => .condition .passedOn x fun a =>
    argument arguments 1 fun y => .condition .passedOn y fun b => addNode (Dialect.pairNode a b)

theorem reader_argument (arguments : List Operand) (i : Nat) (next : Operand → Procedure)
    (condition value : Step → Operand → Reading Operand) (place : Place) :
    (argument arguments i next).run condition value place =
      RawForm.argument arguments i >>= fun x => (next x).run condition value place := by
  unfold argument RawForm.argument
  cases arguments[i]? <;> rfl

theorem pairReader_eq : pairReader = reader pairSteps := by
  funext arguments condition value
  simp only [pairReader, reader, pairSteps, reader_argument, run]
  rfl

end Procedure

/-- The readers that do what procedures say. -/
def extensions (custom : NameTable (List Operand → Procedure)) : Extensions :=
  custom.map fun entry => (entry.1, Procedure.reader entry.2)

theorem find?_extensions (custom : NameTable (List Operand → Procedure)) (tag : String) :
    (extensions custom).find? tag = (custom.find? tag).map Procedure.reader :=
  NameTable.find?_map Procedure.reader tag custom

/-- What is done with the arguments of a tag; only a built-in one has a meaning of its own. -/
def procedureOf (custom : NameTable (List Operand → Procedure)) (tag : String)
    (arguments : List Operand) : Procedure :=
  match head? tag, custom.find? tag with
  | some head, _ => head.procedure arguments
  | none, some procedure => procedure arguments
  | none, none => .refuse (.unknownTag (Text.Escaped.text tag))

theorem procedureOf_tag (custom : NameTable (List Operand → Procedure)) (head : Head)
    (arguments : List Operand) :
    procedureOf custom head.tag arguments = head.procedure arguments := by
  simp only [procedureOf, head?_tag]

theorem readTagged_of_head?_eq_none {ext : Extensions}
    {condition : Place → Operand → Reading Operand} {tag : String} {arguments : List Operand}
    {place : Place} (h : head? tag = none) :
    readTagged ext condition tag arguments place =
      match ext.find? tag with
      | some reader =>
        reader arguments (condition (place ++ [.passedOn])) (readValue (place ++ [.passedOn]))
      | none => refuse (.unknownTag (Text.Escaped.text tag)) place := by
  unfold readTagged
  unfold head? at h
  split <;> first | rfl | cases h

/-- What follows a tag is read as the procedure of the tag says, with places of its own. -/
theorem readTagged_eq_run (custom : NameTable (List Operand → Procedure))
    (condition : Place → Operand → Reading Operand) (tag : String) (arguments : List Operand)
    (place : Place) :
    ∃ (at' : Step → Place) (place' : Place),
      readTagged (extensions custom) condition tag arguments place =
        (procedureOf custom tag arguments).run (fun step => condition (at' step))
          (fun step => readValue (at' step)) place' := by
  cases hhead : head? tag with
  | some head =>
    refine ⟨fun step => place ++ [step], place, ?_⟩
    obtain rfl := head?_eq_some_iff.1 hhead
    rw [readTagged_tag, Head.read_eq_run, procedureOf_tag]
  | none =>
    rw [readTagged_of_head?_eq_none hhead, find?_extensions, procedureOf, hhead]
    cases custom.find? tag with
    | none => exact ⟨fun step => place ++ [step], place, rfl⟩
    | some procedure => exact ⟨fun _ => place ++ [.passedOn], [], rfl⟩

/-! ### Proper procedures -/

namespace Procedure

variable {arguments : List Operand}

theorem isProper_values {i : Nat} {raws : List Operand} {next : List Operand → Procedure}
    (h : ∀ xs, (next xs).IsProper arguments) : (values i raws next).IsProper arguments := by
  induction raws generalizing i next with
  | nil => exact h []
  | cons raw rest ih => exact fun x => ih fun xs => h (x :: xs)

theorem isProper_argument {i : Nat} {next : Operand → Procedure}
    (h : ∀ x ∈ arguments, (next x).IsProper arguments) :
    (argument arguments i next).IsProper arguments := by
  unfold argument
  split
  · next x hx => exact h x (List.mem_of_getElem? hx)
  · exact fun _ => by simp

theorem isProper_pairSteps : (pairSteps arguments).IsProper arguments :=
  isProper_argument fun _ hx => ⟨hx, fun _ => isProper_argument fun _ hy =>
    ⟨hy, fun _ _ => trivial⟩⟩

end Procedure

theorem Head.isProper_procedure (head : Head) (arguments : List Operand) :
    (head.procedure arguments).IsProper arguments := by
  have hrefuse (problem : Problem) : (Procedure.refuse problem).IsProper arguments :=
    fun _ => by simp
  cases head with
  | equality negated =>
    rcases arguments with _ | ⟨x, _ | ⟨y, rest⟩⟩
    · exact hrefuse _
    · exact hrefuse _
    · exact fun _ => Procedure.isProper_values fun _ _ _ => trivial
  | reference | field =>
    rcases arguments with _ | ⟨v | n, _ | ⟨y, rest⟩⟩
    case cons.lit.nil | cons.lit.cons =>
      cases v
      all_goals first | exact hrefuse _ | exact fun _ => trivial
    all_goals exact hrefuse _
  | join k =>
    rcases arguments with _ | ⟨l, _ | ⟨r, _ | ⟨z, rest⟩⟩⟩
    case cons.cons.nil =>
      exact ⟨by simp, fun _ => ⟨by simp, fun _ _ => trivial⟩⟩
    all_goals exact hrefuse _
  | not =>
    rcases arguments with _ | ⟨y, _ | ⟨z, rest⟩⟩
    case cons.nil => exact ⟨by simp, fun _ _ => trivial⟩
    all_goals exact hrefuse _
  | ordering greater =>
    rcases arguments with _ | ⟨l, _ | ⟨r, _ | ⟨z, rest⟩⟩⟩
    case cons.cons.nil => exact fun _ _ _ => trivial
    all_goals exact hrefuse _
  | nullCheck negated =>
    rcases arguments with _ | ⟨y, _ | ⟨z, rest⟩⟩
    case cons.nil => exact fun _ _ => trivial
    all_goals exact hrefuse _

/-- Custom tags whose procedures are all proper. -/
def AreProper (custom : NameTable (List Operand → Procedure)) : Prop :=
  ∀ tag procedure, custom.find? tag = some procedure →
    ∀ arguments, (procedure arguments).IsProper arguments

theorem AreProper.procedureOf {custom : NameTable (List Operand → Procedure)}
    (h : AreProper custom) (tag : String) (arguments : List Operand) :
    (procedureOf custom tag arguments).IsProper arguments := by
  unfold RawForm.procedureOf
  split
  · next head _ => exact head.isProper_procedure arguments
  · next procedure _ hfind => exact h tag procedure hfind arguments
  · exact fun _ => by simp

end RawForm

end FilterCompiler
