import FilterCompiler.Proofs.Answer
import FilterCompiler.Service.Host
import Mathlib.Data.List.Induction

/-! The slot that the applications of a process share. Proved here: whatever has happened in a
process, a request to any of its applications is answered with the compiler and the settings of the
application that was made last. So an application answers with its own as long as it is the last
one; after that it answers with those of another. -/

namespace FilterCompiler.Service

/-- The answer to a request on the route for dialects. -/
theorem handle_eq_dialects {t : Tools} {s : Slot} {m : Request} {body : ByteArray} {d : Deployment}
    (hbody : BodyLimit.accept BodyLimit.bytes m = some body)
    (hpath : m.path = Route.dialects.path) (hmethod : m.method = Route.dialects.method)
    (hd : s.current = some d) :
    handle t s m = .ok { dialectsResponse d.compiler with timed := true } := by
  have hroute : Route.ofPath? Route.dialects.path = some .dialects := rfl
  have hcompiler : s.compiler = .ok d.compiler := by
    rw [Slot.compiler, Slot.deployment, hd, map_ok]
  rw [handle, BodyLimit.guarded, hbody]
  dsimp only
  rw [routed, hpath, hroute]
  dsimp only
  rw [if_pos hmethod, onRoute, hcompiler]
  rfl

namespace Host

/-- What applications were made with while things happened. -/
def creations (events : List Event) : List Deployment :=
  events.filterMap fun
    | .creation d => some d
    | .request _ _ => none

/-- A host knows what its applications were made with, and has the last of it in its slot. -/
structure Holds (h : Host) (deployments : List Deployment) : Prop where
  made : h.made = deployments
  current : h.slot.current = deployments.getLast?

/-- Making an application replaces what is in the slot, and a request leaves everything as it is. -/
theorem Holds.step {p : Host} {deployments : List Deployment} (h : p.Holds deployments)
    (e : Event) : (p.step e).Holds (deployments ++ creations [e]) := by
  cases e with
  | creation d =>
    have hcreations : creations [.creation d] = [d] := rfl
    rw [hcreations]
    exact ⟨congrArg (· ++ [d]) h.made, List.getLast?_concat.symm⟩
  | request n r =>
    have hcreations : creations [.request n r] = [] := rfl
    rw [hcreations, List.append_nil]
    exact h

theorem holds_run (events : List Event) : (run events).Holds (creations events) := by
  induction events using List.reverseRecOn with
  | nil => exact ⟨rfl, rfl⟩
  | append_singleton events e ih =>
    have hcreations : creations (events ++ [e]) = creations events ++ creations [e] :=
      List.filterMap_append
    rw [run, List.foldl_append, hcreations]
    exact ih.step e

/-- Whatever has happened: a request to any application that was made is answered with what the last
one was made with, and with what its own was made with if that is the last one. The list of dialects
is that of the compiler there, and a request to compile goes to it with the settings there. -/
theorem answered_by_latest (t : Tools) (before : List Event) (n : Nat) (r : Request)
    {own : Deployment} (hown : (creations before)[n]? = some own) :
    ∃ latest, (creations before).getLast? = some latest ∧
      (run before).answer? t n r = some (handle t ⟨some latest⟩ r) ∧
      (n + 1 = (creations before).length → latest = own) ∧
      ∀ body, BodyLimit.accept BodyLimit.bytes r = some body →
        (r.path = Route.dialects.path → r.method = Route.dialects.method →
          handle t ⟨some latest⟩ r = .ok { dialectsResponse latest.compiler with timed := true }) ∧
        (r.path = Route.compile.path → r.method = Route.compile.method →
          ∀ c, t.readBody r.headers body = .request c →
            handle t ⟨some latest⟩ r =
              (compile t latest c).map fun response => { response with timed := true }) := by
  have hholds := holds_run before
  have hlt : n < (creations before).length := (List.getElem?_eq_some_iff.1 hown).1
  have hne : creations before ≠ [] := List.ne_nil_of_length_pos (by omega)
  obtain ⟨latest, hlatest⟩ : ∃ latest, (creations before).getLast? = some latest :=
    ⟨_, List.getLast?_eq_some_getLast hne⟩
  refine ⟨latest, hlatest, ?_, fun hlast => ?_, fun body hbody => ⟨fun hpath hmethod => ?_,
    fun hpath hmethod c hc => ?_⟩⟩
  · have hslot : (run before).slot = ⟨some latest⟩ := by
      rw [← hlatest, ← hholds.current]
    rw [answer?, hholds.made, hown, hslot, Option.map_some]
  · rw [List.getLast?_eq_getElem?, ← hlast, Nat.add_sub_cancel, hown] at hlatest
    exact (Option.some.inj hlatest).symm
  · exact handle_eq_dialects hbody hpath hmethod rfl
  · exact handle_eq_compile hbody hpath hmethod hc rfl

/-- A deployment for a table. -/
def deploymentFor (table : String) : Deployment :=
  { settings := { table := some table }, compiler := { table := .lit (.text table) } }

/-- Two applications are made. -/
def twoMade : List Event := [.creation (deploymentFor "a"), .creation (deploymentFor "b")]

def bareText : String := "\x7b\"dialect\":\"postgres\",\"validate_sql\":false\x7d"

/-- What the text asks for. -/
def bareRequest : CompileRequest := { dialect := "postgres", validates := some false }

/-- A request for the whole table. -/
def bareMessage : Request := asking bareText

theorem readBody_bareText :
    Tools.standard.readBody bareMessage.headers bareText.toUTF8 = .request bareRequest := by
  have hdata : Json.read bareText =
      .ok (.object [("dialect", .text "postgres"), ("validate_sql", .truth false)]) := by cbv
  exact readBody_asking (by decide +kernel) (by decide +kernel) hdata rfl

theorem handle_bareMessage {d : Deployment} {response : Response}
    (h : compile .standard d bareRequest = .ok response) :
    handle .standard ⟨some d⟩ bareMessage = .ok { response with timed := true } := by
  have hbody : BodyLimit.accept BodyLimit.bytes bareMessage = some bareText.toUTF8 := by
    decide +kernel
  rw [handle_eq_compile hbody rfl rfl readBody_bareText rfl, h, map_ok]

/-- The second application is asked, and it is the last one; so is the first one with what the
second one was made with. -/
theorem twoMade_answered_by_latest :
    (creations twoMade)[1]? = some (deploymentFor "b") ∧
      (creations twoMade)[0]? = some (deploymentFor "a") ∧
      (run twoMade).answer? .standard 1 bareMessage =
        some (.ok { sqlResponse "postgres" "SELECT * FROM b;" [] with timed := true }) ∧
      (run twoMade).answer? .standard 0 bareMessage =
        some (.ok { sqlResponse "postgres" "SELECT * FROM b;" [] with timed := true }) := by
  have hfirst : (creations twoMade)[0]? = some (deploymentFor "a") := rfl
  have hsecond : (creations twoMade)[1]? = some (deploymentFor "b") := rfl
  have hanswer : handle .standard ⟨some (deploymentFor "b")⟩ bareMessage =
      .ok { sqlResponse "postgres" "SELECT * FROM b;" [] with timed := true } :=
    handle_bareMessage rfl
  obtain ⟨latest, _, hasked, hlast, _⟩ := answered_by_latest .standard twoMade 1 bareMessage hsecond
  obtain rfl : latest = deploymentFor "b" := hlast rfl
  obtain ⟨other, hother, hasked', _⟩ := answered_by_latest .standard twoMade 0 bareMessage hfirst
  obtain rfl : deploymentFor "b" = other := Option.some.inj hother
  rw [hanswer] at hasked hasked'
  exact ⟨hsecond, hfirst, hasked, hasked'⟩

/-- The first of two applications does not answer with what it was made with. -/
theorem first_of_twoMade_interfered :
    ¬ ∀ (before : List Event) (n : Nat) (r : Request) (own : Deployment),
      (creations before)[n]? = some own →
        (run before).answer? .standard n r = some (handle .standard ⟨some own⟩ r) := by
  intro h
  have hown := h twoMade 0 bareMessage (deploymentFor "a") rfl
  have hanswer : (run twoMade).answer? .standard 0 bareMessage =
      some (.ok { sqlResponse "postgres" "SELECT * FROM b;" [] with timed := true }) :=
    congrArg some (handle_bareMessage (d := deploymentFor "b") rfl)
  have halone : handle .standard ⟨some (deploymentFor "a")⟩ bareMessage =
      .ok { sqlResponse "postgres" "SELECT * FROM a;" [] with timed := true } :=
    handle_bareMessage rfl
  rw [hanswer, halone] at hown
  simp [sqlResponse] at hown

end Host

end FilterCompiler.Service
