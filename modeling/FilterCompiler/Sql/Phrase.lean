import FilterCompiler.Sql.Token

/-! Phrases: the parts that a grammar of tokens is put together from. A phrase says what
follows it in a list of tokens that begins with it. Of several phrases the first that is
there counts, and a repeated phrase is taken as often as it is there. -/

namespace FilterCompiler.Sql

/-- What follows a phrase, if tokens begin with it. -/
abbrev Phrase := List Token → Option (List Token)

namespace Phrase

def token (p : Token → Bool) : Phrase
  | t :: rest => if p t then some rest else none
  | [] => none

def word (w : String) : Phrase := token (Token.isWord w)

def oneOf (ws : List String) : Phrase := token fun t => ws.any t.isWord

def sign (s : String) : Phrase := token fun t => decide (t = .sign s)

def oneSignOf (ss : List String) : Phrase := token fun t => ss.any fun s => decide (t = .sign s)

def all (ps : List Phrase) : Phrase := fun ts => ps.foldlM (fun rest p => p rest) ts

def words (ws : List String) : Phrase := all (ws.map word)

def any (ps : List Phrase) : Phrase := fun ts => ps.findSome? fun p => p ts

def optional (p : Phrase) : Phrase := fun ts => some ((p ts).getD ts)

/-- A phrase where another one is not there. -/
def barring (p q : Phrase) : Phrase := fun ts => if (p ts).isSome then none else q ts

/-- A phrase that has to be there where its first word is. -/
def clause (w : String) (p : Phrase) : Phrase := fun ts =>
  if ts.head?.any (Token.isWord w) then p ts.tail else some ts

/-- What follows a phrase as often as it is there, at most so many times. -/
def behind (p : Phrase) : Nat → List Token → List Token
  | 0, ts => ts
  | times + 1, ts =>
    match p ts with
    | some rest => behind p times rest
    | none => ts

/-- A phrase as often as it is there, at most so many times. -/
def many (times : Nat) (p : Phrase) : Phrase := fun ts => some (behind p times ts)

/-- A phrase and others behind commas, of which any may be absent. -/
def list (times : Nat) (p : Phrase) : Phrase := all [p, many times (all [sign ",", optional p])]

def sparse (times : Nat) (p : Phrase) : Phrase := list times (optional p)

def parenthesised (p : Phrase) : Phrase := all [sign "(", p, sign ")"]

def absent : Phrase := fun _ => none

@[simp] theorem all_nil (ts : List Token) : all [] ts = some ts := rfl

theorem all_cons (p : Phrase) (ps : List Phrase) (ts : List Token) :
    all (p :: ps) ts = (p ts).bind (all ps) := by
  simp [all, List.foldlM_cons]; rfl

end Phrase

/-- Clauses with the words for what they settle. A clause that settles what is settled already
is not allowed. -/
abbrev Clauses := List (List String × Phrase)

/-- What follows clauses in any order, at most so many, when some things are settled. -/
def Clauses.behind (cs : Clauses) : Nat → List String → Phrase
  | 0, _, ts => some ts
  | times + 1, settled, ts =>
    match cs.findSome? fun (keys, p) => (p ts).map fun rest => (keys, rest) with
    | none => some ts
    | some (keys, rest) =>
      if keys.any settled.contains then none else Clauses.behind cs times (keys ++ settled) rest

end FilterCompiler.Sql
