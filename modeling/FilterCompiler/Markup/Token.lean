import FilterCompiler.Markup.Refusal

/-! Tokens of a markup text. Collections in block style have no marks of their own for
where they begin and end; the lexer finds that from the indentation and adds such tokens.
Likewise a key is marked once the colon behind it has been met. The last token says that the
text has ended or where it could not be read on. -/

namespace FilterCompiler.Markup

structure Version where
  major : Nat
  minor : Nat
deriving DecidableEq, Repr, Inhabited

namespace Version

/-- The version of a text that states none. -/
def usual : Version := ⟨1, 2⟩

/-- The version before, which takes more words and forms for something else than text. -/
def old : Version := ⟨1, 1⟩

def isNew (v : Version) : Bool := 1 < v.major || (v.major == 1 && 1 < v.minor)

def text (v : Version) : String :=
  let part (n : Nat) := String.ofList (Integer.digits n)
  "(" ++ part v.major ++ ", " ++ part v.minor ++ ")"

end Version

inductive Token where
  | documentStart
  | documentEnd
  | version (stated : Version)
  | handle (name expansion : String)
  | directive
  | sequenceStart
  | mappingStart
  | blockEnd
  | listOpen
  | listClose
  | recordOpen
  | recordClose
  | item
  | comma
  | key
  | value
  | anchor (name : String)
  | reference (name : String)
  | tag (handle : Option String) (suffix : String)
  | scalar (plain : Bool) (text : String)
  | streamEnd
  | broken (reason : Refusal)
deriving DecidableEq, Repr

instance : Inhabited Token := ⟨.streamEnd⟩

end FilterCompiler.Markup
