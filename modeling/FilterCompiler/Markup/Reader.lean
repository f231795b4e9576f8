import FilterCompiler.Markup.Data
import FilterCompiler.Markup.Token.Lexer

/-! Readers of markup. A reader keeps some things from one text to the next: the version that a
text stated counts until another is stated, and of a text that was refused the names of nodes
and the collections that were not filled yet are still there when the next text is read. -/

namespace FilterCompiler.Markup

structure Reader where
  version : Version := .usual
  nodes : Nodes := #[]
  anchors : List (String × Nat) := []
  progress : Progress := {}
deriving Inhabited

namespace Reader

def compose (r : Reader) (text : String) : Reads (Option Nat) × Reader :=
  let tokens := Token.ofText r.version text.toList
  let start : Composition :=
    { tokens, version := r.version, nodes := r.nodes, anchors := r.anchors }
  let (root, c) := (Composing.stream (4 * tokens.length + 8)).run.run start
  (root, { r with version := c.version, nodes := c.nodes, anchors := c.anchors })

/-- Reads the data of a text and adds it to a graph. A text without a document is null. -/
def read (r : Reader) (g : Graph) (text : String) : Reads Operand × Reader × Graph :=
  match r.compose text with
  | (.error e, r) => (.error e, r, g)
  | (.ok none, r) => (.ok (.lit .null), r, g)
  | (.ok (some root), r) =>
    let start : Building := { r.progress with graph := g, nodes := r.nodes, version := r.version }
    let (x, b) := (Build.document root).run.run start
    (x, { r with nodes := b.nodes, progress := b.toProgress }, b.graph)

end Reader

end FilterCompiler.Markup
