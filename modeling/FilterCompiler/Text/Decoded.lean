/-! Texts of files: their bytes are UTF-8, and a line may end with a line feed, a carriage
return or both. -/

namespace FilterCompiler.Text

/-- A text with every line break written as one line feed, behind those of `acc`, which
holds characters with the last one first. -/
def plainBreaks : List Char → List Char → List Char
  | acc, [] => acc.reverse
  | acc, '\r' :: '\n' :: rest | acc, '\r' :: rest => plainBreaks ('\n' :: acc) rest
  | acc, c :: rest => plainBreaks (c :: acc) rest

/-- A text without a mark of the byte order in front. -/
def withoutMark : List Char → List Char
  | '\ufeff' :: rest => rest
  | s => s

def decode? (content : ByteArray) : Option String :=
  (String.fromUTF8? content).map fun s => String.ofList (plainBreaks [] s.toList)

end FilterCompiler.Text
