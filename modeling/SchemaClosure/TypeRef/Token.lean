import SchemaClosure.Text.Characters

namespace SchemaClosure.TypeRef

inductive Token where
  | word (letters : List Char)
  | mark (c : Char)
  deriving DecidableEq, Repr

/-- A token and the number of bytes before it. -/
structure Lexeme where
  token : Token
  offset : Nat
  deriving DecidableEq, Repr

/-- The characters of a qualified name, its dots included. -/
def isPathChar (c : Char) : Bool := Text.isAlphanumeric c || c == '_' || c == '.'

/-- A qualified name has no empty segment: it does not begin or end with a dot, and no two dots are neighbours. -/
def isPath (letters : List Char) : Bool :=
  !letters.isEmpty && letters.all isPathChar && letters.head? != some '.' && letters.getLast? != some '.' &&
    !(letters.zip letters.tail).contains ('.', '.')

def byteLength : List Char → Nat
  | [] => 0
  | c :: rest => c.utf8Size + byteLength rest

/-- How far a text is read: the lexemes found, latest first, the run of path characters that is still growing, latest first, and the number of bytes read. -/
structure Scanner where
  found : List Lexeme
  run : List Char
  offset : Nat

namespace Scanner

def start : Scanner := ⟨[], [], 0⟩

def flush (scanner : Scanner) : List Lexeme :=
  if scanner.run.isEmpty then scanner.found
  else ⟨.word scanner.run.reverse, scanner.offset - byteLength scanner.run⟩ :: scanner.found

def step (scanner : Scanner) (c : Char) : Scanner :=
  if isPathChar c then { scanner with run := c :: scanner.run, offset := scanner.offset + c.utf8Size }
  else if Text.isWhiteSpace c then ⟨scanner.flush, [], scanner.offset + c.utf8Size⟩
  else ⟨⟨.mark c, scanner.offset⟩ :: scanner.flush, [], scanner.offset + c.utf8Size⟩

end Scanner

def lexemes (text : List Char) : List Lexeme := (text.foldl Scanner.step Scanner.start).flush.reverse

end SchemaClosure.TypeRef
