/-
  Indented blocks of query text.

  Key definitions include:
    * `Block.indentList`
    * `Block.indent`
    * `Block.call`

  Indentation moves every line but the first two columns to
  the right.  A newline that ends the text opens no further
  line and is left alone.  A CALL block puts an indented
  text between an opening and a closing line.
-/

------------------------------------------------------------
-- Indentation
------------------------------------------------------------

namespace CypherAssembly

namespace Block

/-
  Two spaces go in after every newline that is not the last
  character.
-/
def indentList : List Char → List Char
  | [] => []
  | [c] => [c]
  | c :: d :: rest =>
      if c = '\n' then
        c :: ' ' :: ' ' :: indentList (d :: rest)
      else
        c :: indentList (d :: rest)

/- Indent all lines of a text except the first. -/
def indent
    (text : String) : String :=
  String.ofList (indentList text.toList)

end Block

end CypherAssembly

------------------------------------------------------------
-- CALL Blocks
------------------------------------------------------------

namespace CypherAssembly

namespace Block

/- The line that opens a block, up to its first operand. -/
def opening : String :=
  "CALL \x7b\n  "

/- The line that closes a block. -/
def closing : String :=
  "\n\x7d\n"

/- A finished query inside a CALL block. -/
def call
    (text : String) : String :=
  opening ++ indent text ++ closing

end Block

end CypherAssembly
