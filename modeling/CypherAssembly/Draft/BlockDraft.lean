import CypherAssembly.Refusal
import CypherAssembly.Text.Block

/-
  Drafts of indented blocks.

  Key definitions include:
    * `Block.indentPieces`
    * `Block.ofValue`
    * `Block.callOfValue`

  The text of a block may be given in pieces instead of
  characters.  A piece that is nothing but a newline starts
  a line.
-/

------------------------------------------------------------
-- Texts in Pieces
------------------------------------------------------------

namespace CypherAssembly

namespace Block

/-
  Two spaces go in after every newline that is not the last
  piece.
-/
def indentPieces : List String → List String
  | [] => []
  | [p] => [p]
  | p :: q :: rest =>
      if p = "\n" then
        p :: "  " :: indentPieces (q :: rest)
      else
        p :: indentPieces (q :: rest)

/- Every piece of a text has to be a text. -/
def piece : Value → Except Refusal String
  | .text s => .ok s
  | v => .error (.notJoined v.kind)

/- The indented text that a value describes. -/
def ofValue
    (v : Value) : Except Refusal String :=
  match v, v.elements? with
  | .text s, _ => .ok (indent s)
  | _, some elements => do
      let pieces ← elements.mapM piece
      return String.join (indentPieces pieces)
  | v, none => .error (.ofProblem (.notIterable v.kind))

/- The block that a value describes the query of. -/
def callOfValue
    (v : Value) : Except Refusal String := do
  return opening ++ (← ofValue v) ++ closing

end Block

end CypherAssembly
