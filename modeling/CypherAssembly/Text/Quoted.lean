import CypherAssembly.Text.Printable

/-
  Quoted text.

  Key definitions include:
    * `Quoted.mark`
    * `Quoted.escape`
    * `Quoted.write`

  A text is shown between quotation marks so that every
  character of it can be told apart on a screen.  The marks
  are apostrophes, unless the text has an apostrophe and no
  double quote.  The mark in use and the backslash are
  written with a backslash in front, and a character that is
  not printable is written by its code.
-/

------------------------------------------------------------
-- Code Points
------------------------------------------------------------

namespace CypherAssembly

namespace Quoted

/- A code in hexadecimal, filled up with zeros. -/
def hex
    (width n : Nat) : List Char :=
  let digits := Nat.toDigits 16 n
  List.replicate (width - digits.length) '0' ++ digits

/-
  The escaped code of a character, in two, four or eight
  hexadecimal digits.
-/
def code
    (c : Char) : List Char :=
  let n := c.toNat
  if n < 0x100 then '\\' :: 'x' :: hex 2 n
  else if n < 0x10000 then '\\' :: 'u' :: hex 4 n
  else '\\' :: 'U' :: hex 8 n

end Quoted

end CypherAssembly

------------------------------------------------------------
-- Marks and Escapes
------------------------------------------------------------

namespace CypherAssembly

namespace Quoted

/- The quotation mark that a text is put between. -/
def mark
    (text : List Char) : Char :=
  if text.contains '\x27' && !text.contains '\x22' then
    '\x22'
  else
    '\x27'

/- One character between the given quotation marks. -/
def escape
    (quote c : Char) : List Char :=
  if c = quote || c = '\\' then ['\\', c]
  else if c = '\n' then ['\\', 'n']
  else if c = '\r' then ['\\', 'r']
  else if c = '\t' then ['\\', 't']
  else if isPrintable c then [c]
  else code c

/- The text between its quotation marks. -/
def write
    (text : String) : String :=
  let quote := mark text.toList
  String.ofList
    (quote :: text.toList.flatMap (escape quote) ++ [quote])

end Quoted

end CypherAssembly
