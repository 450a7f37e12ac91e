/-
  Capital and small letters.

  Key definitions include:
    * `Capital.ofChar`
    * `Capital.ofText`
    * `Small.ofText`

  Words that are compared without regard to case are
  compared by their capitals.  All words compared in this
  library consist of the letters A to Z, so only the
  characters whose capital form consists of such letters
  have to be changed: the small letters a to z, and ten
  other characters of Unicode, among them the dotless i and
  the joined letters.  Every other character stands for
  itself and makes the comparison fail either way.

  The names of settings are compared by their small letters.
  They may be anything, and so more letters have to be
  changed for them.
-/

------------------------------------------------------------
-- Capitals
------------------------------------------------------------

namespace CypherAssembly

namespace Capital

/- The capital form of one character. -/
def ofChar
    (c : Char) : List Char :=
  if c.isLower then [c.toUpper]
  else
    match c.toNat with
    | 0x00df => ['S', 'S']
    | 0x0131 => ['I']
    | 0x017f => ['S']
    | 0xfb00 => ['F', 'F']
    | 0xfb01 => ['F', 'I']
    | 0xfb02 => ['F', 'L']
    | 0xfb03 => ['F', 'F', 'I']
    | 0xfb04 => ['F', 'F', 'L']
    | 0xfb05 => ['S', 'T']
    | 0xfb06 => ['S', 'T']
    | _ => [c]

/- The capital form of a text, character by character. -/
def ofText
    (text : String) : String :=
  String.ofList (text.toList.flatMap ofChar)

end Capital

end CypherAssembly

------------------------------------------------------------
-- Small Letters
------------------------------------------------------------

namespace CypherAssembly

namespace Small

/-
  The small form of one character.  Besides the letters A to
  Z, those of the other European alphabets have one.
-/
def ofChar
    (c : Char) : List Char :=
  let n := c.toNat
  let within := fun low high => low ≤ n && n ≤ high
  let later := fun k => [Char.ofNat (n + k)]
  if c.isUpper then [c.toLower]
  else if n < 0xc0 then [c]
  else if within 0xc0 0xde && n != 0xd7 then later 32
  else if n == 0x130 then ['i', '\u0307']
  else if within 0x100 0x137 && n % 2 == 0 then later 1
  else if within 0x139 0x148 && n % 2 == 1 then later 1
  else if within 0x14a 0x177 && n % 2 == 0 then later 1
  else if n == 0x178 then ['\u00ff']
  else if within 0x179 0x17e && n % 2 == 1 then later 1
  else if within 0x391 0x3ab && n != 0x3a2 then later 32
  else if within 0x400 0x40f then later 80
  else if within 0x410 0x42f then later 32
  else if n == 0x212a then ['k']
  else if n == 0x212b then ['\u00e5']
  else [c]

/- The small form of a text, character by character. -/
def ofText
    (text : String) : String :=
  String.ofList (text.toList.flatMap ofChar)

end Small

end CypherAssembly
