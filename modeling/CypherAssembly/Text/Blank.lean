/-
  Blank characters and blank texts.

  Key definitions include:
    * `Blank.characters`
    * `isBlankChar`
    * `isBlank`
    * `trimPadding`

  A text is blank when nothing is left of it after white
  space is trimmed from both ends, that is, when it is empty
  or holds white space only.  White space here is Unicode's:
  the zero-width characters are not part of it, while the
  four information separators are.
-/

------------------------------------------------------------
-- Characters
------------------------------------------------------------

namespace CypherAssembly

/- Every white-space character, in code point order. -/
def Blank.characters : List Char :=
  ['\x09', '\x0a', '\x0b', '\x0c', '\x0d', '\x1c', '\x1d',
    '\x1e', '\x1f', '\x20', '\u0085', '\u00a0', '\u1680',
    '\u2000', '\u2001', '\u2002', '\u2003', '\u2004',
    '\u2005', '\u2006', '\u2007', '\u2008', '\u2009',
    '\u200a', '\u2028', '\u2029', '\u202f', '\u205f',
    '\u3000']

/- Membership in the white-space characters. -/
def isBlankChar
    (c : Char) : Bool :=
  Blank.characters.contains c

end CypherAssembly

------------------------------------------------------------
-- Texts
------------------------------------------------------------

namespace CypherAssembly

/- Holds for the empty text and for white space alone. -/
def isBlank
    (text : String) : Bool :=
  text.toList.all isBlankChar

/-
  A text is not blank exactly when some character of it is
  not white space.
-/
theorem isBlank_eq_false_iff
    (text : String) :
    isBlank text = false ↔
      ∃ c ∈ text.toList, isBlankChar c = false := by
  simp [isBlank]

end CypherAssembly

------------------------------------------------------------
-- Numbers
------------------------------------------------------------

namespace CypherAssembly

/-
  White space that may stand around a number.  The
  information separators are not part of it.
-/
def isPadding
    (c : Char) : Bool :=
  isBlankChar c && !(0x1c ≤ c.toNat && c.toNat ≤ 0x1f)

/- Remove such white space from both ends. -/
def trimPadding
    (cs : List Char) : List Char :=
  ((cs.dropWhile isPadding).reverse.dropWhile
    isPadding).reverse

end CypherAssembly
