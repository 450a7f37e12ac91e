/-
  Trimming a fixed ending off a text.

  Key definitions include:
    * `dropSuffix`
    * `trimSuffix`

  The ending is taken off once, and only when the text
  really ends with it.
-/

------------------------------------------------------------
-- Lists
------------------------------------------------------------

namespace CypherAssembly

/- Remove `suffix` from the end of `xs` if it is there. -/
def dropSuffix
    (suffix xs : List Char) : List Char :=
  if suffix.isSuffixOf xs then
    xs.take (xs.length - suffix.length)
  else
    xs

/- What was appended is what is dropped. -/
theorem dropSuffix_append
    (suffix xs : List Char) :
    dropSuffix suffix (xs ++ suffix) = xs := by
  simp [dropSuffix, List.isSuffixOf_iff_suffix]

/- A text without the ending is left alone. -/
theorem dropSuffix_of_not_suffix
    (suffix xs : List Char)
    (hNot : ¬ suffix <:+ xs) :
    dropSuffix suffix xs = xs := by
  simp [dropSuffix, List.isSuffixOf_iff_suffix, hNot]

end CypherAssembly

------------------------------------------------------------
-- Texts
------------------------------------------------------------

namespace CypherAssembly

/- Remove `suffix` from the end of `text` if it is there. -/
def trimSuffix
    (suffix text : String) : String :=
  String.ofList (dropSuffix suffix.toList text.toList)

/- What was appended is what is trimmed. -/
theorem trimSuffix_append
    (suffix text : String) :
    trimSuffix suffix (text ++ suffix) = text := by
  simp [trimSuffix, dropSuffix_append]

/- Nothing is trimmed off a text without the ending. -/
theorem trimSuffix_of_not_suffix
    {suffix text : String}
    (hNot : ¬ suffix.toList <:+ text.toList) :
    trimSuffix suffix text = text := by
  rw [trimSuffix, dropSuffix_of_not_suffix _ _ hNot,
    String.ofList_toList]

end CypherAssembly
