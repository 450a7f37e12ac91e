import CypherAssembly.Text.Blank

/-
  Files of settings.

  Key definitions include:
    * `EnvFile.Statement`
    * `EnvFile.quotedRest`
    * `EnvFile.unescape`
    * `EnvFile.statement`
    * `EnvFile.statements`

  A file of settings is a sequence of statements.  Most
  statements are a name, an equals sign and a value on one
  line; a value between quotation marks may go over several
  lines.  A name without an equals sign has no value, and a
  number sign starts a comment.  A line that is none of
  these is passed over.
-/

------------------------------------------------------------
-- Lines
------------------------------------------------------------

namespace CypherAssembly

namespace EnvFile

/- End all lines with a newline alone. -/
def withNewlines : List Char → List Char
  | [] => []
  | '\r' :: '\n' :: rest => '\n' :: withNewlines rest
  | '\r' :: rest => '\n' :: withNewlines rest
  | c :: rest => c :: withNewlines rest

/-
  The characters of a file.  A byte order mark in front is
  not part of them.
-/
def characters
    (text : String) : List Char :=
  match text.toList with
  | '\ufeff' :: rest => withNewlines rest
  | cs => withNewlines cs

/- White space within a line. -/
def isInlineBlank
    (c : Char) : Bool :=
  isBlankChar c && c != '\n'

/- Leave out white space, but stay on the line. -/
def skipBlank
    (cs : List Char) : List Char :=
  cs.dropWhile isInlineBlank

/- Remove white space from both ends. -/
def strip
    (cs : List Char) : List Char :=
  ((cs.dropWhile isBlankChar).reverse.dropWhile
    isBlankChar).reverse

/- What comes after the line. -/
def nextLine
    (cs : List Char) : List Char :=
  (cs.dropWhile (· != '\n')).drop 1

end EnvFile

end CypherAssembly

------------------------------------------------------------
-- Quoted Values
------------------------------------------------------------

namespace CypherAssembly

namespace EnvFile

/-
  A quoted text up to the closing mark, and what follows it.
  A backslash and the character behind it belong together,
  so a mark behind a backslash closes nothing.
-/
def quotedRest
    (mark : Char) :
    List Char → Option (List Char × List Char)
  | [] => none
  | '\\' :: c :: rest =>
      (quotedRest mark rest).map fun r =>
        ('\\' :: c :: r.1, r.2)
  | c :: rest =>
      if c == mark then some ([], rest)
      else if c == '\\' then none
      else
        (quotedRest mark rest).map fun r => (c :: r.1, r.2)

/- What may be escaped between apostrophes. -/
def plainEscape? : Char → Option Char
  | '\\' => some '\\'
  | '\x27' => some '\x27'
  | _ => none

/- What may be escaped between double quotes. -/
def richEscape? : Char → Option Char
  | '\\' => some '\\'
  | '\x27' => some '\x27'
  | '\x22' => some '\x22'
  | 'a' => some '\x07'
  | 'b' => some '\x08'
  | 'f' => some '\x0c'
  | 'n' => some '\n'
  | 'r' => some '\r'
  | 't' => some '\t'
  | 'v' => some '\x0b'
  | _ => none

/- A text with its escapes resolved; others stay. -/
def unescape
    (escape? : Char → Option Char) : List Char → List Char
  | [] => []
  | '\\' :: c :: rest =>
      match escape? c with
      | some meant => meant :: unescape escape? rest
      | none => '\\' :: unescape escape? (c :: rest)
  | c :: rest => c :: unescape escape? rest

end EnvFile

end CypherAssembly

------------------------------------------------------------
-- Parts of a Statement
------------------------------------------------------------

namespace CypherAssembly

namespace EnvFile

/-
  A part of a statement and what follows it.  When the part
  is not there, the error is the place to go on from.
-/
abbrev Reading (A : Type) :=
  Except (List Char) (A × List Char)

/- A word in front of a name that means nothing here. -/
def afterExport
    (cs : List Char) : List Char :=
  let rest := cs.drop 6
  if "export".toList.isPrefixOf cs &&
      (rest.head?.map isInlineBlank).getD false then
    skipBlank rest
  else cs

/- A name between apostrophes. -/
def quotedName
    (cs : List Char) : Reading (Option (List Char)) :=
  let name := (cs.drop 1).takeWhile (· != '\x27')
  match (cs.drop 1).drop name.length with
  | [] => .error cs
  | _ :: rest =>
      if name.isEmpty then .error cs else .ok (some name, rest)

/- A name without marks around it. -/
def bareName
    (cs : List Char) : Reading (Option (List Char)) :=
  let name := cs.takeWhile fun c =>
    c != '=' && c != '#' && !isBlankChar c
  if name.isEmpty then .error cs
  else .ok (some name, cs.drop name.length)

/- The name of a statement; a comment has none. -/
def name
    (cs : List Char) : Reading (Option (List Char)) :=
  match cs with
  | '#' :: _ => .ok (none, cs)
  | '\x27' :: _ => quotedName cs
  | _ => bareName cs

/- A value up to a comment behind it. -/
def untilComment : List Char → List Char
  | [] => []
  | [c] => [c]
  | c :: d :: rest =>
      if isBlankChar c && d == '#' then []
      else c :: untilComment (d :: rest)

/- What stands behind the equals sign. -/
def value
    (cs : List Char) : Reading (List Char) :=
  let rest := skipBlank cs
  match rest with
  | '\x27' :: quoted =>
      match quotedRest '\x27' quoted with
      | some (text, after) =>
          .ok (unescape plainEscape? text, after)
      | none => .error rest
  | '\x22' :: quoted =>
      match quotedRest '\x22' quoted with
      | some (text, after) =>
          .ok (unescape richEscape? text, after)
      | none => .error rest
  | _ =>
      .ok (strip (untilComment (cs.takeWhile (· != '\n'))),
        cs.dropWhile (· != '\n'))

/- The value of a statement, if it has one. -/
def value?
    (cs : List Char) : Reading (Option (List Char)) :=
  match skipBlank cs with
  | '=' :: rest =>
      (value rest).map fun r => (some r.1, r.2)
  | rest => .ok (none, rest)

/- The end of the line, possibly with a comment before it. -/
def lineEnd
    (cs : List Char) : Reading Unit :=
  match skipBlank cs with
  | [] => .ok ((), [])
  | '\n' :: rest => .ok ((), rest)
  | '#' :: rest => .ok ((), nextLine rest)
  | _ => .error cs

end EnvFile

end CypherAssembly

------------------------------------------------------------
-- Statements
------------------------------------------------------------

namespace CypherAssembly

namespace EnvFile

/- A name with its value, which may be left out. -/
structure Statement where
  name : String
  value : Option String
deriving DecidableEq, Repr

/- A whole statement; a comment gives none. -/
def whole
    (cs : List Char) : Reading (Option Statement) :=
  Except.bind (name (afterExport cs)) fun named =>
  Except.bind (value? named.2) fun valued =>
  (lineEnd valued.2).map fun ended =>
    (named.1.map fun n =>
      { name := String.ofList n
        value := valued.1.map String.ofList }, ended.2)

/-
  The next statement, if there is one, and what follows it.
  After a line that is no statement, reading goes on behind
  the line on which it got stuck.
-/
def statement
    (cs : List Char) : Option Statement × List Char :=
  match cs.dropWhile isBlankChar with
  | [] => (none, [])
  | start =>
      match whole start with
      | .ok result => result
      | .error stuck => (none, nextLine stuck)

/- The statements, as many as the first argument allows. -/
def statementsWithin :
    Nat → List Char → List Statement
  | _, [] => []
  | 0, _ => []
  | n + 1, cs =>
      let (first, rest) := statement cs
      first.toList ++ statementsWithin n rest

/-
  All statements of a file.  Each of them takes up at least
  one character, so there are no more than characters.
-/
def statements
    (text : String) : List Statement :=
  let cs := characters text
  statementsWithin cs.length cs

end EnvFile

end CypherAssembly
