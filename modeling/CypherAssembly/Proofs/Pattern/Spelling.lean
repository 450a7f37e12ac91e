import CypherAssembly.Pattern.Node
import CypherAssembly.Pattern.Relationship
import CypherAssembly.Proofs.Pattern.Held
import CypherAssembly.Proofs.Pattern.Written

/-
  How names are spelled, and what of them is in a pattern.

  Key definitions include:
    * `IsSpelled`
    * `outsideTicks`
    * `Node.names`
    * `Relationship.names`
    * `IsConfined`

  Key theorems include:
    * `isName_iff_spelled`
    * `isName_iff_spelled_iff`
    * `Node.isConfined_of_render`
    * `Relationship.isConfined_of_render`
    * `names_are_confined`

  A name is spelled with letters, digits and underscores, or
  it is anything between backticks.  The check of names lets
  one newline pass behind either of them, and names go into
  a pattern as they are.  So whatever a name brings along
  outside of backticks is one of its own characters, or that
  newline.
-/

------------------------------------------------------------
-- Spelling
------------------------------------------------------------

namespace CypherAssembly

/- A letter from A to Z, in either case, or an underscore. -/
def IsWordStart
    (c : Char) : Prop :=
  ('A' ≤ c ∧ c ≤ 'Z') ∨ ('a' ≤ c ∧ c ≤ 'z') ∨ c = '_'

/- The same, or a digit from zero to nine. -/
def IsWordChar
    (c : Char) : Prop :=
  IsWordStart c ∨ ('0' ≤ c ∧ c ≤ '9')

/-
  The two ways to spell a name: as a word, or as something
  between backticks that has no backtick in it.
-/
inductive IsSpelled : List Char → Prop where
  | word
      (first : Char)
      (rest : List Char)
      (hFirst : IsWordStart first)
      (hRest : ∀ c ∈ rest, IsWordChar c) :
      IsSpelled (first :: rest)
  | ticked
      (body : List Char)
      (hSome : body ≠ [])
      (hBody : ∀ c ∈ body, c ≠ '\x60') :
      IsSpelled ('\x60' :: (body ++ ['\x60']))

theorem isNameStart_iff
    (c : Char) :
    isNameStart c = true ↔ IsWordStart c := by
  rw [isNameStart]
  delta Char.isAlpha Char.isUpper Char.isLower
  simp only [IsWordStart, Bool.or_eq_true,
    Bool.and_eq_true, decide_eq_true_eq, beq_iff_eq,
    or_assoc]
  exact Iff.rfl

theorem isNameChar_iff
    (c : Char) :
    isNameChar c = true ↔ IsWordChar c := by
  have hStart := isNameStart_iff c
  have hDigit :
      c.isDigit = true ↔ '0' ≤ c ∧ c ≤ '9' := by
    simp only [Char.isDigit, Bool.and_eq_true,
      decide_eq_true_eq]
    exact Iff.rfl
  rw [IsWordChar, ← hStart, ← hDigit]
  simp only [isNameChar, isNameStart, Char.isAlphanum,
    Bool.or_eq_true]
  tauto

theorem isPlainName_iff
    (first : Char)
    (rest : List Char) :
    isPlainName (first :: rest) = true ↔
      IsWordStart first ∧ ∀ c ∈ rest, IsWordChar c := by
  simp only [isPlainName, Bool.and_eq_true,
    List.all_eq_true, isNameStart_iff, isNameChar_iff]

/- A backtick behind some other characters closes a name. -/
theorem isQuotedRest_concat
    {body : List Char}
    (hSome : body ≠ [])
    (hBody : ∀ c ∈ body, c ≠ '\x60') :
    isQuotedRest (body ++ ['\x60']) = true := by
  induction body with
  | nil => exact absurd rfl hSome
  | cons c rest ih =>
      rcases List.forall_mem_cons.mp hBody with
        ⟨hFirst, hRest⟩
      cases rest with
      | nil => simp [isQuotedRest, hFirst]
      | cons d others =>
          have hInner := ih (by simp) hRest
          cases others <;>
            simpa [isQuotedRest, hFirst] using hInner

/- What is between the backticks is not empty. -/
theorem body_ne_nil_of_isQuotedRest
    {body : List Char}
    (hQuoted : isQuotedRest (body ++ ['\x60']) = true) :
    body ≠ [] := by
  rintro rfl
  cases hQuoted

/- The check of names without a newline is the spelling. -/
theorem isBareName_iff_spelled
    (cs : List Char) :
    isBareName cs = true ↔ IsSpelled cs := by
  constructor
  · intro hBare
    rcases Bool.or_eq_true_iff.mp hBare with hPlain | hTicked
    · cases cs with
      | nil => cases hPlain
      | cons first rest =>
          rcases (isPlainName_iff first rest).mp hPlain with
            ⟨hFirst, hRest⟩
          exact .word first rest hFirst hRest
    · rcases exists_of_isQuotedName hTicked with
        ⟨body, rfl, hBody⟩
      have hRest :
          isQuotedRest (body ++ ['\x60']) = true := by
        simpa [isQuotedName] using hTicked
      apply IsSpelled.ticked body
      · exact body_ne_nil_of_isQuotedRest hRest
      · intro c hMem
        simpa using hBody c hMem
  · intro hSpelled
    rw [isBareName, Bool.or_eq_true]
    cases hSpelled with
    | word first rest hFirst hRest =>
        left
        exact (isPlainName_iff first rest).mpr ⟨hFirst, hRest⟩
    | ticked body hSome hBody =>
        right
        have hRest := isQuotedRest_concat hSome hBody
        simp [isQuotedName, hRest]

/-
  A text passes the check of names if and only if it is
  spelled as a name, or is one with a newline behind it.
-/
theorem isName_iff_spelled
    (s : String) :
    isName s = true ↔
      ∃ name,
        IsSpelled name ∧
          (s.toList = name ∨ s.toList = name ++ ['\n']) := by
  constructor
  · intro hName
    rcases exists_of_isName hName with
      ⟨bare, tail, hChars, hBare, hTail⟩
    refine ⟨bare, (isBareName_iff_spelled bare).mp hBare, ?_⟩
    rcases hTail with rfl | rfl
    · exact Or.inl (by rw [hChars, List.append_nil])
    · exact Or.inr hChars
  · rintro ⟨name, hSpelled, hChars⟩
    have hBare := (isBareName_iff_spelled name).mpr hSpelled
    rcases hChars with hChars | hChars
    · simp [isName, hChars, hBare]
    · simp [isName, hChars, hBare]

theorem not_isWordChar_newline :
    ¬ IsWordChar '\n' := by
  rw [← isNameChar_iff]
  decide

/- No name has a newline at its end. -/
theorem IsSpelled.getLast?_ne_newline
    {name : List Char}
    (hSpelled : IsSpelled name) :
    name.getLast? ≠ some '\n' := by
  cases hSpelled with
  | word first rest hFirst hRest =>
      intro hLast
      have hAll : ∀ c ∈ first :: rest, IsWordChar c :=
        List.forall_mem_cons.mpr ⟨Or.inl hFirst, hRest⟩
      exact
        not_isWordChar_newline
          (hAll _ (List.mem_of_getLast? hLast))
  | ticked body hSome hBody =>
      rw [← List.cons_append, List.getLast?_concat]
      decide

/- So the newline is all that the check is mistaken about. -/
theorem isName_iff_spelled_iff
    (s : String) :
    (isName s = true ↔ IsSpelled s.toList) ↔
      ¬ ∃ name,
          IsSpelled name ∧ s.toList = name ++ ['\n'] := by
  rw [isName_iff_spelled]
  constructor
  · rintro hSame ⟨name, hSpelled, hChars⟩
    have hWhole : IsSpelled s.toList :=
      hSame.mp ⟨name, hSpelled, Or.inr hChars⟩
    apply hWhole.getLast?_ne_newline
    rw [hChars, List.getLast?_concat]
  · intro hNone
    constructor
    · rintro ⟨name, hSpelled, hChars | hChars⟩
      · rwa [hChars]
      · exact absurd ⟨name, hSpelled, hChars⟩ hNone
    · intro hSpelled
      exact ⟨s.toList, hSpelled, Or.inl rfl⟩

end CypherAssembly

------------------------------------------------------------
-- Outside of Backticks
------------------------------------------------------------

namespace CypherAssembly

/-
  The characters that are not between backticks.  The first
  argument tells whether a backtick has been opened.
-/
def outsideTicks : Bool → List Char → List Char
  | _, [] => []
  | isOpen, c :: rest =>
      if c = '\x60' then outsideTicks (!isOpen) rest
      else if isOpen then outsideTicks isOpen rest
      else c :: outsideTicks isOpen rest

/- Without backticks, all characters are outside. -/
theorem outsideTicks_of_none
    (cs rest : List Char)
    (hNone : ∀ c ∈ cs, c ≠ '\x60') :
    outsideTicks false (cs ++ rest) =
      cs ++ outsideTicks false rest := by
  induction cs with
  | nil => rfl
  | cons c cs ih =>
      rcases List.forall_mem_cons.mp hNone with
        ⟨hFirst, hOthers⟩
      rw [List.cons_append, outsideTicks, if_neg hFirst,
        ih hOthers]
      rfl

/- Up to the closing backtick, nothing is outside. -/
theorem outsideTicks_of_open
    (body rest : List Char)
    (hBody : ∀ c ∈ body, c ≠ '\x60') :
    outsideTicks true (body ++ '\x60' :: rest) =
      outsideTicks false rest := by
  induction body with
  | nil => rfl
  | cons c body ih =>
      rcases List.forall_mem_cons.mp hBody with
        ⟨hFirst, hOthers⟩
      rw [List.cons_append, outsideTicks, if_neg hFirst,
        ih hOthers]
      rfl

theorem ne_tick_of_isWordChar
    {c : Char}
    (hWord : IsWordChar c) :
    c ≠ '\x60' := by
  rintro rfl
  rw [← isNameChar_iff] at hWord
  revert hWord
  decide

/- A name has nothing but word characters outside. -/
theorem IsSpelled.exists_outsideTicks
    {name : List Char}
    (hSpelled : IsSpelled name)
    (rest : List Char) :
    ∃ body,
      outsideTicks false (name ++ rest) =
          body ++ outsideTicks false rest ∧
        ∀ c ∈ body, IsWordChar c := by
  cases hSpelled with
  | word first others hFirst hOthers =>
      have hAll :
          ∀ c ∈ first :: others, IsWordChar c :=
        List.forall_mem_cons.mpr ⟨Or.inl hFirst, hOthers⟩
      refine ⟨first :: others, ?_, hAll⟩
      apply outsideTicks_of_none
      intro c hMem
      exact ne_tick_of_isWordChar (hAll c hMem)
  | ticked body hSome hBody =>
      refine ⟨[], ?_, fun c hMem => by cases hMem⟩
      have hInner := outsideTicks_of_open body rest hBody
      simpa [outsideTicks] using hInner

end CypherAssembly

------------------------------------------------------------
-- Names in Patterns
------------------------------------------------------------

namespace CypherAssembly

/- The name in a variable, if there is one. -/
def Value.asVar
    (v : Value) : List Value :=
  if v.isTrue then [v] else []

/-
  The names that a value is made of: the items of a list of
  labels or types, or the keys of properties.
-/
def Value.asNames
    (v : Value) : List Value :=
  if v.isTrue then v.elements?.getD [] else []

/- All names in a node pattern, from left to right. -/
def Node.names
    (n : Node) : List Value :=
  n.var.asVar ++ n.labels.asNames ++ n.properties.asNames

/- All names in a relationship pattern. -/
def Relationship.names
    (r : Relationship) : List Value :=
  r.var.asVar ++ r.types.asNames ++ r.properties.asNames

/-
  A name is confined in a pattern that has it as it is, and
  to which it brings nothing outside of backticks but word
  characters, and a newline if there is one at its end.
-/
def IsConfined
    (text : String)
    (v : Value) : Prop :=
  ∃ s body,
    v = .text s ∧
      isName s = true ∧
      IsInside s text ∧
      (∀ c ∈ body, IsWordChar c) ∧
      outsideTicks false s.toList =
        body ++
          if s.toList.getLast? = some '\n' then ['\n']
          else []

namespace Part

/- The check gives the name back, or it blames the name. -/
theorem checkName_eq_ok_iff
    (role : NameRole)
    (s : String) :
    checkName role s = .ok s ↔ isName s = true := by
  unfold checkName
  cases isName s with
  | true => simp
  | false => simp

theorem checkName_eq_error
    {role : NameRole}
    {s : String}
    (hNot : checkName role s ≠ .ok s) :
    checkName role s = .error (.badName role s) := by
  rw [ne_eq, checkName_eq_ok_iff] at hNot
  rw [checkName, if_neg hNot]

theorem isConfined_of_isName
    {s text : String}
    (hName : isName s = true)
    (hInside : IsInside s text) :
    IsConfined text (.text s) := by
  rcases (isName_iff_spelled s).mp hName with
    ⟨name, hSpelled, hChars⟩
  rcases hChars with hChars | hChars
  · rcases hSpelled.exists_outsideTicks [] with
      ⟨body, hOutside, hBody⟩
    refine ⟨s, body, rfl, hName, hInside, hBody, ?_⟩
    rw [hChars, if_neg hSpelled.getLast?_ne_newline]
    rwa [List.append_nil] at hOutside
  · rcases hSpelled.exists_outsideTicks ['\n'] with
      ⟨body, hOutside, hBody⟩
    refine ⟨s, body, rfl, hName, hInside, hBody, ?_⟩
    rw [hChars, if_pos List.getLast?_concat]
    exact hOutside

/- What is checked as a name is one, and stays the same. -/
theorem checkNameValue_ok
    {role : NameRole}
    {v : Value}
    {text : String}
    (hOk : checkNameValue role v = .ok text) :
    v = .text text ∧ isName text = true := by
  cases v with
  | text s =>
      rcases checkName_ok s text hOk with ⟨hName, rfl⟩
      exact ⟨rfl, hName⟩
  | _ => cases hOk

/- A variable is confined where it is written. -/
theorem isConfined_var
    {role : NameRole}
    {given v : Value}
    {text : String}
    (hOk : var role given = .ok text)
    (hMem : v ∈ given.asVar) :
    IsConfined text v := by
  unfold var at hOk
  unfold Value.asVar at hMem
  split at hMem
  · rename_i hTrue
    rw [if_pos hTrue] at hOk
    rcases checkNameValue_ok hOk with ⟨rfl, hName⟩
    rw [List.mem_singleton.mp hMem]
    exact isConfined_of_isName hName (List.infix_refl _)
  · cases hMem

/- Each of several names is confined among them. -/
theorem isConfined_names
    {role : NameRole}
    {separator : String}
    {given v : Value}
    {text : String}
    (hOk : names role separator given = .ok text)
    (hMem : v ∈ given.asNames) :
    IsConfined text v := by
  unfold names at hOk
  unfold Value.asNames at hMem
  split at hMem
  · rename_i hTrue
    rw [if_pos hTrue] at hOk
    cases hElements : given.elements? with
    | none => simp [hElements] at hOk
    | some elements =>
        simp only [hElements, Option.getD_some] at hOk hMem
        rcases exists_of_bind_ok hOk with
          ⟨checked, hChecked, hOk⟩
        cases hOk
        rcases exists_of_mapM_ok hChecked hMem with
          ⟨name, hIn, hCheck⟩
        rcases checkNameValue_ok hCheck with ⟨rfl, hName⟩
        apply isConfined_of_isName hName
        exact
          (isInside_intercalate separator hIn).trans
            (isInside_append_left ":" _)
  · cases hMem

/- A key is confined in front of its value. -/
theorem isConfined_key
    {A : Type}
    {key : A → Value}
    {write : A → Except Fault String}
    {entries : List A}
    {v : Value}
    {text : String}
    (hEach : ∀ entry written,
      write entry = .ok written →
        ∃ name value,
          checkNameValue .propertyKey (key entry) = .ok name ∧
            written = name ++ ": " ++ value)
    (hOk : (entries.mapM write).map between = .ok text)
    (hMem : v ∈ entries.map key) :
    IsConfined text v := by
  rcases List.mem_map.mp hMem with ⟨entry, hEntry, rfl⟩
  have hInside :
      ∃ name,
        checkNameValue .propertyKey (key entry) = .ok name ∧
          IsInside name text := by
    rcases exists_of_map_ok hOk with ⟨texts, hTexts, rfl⟩
    rcases exists_of_mapM_ok hTexts hEntry with
      ⟨written, hIn, hWritten⟩
    rcases hEach entry written hWritten with
      ⟨name, value, hCheck, rfl⟩
    refine ⟨name, hCheck, ?_⟩
    have hRow := isInside_intercalate ", " hIn
    have hFront :
        IsInside name (name ++ ": " ++ value) := by
      rw [String.append_assoc]
      exact isInside_append_right name _
    exact (hFront.trans hRow).trans (isInside_around _ _ _)
  rcases hInside with ⟨name, hCheck, hInside⟩
  rcases checkNameValue_ok hCheck with ⟨hKey, hName⟩
  rw [hKey]
  exact isConfined_of_isName hName hInside

/- Each key is confined among the properties. -/
theorem isConfined_properties
    {given v : Value}
    {text : String}
    (hOk : properties given = .ok text)
    (hMem : v ∈ given.asNames) :
    IsConfined text v := by
  unfold properties at hOk
  unfold Value.asNames at hMem
  split at hMem
  · rename_i hTrue
    rw [if_pos hTrue] at hOk
    cases given with
    | map entries =>
        apply isConfined_key _ hOk hMem
        rintro ⟨name, value⟩ written hWritten
        rcases exists_of_bind_ok hWritten with
          ⟨key, hKey, hWritten⟩
        rcases exists_of_bind_ok hWritten with
          ⟨shown, _, hEq⟩
        cases hEq
        exact ⟨key, shown, hKey, rfl⟩
    | table entries =>
        apply isConfined_key _ hOk hMem
        rintro ⟨name, value⟩ written hWritten
        rcases exists_of_bind_ok hWritten with
          ⟨key, hKey, hWritten⟩
        rcases exists_of_bind_ok hWritten with
          ⟨shown, _, hEq⟩
        cases hEq
        exact ⟨key, shown, hKey, rfl⟩
    | _ => cases hOk
  · cases hMem

end Part

/- What is confined in a part is confined in the whole. -/
theorem IsConfined.trans
    {part whole : String}
    {v : Value}
    (hConfined : IsConfined part v)
    (hInside : IsInside part whole) :
    IsConfined whole v := by
  rcases hConfined with
    ⟨s, body, hText, hName, hPart, hRest⟩
  exact
    ⟨s, body, hText, hName, hPart.trans hInside, hRest⟩

/- All names of a node are confined in its text. -/
theorem Node.isConfined_of_render
    {n : Node}
    {text : String}
    (hOk : n.render = .ok text)
    {v : Value}
    (hMem : v ∈ n.names) :
    IsConfined text v := by
  change
    (do
      let var ← Part.var .nodeVariable n.var
      let labels ← Part.names .nodeLabel ":" n.labels
      let properties ← Part.properties n.properties
      return "(" ++ var ++ labels ++ properties ++ ")") =
        Except.ok text at hOk
  rcases exists_of_bind_ok hOk with ⟨var, hVar, hOk⟩
  rcases exists_of_bind_ok hOk with ⟨labels, hLabels, hOk⟩
  rcases exists_of_bind_ok hOk with
    ⟨properties, hProperties, hOk⟩
  cases hOk
  simp only [names, List.mem_append] at hMem
  rcases hMem with (hIn | hIn) | hIn
  · apply (Part.isConfined_var hVar hIn).trans
    rw [String.append_assoc, String.append_assoc]
    exact isInside_around "(" var _
  · apply (Part.isConfined_names hLabels hIn).trans
    rw [String.append_assoc]
    exact isInside_around _ labels _
  · apply (Part.isConfined_properties hProperties hIn).trans
    exact isInside_around _ properties ")"

/- All names of a relationship are confined in its text. -/
theorem Relationship.isConfined_of_render
    {r : Relationship}
    {text : String}
    (hOk : r.render = .ok text)
    {v : Value}
    (hMem : v ∈ r.names) :
    IsConfined text v := by
  change
    (do
      let var ← Part.var .relationshipVariable r.var
      let types ← Part.names .relationshipType "|" r.types
      let length ← r.length
      let properties ← Part.properties r.properties
      r.direction.around
        ("[" ++ var ++ types ++ length ++ properties ++
          "]")) = Except.ok text at hOk
  rcases exists_of_bind_ok hOk with ⟨var, hVar, hOk⟩
  rcases exists_of_bind_ok hOk with ⟨types, hTypes, hOk⟩
  rcases exists_of_bind_ok hOk with ⟨length, _, hOk⟩
  rcases exists_of_bind_ok hOk with
    ⟨properties, hProperties, hOk⟩
  have hArrow := Direction.isInside_around hOk
  simp only [names, List.mem_append] at hMem
  rcases hMem with (hIn | hIn) | hIn
  · apply (Part.isConfined_var hVar hIn).trans
    apply IsInside.trans _ hArrow
    simp only [String.append_assoc]
    rw [← String.append_assoc]
    exact isInside_around "[" var _
  · apply (Part.isConfined_names hTypes hIn).trans
    apply IsInside.trans _ hArrow
    rw [String.append_assoc, String.append_assoc]
    exact isInside_around _ types _
  · apply (Part.isConfined_properties hProperties hIn).trans
    exact (isInside_around _ properties "]").trans hArrow

end CypherAssembly

------------------------------------------------------------
-- What Names Bring Along
------------------------------------------------------------

namespace CypherAssembly

/-
  The check of names, whatever they are for, lets pass what
  is spelled as a name, alone or with a newline behind it.
  So it is right about a text unless this is a name with a
  newline behind it.  When a node or a relationship can be
  rendered, all names in it have passed: each of them stands
  in the text as it is, and what it has outside of backticks
  are word characters and, if it ends with one, a newline.
-/
theorem names_are_confined
    (role : NameRole)
    (s : String)
    (n : Node)
    (r : Relationship) :
    (Part.checkName role s = .ok s ↔
        ∃ name,
          IsSpelled name ∧
            (s.toList = name ∨
              s.toList = name ++ ['\n'])) ∧
      (Part.checkName role s ≠ .ok s →
        Part.checkName role s = .error (.badName role s)) ∧
      ((Part.checkName role s = .ok s ↔
          IsSpelled s.toList) ↔
        ¬ ∃ name,
            IsSpelled name ∧ s.toList = name ++ ['\n']) ∧
      (∀ text,
        n.render = .ok text →
          ∀ v ∈ n.names, IsConfined text v) ∧
      ∀ text,
        r.render = .ok text →
          ∀ v ∈ r.names, IsConfined text v := by
  rw [Part.checkName_eq_ok_iff]
  refine
    ⟨isName_iff_spelled s, ?_, isName_iff_spelled_iff s,
      ?_, ?_⟩
  · exact Part.checkName_eq_error
  · intro text hOk v hMem
    exact n.isConfined_of_render hOk hMem
  · intro text hOk v hMem
    exact r.isConfined_of_render hOk hMem

/-
  A node that tries it three times: with a newline behind
  its variable, with half a path between the backticks of
  its label, and with a plain key.  All of it is confined,
  and so is the one type of a relationship.
-/
theorem names_of_crafted_node :
    let n : Node :=
      .ofParts "n\n" ["\x60A)\n--(b\x60"] [("age", .int 3)]
    let r : Relationship :=
      .ofParts "" ["KNOWS"] [] .outgoing none none
    let text := "(n\n:\x60A)\n--(b\x60 \x7bage: 3\x7d)"
    n.render = .ok text ∧
      n.names =
        [.text "n\n", .text "\x60A)\n--(b\x60",
          .text "age"] ∧
      (∀ v ∈ n.names, IsConfined text v) ∧
      r.render = .ok "-[:KNOWS]->" ∧
      ∀ v ∈ r.names, IsConfined "-[:KNOWS]->" v := by
  intro n r text
  have hNode : n.render = .ok text := rfl
  have hLink : r.render = .ok "-[:KNOWS]->" := rfl
  rcases names_are_confined .nodeVariable "n\n" n r with
    ⟨_, _, _, hOfNode, hOfLink⟩
  exact
    ⟨hNode, rfl, hOfNode text hNode, hLink,
      hOfLink _ hLink⟩

/-
  A word with a newline behind it is not spelled as a name,
  but it passes the check, and its newline gets into the
  text of a node outside of backticks.
-/
theorem newline_passes_as_name :
    Part.checkName .nodeVariable "n\n" = .ok "n\n" ∧
      ¬ IsSpelled "n\n".toList ∧
      (Node.ofParts "n\n" [] []).render = .ok "(n\n)" ∧
      '\n' ∈ outsideTicks false "n\n".toList ∧
      ¬ IsWordChar '\n' := by
  refine
    ⟨rfl, ?_, rfl, by decide, not_isWordChar_newline⟩
  intro hSpelled
  exact hSpelled.getLast?_ne_newline rfl

end CypherAssembly
