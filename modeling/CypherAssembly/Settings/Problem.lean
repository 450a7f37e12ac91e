import CypherAssembly.Value

/-
  Problems with the sources of settings.

  Key definitions include:
    * `SourceProblem`
    * `SourceProblem.name`
    * `SourceProblem.message`

  A setting with a wrong value is a fault of a field.  The
  problems here are worse: because of them the settings are
  not even looked for.
-/

------------------------------------------------------------
-- Problems
------------------------------------------------------------

namespace CypherAssembly

/- Why a source of settings cannot be used. -/
inductive SourceProblem where
  /- A text that a zero character would cut off. -/
  | cutText
  /- A name with an equals sign in it. -/
  | splitName
  /- A name without any characters. -/
  | emptyName
  /- A value of a kind that cannot be where it is given. -/
  | unfitting (place : String) (kind : ValueKind)
  /- Names that cannot be put together for a field. -/
  | unnameable (field : String)
  /- Arguments that are no list. -/
  | noArguments (kind : ValueKind)
  /- An encoding that nobody knows. -/
  | unknownEncoding (name : String)
  /- An octet that is not in the encoding of a file. -/
  | unknownOctet (octet : UInt8) (position : Nat)
deriving DecidableEq, Repr

namespace SourceProblem

/- The name of the kind of a problem. -/
def name : SourceProblem → String
  | cutText => "ValueError"
  | splitName => "ValueError"
  | emptyName => "OSError"
  | unfitting _ _ => "TypeError"
  | unnameable _ => "SettingsError"
  | noArguments _ => "SettingsError"
  | unknownEncoding _ => "LookupError"
  | unknownOctet _ _ => "UnicodeDecodeError"

/- The wording of a problem. -/
def message : SourceProblem → String
  | cutText => "embedded null byte"
  | splitName => "illegal environment variable name"
  | emptyName => "[Errno 22] Invalid argument"
  | unfitting place kind =>
      place ++ " cannot be a '" ++ kind.name ++ "'"
  | unnameable field =>
      "error getting value for field \x22" ++ field ++
        "\x22 from source \x22EnvSettingsSource\x22"
  | noArguments kind =>
      "cli_parse_args must be a list or tuple of strings, " ++
        "received <class '" ++ kind.name ++ "'>"
  | unknownEncoding name => "unknown encoding: " ++ name
  | unknownOctet octet position =>
      "'ascii' codec can't decode byte 0x" ++
        String.ofList (Nat.toDigits 16 octet.toNat) ++
        " in position " ++ Decimal.ofNat position ++
        ": ordinal not in range(128)"

end SourceProblem

end CypherAssembly
