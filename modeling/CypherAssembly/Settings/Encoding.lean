import CypherAssembly.Settings.Problem

/-
  Encodings of files.

  Key definitions include:
    * `Encoding`
    * `Encoding.ofName?`
    * `Encoding.decode`
    * `Encoding.read`

  Files are written in UTF-8 and mostly read as such.  Read
  by the rules of Latin-1, each octet is one character, and
  by those of ASCII, only the octets below 128 are known.
-/

------------------------------------------------------------
-- Encodings
------------------------------------------------------------

namespace CypherAssembly

/-
  What is known about an encoding.  Of an extension of ASCII
  it is not known which characters it adds.
-/
inductive Encoding where
  | utf8
  | ascii
  | latin1
  | extended
deriving DecidableEq, Repr

namespace Encoding

/-
  A name in small letters, with an underscore for whatever
  separates letters, digits and points in it.
-/
def normal
    (name : String) : String :=
  let isPart := fun c : Char => c.isAlphanum || c == '.'
  let cs := name.toList.map fun c =>
    if isPart c then c.toLower else ' '
  "_".intercalate
    (((String.ofList cs).splitOn " ").filter (· != ""))

/- The normal names of UTF-8. -/
def utf8Names : List String :=
  ["utf_8", "utf8", "u8", "utf", "utf8_ucs2", "utf8_ucs4",
    "cp65001", "utf_8_sig"]

/- The normal names of ASCII. -/
def asciiNames : List String :=
  ["ascii", "us_ascii", "us", "646", "ansi_x3.4_1968",
    "ansi_x3_4_1968", "ansi_x3.4_1986", "cp367", "csascii",
    "ibm367", "iso646_us", "iso_646.irv_1991", "iso_ir_6"]

/- The normal names of Latin-1. -/
def latin1Names : List String :=
  ["latin_1", "latin1", "latin", "l1", "iso_8859_1",
    "iso8859_1", "iso8859", "8859", "cp819", "csisolatin1",
    "ibm819", "iso_8859_1_1987", "iso_ir_100"]

/- Normal names of extensions of ASCII. -/
def extendedNames : List String :=
  ["cp437", "cp850", "cp852", "cp855", "cp858", "cp866",
    "cp1250", "cp1251", "cp1252", "cp1253", "cp1254",
    "cp1255", "cp1256", "cp1257", "cp1258", "windows_1250",
    "windows_1251", "windows_1252", "windows_1253",
    "windows_1254", "windows_1255", "windows_1256",
    "windows_1257", "windows_1258", "iso8859_2",
    "iso_8859_2", "iso8859_5", "iso_8859_5", "iso8859_7",
    "iso_8859_7", "iso8859_9", "iso_8859_9", "iso8859_15",
    "iso_8859_15", "latin2", "latin9", "koi8_r", "koi8_u",
    "mac_roman", "macroman", "big5", "gbk", "gb2312",
    "gb18030", "euc_jp", "euc_kr", "shift_jis", "sjis"]

/- The encoding of a name. -/
def ofName?
    (name : String) : Option Encoding :=
  let name := normal name
  if utf8Names.contains name then some utf8
  else if asciiNames.contains name then some ascii
  else if latin1Names.contains name then some latin1
  else if extendedNames.contains name then some extended
  else none

/- The first octet that is not in ASCII, and its position. -/
def beyondAscii?
    (text : String) : Option SourceProblem :=
  let octets := text.toUTF8.toList
  (octets.findIdx? (128 ≤ ·)).bind fun i =>
    (octets[i]?).map fun octet => .unknownOctet octet i

/- A text in ASCII, or the problem with the first octet. -/
def onlyAscii
    (text : String) : Except SourceProblem String :=
  match beyondAscii? text with
  | some problem => .error problem
  | none => .ok text

/- A text in UTF-8, as an encoding makes it read. -/
def decode
    (e : Encoding)
    (text : String) : Except SourceProblem String :=
  match e with
  | utf8 => .ok text
  | latin1 =>
      .ok (String.ofList
        (text.toUTF8.toList.map fun octet =>
          Char.ofNat octet.toNat))
  | ascii => onlyAscii text
  -- no table of what lies beyond ASCII is kept here
  | extended => onlyAscii text

/- A text, read by the encoding that a value names. -/
def read
    (given : Value)
    (text : String) : Except SourceProblem String :=
  if given.isTrue then
    match given with
    | .text name =>
        match ofName? name with
        | some e => e.decode text
        | none => .error (.unknownEncoding name)
    | v => .error (.unfitting "encoding" v.kind)
  else
    .ok text

end Encoding

end CypherAssembly
