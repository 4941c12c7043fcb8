import FilterAlgebra.Fault

/-!
# Encodings of texts

A text can be made bytes and read from bytes in one of three encodings: one for all
characters, which takes one to four bytes for each, and two for the first 128 and the
first 256 characters, which take one byte. What stands in the way is told by its place:
the bytes that form no character, or the characters that have no byte.
-/

set_option autoImplicit false

namespace FilterAlgebra

/-- The encodings of texts. -/
inductive Encoding where
  | utf8
  | ascii
  | latin1
  deriving DecidableEq

namespace Encoding

/-- The name of an encoding in messages. -/
def name : Encoding → String
  | utf8 => "utf-8"
  | ascii => "ascii"
  | latin1 => "latin-1"

/-- The names by which an encoding is asked for, in small letters, words joined by underscores. -/
def names : Encoding → List String
  | utf8 => ["utf_8", "utf8", "u8", "utf", "utf8_ucs2", "utf8_ucs4", "cp65001"]
  | ascii =>
    ["ascii", "us_ascii", "646", "ansi_x3.4_1968", "ansi_x3_4_1968", "ansi_x3.4_1986", "cp367", "csascii",
     "ibm367", "iso646_us", "iso_646.irv_1991", "iso_ir_6", "us"]
  | latin1 =>
    ["latin_1", "latin1", "latin", "l1", "8859", "cp819", "csisolatin1", "ibm819", "iso8859", "iso8859_1",
     "iso_8859_1", "iso_8859_1_1987", "iso_ir_100"]

/-- Whether a character stands within the words of a name. -/
def isOfWord (c : Char) : Bool :=
  c.isAlphanum || c == '.'

/-- The characters of a name with an underscore for every run of others; `between` says whether one
was just passed. -/
def joinWords : Bool → List Char → List Char
  | _, [] => []
  | between, c :: rest =>
    if isOfWord c then (if between then ['_', c.toLower] else [c.toLower]) ++ joinWords false rest
    else joinWords true rest

/-- A name brought to the form in which names are listed. -/
def listedName (name : String) : String :=
  String.ofList (joinWords false (name.toList.dropWhile (!isOfWord ·)))

/-- The encoding of a name. -/
def ofName (name : String) : Except Fault Encoding :=
  if name.toList.contains (Char.ofNat 0) then .error (.badArguments .value "embedded null character")
  else
    (Fault.badArguments .lookup ("unknown encoding: " ++ name)).ofOption
      ([utf8, ascii, latin1].find? (·.names.contains (listedName name)))

/-- The first number that is no character of an encoding of single bytes. -/
def limit : Encoding → Nat
  | utf8 => 0x110000
  | ascii => 0x80
  | latin1 => 0x100

/-- One or more things at a place, in words. -/
def placed (one many : String) (start count : Nat) : String :=
  if count = 1 then one ++ " in position " ++ toString start
  else many ++ " in position " ++ toString start ++ "-" ++ toString (start + count - 1)

/-- Bytes that cannot be read: where they start, how many there are, the first of them and why. -/
def undecodable (e : Encoding) (start count first : Nat) (why : String) : Fault :=
  let one := "byte 0x" ++ String.ofList (Inspection.hexPadded 2 first)
  .badArguments .decoding
    ("'" ++ e.name ++ "' codec can't decode " ++ placed one "bytes" start count ++ ": " ++ why)

/-- Characters that have no bytes: where they start, how many there are, and the first of them. -/
def unencodable (e : Encoding) (start count : Nat) (first : Char) : Fault :=
  let one := "character '" ++ String.ofList (Inspection.numericEscape first.toNat) ++ "'"
  .badArguments .encoding
    ("'" ++ e.name ++ "' codec can't encode " ++ placed one "characters" start count ++
      ": ordinal not in range(" ++ toString e.limit ++ ")")

/-- Whether a byte continues a character of several bytes: the first one that follows the leading
byte has narrower bounds after some leading bytes. -/
def continues (lead index byte : Nat) : Bool :=
  let low := if index = 0 && lead = 0xe0 then 0xa0 else if index = 0 && lead = 0xf0 then 0x90 else 0x80
  let high := if index = 0 && lead = 0xed then 0x9f else if index = 0 && lead = 0xf4 then 0x8f else 0xbf
  low ≤ byte && byte ≤ high

/-- How many bytes follow a leading byte. -/
def following? (lead : Nat) : Option Nat :=
  if lead < 0x80 then some 0
  else if 0xc2 ≤ lead && lead ≤ 0xdf then some 1
  else if 0xe0 ≤ lead && lead ≤ 0xef then some 2
  else if 0xf0 ≤ lead && lead ≤ 0xf4 then some 3
  else none

/-- How many of the bytes that are to follow a leading byte do. -/
def continued (lead : Nat) : Nat → Nat → List Nat → Nat
  | 0, _, _ => 0
  | _, _, [] => 0
  | wanted + 1, index, b :: rest =>
    if continues lead index b then 1 + continued lead wanted (index + 1) rest else 0

/-- The fault of the first bytes that form no character; so many bytes are passed over first, which
belong to the character before. -/
def firstFault (start : Nat) : Nat → List Nat → Option Fault
  | _, [] => none
  | skip + 1, _ :: rest => firstFault (start + 1) skip rest
  | 0, lead :: rest =>
    match following? lead with
    | none => some (utf8.undecodable start 1 lead "invalid start byte")
    | some wanted =>
      let found := continued lead wanted 0 rest
      if found = wanted then firstFault (start + 1) wanted rest
      else if found < rest.length then
        some (utf8.undecodable start (1 + found) lead "invalid continuation byte")
      else some (utf8.undecodable start (1 + found) lead "unexpected end of data")

/-- The text that bytes stand for. -/
def decode (e : Encoding) (content : List UInt8) : Except Fault String :=
  let numbers := content.map UInt8.toNat
  match e with
  | utf8 =>
    match String.fromUTF8? ⟨content.toArray⟩ with
    | some s => .ok s
    | none => .error ((firstFault 0 0 numbers).getD (utf8.undecodable 0 1 0 "invalid start byte"))
  | e =>
    match numbers.zipIdx.find? (e.limit ≤ ·.1) with
    | some (first, start) => .error (e.undecodable start 1 first "ordinal not in range(128)")
    | none => .ok (String.ofList (numbers.map Char.ofNat))

/-- The bytes that a text stands for. -/
def encode (e : Encoding) (s : String) : Except Fault (List UInt8) :=
  let outside := fun c : Char => decide (e.limit ≤ c.toNat)
  let chars := s.toList
  match e, chars.find? outside with
  | utf8, _ => .ok s.toUTF8.toList
  | e, some first =>
    let start := (chars.takeWhile (!outside ·)).length
    .error (e.unencodable start ((chars.drop start).takeWhile outside).length first)
  | _, none => .ok (chars.map fun c => UInt8.ofNat c.toNat)

end Encoding

end FilterAlgebra
