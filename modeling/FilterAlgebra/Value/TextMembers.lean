import FilterAlgebra.Text.Encoding
import FilterAlgebra.Text.Layout
import FilterAlgebra.Text.Letters
import FilterAlgebra.Text.Printable
import FilterAlgebra.Text.Search
import FilterAlgebra.Value.NumberMembers

/-!
# Members of texts and of bytes

Texts and bytes are looked through, cut, trimmed, filled up and put together alike; they
differ in what they take for a part and in how they complain. `Writing` holds these
differences. What is particular to texts is stated after what they share, and then what is
particular to bytes.
-/

set_option autoImplicit false

namespace FilterAlgebra

namespace Value

/-- The fault of an operand of the wrong type. -/
def operandFault (complaint : String) : Fault :=
  .badArguments .type complaint

/-- The word for an operand in a complaint that tells the absent value by its name. -/
def operandWord : Value → String
  | none => "None"
  | v => v.typeName

/-- An operand as a count; `what` says what it is to become. -/
def countOf (what : String) (v : Value) : Except Fault Int := do
  let n ← v.asInteger
  if n < -twoTo 63 ∨ twoTo 63 ≤ n then
    .error (.badArguments .overflow ("Python int too large to convert to C " ++ what))
  else return n

/-- The greatest length of a text that is written out. -/
def greatestLength : Nat := 10000000

end Value

/-- What texts and bytes do not have in common. -/
structure Writing (α : Type) where
  wrap : List α → Value
  /-- What a value is made of, if it is one of the kind. -/
  unwrap? : Value → Option (List α)
  /-- The name of the class. -/
  word : String
  blank : α
  zero : α
  tab : α
  isBlank : α → Bool
  isEnd : α → Bool
  isPair : α → α → Bool
  isSign : α → Bool
  /-- The fault of a method that was given something else; the method is given, and the place of the
  operand among several. -/
  fault : (method : String) → Value → Fault
  /-- What is looked for. -/
  sought : Value → Except Fault (List α)
  /-- The word for what was looked for in vain. -/
  soughtWord : String
  /-- The fault of what is no filling. -/
  fillFault : (method : String) → Value → Fault
  /-- The fault of a row with something else at a place. -/
  itemFault : Nat → Value → Fault

namespace Writing

variable {α : Type} [BEq α] (kind : Writing α) (whole : List α)

/-- An operand of the kind. -/
def part (method : String) (v : Value) : Except Fault (List α) :=
  (kind.fault method v).ofOption (kind.unwrap? v)

/-- An operand of the kind that is not empty. -/
def separator (method : String) (v : Value) : Except Fault (List α) := do
  let part ← kind.part method v
  if part.isEmpty then .error (.badArguments .value "empty separator") else return part

/-- A value of the kind. -/
def replyWith (content : List α) : Reply :=
  Value.reply (kind.wrap content)

/-- Values of the kind in a list. -/
def replyWithList (pieces : List (List α)) : Reply :=
  Value.reply (.list (pieces.map kind.wrap))

/-- Pieces in a tuple. -/
def replyWithThree (pieces : List α × List α × List α) : Reply :=
  Value.reply (.tuple ([pieces.1, pieces.2.1, pieces.2.2].map kind.wrap))

/-- A bound of the region that is looked through. -/
def boundAt (operands : List Value) (i : Nat) (default : Int) : Except Fault Int :=
  match Value.operandAt? operands i with
  | none => .ok default
  | some v =>
    (Value.operandFault
      "slice indices must be integers or None or have an __index__ method").ofOption v.held.index?

/-- The region that is looked through: where it starts, and what is in it. What starts behind the end is
no region. -/
def region (operands : List Value) : Except Fault (Option (Nat × List α)) := do
  let start ← boundAt operands 1 0
  let stop ← boundAt operands 2 whole.length
  let first := Search.place whole.length start
  if (whole.length : Int) < start then return none
  else
    let last := Search.place whole.length stop
    if last < first then return none
    else return some (first, (whole.take last).drop first)

/-- What a member gives that looks for something. -/
def search (name : String) (operands : List Value) : Reply := do
  let region ← region whole operands
  let sought ← match operands.head? with
    | some v => kind.sought v
    | none => pure []
  match region, name with
  | none, "count" => Value.reply (.int 0)
  | some (_, inside), "count" => Value.reply (.int (Search.count sought inside))
  | found, name =>
    let place? := found.bind fun (start, inside) =>
      let found :=
        if name.startsWith "r" then Search.last? sought inside else Search.first? sought inside
      found.map (start + ·)
    match place? with
    | some place => Value.reply (.int place)
    | none =>
      if name.endsWith "index" then .error (.badArguments .value (kind.soughtWord ++ " not found"))
      else Value.reply (.int (-1))

/-- Whether a region starts or ends with a part. -/
def meets (atStart : Bool) (region : Option (Nat × List α)) (part : List α) : Bool :=
  match region with
  | some (_, inside) => if atStart then part.isPrefixOf inside else part.reverse.isPrefixOf inside.reverse
  | none => false

/-- What a member gives that looks at one end. -/
def endsBy (atStart : Bool) (name : String) (operands : List Value) : Reply := do
  let region ← region whole operands
  match operands.head?.map Value.held with
  | some (.tuple options) =>
    let parts ← options.mapM (kind.part ("tuple for " ++ name))
    Value.reply (.bool (parts.any (meets atStart region)))
  | some v =>
    match kind.unwrap? v with
    | some part => Value.reply (.bool (meets atStart region part))
    | none =>
      .error (Value.operandFault (name ++ " first arg must be " ++ kind.word ++ " or a tuple of " ++
        kind.word ++ ", not " ++ (operands.head?.map Value.typeName).getD ""))
  | none => .error .wrongOperands

/-- How many cuts are made at most. -/
def cuts (operands : List Value) : Except Fault Nat := do
  match operands[1]? with
  | none => return whole.length + 1
  | some v =>
    let n ← Value.countOf "ssize_t" v
    return if n < 0 then whole.length + 1 else n.toNat

/-- What a member gives that cuts its object into pieces. -/
def splitBy (fromRight : Bool) (method : String) (operands : List Value) : Reply := do
  let limit ← cuts whole operands
  match Value.operandAt? operands 0 with
  | none =>
    kind.replyWithList ((if fromRight then Search.runsRight else Search.runs) kind.isBlank limit whole)
  | some v =>
    let separator ← kind.separator method v
    kind.replyWithList ((if fromRight then Search.splitRight else Search.split) separator limit whole)

/-- What a member gives that cuts its object in three. -/
def partition (fromRight : Bool) (method : String) (operands : List Value) : Reply := do
  let separator ← match operands.head? with
    | some v => kind.separator method v
    | none => .error .wrongOperands
  match (if fromRight then Search.last? separator whole else Search.first? separator whole) with
  | some place => kind.replyWithThree (Search.around separator whole place)
  | none => kind.replyWithThree (if fromRight then ([], [], whole) else (whole, [], []))

/-- What a member gives that trims its object. -/
def trim (left right : Bool) (name : String) (operands : List Value) : Reply := do
  let p ← match Value.operandAt? operands 0 with
    | none => pure kind.isBlank
    | some v => do
      let part ← kind.part name v
      pure part.contains
  let trimmed := if left then Search.trimLeft p whole else whole
  kind.replyWith (if right then Search.trimRight p trimmed else trimmed)

/-- What a member gives that fills its object up to a width. -/
def fillUp (alignment : Alignment) (method : String) (operands : List Value) : Reply := do
  let width ← match operands.head? with
    | some v => Value.countOf "ssize_t" v
    | none => .error .wrongOperands
  let fill ← match operands[1]? with
    | none => pure kind.blank
    | some v =>
      match kind.unwrap? v with
      | some [a] => pure a
      | _ => .error (kind.fillFault method v)
  let gap := width.toNat - whole.length
  if Value.greatestLength < gap then .error .wrongOperands
  else
    let left := match alignment with
      | .left => 0
      | .center => gap / 2 + (if gap % 2 = 1 ∧ width % 2 = 1 then 1 else 0)
      | _ => gap
    kind.replyWith (List.replicate left fill ++ whole ++ List.replicate (gap - left) fill)

/-- An object with zeros behind its sign, up to a width. -/
def fillWithZeros (operands : List Value) : Reply := do
  let width ← match operands.head? with
    | some v => Value.countOf "ssize_t" v
    | none => .error .wrongOperands
  let gap := width.toNat - whole.length
  if Value.greatestLength < gap then .error .wrongOperands
  else
    let signs := whole.take (if whole.head?.any kind.isSign then 1 else 0)
    kind.replyWith (signs ++ List.replicate gap kind.zero ++ whole.drop signs.length)

/-- An object with parts of it replaced. -/
def replaceParts (operands : List Value) : Reply := do
  match operands with
  | old :: new :: more => do
    let old ← kind.part "replace() argument 1" old
    let new ← kind.part "replace() argument 2" new
    let limit ← match more.head? with
      | none => pure (whole.length + 1)
      | some v => do
        let n ← Value.countOf "ssize_t" v
        pure (if n < 0 then whole.length + 1 else n.toNat)
    kind.replyWith (Search.replaceFirst old new limit whole)
  | _ => .error .wrongOperands

/-- Copies of an object in a row. -/
def repeated (operands : List Value) : Reply := do
  match operands with
  | [v] =>
    let n ← v.asInteger
    if n < -twoTo 63 ∨ twoTo 63 ≤ n then
      .error (.badArguments .overflow ("cannot fit '" ++ v.typeName ++ "' into an index-sized integer"))
    else if Value.greatestLength < n.toNat * whole.length then .error .wrongOperands
    else kind.replyWith (List.replicate (if whole.isEmpty then 0 else n.toNat) whole).flatten
  | _ => .error .wrongOperands

/-- An object without something at one of its ends. -/
def without (atStart : Bool) (method : String) (operands : List Value) : Reply := do
  match operands with
  | [v] =>
    let part ← kind.part (method ++ "() argument") v
    if !part.isEmpty && meets atStart (some (0, whole)) part then
      kind.replyWith (if atStart then whole.drop part.length else whole.take (whole.length - part.length))
    else kind.replyWith whole
  | _ => .error .wrongOperands

/-- Whether the ends of lines are kept. -/
def keepsEnds (operands : List Value) : Except Fault Bool := do
  match operands.head? with
  | none => return false
  | some v => return (← v.asInteger) ≠ 0

/-- The width between two tabulators. -/
def tabWidth (operands : List Value) : Except Fault Nat := do
  match operands.head? with
  | none => return 8
  | some v =>
    let n ← v.asInteger
    if n < -twoTo 31 ∨ twoTo 31 ≤ n then
      .error (.badArguments .overflow "Python int too large to convert to C int")
    else return n.toNat

/-- What members give that texts and bytes share. -/
def sharedMember? (name : String) (operands : List Value) : Option Reply :=
  match name with
  | "count" | "find" | "rfind" | "index" | "rindex" => some (kind.search whole name operands)
  | "startswith" => some (kind.endsBy whole true name operands)
  | "endswith" => some (kind.endsBy whole false name operands)
  | "split" => some (kind.splitBy whole false name operands)
  | "rsplit" => some (kind.splitBy whole true name operands)
  | "partition" => some (kind.partition whole false name operands)
  | "rpartition" => some (kind.partition whole true name operands)
  | "strip" => some (kind.trim whole true true name operands)
  | "lstrip" => some (kind.trim whole true false name operands)
  | "rstrip" => some (kind.trim whole false true name operands)
  | "center" => some (kind.fillUp whole .center name operands)
  | "ljust" => some (kind.fillUp whole .left name operands)
  | "rjust" => some (kind.fillUp whole .right name operands)
  | "zfill" => some (kind.fillWithZeros whole operands)
  | "replace" => some (kind.replaceParts whole operands)
  | "removeprefix" => some (kind.without whole true name operands)
  | "removesuffix" => some (kind.without whole false name operands)
  | "splitlines" => some do
    let kept ← keepsEnds operands
    kind.replyWithList (Search.lines kind.isEnd kind.isPair kept whole)
  | "expandtabs" => some do
    let width ← tabWidth operands
    kind.replyWith (Search.expandTabs kind.tab kind.blank kind.isEnd width 0 whole)
  | "__mul__" | "__rmul__" => some (kind.repeated whole operands)
  | "__len__" => some (Value.reply (.int whole.length))
  | "__getnewargs__" => some (Value.reply (.tuple [kind.wrap whole]))
  | _ => none

/-- The items of a row with an object between each two of them. -/
def join (items : List Value) : Reply := do
  let parts ← items.zipIdx.mapM fun (v, i) => (kind.itemFault i v).ofOption (kind.unwrap? v)
  kind.replyWith (whole.intercalate parts)

end Writing

namespace Value

/-- The characters at which lines end. -/
def isLineEnd (c : Char) : Bool :=
  let n := c.toNat
  (0xa ≤ n && n ≤ 0xd) || (0x1c ≤ n && n ≤ 0x1e) || n == 0x85 || n == 0x2028 || n == 0x2029

/-- How a method of texts complains of what is no text. -/
def textFault (method : String) (v : Value) : Fault :=
  operandFault <|
    if method.contains '(' then method ++ " must be str, not " ++ v.operandWord
    else if method.startsWith "tuple" then method ++ " must only contain str, not " ++ v.typeName
    else if method.endsWith "strip" then method ++ " arg must be None or str"
    else if method.endsWith "split" then "must be str or None, not " ++ v.typeName
    else "must be str, not " ++ v.typeName

/-- The characters of a text. -/
def characters? (v : Value) : Option (List Char) :=
  v.text?.map String.toList

/-- Texts as what is looked through. -/
def ofCharacters : Writing Char where
  wrap chars := str (String.ofList chars)
  unwrap? := characters?
  word := "str"
  blank := ' '
  zero := '0'
  tab := '\t'
  isBlank := isBlank
  isEnd := isLineEnd
  isPair c d := c == '\r' && d == '\n'
  isSign c := c == '-' || c == '+'
  fault := textFault
  sought v := (textFault "find" v).ofOption (characters? v)
  soughtWord := "substring"
  fillFault _ v :=
    operandFault <|
      if v.text?.isSome then "The fill character must be exactly one character long"
      else "The fill character must be a unicode character, not " ++ v.typeName
  itemFault i v :=
    operandFault ("sequence item " ++ toString i ++ ": expected str instance, " ++ v.typeName ++ " found")

/-- What a byte is that stands for a character of ASCII. -/
def byteOf (c : Char) : UInt8 :=
  UInt8.ofNat c.toNat

/-- A function on characters as one on bytes; what is no character of ASCII stays. -/
def onByte (f : Char → Char) (b : UInt8) : UInt8 :=
  if b.toNat < 0x80 then byteOf (f (Char.ofNat b.toNat)) else b

/-- Whether a byte stands for a character of ASCII with a property. -/
def holdsForByte (p : Char → Bool) (b : UInt8) : Bool :=
  b.toNat < 0x80 && p (Char.ofNat b.toNat)

/-- The bytes of a value that is bytes. -/
def content? (v : Value) : Option (List UInt8) :=
  match v.held with
  | bytes content => some content
  | _ => Option.none

/-- The bytes that are looked for: a number stands for one of them. -/
def soughtBytes (v : Value) : Except Fault (List UInt8) :=
  match content? v, v.held.index? with
  | some content, _ => .ok content
  | Option.none, some n =>
    if 0 ≤ n ∧ n < 256 then .ok [UInt8.ofNat n.toNat]
    else .error (.badArguments .value "byte must be in range(0, 256)")
  | Option.none, Option.none =>
    .error (operandFault ("argument should be integer or bytes-like object, not '" ++ v.typeName ++ "'"))

/-- Bytes as what is looked through. -/
def ofBytes : Writing UInt8 where
  wrap := bytes
  unwrap? := content?
  word := "bytes"
  blank := byteOf ' '
  zero := byteOf '0'
  tab := byteOf '\t'
  isBlank := holdsForByte isPlainBlank
  isEnd b := b == byteOf '\n' || b == byteOf '\r'
  isPair b c := b == byteOf '\r' && c == byteOf '\n'
  isSign b := b == byteOf '-' || b == byteOf '+'
  fault _ v := .needsBytes v.typeName
  sought := soughtBytes
  soughtWord := "subsection"
  fillFault method v :=
    operandFault (method ++ "() argument 2 must be a byte string of length 1, not " ++ v.operandWord)
  itemFault i v :=
    let item := "sequence item " ++ toString i
    operandFault (item ++ ": expected a bytes-like object, " ++ v.typeName ++ " found")

section Characters

/-- What a question about all characters of a text is answered. -/
def questionOf? (chars : List Char) : String → Option Bool
  | "isascii" => some (chars.all (·.toNat < 0x80))
  | "islower" =>
    let isOther := fun c => LetterCase.isCapital c || LetterCase.isInitial c
    some (Letters.areOfForm isOther LetterCase.isSmall chars)
  | "isupper" =>
    let isOther := fun c => LetterCase.isSmall c || LetterCase.isInitial c
    some (Letters.areOfForm isOther LetterCase.isCapital chars)
  | "istitle" => some (Letters.areTitled false false chars)
  | "isspace" => some (Letters.areAll isBlank chars)
  | "isdecimal" => some (Letters.areAll Letters.isDecimal chars)
  | "isdigit" => some (Letters.areAll Letters.isDigit chars)
  | "isnumeric" => some (Letters.areAll Letters.isNumber chars)
  | "isalpha" => some (Letters.areAll Letters.isLetter chars)
  | "isalnum" => some (Letters.areAll (fun c => Letters.isLetter c || Letters.isNumber c) chars)
  | "isidentifier" => some (Letters.areName chars)
  | "isprintable" => some (chars.all isPrintable)
  | _ => Option.none

/-- A text in other letters. -/
def recased? (chars : List Char) : String → Option (List Char)
  | "lower" => some (LetterCase.lowered chars)
  | "upper" => some (LetterCase.raised chars)
  | "title" => some (LetterCase.titled chars)
  | "capitalize" => some (LetterCase.capitalized chars)
  | "swapcase" => some (LetterCase.swapped chars)
  | "casefold" => some (chars.flatMap LetterCase.folded)
  | _ => Option.none

/-- What a text gives for a place. -/
def characterAt (chars : List Char) (v : Value) : Reply := do
  match v.held.index? with
  | Option.none => .error (operandFault ("string indices must be integers, not '" ++ v.typeName ++ "'"))
  | some n =>
    if n < -twoTo 63 ∨ twoTo 63 ≤ n then .error (.indexTooLarge v.typeName)
    else
      let i := if n < 0 then n + chars.length else n
      match if i < 0 then Option.none else chars[i.toNat]? with
      | some c => reply (str c.toString)
      | Option.none => .error (.indexOutOfRange "string ")

/-- A text in an encoding. -/
def encoded (s : String) (operands : List Value) : Reply := do
  let named := fun (i : Nat) (role default : String) =>
    match operands[i]? with
    | Option.none => Except.ok default
    | some v =>
      let what := "encode() argument '" ++ role ++ "'"
      (operandFault (what ++ " must be str, not " ++ v.operandWord)).ofOption v.text?
  let name ← named 0 "encoding" "utf-8"
  let _ ← named 1 "errors" "strict"
  let encoding ← Encoding.ofName name
  reply (bytes (← encoding.encode s))

/-- What a table of characters has for one of them. -/
def underCharacter? (table : Value) (c : Char) : Except Fault (Option Value) :=
  match table.held with
  | dict keys values =>
    .ok (((keys.zip values).find? fun (key, _) => key.index? = some (c.toNat : Int)).map (·.2))
  | list items | tuple items => .ok items[c.toNat]?
  | text t => .ok (t.content.toList[c.toNat]?.map fun c => str c.toString)
  | bytes content => .ok (content[c.toNat]?.map fun b => int b.toNat)
  | _ => .error (.notSubscriptable table.holder)

/-- What stands in a text for a character, as a table of characters says: a character of another
number, a text, or nothing. -/
def mappedCharacter (table : Value) (c : Char) : Except Fault (List Char) := do
  match ← underCharacter? table c with
  | Option.none => return [c]
  | some v =>
    match v, v.text?, v.held.index? with
    | none, _, _ => return []
    | _, some s, _ => return s.toList
    | _, Option.none, some n =>
      if 0 ≤ n ∧ n ≤ 0x10ffff then return [Char.ofNat n.toNat]
      else .error (.badArguments .value "character mapping must be in range(0x110000)")
    | _, Option.none, Option.none =>
      .error (operandFault "character mapping must return integer, None or str")

/-- What a member of a text gives. -/
def textMember? (s : String) (name : String) (operands : List Value) : Option Reply :=
  let chars := s.toList
  match ofCharacters.sharedMember? chars name operands, questionOf? chars name, recased? chars name,
    operands with
  | some outcome, _, _, _ => some outcome
  | _, some answer, _, _ => some (reply (bool answer))
  | _, _, some chars, _ => some (reply (str (String.ofList chars)))
  | _, _, _, [v] =>
    match name with
    | "__getitem__" => some (characterAt chars v)
    | "__contains__" => some do
      let complaint := "'in <string>' requires string as left operand, not " ++ v.typeName
      let part ← (operandFault complaint).ofOption (characters? v)
      reply (bool (Search.first? part chars).isSome)
    | "__add__" => some do
      let complaint := "can only concatenate str (not \"" ++ v.typeName ++ "\") to str"
      let other ← (operandFault complaint).ofOption v.text?
      reply (str (s ++ other))
    | "translate" => some do
      let pieces ← chars.mapM (mappedCharacter v)
      reply (str (String.ofList pieces.flatten))
    | "encode" => some (encoded s operands)
    | _ => Option.none
  | _, _, _, operands => if name = "encode" then some (encoded s operands) else Option.none

end Characters

section Bytes

/-- What a question about all bytes is answered. -/
def questionOfBytes? (content : List UInt8) (name : String) : Option Bool :=
  let areAll := fun (p : Char → Bool) => some (!content.isEmpty && content.all (holdsForByte p))
  let isTitled := Letters.areTitled false false ((charsOfBytes content).map fun c =>
    if c.toNat < 0x80 then c else ' ')
  match name with
  | "isascii" => some (content.all (·.toNat < 0x80))
  | "islower" => some (content.any (holdsForByte Char.isLower) && !content.any (holdsForByte Char.isUpper))
  | "isupper" => some (content.any (holdsForByte Char.isUpper) && !content.any (holdsForByte Char.isLower))
  | "istitle" => some isTitled
  | "isspace" => areAll isPlainBlank
  | "isdigit" => areAll Char.isDigit
  | "isalpha" => areAll Char.isAlpha
  | "isalnum" => areAll Char.isAlphanum
  | _ => Option.none

/-- A small letter for a capital one, and the other way around. -/
def swapLetter (c : Char) : Char :=
  if c.isUpper then c.toLower else c.toUpper

/-- Bytes whose words start with capital letters; the first operand says whether a letter was just
passed. -/
def titledBytes : Bool → List UInt8 → List UInt8
  | _, [] => []
  | within, b :: rest =>
    onByte (if within then Char.toLower else Char.toUpper) b ::
      titledBytes (holdsForByte Char.isAlpha b) rest

/-- Bytes with other letters. -/
def recasedBytes? (content : List UInt8) : String → Option (List UInt8)
  | "lower" => some (content.map (onByte Char.toLower))
  | "upper" => some (content.map (onByte Char.toUpper))
  | "title" => some (titledBytes false content)
  | "capitalize" =>
    some ((content.take 1).map (onByte Char.toUpper) ++ (content.drop 1).map (onByte Char.toLower))
  | "swapcase" => some (content.map (onByte swapLetter))
  | _ => Option.none

/-- What bytes give for a place. -/
def byteAt (content : List UInt8) (v : Value) : Reply := do
  match v.held.index? with
  | Option.none => .error (operandFault ("byte indices must be integers or slices, not " ++ v.typeName))
  | some n =>
    if n < -twoTo 63 ∨ twoTo 63 ≤ n then .error (.indexTooLarge v.typeName)
    else
      let i := if n < 0 then n + content.length else n
      match if i < 0 then Option.none else content[i.toNat]? with
      | some b => reply (int b.toNat)
      | Option.none => .error (.indexOutOfRange "")

/-- Bytes read as a text in an encoding. -/
def decodedText (content : List UInt8) (operands : List Value) : Reply := do
  let named := fun (i : Nat) (role default : String) =>
    match operands[i]? with
    | Option.none => Except.ok default
    | some v =>
      let what := "decode() argument '" ++ role ++ "'"
      (operandFault (what ++ " must be str, not " ++ v.operandWord)).ofOption v.text?
  let name ← named 0 "encoding" "utf-8"
  let _ ← named 1 "errors" "strict"
  let encoding ← Encoding.ofName name
  reply (str (← encoding.decode content))

/-- Bytes without some of them, and each of the others in the place that a table has for it. -/
def mappedBytes (content : List UInt8) (table : Value) (dropped? : Option Value) : Reply := do
  let table? ← match table, content? table with
    | none, _ => pure Option.none
    | _, some table => pure (some table)
    | _, Option.none => .error (Fault.needsBytes table.typeName)
  if table?.any (·.length ≠ 256) then
    .error (.badArguments .value "translation table must be 256 characters long")
  else
    let dropped ← match dropped? with
      | Option.none => pure []
      | some v => (Fault.needsBytes v.typeName).ofOption (content? v)
    let kept := content.filter fun b => !dropped.contains b
    reply (bytes (kept.map fun b => ((table?.bind (·[b.toNat]?)).getD b)))

/-- The two hexadecimal digits of a byte. -/
def hexadecimalByte (b : UInt8) : List Char :=
  [Nat.digitChar (b.toNat / 16), Nat.digitChar (b.toNat % 16)]

/-- What a member of bytes gives. -/
def bytesMember? (content : List UInt8) (name : String) (operands : List Value) : Option Reply :=
  match ofBytes.sharedMember? content name operands, questionOfBytes? content name,
    recasedBytes? content name, operands with
  | some outcome, _, _, _ => some outcome
  | _, some answer, _, _ => some (reply (bool answer))
  | _, _, some content, _ => some (reply (bytes content))
  | _, _, _, [] =>
    match name with
    | "hex" => some (reply (str (String.ofList (content.flatMap hexadecimalByte))))
    | "__bytes__" => some (reply (bytes content))
    | "decode" => some (decodedText content [])
    | _ => Option.none
  | _, _, _, [v] =>
    match name with
    | "__getitem__" => some (byteAt content v)
    | "__contains__" => some do
      let part ← match v.held.index? with
        | some _ => soughtBytes v
        | Option.none => (Fault.needsBytes v.typeName).ofOption (content? v)
      reply (bool (Search.first? part content).isSome)
    | "__add__" => some do
      let other ← (operandFault ("can't concat " ++ v.typeName ++ " to bytes")).ofOption (content? v)
      reply (bytes (content ++ other))
    | "decode" => some (decodedText content operands)
    | "translate" => some (mappedBytes content v Option.none)
    | _ => Option.none
  | _, _, _, [v, w] =>
    match name with
    | "decode" => some (decodedText content operands)
    | "translate" => some (mappedBytes content v (some w))
    | _ => Option.none
  | _, _, _, _ => Option.none

end Bytes

/-- What a member of a text or of bytes gives. -/
def writingMember? (v : Value) (name : String) (operands : List Value) : Option Reply :=
  match v.text?, content? v with
  | some s, _ => textMember? s name operands
  | Option.none, some content => bytesMember? content name operands
  | Option.none, Option.none => Option.none

end Value

end FilterAlgebra
