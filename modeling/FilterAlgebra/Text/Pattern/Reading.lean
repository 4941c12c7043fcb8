import FilterAlgebra.Text.Pattern
import FilterAlgebra.Text.Pattern.Fault

/-!
# Reading patterns

A pattern is written with characters that stand for themselves, sets of characters in
brackets, groups in parentheses, signs of choice and repetition, and escapes. It is read
from left to right; switches in it say how what follows in the same group is taken. A
pattern that asks for a set that there is not, is at fault only if nothing else is.
-/

set_option autoImplicit false

namespace FilterAlgebra

/-- How what follows in a pattern is taken. -/
structure Switches where
  /-- A letter stands for all of its forms. -/
  anyCase : Bool := false
  /-- Lines have starts and ends of their own. -/
  byLine : Bool := false
  /-- A point stands for line ends, too. -/
  withLineEnds : Bool := false
  /-- Returns end lines. -/
  withReturns : Bool := false
  /-- Blanks and remarks in the pattern do not count. -/
  spaced : Bool := false
  /-- Sets are of characters of all scripts. -/
  ofAllScripts : Bool := true
  /-- The end of a text may be that of its last line, and what is around a place can be looked at. -/
  classic : Bool := false

namespace PatternReading

/-- How far a pattern was read. -/
structure State where
  rest : List Char
  spot : Spot := {}
  switches : Switches := {}
  /-- The names of groups, and where they are written. -/
  names : List (String × Span) := []
  /-- A fault that only counts if there is no other. -/
  late? : Option PatternFault := none

/-- The reading of a part of a pattern. -/
abbrev Reader := StateT State (Except PatternFault)

section Steps

/-- Stops at a fault. -/
def failAt {α : Type} (complaint : String) (spans : List Span) : Reader α :=
  throw ⟨complaint, spans⟩

/-- The next character. -/
def peek? : Reader (Option Char) :=
  return (← get).rest.head?

/-- Whether everything was read. -/
def atEnd : Reader Bool :=
  return (← get).rest.isEmpty

/-- The place of reading. -/
def spot : Reader Spot :=
  return (← get).spot

/-- The place of reading as a span without characters. -/
def here : Reader Span := do
  let at_ ← spot
  return ⟨at_, at_⟩

/-- The span from a spot to the place of reading. -/
def since (start : Spot) : Reader Span :=
  return ⟨start, ← spot⟩

/-- The span of the next character. -/
def nextSpan : Reader Span := do
  let s ← get
  return ⟨s.spot, (s.rest.head?.map s.spot.past).getD s.spot⟩

/-- Passes over some characters. -/
def pass : Nat → Reader Unit
  | 0 => return ()
  | count + 1 => do
    modify fun s =>
      match s.rest with
      | [] => s
      | c :: rest => { s with rest, spot := s.spot.past c }
    pass count

/-- How many characters are passed over where blanks and remarks do not count; whether a remark has begun
is told first. -/
def blanksIn : Bool → List Char → Nat
  | _, [] => 0
  | true, c :: rest => blanksIn (c ≠ '\n') rest + 1
  | false, c :: rest =>
    if isSpace c then blanksIn false rest + 1
    else if c = '#' then blanksIn true rest + 1
    else 0

/-- Passes over blanks and remarks where they do not count. -/
def passBlanks : Reader Unit := do
  let s ← get
  if s.switches.spaced then pass (blanksIn false s.rest) else return ()

/-- Passes over one character, and over what does not count; tells whether anything is left. -/
def advance : Reader Bool := do
  pass 1
  passBlanks
  return !(← atEnd)

/-- Passes over certain characters if they are next, and tells whether they were. -/
def passIf (word : String) : Reader Bool := do
  if word.toList.isPrefixOf (← get).rest then
    pass word.length
    return true
  else return false

/-- Passes over the first of some words that is next, and tells which one it was. -/
def passAny : List String → Reader (Option String)
  | [] => return none
  | word :: rest => do if ← passIf word then return some word else passAny rest

/-- The character after the next one, blanks between them not counting where they do not count. -/
def peekBehind? : Reader (Option Char) := do
  let s ← get
  let rest := s.rest.drop 1
  return if s.switches.spaced then (rest.drop (blanksIn false rest)).head? else rest.head?

/-- The characters up to one that does not satisfy `p`, which are passed over. -/
def passWhile (p : Char → Bool) : Reader String := do
  let taken := (← get).rest.takeWhile p
  pass taken.length
  return String.ofList taken

/-- Notes a fault that only counts if there is no other. -/
def noteLate (complaint : String) (span : Span) : Reader Unit :=
  modify fun s => { s with late? := s.late?.or (some ⟨complaint, [span]⟩) }

/-- Notes that a set of bytes is asked for which are no characters. -/
def noteBytes (span : Span) : Reader Unit := do
  if (← get).switches.ofAllScripts then return () else noteLate "pattern can match invalid UTF-8" span

end Steps

/-- A single sign of a pattern. -/
inductive Sign where
  | literal (c : Char)
  | set (s : CharSet)
  | assertion (a : Assertion)
  | point

section Escapes

/-- A set closed under the forms of letters where these do not matter. -/
def inForms (s : CharSet) : Reader CharSet :=
  return if (← get).switches.anyCase then .forms s else s

/-- The characters that words are made of. -/
def wordSet : Reader CharSet :=
  return if (← get).switches.ofAllScripts then .wordCharacters else .plainWordCharacters

/-- The complaint about an escape that is not written to its end. -/
def cutOff : String :=
  "incomplete escape sequence, reached end of pattern prematurely"

/-- The complaint about an escape that there is not. -/
def unknownEscape : String :=
  "unrecognized escape sequence"

/-- The characters that mean something in patterns. -/
def isMeta (c : Char) : Bool :=
  "\\.+*?()|[]\x7b\x7d^$#&-~".contains c

/-- Whether a character may be escaped to stand for itself. -/
def isEscapable (c : Char) : Bool :=
  isMeta c || (c.toNat < 0x80 && !c.isAlphanum && c ≠ '<' && c ≠ '>')

/-- The value of a hexadecimal digit. -/
def hexadecimal? (c : Char) : Option Nat :=
  if '0' ≤ c ∧ c ≤ '9' then some (c.toNat - 48)
  else if 'a' ≤ c ∧ c ≤ 'f' then some (c.toNat - 87)
  else if 'A' ≤ c ∧ c ≤ 'F' then some (c.toNat - 55)
  else none

/-- The character of a number, unless there is none. -/
def characterOf (n : Nat) (span : Span) : Reader Char :=
  if n < 0xd800 ∨ (0xdfff < n ∧ n ≤ 0x10ffff) then return Char.ofNat n
  else failAt "hexadecimal literal is not a Unicode scalar value" [span]

/-- So many hexadecimal digits, read at the next character. -/
def hexadecimalDigits : Nat → Nat → Reader Nat
  | 0, n => return n
  | count + 1, n => do
    match (← peek?).bind hexadecimal? with
    | some digit =>
      if count = 0 then
        let _ ← advance
        return 16 * n + digit
      else if ← advance then hexadecimalDigits count (16 * n + digit)
      else failAt cutOff [← here]
    | none => failAt "invalid hexadecimal digit" [← nextSpan]

/-- Hexadecimal digits up to a closing brace. -/
def bracedDigits (brace : Spot) : Nat → Option Nat → Reader (Option Nat)
  | 0, n => return n
  | steps + 1, n => do
    let more ← advance
    let next? ← peek?
    if !more then failAt cutOff [← since brace]
    else if next? = some '\x7d' then return n
    else
      match next?.bind hexadecimal? with
      | some digit => bracedDigits brace steps (some (16 * n.getD 0 + digit))
      | none => failAt "invalid hexadecimal digit" [← nextSpan]

/-- A character that is written by its number. -/
def numberedCharacter (count : Nat) : Reader Char := do
  if !(← advance) then failAt cutOff [← here]
  else
    let start ← spot
    if (← peek?) = some '\x7b' then
      let inside := (← nextSpan).stop
      let n? ← bracedDigits start ((← get).rest.length + 1) none
      let stop ← spot
      let _ ← advance
      match n? with
      | none => failAt "hexadecimal literal empty" [← since start]
      | some n => characterOf n ⟨inside, stop⟩
    else
      let n ← hexadecimalDigits count 0
      characterOf n (← since start)

/-- The name of a property, and the value that it is to have or not to have. -/
def splitProperty (text : String) : String × Option (Bool × String) :=
  let cutAt := fun (sign : String) (isEqual : Bool) =>
    match text.splitOn sign with
    | name :: value :: more => some (name, some (isEqual, sign.intercalate (value :: more)))
    | _ => none
  ((cutAt "!=" false).or ((cutAt ":" true).or (cutAt "=" true))).getD (text, none)

/-- The set that a property stands for. -/
def propertySet (text : String) (start : Spot) : Reader CharSet := do
  match splitProperty text with
  | (name, none) =>
    match CharSet.ofProperty? name with
    | some s => return s
    | none =>
      noteLate "Unicode property not found" (← since start)
      return .empty
  | (name, some (isEqual, value)) =>
    match CharSet.ofPropertyValue? name value with
    | some (some s) => return if isEqual then s else .complement s
    | some none =>
      noteLate "Unicode property value not found" (← since start)
      return .empty
    | none =>
      noteLate "Unicode property not found" (← since start)
      return .empty

/-- A set of characters with a property. -/
def propertySign (start : Spot) (negated : Bool) : Reader Sign := do
  if !(← advance) then failAt cutOff [← here]
  else
    let text ← match ← peek? with
      | some '\x7b' =>
        pass 1
        let text ← passWhile (· ≠ '\x7d')
        if ← atEnd then failAt cutOff [← here]
        else
          pass 1
          pure text
      | some '\\' => failAt "invalid Unicode character class" [← nextSpan]
      | next? =>
        let _ ← advance
        pure (String.ofList next?.toList)
    let s ← inForms (← propertySet text start)
    return .set (if negated then .complement s else s)

/-- What is asked of a place by a word in braces behind an escape, if there is such a word. -/
def wordAssertion? (start : Spot) (word : CharSet) : Reader (Option Assertion) := do
  let before ← get
  let brace ← spot
  if !(← advance) then
    failAt ("found either the beginning of a special word boundary or a bounded repetition on a \\b with " ++
      "an opening brace, but no closing brace") [⟨start, ← spot⟩]
  else
    let isNamed := fun (c : Char) => c.isAlpha || c = '-'
    let inside ← spot
    if !(← peek?).any isNamed then
      set before
      return none
    else
      let name ← passWhile isNamed
      if (← peek?) ≠ some '\x7d' then
        failAt "special word boundary assertion is either unclosed or contains an invalid character"
          [⟨brace, ← spot⟩]
      else
        let span ← since inside
        pass 1
        match name with
        | "start" => return some (.wordStart word)
        | "end" => return some (.wordEnd word)
        | "start-half" => return some (.outsideBefore word)
        | "end-half" => return some (.outsideAfter word)
        | _ =>
          failAt ("unrecognized special word boundary assertion, valid choices are: start, end, " ++
            "start-half or end-half") [span]

/-- The edge of a word, with what is asked of it. -/
def wordEdge (start : Spot) : Reader Sign := do
  let word ← wordSet
  if (← peek?) = some '\x7b' then
    match ← wordAssertion? start word with
    | some a => return .assertion a
    | none => return .assertion (.wordEdge word)
  else return .assertion (.wordEdge word)

/-- A set that goes by a letter, or what is not in it. -/
def letteredSet (c : Char) (start : Spot) : Reader Sign := do
  pass 1
  let all := (← get).switches.ofAllScripts
  let s ← match c.toLower with
    | 'd' => pure (if all then CharSet.digits else .plainDigits)
    | 's' => pure (if all then CharSet.spaces else .plainSpaces)
    | _ => wordSet
  if c.isUpper then
    noteBytes (← since start)
    return .set (.complement s)
  else return .set s

/-- An escape. -/
def escape : Reader Sign := do
  let start ← spot
  pass 1
  match ← peek? with
  | none => failAt cutOff [← since start]
  | some c =>
    if c.isDigit then failAt "backreferences are not supported" [⟨start, (← nextSpan).stop⟩]
    else if c = 'x' then return .literal (← numberedCharacter 2)
    else if c = 'u' then return .literal (← numberedCharacter 4)
    else if c = 'U' then return .literal (← numberedCharacter 8)
    else if c = 'p' || c = 'P' then propertySign start (c = 'P')
    else if "dswDSW".contains c then letteredSet c start
    else
      pass 1
      if isEscapable c then return .literal c
      else
        match c with
        | 'a' => return .literal '\x07'
        | 'f' => return .literal '\x0c'
        | 't' => return .literal '\t'
        | 'n' => return .literal '\n'
        | 'r' => return .literal '\r'
        | 'v' => return .literal '\x0b'
        | 'A' => return .assertion .textStart
        | 'z' => return .assertion .textEnd
        | 'Z' =>
          if (← get).switches.classic then return .assertion .textEnd
          else failAt unknownEscape [← since start]
        | 'b' => wordEdge start
        | 'B' => return .assertion (.noWordEdge (← wordSet))
        | '<' => return .assertion (.wordStart (← wordSet))
        | '>' => return .assertion (.wordEnd (← wordSet))
        | _ => failAt unknownEscape [← since start]

end Escapes

section Sets

/-- How two sets are put together. -/
inductive SetOperator where
  | both
  | without
  | apart

/-- Two sets put together. -/
def SetOperator.apply (operator : SetOperator) (s t : CharSet) : CharSet :=
  match operator with
  | both => .inter s t
  | without => .inter s (.complement t)
  | apart => .inter (.union s t) (.complement (.inter s t))

/-- The set on the left of an operator, and one on its right. -/
def combine (left? : Option (CharSet × SetOperator)) (s : CharSet) : CharSet :=
  match left? with
  | some (left, operator) => operator.apply left s
  | none => s

/-- The complaint about a set without an end. -/
def unclosedSet : String :=
  "unclosed character class"

/-- The named set of ASCII that is next, if there is one. -/
def asciiSet? : Reader (Option CharSet) := do
  let before ← get
  if ← passIf "[:" then
    let negated ← passIf "^"
    let name ← passWhile (· ≠ ':')
    let closed ← passIf ":]"
    match closed, CharSet.ofAscii? name with
    | true, some s =>
      let s ← inForms s
      return some (if negated then .complement s else s)
    | _, _ =>
      set before
      return none
  else return none

/-- One end of a range, or what stands for itself in a set, and where it stands. -/
def setSign : Reader (Sign × Span) := do
  let start ← spot
  match ← peek? with
  | some '\\' =>
    let sign ← escape
    return (sign, ← since start)
  | next? =>
    pass 1
    return (.literal (next?.getD ' '), ← since start)

/-- A sign as a set. -/
def setOfSign (sign : Sign) (span : Span) : Reader CharSet :=
  match sign with
  | .literal c => inForms (.single c)
  | .set s => return s
  | .assertion _ | .point => failAt "invalid escape sequence found in character class" [span]

/-- A sign as an end of a range. -/
def rangeEnd (sign : Sign) (span : Span) : Reader Char :=
  match sign with
  | .literal c => return c
  | _ => failAt "invalid range boundary, must be a literal" [span]

/-- A range, or a single sign. -/
def setRange (open_ : Span) : Reader CharSet := do
  let (first, firstSpan) ← setSign
  passBlanks
  let behind? ← peekBehind?
  match ← peek? with
  | none => failAt unclosedSet [open_]
  | some c =>
    if c ≠ '-' || behind? = some ']' || behind? = some '-' then setOfSign first firstSpan
    else if !(← advance) then failAt unclosedSet [open_]
    else
      let (last, lastSpan) ← setSign
      let a ← rangeEnd first firstSpan
      let b ← rangeEnd last lastSpan
      if b < a then
        failAt "invalid character class range, the start must be <= the end"
          [⟨firstSpan.start, lastSpan.stop⟩]
      else inForms (.within [(a.toNat, b.toNat)])

/-- The dashes at the start of a set. -/
def leadingDashes (start : Spot) : Nat → CharSet → Reader CharSet
  | 0, s => return s
  | steps + 1, s => do
    if (← peek?) = some '-' then
      if ← advance then leadingDashes start steps (.single '-')
      else failAt unclosedSet [⟨start, start⟩]
    else return s

/-- The opening of a set: whether what is not in it is meant, what is in it so far, and the span of the
opening. -/
def openSet : Reader (Bool × CharSet × Span) := do
  let start ← spot
  if !(← advance) then failAt unclosedSet [← since start]
  else
    let negated := (← peek?) = some '^'
    let more ← if negated then advance else pure true
    if !more then failAt unclosedSet [← since start]
    else
      let s ← leadingDashes start (← get).rest.length .empty
      match s, (← peek?) with
      | .within [], some ']' =>
        if ← advance then return (negated, .single ']', ← since start)
        else failAt unclosedSet [← since start]
      | s, _ => return (negated, s, ← since start)

mutual

/-- A set in brackets, read in at most so many steps. -/
def bracketed : Nat → Reader CharSet
  | 0 => failAt unclosedSet []
  | steps + 1 => do
    let start ← spot
    let (negated, s, open_) ← openSet
    let s ← setItems open_ steps none s
    if negated then
      noteBytes (← since start)
      return .complement s
    else return s

/-- What is in a set up to its end, given what was read so far. -/
def setItems (open_ : Span) : Nat → Option (CharSet × SetOperator) → CharSet → Reader CharSet
  | 0, _, _ => failAt unclosedSet [open_]
  | steps + 1, left?, s => do
    passBlanks
    match (← get).rest with
    | [] => failAt unclosedSet [open_]
    | '[' :: _ =>
      match ← asciiSet? with
      | some t => setItems open_ steps left? (.union s t)
      | none => do
        let t ← bracketed steps
        setItems open_ steps left? (.union s t)
    | ']' :: _ =>
      pass 1
      return combine left? s
    | '&' :: '&' :: _ =>
      pass 2
      setItems open_ steps (some (combine left? s, .both)) .empty
    | '-' :: '-' :: _ =>
      pass 2
      setItems open_ steps (some (combine left? s, .without)) .empty
    | '~' :: '~' :: _ =>
      pass 2
      setItems open_ steps (some (combine left? s, .apart)) .empty
    | _ => do
      let t ← setRange open_
      setItems open_ steps left? (.union s t)

end

end Sets

section Groups

/-- A natural number, blanks around which do not count, or the fault that there is none. -/
def decimal : Reader (Except PatternFault Nat) := do
  let _ ← passWhile isSpace
  let start ← spot
  let text ← passWhile Char.isDigit
  let span ← since start
  let _ ← passWhile isSpace
  match text.toNat? with
  | none => return .error ⟨"repetition quantifier expects a valid decimal", [span]⟩
  | some n => return if n < 0x100000000 then .ok n else .error ⟨"decimal literal invalid", [span]⟩

/-- The complaint about bounds without an end. -/
def unclosedBounds : String :=
  "unclosed counted repetition"

/-- The bounds of a repetition that is written in braces, up to the closing one. -/
def bounds : Reader (Nat × Option Nat) := do
  let start ← spot
  if !(← advance) then failAt unclosedBounds [← since start]
  else
    let least ← decimal
    match ← peek? with
    | none => failAt unclosedBounds [← since start]
    | some ',' =>
      if !(← advance) then failAt unclosedBounds [← since start]
      else if (← peek?) = some '\x7d' then
        let least ← least
        return (least, none)
      else
        let least ← least
        let most ← (← decimal)
        return (least, some most)
    | some _ =>
      let n ← least
      return (n, some n)

/-- What was read of a branch: patterns, or switches, which cannot be repeated. -/
abbrev Items := List (Option Pattern)

/-- A branch as a pattern, its items being given from the last to the first. -/
def branchOf (items : Items) : Pattern :=
  .inRow (items.reverse.filterMap id)

/-- The last item of a branch as what is to be repeated, and the items before it. -/
def repeatable (items : Items) : Reader (Pattern × Items) := do
  match items with
  | some p :: before => return (p, before)
  | _ => failAt "repetition operator missing expression" [← here]

/-- Passes over the sign that a repetition takes as little as it can, which makes no difference here. -/
def passLazy : Reader Unit := do
  if (← peek?) = some '?' then pass 1 else return ()

/-- An item repeated within bounds in braces. -/
def counted (items : Items) : Reader Items := do
  let start ← spot
  let (p, before) ← repeatable items
  let (least, most) ← bounds
  if (← peek?) ≠ some '\x7d' then failAt unclosedBounds [← since start]
  else
    if ← advance then passLazy
    if most.any (· < least) then
      failAt "invalid repetition count range, the start must be <= the end" [← since start]
    else return some (.repeated p least most) :: before

/-- An item repeated as one sign says. -/
def uncounted (least : Nat) (most : Option Nat) (items : Items) : Reader Items := do
  let (p, before) ← repeatable items
  pass 1
  passLazy
  return some (.repeated p least most) :: before

/-- The name of a group. -/
def groupName : Reader Unit := do
  let unclosed := "unclosed capture group name"
  if ← atEnd then failAt unclosed [← here]
  else
    let start ← spot
    let name ← passWhile fun c =>
      Letters.isLetter c || Letters.isNumber c || ['_', '.', '[', ']'].contains c
    let startsWell := name.toList.head?.all fun c => c = '_' || Letters.isLetter c
    if !startsWell then
      let first := (name.toList.head?.map start.past).getD start
      failAt "invalid capture group character" [⟨start, first⟩]
    else
      match ← peek? with
      | none => failAt unclosed [← here]
      | some '>' =>
        let span ← since start
        pass 1
        if name.isEmpty then failAt "empty capture group name" [⟨start, start⟩]
        else
          match (← get).names.find? (·.1 = name) with
          | some (_, other) => failAt "duplicate capture group name" [span, other]
          | none => modify fun s => { s with names := (name, span) :: s.names }
      | some _ => failAt "invalid capture group character" [← nextSpan]

/-- Switches with one of them turned on or off, if there is such a switch. -/
def turned? (c : Char) (on : Bool) (switches : Switches) : Option Switches :=
  match c with
  | 'i' => some { switches with anyCase := on }
  | 'm' => some { switches with byLine := on }
  | 's' => some { switches with withLineEnds := on }
  | 'R' => some { switches with withReturns := on }
  | 'x' => some { switches with spaced := on }
  | 'u' => some { switches with ofAllScripts := on }
  | 'U' => some switches
  | _ => none

/-- Reads switches up to the end of them. The switches read before are given with where they stand. -/
def readSwitches : Nat → Bool → List (Char × Span) → Switches → Reader (Switches × Nat)
  | 0, _, read, switches => return (switches, read.length)
  | steps + 1, on, read, switches => do
    match ← peek? with
    | some ':' | some ')' | none =>
      match read with
      | ('-', span) :: _ => failAt "dangling flag negation operator" [span]
      | _ => return (switches, read.length)
    | some c =>
      let span ← nextSpan
      let repeated? := read.find? (·.1 = c)
      let next ← if c = '-' then
          match repeated? with
          | some (_, other) => failAt "flag negation operator repeated" [span, other]
          | none => pure switches
        else
          match turned? c on switches, repeated? with
          | none, _ => failAt "unrecognized flag" [span]
          | some _, some (_, other) => failAt "duplicate flag" [span, other]
          | some next, none => pure next
      pass 1
      if ← atEnd then failAt "expected flag but got end of regex" [← here]
      else readSwitches steps (on && c ≠ '-') ((c, span) :: read) next

/-- The opening of a group: nothing if it only turned switches. -/
inductive Opening where
  | switched
  | opened
  /-- The group is only looked at, ahead or behind, to be there or not to be there. -/
  | looking (behind negated : Bool)

/-- Reads the opening of a group. -/
def openGroup (open_ : Span) : Reader Opening := do
  pass 1
  passBlanks
  match ← passAny ["?=", "?!", "?<=", "?<!"] with
  | some sign =>
    if (← get).switches.classic then return .looking (sign.length = 3) (sign.endsWith "!")
    else failAt "look-around, including look-ahead and look-behind, is not supported" [← since open_.start]
  | none =>
    let inner ← here
    if (← passAny ["?P<", "?<"]).isSome then
      groupName
      return .opened
    else if ← passIf "?" then
      if ← atEnd then failAt "unclosed group" [open_]
      else
        let s ← get
        let (switches, count) ← readSwitches (s.rest.length + 1) true [] s.switches
        let isGroup := (← peek?) = some ':'
        pass 1
        if isGroup then
          modify fun s => { s with switches }
          return .opened
        else if count = 0 then failAt "repetition operator missing expression" [inner]
        else
          modify fun s => { s with switches }
          return .switched
    else return .opened

/-- What a point stands for. -/
def pointSet : Reader CharSet := do
  let switches := (← get).switches
  if switches.withLineEnds then return .complement .empty
  else if switches.withReturns then return .complement (.within [(0xa, 0xa), (0xd, 0xd)])
  else return .complement (.single '\n')

/-- The pattern of a sign. -/
def patternOf (sign : Sign) : Reader Pattern := do
  match sign with
  | .literal c => return .one (← inForms (.single c))
  | .set s => return .one s
  | .assertion a => return .place a
  | .point => return .one (← pointSet)

/-- A sign outside of sets. -/
def plainSign (c : Char) : Reader Pattern := do
  let switches := (← get).switches
  match c with
  | '\\' => do patternOf (← escape)
  | '.' =>
    noteBytes (← nextSpan)
    pass 1
    patternOf .point
  | '^' =>
    pass 1
    patternOf (.assertion (if switches.byLine then .lineStart switches.withReturns else .textStart))
  | '$' =>
    pass 1
    patternOf (.assertion (if switches.byLine then .lineEnd switches.withReturns
      else if switches.classic then .lastLineEnd
      else .textEnd))
  | c =>
    pass 1
    patternOf (.literal c)

/-- The branches of a group up to its end, in at most so many steps: where the group was opened, the
branches before, and the items of the branch that is read, from the last to the first. -/
def branches : Nat → Option Span → List Pattern → Items → Reader Pattern
  | 0, _, _, _ => failAt "unclosed group" []
  | steps + 1, open?, before, items => do
    passBlanks
    let finished := Pattern.oneOf (before ++ [branchOf items])
    match ← peek?, open? with
    | none, none => return finished
    | none, some open_ => failAt "unclosed group" [open_]
    | some ')', none => failAt "unopened group" [← nextSpan]
    | some ')', some _ =>
      pass 1
      return finished
    | some '|', _ =>
      pass 1
      branches steps open? (before ++ [branchOf items]) []
    | some '(', _ =>
      let open_ ← nextSpan
      let outer := (← get).switches
      match ← openGroup open_ with
      | .switched => branches steps open? before (none :: items)
      | .opened =>
        let p ← branches steps (some open_) [] []
        modify fun s => { s with switches := outer }
        branches steps open? before (some p :: items)
      | .looking behind negated =>
        let p ← branches steps (some open_) [] []
        modify fun s => { s with switches := outer }
        branches steps open? before (some (.look behind negated p) :: items)
    | some '[', _ =>
      let s ← bracketed steps
      branches steps open? before (some (.one s) :: items)
    | some '?', _ => do branches steps open? before (← uncounted 0 (some 1) items)
    | some '*', _ => do branches steps open? before (← uncounted 0 none items)
    | some '+', _ => do branches steps open? before (← uncounted 1 none items)
    | some '\x7b', _ => do branches steps open? before (← counted items)
    | some c, _ =>
      let p ← plainSign c
      branches steps open? before (some p :: items)

end Groups

end PatternReading

/-- Reads a text as a pattern. -/
def Pattern.ofString (classic : Bool) (text : String) : Except PatternFault Pattern := do
  let chars := text.toList
  let (p, state) ← (PatternReading.branches (chars.length + 1) none [] []).run
    { rest := chars, switches := { classic } }
  match state.late? with
  | some f => throw f
  | none => return p

end FilterAlgebra
