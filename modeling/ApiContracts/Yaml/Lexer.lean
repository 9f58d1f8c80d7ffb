import ApiContracts.Yaml.Scalar
import ApiContracts.Yaml.Token

/-!
The tokens of a YAML text. Indentation opens and closes block collections, and a colon makes a
key of what stands before it on the same line.
-/

namespace ApiContracts.Yaml

structure KeyCandidate where
  position : Nat
  /-- Without a colon the text is malformed. -/
  required : Bool
  index : Nat
  line : Nat
  column : Nat
deriving Repr

structure Lexer where
  cursor : Cursor
  tokens : List Token
  count : Nat
  indent : Int
  indents : List Int
  keyAllowed : Bool
  candidate : Option KeyCandidate
  /-- The candidates around each pair of open brackets, innermost first. -/
  outer : List (Option KeyCandidate)
deriving Repr

namespace Lexer

def start (text : List Char) : Lexer :=
  { cursor := .start text, tokens := [], count := 0, indent := -1, indents := []
    keyAllowed := true, candidate := none, outer := [] }

def inFlow (lexer : Lexer) : Bool := !lexer.outer.isEmpty

def push (lexer : Lexer) (token : Token) : Lexer :=
  { lexer with tokens := token :: lexer.tokens, count := lexer.count + 1 }

def insert (lexer : Lexer) (position : Nat) (token : Token) : Lexer :=
  let later := lexer.count - position
  { lexer with
    tokens := lexer.tokens.take later ++ token :: lexer.tokens.drop later
    count := lexer.count + 1 }

def moveTo (lexer : Lexer) (cursor : Cursor) : Lexer := { lexer with cursor }

def skip (lexer : Lexer) (n : Nat) : Lexer := lexer.moveTo (lexer.cursor.skip n)

def allowKey (lexer : Lexer) (allowed : Bool) : Lexer := { lexer with keyAllowed := allowed }

/-- Whether a candidate is out of reach of a colon: on an earlier line, or too far back. -/
def isStale (lexer : Lexer) (candidate : KeyCandidate) : Bool :=
  candidate.line < lexer.cursor.line || candidate.index + 1024 < lexer.cursor.index

def refresh (lexer : Lexer) (candidate : Option KeyCandidate) : Option (Option KeyCandidate) :=
  match candidate with
  | some found => if lexer.isStale found then if found.required then none else some none
      else some (some found)
  | none => some none

def dropStale (lexer : Lexer) : Option Lexer := do
  let candidate ← lexer.refresh lexer.candidate
  let outer ← lexer.outer.mapM lexer.refresh
  return { lexer with candidate, outer }

def dropCandidate (lexer : Lexer) : Option Lexer :=
  if lexer.candidate.any (·.required) then none else some { lexer with candidate := none }

def saveCandidate (lexer : Lexer) : Option Lexer :=
  if lexer.keyAllowed then do
    let lexer ← lexer.dropCandidate
    return { lexer with
      candidate := some
        { position := lexer.count
          required := !lexer.inFlow && lexer.indent == lexer.cursor.column
          index := lexer.cursor.index
          line := lexer.cursor.line
          column := lexer.cursor.column } }
  else some lexer

def openBlock (lexer : Lexer) (column position : Nat) (token : Token) : Lexer :=
  if lexer.inFlow || lexer.indent ≥ column then lexer
  else
    let lexer := lexer.insert position token
    { lexer with indent := column, indents := lexer.indent :: lexer.indents }

def closeBlocksWith (lexer : Lexer) (column : Int) : List Int → Lexer
  | [] => lexer
  | outer :: rest =>
    if lexer.indent > column then
      closeBlocksWith { lexer.push .blockEnd with indent := outer, indents := rest } column rest
    else lexer

def closeBlocks (lexer : Lexer) (column : Int) : Lexer :=
  if lexer.inFlow then lexer else lexer.closeBlocksWith column lexer.indents

/-- Skips blanks, comments and line breaks up to the next token. Tabs count as blanks only where
they cannot be taken for indentation. A byte order mark may start a line. -/
def skipToToken : (fuel : Nat) → Lexer → Lexer
  | 0, lexer => lexer
  | fuel + 1, lexer =>
    let cursor := lexer.cursor
    let cursor :=
      if cursor.column == 0 && cursor.head?.any (·.toNat == 0xFEFF) then cursor.skip 1 else cursor
    let tabs := lexer.inFlow || !lexer.keyAllowed
    let cursor := cursor.skipWhile fun c => c == ' ' || (tabs && c == '\t')
    let cursor := if cursor.at? '#' then cursor.skipWhile (!isBreak ·) else cursor
    if cursor.head?.any isBreak then
      let lexer := lexer.moveTo cursor.readBreak.2
      skipToToken fuel (if lexer.inFlow then lexer else lexer.allowKey true)
    else lexer.moveTo cursor

def readVersionNumber (cursor : Cursor) : Option (Nat × Cursor) :=
  let (digits, behind) := cursor.span Text.isAsciiDigit
  if digits.isEmpty || digits.length > 9 then none else some (Json.spelled digits, behind)

def isTagChar (wide : Bool) (c : Char) : Bool :=
  isWordChar c || ";/?:@&=+$.!~*'()".toList.contains c || (wide && ",[]".toList.contains c)

def octetWidth? (octet : Nat) : Option Nat :=
  if octet < 0x80 then some 1
  else if 0xC0 ≤ octet && octet < 0xE0 then some 2
  else if 0xE0 ≤ octet && octet < 0xF0 then some 3
  else if 0xF0 ≤ octet && octet < 0xF8 then some 4
  else none

def readOctet (cursor : Cursor) : Option (Nat × Cursor) :=
  match cursor.rest with
  | '%' :: high :: low :: _ => (Json.hexNumber? [high, low]).map (·, cursor.skip 3)
  | _ => none

def readOctets : (n : Nat) → Nat → Cursor → Option (Nat × Cursor)
  | 0, code, cursor => some (code, cursor)
  | n + 1, code, cursor =>
    match readOctet cursor with
    | some (octet, next) =>
      if 0x80 ≤ octet && octet < 0xC0 then readOctets n (code * 64 + octet % 64) next else none
    | none => none

def readTagEscape (cursor : Cursor) : Option (Char × Cursor) := do
  let (octet, next) ← readOctet cursor
  let width ← octetWidth? octet
  let lead := if width == 1 then octet else octet % Nat.pow 2 (7 - width)
  let (code, next) ← readOctets (width - 1) lead next
  let c ← Json.charOf? code
  return (c, next)

def readTagChars (wide : Bool) : (fuel : Nat) → List Char → Cursor → Option (List Char × Cursor)
  | 0, _, _ => none
  | fuel + 1, done, cursor =>
    match cursor.head? with
    | none => some (done, cursor)
    | some c =>
      if c == '%' then
        match readTagEscape cursor with
        | some (c, next) => readTagChars wide fuel (done ++ [c]) next
        | none => none
      else if isTagChar wide c then readTagChars wide fuel (done ++ [c]) (cursor.skip 1)
      else some (done, cursor)

def readTagText (wide : Bool) (head : List Char) (cursor : Cursor) :
    Option (List Char × Cursor) := do
  let (text, next) ← readTagChars wide (cursor.rest.length + 1) (head.drop 1) cursor
  if head.isEmpty && text.isEmpty then none
  return (text, next)

/-- Reads a tag handle: an exclamation mark or a word between two of them. What lacks the second
one is returned as it stands, except in a directive. -/
def readHandle (inDirective : Bool) (cursor : Cursor) : Option (List Char × Cursor) :=
  if !cursor.at? '!' then none
  else
    let (word, behind) := (cursor.skip 1).span isWordChar
    if behind.at? '!' then some ('!' :: word ++ ['!'], behind.skip 1)
    else if inDirective && !word.isEmpty then none
    else some ('!' :: word, behind)

def readDirective (cursor : Cursor) : Option (Token × Cursor) := do
  let (name, cursor) := cursor.span isWordChar
  if !isGap cursor.head? then none
  let (token, cursor) ←
    if name == "YAML".toList then do
      let (major, cursor) ← readVersionNumber (cursor.skipWhile isBlank)
      if !cursor.at? '.' then none
      let (minor, cursor) ← readVersionNumber (cursor.skip 1)
      some (Token.versionDirective major minor, cursor)
    else if name == "TAG".toList then do
      let (handle, cursor) ← readHandle true (cursor.skipWhile isBlank)
      if !cursor.head?.any isBlank then none
      let (text, cursor) ← readTagText true [] (cursor.skipWhile isBlank)
      if !isGap cursor.head? then none
      some (Token.tagDirective (String.ofList handle) (String.ofList text), cursor)
    else none
  let cursor := cursor.skipWhile isBlank
  let cursor := if cursor.at? '#' then cursor.skipWhile (!isBreak ·) else cursor
  if isLineEnd cursor.head? then return (token, cursor.readBreak.2) else none

def readName (cursor : Cursor) : Option (String × Cursor) :=
  let (name, behind) := cursor.span isWordChar
  let ends := isGap behind.head? || behind.head?.any fun c => "?:,]%@".toList.contains c ||
    c == '\x7d' || c.toNat == 96
  if name.isEmpty || !ends then none else some (String.ofList name, behind)

def readTag (inFlow : Bool) (cursor : Cursor) : Option (TagText × Cursor) := do
  let (tag, cursor) ←
    if cursor.peek 1 == some '<' then do
      let (text, cursor) ← readTagText true [] (cursor.skip 2)
      if !cursor.at? '>' then none
      some (TagText.mk "" (String.ofList text), cursor.skip 1)
    else do
      let (handle, cursor) ← readHandle false cursor
      if handle.length > 1 && handle.getLast? == some '!' then do
        let (text, cursor) ← readTagText false [] cursor
        some (TagText.mk (String.ofList handle) (String.ofList text), cursor)
      else do
        let (text, cursor) ← readTagText false handle cursor
        some (if text.isEmpty then ⟨"", "!"⟩ else ⟨"!", String.ofList text⟩, cursor)
  if isGap cursor.head? || (inFlow && cursor.at? ',') then return (tag, cursor) else none

/-- A colon behind a candidate makes a key of it; elsewhere it stands for an empty key. -/
def value (lexer : Lexer) : Option Lexer :=
  match lexer.candidate with
  | some found =>
    let lexer := lexer.insert found.position .key
    let lexer := lexer.openBlock found.column found.position .blockMappingStart
    some (({ lexer with candidate := none }.allowKey false).skip 1 |>.push .value)
  | none =>
    if lexer.inFlow then some ((lexer.allowKey false).skip 1 |>.push .value)
    else if !lexer.keyAllowed then none
    else
      let lexer := lexer.openBlock lexer.cursor.column lexer.count .blockMappingStart
      some ((lexer.allowKey true).skip 1 |>.push .value)

def marked (lexer : Lexer) (opening token : Token) (allowed : Bool) : Option Lexer := do
  if !lexer.inFlow && !lexer.keyAllowed then none
  let lexer := lexer.openBlock lexer.cursor.column lexer.count opening
  let lexer ← lexer.dropCandidate
  return (lexer.allowKey allowed).skip 1 |>.push token

def startsPlain (inFlow : Bool) (c : Char) (next : Option Char) : Bool :=
  (!isGap (some c) && !"-?:,[]#&*!|>%@\"'".toList.contains c && c != '\x7b' && c != '\x7d' &&
      c.toNat != 96) ||
    (c == '-' && !next.any isBlank) || (!inFlow && (c == '?' || c == ':') && !isGap next)

def token (fuel : Nat) (lexer : Lexer) (c : Char) : Option Lexer :=
  let cursor := lexer.cursor
  let next := cursor.peek 1
  if c == '[' || c == '\x7b' then do
    let lexer ← lexer.saveCandidate
    let opened := { lexer with outer := lexer.candidate :: lexer.outer, candidate := none }
    return (opened.allowKey true).skip 1 |>.push
      (if c == '[' then .flowSequenceStart else .flowMappingStart)
  else if c == ']' || c == '\x7d' then do
    let lexer ← lexer.dropCandidate
    let closed :=
      match lexer.outer with
      | [] => lexer
      | candidate :: outer => { lexer with candidate, outer }
    return (closed.allowKey false).skip 1 |>.push
      (if c == ']' then .flowSequenceEnd else .flowMappingEnd)
  else if c == ',' then do
    let lexer ← lexer.dropCandidate
    return (lexer.allowKey true).skip 1 |>.push .flowEntry
  else if c == '-' && isGap next then
    if lexer.inFlow then do
      let lexer ← lexer.dropCandidate
      return (lexer.allowKey true).skip 1 |>.push .blockEntry
    else lexer.marked .blockSequenceStart .blockEntry true
  else if c == '?' && (lexer.inFlow || isGap next) then
    lexer.marked .blockMappingStart .key (!lexer.inFlow)
  else if c == ':' && (lexer.inFlow || isGap next) then lexer.value
  else if c == '*' || c == '&' then do
    let lexer ← lexer.saveCandidate
    let (name, cursor) ← readName (cursor.skip 1)
    return (lexer.allowKey false).moveTo cursor |>.push
      (if c == '*' then .aliasOf name else .anchor name)
  else if c == '!' then do
    let lexer ← lexer.saveCandidate
    let (tag, cursor) ← readTag lexer.inFlow cursor
    return (lexer.allowKey false).moveTo cursor |>.push (.tag tag)
  else if (c == '|' || c == '>') && !lexer.inFlow then do
    let lexer ← lexer.dropCandidate
    let (text, cursor) ← readBlock (c == '>') lexer.indent fuel (cursor.skip 1)
    return (lexer.allowKey true).moveTo cursor |>.push (.scalar (String.ofList text) false)
  else if c == '\x27' || c == '"' then do
    let lexer ← lexer.saveCandidate
    let (text, cursor) ← readQuoted (c == '\x27') fuel [] (cursor.skip 1)
    return (lexer.allowKey false).moveTo cursor |>.push (.scalar (String.ofList text) false)
  else if startsPlain lexer.inFlow c next then do
    let lexer ← lexer.saveCandidate
    let (text, broken, cursor) ←
      readPlain lexer.inFlow (lexer.indent + 1).toNat fuel [] .none cursor
    return (lexer.allowKey broken).moveTo cursor |>.push (.scalar (String.ofList text) true)
  else none

def leaveBlocks (lexer : Lexer) : Option Lexer :=
  ((lexer.closeBlocks (-1)).dropCandidate).map (·.allowKey false)

def run : (fuel : Nat) → Lexer → Option Lexer
  | 0, _ => none
  | fuel + 1, lexer =>
    match (skipToToken (fuel + 1) lexer).dropStale with
    | none => none
    | some lexer =>
      let cursor := lexer.cursor
      let lexer := lexer.closeBlocks cursor.column
      match cursor.head? with
      | none => lexer.leaveBlocks.map (·.push .streamEnd)
      | some c =>
        let step :=
          if cursor.column == 0 && c == '%' then do
            let lexer ← lexer.leaveBlocks
            let (token, cursor) ← readDirective (cursor.skip 1)
            some (lexer.moveTo cursor |>.push token)
          else if cursor.atDocumentMark ['-', '-', '-'] then
            lexer.leaveBlocks.map fun lexer => lexer.skip 3 |>.push .documentStart
          else if cursor.atDocumentMark ['.', '.', '.'] then
            lexer.leaveBlocks.map fun lexer => lexer.skip 3 |>.push .documentEnd
          else lexer.token (fuel + 1) c
        match step with
        | none => none
        | some lexer => run fuel lexer

end Lexer

def tokens? (text : String) : Option (List Token) :=
  let chars := text.toList
  if chars.all isAllowed then
    (Lexer.run (chars.length + 2) (.start chars)).map (·.tokens.reverse)
  else none

end ApiContracts.Yaml
