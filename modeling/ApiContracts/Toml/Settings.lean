import ApiContracts.Json.Reader

/-!
Flat TOML: one line per key, each with a truth value or a string in one of four notations.
Tables and other values are refused.
-/

namespace ApiContracts.Toml

open Text

inductive Setting where
  | flag (value : Bool)
  | text (value : String)
deriving DecidableEq, Repr

def isBlank (c : Char) : Bool := c == ' ' || c == '\t'

def isVisible (c : Char) : Bool := c == '\t' || (0x20 ≤ c.toNat && c.toNat != 0x7F)

def isKeyChar (c : Char) : Bool := isAsciiAlphanumeric c || c == '_' || c == '-'

def dropBreak? (text : List Char) : Option (List Char) :=
  match text with
  | '\n' :: rest => some rest
  | '\r' :: '\n' :: rest => some rest
  | _ => none

def readEscape (text : List Char) : Option (Char × List Char) :=
  let coded (width : Nat) (rest : List Char) :=
    let digits := rest.take width
    if digits.length != width then none
    else (Json.hexNumber? digits).bind fun code =>
      (Json.charOf? code).map (·, rest.drop width)
  match text with
  | 'b' :: rest => some ('\x08', rest)
  | 't' :: rest => some ('\t', rest)
  | 'n' :: rest => some ('\n', rest)
  | 'f' :: rest => some ('\x0c', rest)
  | 'r' :: rest => some ('\r', rest)
  | 'e' :: rest => some ('\x1b', rest)
  | '"' :: rest => some ('"', rest)
  | '\\' :: rest => some ('\\', rest)
  | 'x' :: rest => coded 2 rest
  | 'u' :: rest => coded 4 rest
  | 'U' :: rest => coded 8 rest
  | _ => none

/-- The text behind a line break and all blanks and breaks after it, where only blanks stand
before the break. -/
def dropFold? (text : List Char) : Option (List Char) :=
  (dropBreak? (text.dropWhile isBlank)).bind fun rest =>
    let behind := rest.dropWhile fun c => isBlank c || c == '\n' || c == '\r'
    let passed := rest.take (rest.length - behind.length)
    if (splitAt (· == '\r') passed).drop 1 |>.all (·.head? == some '\n') then some behind
    else none

def readLineString (mark : Char) : (fuel : Nat) → List Char → List Char →
    Option (String × List Char)
  | 0, _, _ => none
  | fuel + 1, done, text =>
    match text with
    | [] => none
    | c :: rest =>
      if c == mark then some (String.ofList done.reverse, rest)
      else if c == '\\' && mark == '"' then
        match readEscape rest with
        | some (c, rest) => readLineString mark fuel (c :: done) rest
        | none => none
      else if isVisible c then readLineString mark fuel (c :: done) rest
      else none

/-- Reads a string of several lines up to its three closing quotes; up to two quotes before
these belong to the string. -/
def readBlockString (mark : Char) : (fuel : Nat) → List Char → List Char →
    Option (String × List Char)
  | 0, _, _ => none
  | fuel + 1, done, text =>
    match text with
    | [] => none
    | c :: rest =>
      if c == mark then
        let quotes := (text.takeWhile (· == mark)).length
        if quotes < 3 then readBlockString mark fuel (c :: done) rest
        else if quotes > 5 then none
        else
          some (String.ofList (List.replicate (quotes - 3) mark ++ done).reverse,
            text.drop quotes)
      else if c == '\\' && mark == '"' then
        match dropFold? rest with
        | some rest => readBlockString mark fuel done rest
        | none =>
          match readEscape rest with
          | some (c, rest) => readBlockString mark fuel (c :: done) rest
          | none => none
      else if isVisible c || c == '\n' then readBlockString mark fuel (c :: done) rest
      else if c == '\r' && rest.head? == some '\n' then
        readBlockString mark fuel (c :: done) rest
      else none

def readString (text : List Char) : Option (String × List Char) :=
  match text with
  | mark :: rest =>
    if mark != '"' && mark != '\x27' then none
    else if [mark, mark].isPrefixOf rest then
      let inside := rest.drop 2
      let inside := (dropBreak? inside).getD inside
      readBlockString mark (inside.length + 1) [] inside
    else readLineString mark (rest.length + 1) [] rest
  | [] => none

def readKey (text : List Char) : Option (String × List Char) :=
  match text with
  | '"' :: rest => readLineString '"' (rest.length + 1) [] rest
  | '\x27' :: rest => readLineString '\x27' (rest.length + 1) [] rest
  | _ =>
    let word := text.takeWhile isKeyChar
    if word.isEmpty then none else some (String.ofList word, text.dropWhile isKeyChar)

def readSetting (text : List Char) : Option (Setting × List Char) :=
  match Json.dropWord? "true".toList text with
  | some rest => some (.flag true, rest)
  | none =>
    match Json.dropWord? "false".toList text with
    | some rest => some (.flag false, rest)
    | none => (readString text).map fun (value, rest) => (.text value, rest)

def readLineEnd (text : List Char) : Option (List Char) :=
  let text := text.dropWhile isBlank
  let text := if text.head? == some '#' then text.dropWhile isVisible else text
  if text.isEmpty then some [] else dropBreak? text

def readLines : (fuel : Nat) → List (String × Setting) → List Char →
    Option (List (String × Setting))
  | 0, _, _ => none
  | fuel + 1, settings, text =>
    let text := text.dropWhile isBlank
    if text.isEmpty then some settings
    else
      match readLineEnd text with
      | some rest => readLines fuel settings rest
      | none => do
        let (key, rest) ← readKey text
        let (value, rest) ←
          match rest.dropWhile isBlank with
          | '=' :: rest => readSetting (rest.dropWhile isBlank)
          | _ => none
        let rest ← readLineEnd rest
        if (settings.lookup key).isSome then none
        else readLines fuel (settings ++ [(key, value)]) rest

def read? (text : String) : Option (List (String × Setting)) :=
  let chars :=
    match text.toList with
    | c :: rest => if c.toNat == 0xFEFF then rest else c :: rest
    | [] => []
  readLines (chars.length + 1) [] chars

end ApiContracts.Toml
