import ApiContracts.Yaml.Cursor
import ApiContracts.Yaml.Resolve

/-!
Texts written as YAML scalars: plain where that reads back, otherwise between single quotes, on
lines of their own, or between double quotes.
-/

namespace ApiContracts.Yaml

def truthWords : List String :=
  ["y", "Y", "yes", "Yes", "YES", "n", "N", "no", "No", "NO", "true", "True", "TRUE", "false",
    "False", "FALSE", "on", "On", "ON", "off", "Off", "OFF"]

def isAmbiguous (text : String) : Bool :=
  truthWords.contains text || isPadded text.toList ||
    match plainValue? text with
    | some (.string _) => false
    | _ => true

def isPrintable (c : Char) : Bool :=
  let n := c.toNat
  n == 0x0A || (0x20 ≤ n && n ≤ 0x7E) || (0xA0 ≤ n && n ≤ 0xFFFD && n != 0xFEFF) || 0x10000 ≤ n

def isIndicator (c : Char) : Bool :=
  "#,[]&*!|>\"%@".toList.contains c || c == '\x27' || c == '\x7b' || c == '\x7d' || c.toNat == 96

/-- Whether a mark inside a text, behind `before`, would end a plain scalar. -/
def hasInnerMark (before : Char) : List Char → Bool
  | [] => false
  | c :: rest =>
    (c == ':' && isGap rest.head?) || (c == '#' && isGap (some before)) || hasInnerMark c rest

def hasPair (first second : Char → Bool) : List Char → Bool
  | a :: b :: rest => (first a && second b) || hasPair first second (b :: rest)
  | _ => false

def isPlainText (text : List Char) : Bool :=
  match text with
  | [] => true
  | c :: rest =>
    let starts := isIndicator c || ((c == '?' || c == ':' || c == '-') && isGap rest.head?)
    let marked := ['-', '-', '-'].isPrefixOf text || ['.', '.', '.'].isPrefixOf text
    !starts && !marked && !hasInnerMark c rest && c != ' ' && text.getLast? != some ' ' &&
      text.all fun c => isPrintable c && !isBreak c

def isSingleQuotable (text : List Char) : Bool :=
  text.all isPrintable && !hasPair isBreak (· == ' ') text && !hasPair (· == ' ') isBreak text

def isBlockText (text : List Char) : Bool :=
  !text.isEmpty && text.all isPrintable && text.getLast? != some ' ' &&
    !hasPair (· == ' ') isBreak text

def upperHex (width n : Nat) : List Char :=
  let digits := (Nat.toDigits 16 n).map Char.toUpper
  List.replicate (width - digits.length) '0' ++ digits

def escapeDouble (c : Char) : List Char :=
  let n := c.toNat
  if isPrintable c && !isBreak c && c != '"' && c != '\\' then [c]
  else
    match n with
    | 0x00 => ['\\', '0']
    | 0x07 => ['\\', 'a']
    | 0x08 => ['\\', 'b']
    | 0x09 => ['\\', 't']
    | 0x0A => ['\\', 'n']
    | 0x0B => ['\\', 'v']
    | 0x0C => ['\\', 'f']
    | 0x0D => ['\\', 'r']
    | 0x1B => ['\\', 'e']
    | 0x22 => ['\\', '"']
    | 0x5C => ['\\', '\\']
    | 0x85 => ['\\', 'N']
    | 0xA0 => ['\\', '_']
    | 0x2028 => ['\\', 'L']
    | 0x2029 => ['\\', 'P']
    | _ =>
      if n ≤ 0xFF then ['\\', 'x'] ++ upperHex 2 n
      else if n ≤ 0xFFFF then ['\\', 'u'] ++ upperHex 4 n
      else ['\\', 'U'] ++ upperHex 8 n

def indentLines (indent : Nat) (broken : Bool) : List Char → List Char
  | [] => []
  | c :: rest =>
    if isBreak c then c :: indentLines indent true rest
    else (if broken then List.replicate indent ' ' else []) ++ c :: indentLines indent false rest

def singleQuoted (indent : Nat) (text : List Char) : List Char :=
  let doubled := text.flatMap fun c => if c == '\x27' then [c, c] else [c]
  let closing := if text.getLast?.any isBreak then List.replicate indent ' ' else []
  ['\x27'] ++ indentLines indent false doubled ++ closing ++ ['\x27']

def doubleQuoted (text : List Char) : List Char := ['"'] ++ text.flatMap escapeDouble ++ ['"']

def blockText (indent : Nat) (text : List Char) : List Char :=
  let hint := if text.head?.any fun c => c == ' ' || isBreak c then ['2'] else []
  let (last, before) := (text.getLast?, text.dropLast.getLast?)
  let chomp :=
    if !last.any isBreak then ['-']
    else if before.all isBreak then ['+']
    else []
  let lines := if last == some '\n' then text.dropLast else text
  ['|'] ++ hint ++ chomp ++ ['\n'] ++ indentLines indent true lines

def scalarText (indent : Nat) (text : String) : String :=
  let chars := text.toList
  let quotedText :=
    if isSingleQuotable chars then singleQuoted indent chars else doubleQuoted chars
  String.ofList <|
    if chars.contains '\n' then
      if isBlockText chars then blockText indent chars else doubleQuoted chars
    else if isAmbiguous text || !isPlainText chars then quotedText
    else chars

end ApiContracts.Yaml
