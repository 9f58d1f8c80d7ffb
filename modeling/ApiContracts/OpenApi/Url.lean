import ApiContracts.Json.Reader

/-!
Absolute URLs: a scheme and, where the scheme or two slashes ask for one, an authority whose
host and service number are well formed. Of a host beyond ASCII only the ignored characters are
looked at.
-/

namespace ApiContracts.OpenApi.Url

open Text

def hostSchemes : List String := ["http", "https", "ws", "wss", "ftp"]

/-- The text as it is read: without controls and spaces at its ends, and without tabs and line
breaks anywhere. -/
def normalize (text : List Char) : List Char :=
  (dropEndWhile (·.toNat ≤ 0x20) (text.dropWhile (·.toNat ≤ 0x20))).filter fun c =>
    c != '\t' && c != '\n' && c != '\r'

def isSchemeChar (c : Char) : Bool := isAsciiAlphanumeric c || c == '+' || c == '-' || c == '.'

def splitScheme? (text : List Char) : Option (String × List Char) :=
  match text.takeWhile isSchemeChar, text.dropWhile isSchemeChar with
  | first :: rest, ':' :: after =>
    if isAsciiAlphanumeric first && !isAsciiDigit first then
      some (String.ofList (lowerAscii (first :: rest)), after)
    else none
  | _, _ => none

def isForbiddenInHost (c : Char) : Bool :=
  c.toNat == 0 || " #/:<>?@[\\]^|".toList.contains c

def isForbiddenInDomain (c : Char) : Bool :=
  c.toNat ≤ 0x20 || c.toNat == 0x7F || c == '%' || isForbiddenInHost c

def isIgnored (c : Char) : Bool :=
  inRanges [(0xAD, 0xAD), (0x200B, 0x200B), (0x2060, 0x2060), (0x2064, 0x2064),
    (0xFE00, 0xFE0F), (0xFEFF, 0xFEFF)] c.toNat

def decimal? (digits : List Char) : Option Nat :=
  if digits.all isAsciiDigit then some (Json.spelled digits) else none

def isServiceNumber (text : List Char) : Bool := (decimal? text).any (· < Nat.pow 2 16)

def addressPart? (label : List Char) : Option Nat :=
  match label with
  | [] => none
  | '0' :: 'x' :: digits | '0' :: 'X' :: digits => Json.hexNumber? digits
  | '0' :: digits =>
    if digits.all fun c => '0' ≤ c && c ≤ '7' then
      some (digits.foldl (fun value c => value * 8 + Json.digitValue c) 0)
    else none
  | digits => decimal? digits

/-- Whether numbers make an address of 32 bits: all but the last are bytes, and the last fills
what they leave. -/
def isAddress (parts : List Nat) : Bool :=
  parts.length ≤ 4 && parts.dropLast.all (· < 256) &&
    parts.getLast?.all (· < Nat.pow 256 (5 - parts.length))

/-- Whether a domain is well formed; one that ends in a number has to be an address. -/
def isDomain (domain : List Char) : Bool :=
  let pieces := splitAt (· == '.') domain
  let labels := if pieces.getLast? == some [] then pieces.dropLast else pieces
  let numeric := labels.getLast?.any fun label =>
    (!label.isEmpty && label.all isAsciiDigit) || (addressPart? label).isSome
  !domain.isEmpty && !domain.any isForbiddenInDomain &&
    (!numeric || (labels.mapM addressPart?).any isAddress)

def bytes (text : List Char) : List UInt8 := (String.ofList text).toUTF8.toList

def percentDecoded : List Char → List UInt8
  | '%' :: high :: low :: rest =>
    match Json.hexNumber? [high, low] with
    | some byte => UInt8.ofNat byte :: percentDecoded rest
    | none => bytes ['%'] ++ percentDecoded (high :: low :: rest)
  | c :: rest => bytes [c] ++ percentDecoded rest
  | [] => []

def domain? (host : List Char) : Option (List Char) :=
  (String.fromUTF8? ⟨(percentDecoded host).toArray⟩).map fun text =>
    text.toList.filter (!isIgnored ·)

def isDottedQuad (text : List Char) : Bool :=
  let parts := splitAt (· == '.') text
  parts.length == 4 && parts.all fun digits =>
    !digits.isEmpty && (digits.length == 1 || digits.head? != some '0') &&
      (decimal? digits).any (· < 256)

def isHexGroup (text : List Char) : Bool :=
  !text.isEmpty && text.length ≤ 4 && text.all fun c => (Json.hexValue? c).isSome

def groupCount? : List (List Char) → Option Nat
  | [] => some 0
  | [last] => if isHexGroup last then some 1 else if isDottedQuad last then some 2 else none
  | group :: rest => if isHexGroup group then (groupCount? rest).map (· + 1) else none

def splitGap? : List Char → Option (List Char × List Char)
  | ':' :: ':' :: rest => some ([], rest)
  | c :: rest => (splitGap? rest).map fun (before, behind) => (c :: before, behind)
  | [] => none

def groups (text : List Char) : List (List Char) :=
  if text.isEmpty then [] else splitAt (· == ':') text

/-- Whether a text is an address of eight groups of 16 bits, where two colons stand for one or
more groups of zeros. -/
def isWideAddress (text : List Char) : Bool :=
  match splitGap? text with
  | none => groupCount? (splitAt (· == ':') text) == some 8
  | some (before, behind) =>
    (groups before).all isHexGroup &&
      (groupCount? (groups behind)).any fun count => (groups before).length + count ≤ 7

def isHost (isNamed : Bool) (host : List Char) : Bool :=
  match host with
  | '[' :: rest => rest.getLast? == some ']' && isWideAddress rest.dropLast
  | _ => if isNamed then (domain? host).any isDomain else !host.any isForbiddenInHost

def splitHost (inBrackets : Bool) : List Char → List Char × Option (List Char)
  | [] => ([], none)
  | c :: rest =>
    if c == ':' && !inBrackets then ([], some rest)
    else
      let (host, number) := splitHost (c == '[' || (inBrackets && c != ']')) rest
      (c :: host, number)

def splitUser (authority : List Char) : Option (List Char) × List Char :=
  if authority.contains '@' then
    let place := (authority.reverse.takeWhile (· != '@')).reverse
    (some (authority.take (authority.length - place.length - 1)), place)
  else (none, authority)

/-- Whether an authority is well formed. One that need not be a domain may be empty, but then
it names no user, and an at sign alone stands at the very end. -/
def isAuthority (isNamed atEnd : Bool) (authority : List Char) : Bool :=
  let (user, place) := splitUser authority
  let (host, number) := splitHost false place
  let mayBeEmpty := !isNamed && number.isNone &&
    (user.isNone || user == some [':'] || (user == some [] && atEnd))
  if host.isEmpty then mayBeEmpty else number.all isServiceNumber && isHost isNamed host

/-- Whether the host of a file is well formed; the letter of a drive is none. -/
def isFileHost (host : List Char) : Bool :=
  match host with
  | [] => true
  | [letter, mark] =>
    (isAsciiAlphanumeric letter && !isAsciiDigit letter && (mark == ':' || mark == '|')) ||
      isHost true host
  | _ => isHost true host

def isSlash (c : Char) : Bool := c == '/' || c == '\\'

def isAbsolute (text : String) : Bool :=
  match splitScheme? (normalize text.toList) with
  | none => false
  | some (scheme, rest) =>
    let untilPath (slash : Char → Bool) (text : List Char) :=
      text.span fun c => !slash c && c != '?' && c != '#'
    if hostSchemes.contains scheme then
      let (authority, path) := untilPath isSlash (rest.dropWhile isSlash)
      isAuthority true path.isEmpty authority
    else if scheme == "file" then
      match rest with
      | first :: second :: rest =>
        !(isSlash first && isSlash second) || isFileHost (untilPath isSlash rest).1
      | _ => true
    else
      match rest with
      | '/' :: '/' :: rest =>
        let (authority, path) := untilPath (· == '/') rest
        isAuthority false path.isEmpty authority
      | _ => true

end ApiContracts.OpenApi.Url
