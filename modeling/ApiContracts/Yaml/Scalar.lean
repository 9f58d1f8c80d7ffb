import ApiContracts.Json.Reader
import ApiContracts.Yaml.Cursor

/-!
Scalars of YAML text: block scalars, quoted ones, and plain ones, with lines folded as each
style asks for.
-/

namespace ApiContracts.Yaml

structure Gap where
  blanks : List Char
  broken : Bool
  first : List Char
  others : List Char

namespace Gap

def none : Gap := ⟨[], false, [], []⟩

def escaped : Gap := ⟨[], true, [], []⟩

/-- What a gap contributes to a scalar: a single break becomes a space, of several the first is
dropped, and blanks count only within a line. -/
def text (gap : Gap) : List Char :=
  if !gap.broken then gap.blanks
  else if gap.first == ['\n'] then if gap.others.isEmpty then [' '] else gap.others
  else gap.first ++ gap.others

def read (indent : Nat) : (fuel : Nat) → Gap → Cursor → Option (Gap × Cursor)
  | 0, gap, cursor => some (gap, cursor)
  | fuel + 1, gap, cursor =>
    match cursor.head? with
    | Option.none => some (gap, cursor)
    | some c =>
      if isBlank c then
        if gap.broken && cursor.column < indent && c == '\t' then Option.none
        else if gap.broken then read indent fuel gap (cursor.skip 1)
        else read indent fuel { gap with blanks := gap.blanks ++ [c] } (cursor.skip 1)
      else if isBreak c then
        let (text, next) := cursor.readBreak
        if gap.broken then read indent fuel { gap with others := gap.others ++ text } next
        else read indent fuel { gap with blanks := [], broken := true, first := text } next
      else some (gap, cursor)

end Gap

def isFlowMark (c : Char) : Bool := c == ',' || c == '[' || c == ']' || c == '\x7b' || c == '\x7d'

def plainLength (inFlow : Bool) : List Char → Option Nat
  | [] => some 0
  | c :: rest =>
    if isGap (some c) then some 0
    else if inFlow && c == ':' && rest.head?.any (fun next => isFlowMark next || next == '?') then
      none
    else if (c == ':' && isGap rest.head?) || (inFlow && isFlowMark c) then some 0
    else (plainLength inFlow rest).map (· + 1)

def readPlain (inFlow : Bool) (indent : Nat) : (fuel : Nat) → List Char → Gap → Cursor →
    Option (List Char × Bool × Cursor)
  | 0, _, _, _ => none
  | fuel + 1, done, gap, cursor =>
    if cursor.atAnyDocumentMark || cursor.at? '#' then some (done, gap.broken, cursor)
    else
      match plainLength inFlow cursor.rest with
      | none => none
      | some length =>
        if length == 0 then some (done, gap.broken, cursor)
        else
          let done := done ++ gap.text ++ cursor.rest.take length
          let behind := cursor.skip length
          if behind.head?.isNone || !isGap behind.head? then some (done, false, behind)
          else
            match Gap.read indent (fuel + 1) .none behind with
            | none => none
            | some (gap, next) =>
              if !inFlow && next.column < indent then some (done, gap.broken, next)
              else readPlain inFlow indent fuel done gap next

def simpleEscape? (c : Char) : Option Char :=
  match c with
  | '0' => some '\x00'
  | 'a' => some '\x07'
  | 'b' => some '\x08'
  | 't' | '\t' => some '\t'
  | 'n' => some '\n'
  | 'v' => some '\x0b'
  | 'f' => some '\x0c'
  | 'r' => some '\r'
  | 'e' => some '\x1b'
  | ' ' => some ' '
  | '"' => some '"'
  | '/' => some '/'
  | '\\' => some '\\'
  | 'N' => some (Char.ofNat 0x85)
  | '_' => some (Char.ofNat 0xA0)
  | 'L' => some (Char.ofNat 0x2028)
  | 'P' => some (Char.ofNat 0x2029)
  | _ => none

def escapeWidth? (c : Char) : Option Nat :=
  match c with
  | 'x' => some 2
  | 'u' => some 4
  | 'U' => some 8
  | _ => none

def readEscape (cursor : Cursor) : Option (Char × Cursor) :=
  match cursor.head? with
  | none => none
  | some letter =>
    match escapeWidth? letter with
    | none => (simpleEscape? letter).map (·, cursor.skip 1)
    | some width =>
      let digits := (cursor.rest.drop 1).take width
      if digits.length != width then none
      else
        (Json.hexNumber? digits).bind fun code =>
          (Json.charOf? code).map (·, cursor.skip (width + 1))

def readQuoted (single : Bool) : (fuel : Nat) → List Char → Cursor → Option (List Char × Cursor)
  | 0, _, _ => none
  | fuel + 1, done, cursor =>
    if cursor.atAnyDocumentMark then none
    else
      match cursor.rest with
      | [] => none
      | c :: rest =>
        if isGap (some c) then joinGap fuel done .none cursor
        else if single then
          if c != '\x27' then readQuoted single fuel (c :: done) (cursor.skip 1)
          else if rest.head? == some '\x27' then
            readQuoted single fuel (c :: done) (cursor.skip 2)
          else some (done.reverse, cursor.skip 1)
        else if c == '"' then some (done.reverse, cursor.skip 1)
        else if c == '\\' then
          if rest.head?.any isBreak then joinGap fuel done .escaped (cursor.skip 1).readBreak.2
          else
            match readEscape (cursor.skip 1) with
            | some (c, next) => readQuoted single fuel (c :: done) next
            | none => none
        else readQuoted single fuel (c :: done) (cursor.skip 1)
where
  joinGap (fuel : Nat) (done : List Char) (gap : Gap) (cursor : Cursor) :
      Option (List Char × Cursor) :=
    match Gap.read 0 (fuel + 1) gap cursor with
    | none => none
    | some (gap, next) => readQuoted single fuel (gap.text.reverse ++ done) next

inductive Chomping where
  | strip | clip | keep
deriving DecidableEq, Repr

structure BlockHeader where
  chomping : Chomping
  increment : Option Nat

def chomping? (c : Char) : Option Chomping :=
  if c == '+' then some .keep else if c == '-' then some .strip else none

def increment? (c : Char) : Option Nat :=
  if Text.isAsciiDigit c && c != '0' then some (Json.digitValue c) else none

def readBlockHeader (cursor : Cursor) : Option (BlockHeader × Cursor) :=
  let first := cursor.head?
  let second := cursor.peek 1
  let (header, length) : BlockHeader × Nat :=
    match first.bind chomping?, first.bind increment? with
    | some chomping, _ =>
      match second.bind increment? with
      | some increment => (⟨chomping, some increment⟩, 2)
      | none => (⟨chomping, none⟩, 1)
    | none, some increment =>
      match second.bind chomping? with
      | some chomping => (⟨chomping, some increment⟩, 2)
      | none => (⟨.clip, some increment⟩, 1)
    | none, none => (⟨.clip, none⟩, 0)
  let behind := (cursor.skip length).skipWhile isBlank
  let behind := if behind.at? '#' then behind.skipWhile (!isBreak ·) else behind
  if isLineEnd behind.head? then some (header, behind.readBreak.2) else none

/-- Indentation and empty lines between the lines of a block scalar: the breaks, the greatest
column, and the cursor behind. Without a known indentation all spaces count as such. -/
def readBlockGap (indent : Option Nat) : (fuel : Nat) → List Char → Nat → Cursor →
    Option (List Char × Nat × Cursor)
  | 0, _, _, _ => none
  | fuel + 1, breaks, widest, cursor =>
    let spaces := (cursor.rest.takeWhile (· == ' ')).length
    let wanted :=
      match indent with
      | some indent => min spaces (indent - cursor.column)
      | none => spaces
    let behind := cursor.skip wanted
    let widest := max widest behind.column
    if indent.all (behind.column < ·) && behind.at? '\t' then none
    else if behind.head?.any isBreak then
      let (text, next) := behind.readBreak
      readBlockGap indent fuel (breaks ++ text) widest next
    else some (breaks, widest, behind)

structure BlockLines where
  text : List Char
  lastBreak : List Char
  breaks : List Char
  indented : Bool

def readBlockLines (folded : Bool) (indent : Nat) : (fuel : Nat) → BlockLines → Cursor →
    Option (BlockLines × Cursor)
  | 0, _, _ => none
  | fuel + 1, lines, cursor =>
    if cursor.column != indent || cursor.head?.isNone then some (lines, cursor)
    else
      let indented := cursor.head?.any isBlank
      let joint :=
        if folded && lines.lastBreak == ['\n'] && !lines.indented && !indented then
          if lines.breaks.isEmpty then [' '] else []
        else lines.lastBreak
      let (line, behind) := cursor.span (!isBreak ·)
      let (lastBreak, next) := behind.readBreak
      match readBlockGap (some indent) (fuel + 1) [] 0 next with
      | none => none
      | some (breaks, _, after) =>
        readBlockLines folded indent fuel
          ⟨lines.text ++ joint ++ lines.breaks ++ line, lastBreak, breaks, indented⟩ after

/-- Reads a block scalar behind its first character; `outer` is the indentation around it, and
`fuel` bounds the number of its lines. -/
def readBlock (folded : Bool) (outer : Int) (fuel : Nat) (cursor : Cursor) :
    Option (List Char × Cursor) := do
  let (header, cursor) ← readBlockHeader cursor
  let known := header.increment.map fun increment => (max outer 0).toNat + increment
  let (breaks, widest, cursor) ← readBlockGap known fuel [] 0 cursor
  let indent := known.getD (max widest (max (outer + 1) 1).toNat)
  let (lines, cursor) ← readBlockLines folded indent fuel ⟨[], [], breaks, false⟩ cursor
  let last := if header.chomping == .strip then [] else lines.lastBreak
  let others := if header.chomping == .keep then lines.breaks else []
  return (lines.text ++ last ++ others, cursor)

end ApiContracts.Yaml
