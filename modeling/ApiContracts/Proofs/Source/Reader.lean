import ApiContracts.Json.Reader

/-!
A reader of source texts, character by character. It tells words of code from text literals, drops
blanks and line comments, and gives for each literal the text that it denotes. What generated files
have no use for is refused: block comments, character literals, and literals with a mark in front.
A line comment goes up to the next line feed, whatever stands in it.
-/

namespace ApiContracts.Lexical

inductive Piece where
  | word (chars : List Char)
  | literal (text : List Char)
deriving DecidableEq, Repr

inductive Mode where
  | code (word : List Char)
  | slash (word : List Char)
  /-- Behind a single quote; two letters have to follow, or it would open a character. -/
  | tick (word : List Char)
  | lifetime (word : List Char)
  | comment
  | literal (text : List Char)
  | escape (text seen : List Char)
  | gap (text : List Char)
deriving DecidableEq, Repr

def flush (word : List Char) : List Piece := if word.isEmpty then [] else [.word word]

/-- A literal may begin behind this part of a word. A letter or `#` there would belong to it. -/
def opens (word : List Char) : Bool := word.isEmpty || word.getLast? == some '('

def isSmallLetter (c : Char) : Bool := 'a' ≤ c && c ≤ 'z'

def isHexDigit (c : Char) : Bool := (Json.hexValue? c).isSome

/-- What the characters behind a backslash come to: a character, or nothing yet. -/
def escaped? : List Char → Option (Option Char)
  | ['n'] => some (some '\n')
  | ['r'] => some (some '\r')
  | ['t'] => some (some '\t')
  | ['0'] => some (some '\x00')
  | ['\\'] => some (some '\\')
  | ['"'] => some (some '"')
  | ['\x27'] => some (some '\x27')
  | ['x'] | ['u'] => some none
  | ['x', high] => if isHexDigit high then some none else none
  | ['x', high, low] =>
    match Json.hexNumber? [high, low] with
    | some code => if code < 0x80 then (Json.charOf? code).map some else none
    | none => none
  | 'u' :: '\x7b' :: digits =>
    if digits.getLast? == some '\x7d' then
      if digits.dropLast.isEmpty then none
      else ((Json.hexNumber? digits.dropLast).bind Json.charOf?).map some
    else if digits.length ≤ 6 && digits.all isHexDigit then some none
    else none
  | _ => none

def stepLiteral (text : List Char) (c : Char) : Option (List Piece × Mode) :=
  if c == '"' then some ([.literal text], .code [])
  else if c == '\\' then some ([], .escape text [])
  else if c == '\r' then none
  else some ([], .literal (text ++ [c]))

def step : Mode → Char → Option (List Piece × Mode)
  | .code word, c =>
    if c == ' ' || c == '\n' then some (flush word, .code [])
    else if c == '"' then if opens word then some (flush word, .literal []) else none
    else if c == '\x27' then some ([], .tick (word ++ [c]))
    else if c == '/' then some ([], .slash word)
    else some ([], .code (word ++ [c]))
  | .slash word, c => if c == '/' then some (flush word, .comment) else none
  | .tick word, c => if isSmallLetter c then some ([], .lifetime (word ++ [c])) else none
  | .lifetime word, c => if isSmallLetter c then some ([], .code (word ++ [c])) else none
  | .comment, c => some ([], if c == '\n' then .code [] else .comment)
  | .literal text, c => stepLiteral text c
  | .escape text seen, c =>
    if seen.isEmpty && c == '\n' then some ([], .gap text)
    else (escaped? (seen ++ [c])).map fun
      | some d => ([], .literal (text ++ [d]))
      | none => ([], .escape text (seen ++ [c]))
  | .gap text, c =>
    if c == ' ' || c == '\t' || c == '\n' then some ([], .gap text) else stepLiteral text c

def run (mode : Mode) : List Char → Option (List Piece × Mode)
  | [] => some ([], mode)
  | c :: rest =>
    match step mode c with
    | none => none
    | some (pieces, next) => (run next rest).map fun (later, last) => (pieces ++ later, last)

def read (text : String) : Option (List Piece) :=
  match run (.code []) (text.toList ++ ['\n']) with
  | some (pieces, .code []) => some pieces
  | _ => none

def literals (pieces : List Piece) : List String :=
  pieces.filterMap fun
    | .word _ => none
    | .literal text => some (String.ofList text)

def Piece.blank : Piece → Piece
  | .word chars => .word chars
  | .literal _ => .literal []

/-- The pieces with every literal blank. Two texts that agree on this have the same code. -/
def skeleton (pieces : List Piece) : List Piece := pieces.map Piece.blank

example : read "let a = \"x\\u\x7be9\x7d\\\"\"; // \"b\"" =
    some [.word "let".toList, .word ['a'], .word ['='], .literal "xé\"".toList, .word [';']] := by
  decide +kernel

@[simp] theorem literals_append (front back : List Piece) :
    literals (front ++ back) = literals front ++ literals back := by
  simp [literals]

@[simp] theorem literals_nil : literals [] = [] := rfl

@[simp] theorem literals_word (chars : List Char) (rest : List Piece) :
    literals (.word chars :: rest) = literals rest := rfl

@[simp] theorem literals_literal (text : List Char) (rest : List Piece) :
    literals (.literal text :: rest) = String.ofList text :: literals rest := rfl

@[simp] theorem skeleton_append (front back : List Piece) :
    skeleton (front ++ back) = skeleton front ++ skeleton back := by
  simp [skeleton]

@[simp] theorem literals_flush (word : List Char) : literals (flush word) = [] := by
  rw [flush]
  split <;> rfl

theorem run_cons {mode next last : Mode} {c : Char} {rest : List Char}
    {pieces later : List Piece} (first : step mode c = some (pieces, next))
    (behind : run next rest = some (later, last)) :
    run mode (c :: rest) = some (pieces ++ later, last) := by
  simp [run, first, behind]

theorem run_cons_inv {mode last : Mode} {c : Char} {rest : List Char} {all : List Piece}
    (reads : run mode (c :: rest) = some (all, last)) :
    ∃ pieces next later, step mode c = some (pieces, next) ∧
      run next rest = some (later, last) ∧ pieces ++ later = all := by
  rw [run] at reads
  split at reads
  · simp at reads
  next pieces next stepped =>
      obtain ⟨⟨later, _⟩, behind, same⟩ := Option.map_eq_some_iff.mp reads
      obtain ⟨joined, rfl⟩ := Prod.mk.inj same
      exact ⟨pieces, next, later, stepped, behind, joined⟩

theorem run_append (mode : Mode) (front back : List Char) :
    run mode (front ++ back) = (run mode front).bind fun (pieces, next) =>
      (run next back).map fun (later, last) => (pieces ++ later, last) := by
  induction front generalizing mode with
  | nil => simp [run]
  | cons c rest ih =>
      rw [List.cons_append, run, run]
      cases step mode c with
      | none => rfl
      | some stepped =>
          simp only [ih, Option.map_bind, Option.bind_map]
          congr 1
          funext reached
          simp [Function.comp_def]

theorem run_trans {mode next last : Mode} {front back : List Char} {pieces later : List Piece}
    (before : run mode front = some (pieces, next)) (behind : run next back = some (later, last)) :
    run mode (front ++ back) = some (pieces ++ later, last) := by
  simp [run_append, before, behind]

theorem run_trans_inv {mode next last : Mode} {front back : List Char} {pieces all : List Piece}
    (before : run mode front = some (pieces, next))
    (reads : run mode (front ++ back) = some (all, last)) :
    ∃ later, run next back = some (later, last) ∧ pieces ++ later = all := by
  rw [run_append, before, Option.bind_some] at reads
  obtain ⟨⟨later, _⟩, behind, same⟩ := Option.map_eq_some_iff.mp reads
  obtain ⟨joined, rfl⟩ := Prod.mk.inj same
  exact ⟨later, behind, joined⟩

end ApiContracts.Lexical
