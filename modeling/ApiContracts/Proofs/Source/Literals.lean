import ApiContracts.Contract.Source
import ApiContracts.Proofs.Source.Reader
import Mathlib.Data.Nat.Digits.Defs

/-!
What text literals denote. With escapes each text comes back as it was; a line of text as it stands
does so exactly if it has no double quote, backslash or carriage return.
-/

namespace ApiContracts

open Text

theorem Json.hexNumber?_append (front back : List Char) :
    hexNumber? (front ++ back) = (hexNumber? front).bind fun value =>
      back.foldlM (fun value c => (hexValue? c).map (value * 16 + ·)) value := by
  simp [hexNumber?]

theorem Json.hexValue?_digitChar {digit : Nat} (small : digit < 16) :
    hexValue? (Nat.digitChar digit) = some digit := by
  have all : ∀ digit < 16, hexValue? (Nat.digitChar digit) = some digit := by decide
  exact all digit small

theorem Json.hexNumber?_hexDigits (n : Nat) : hexNumber? (hexDigits n) = some n := by
  induction n using Nat.strong_induction_on with
  | h n ih =>
      rw [hexDigits, Nat.toDigits_eq_if (by decide)]
      split
      next small => simp [hexNumber?, hexValue?_digitChar small]
      next large =>
          have shorter := ih (n / 16) (by omega)
          rw [hexDigits] at shorter
          simp [hexNumber?_append, shorter, hexValue?_digitChar (Nat.mod_lt n (by decide))]
          omega

theorem Json.charOf?_toNat (c : Char) : charOf? c.toNat = some c := by
  have valid : c.toNat.isValidChar := c.valid
  rw [charOf?, dif_pos valid, Option.some_inj]
  apply Char.ext
  exact UInt32.ofNat_toNat

theorem hexDigits_length (c : Char) : (hexDigits c.toNat).length ≤ 6 := by
  rw [hexDigits, Nat.length_toDigits_le_iff (by decide) (by decide)]
  have bound : c.toNat.isValidChar := c.valid
  simp only [Nat.isValidChar] at bound
  omega

namespace Lexical

def isBare (c : Char) : Bool := !(['"', '\\', '\r'].contains c)

theorem isBare_iff (c : Char) : isBare c = true ↔ c ≠ '"' ∧ c ≠ '\\' ∧ c ≠ '\r' := by
  simp [isBare]

def Bare (text : String) : Prop := ∀ c ∈ text.toList, isBare c = true

instance (text : String) : Decidable (Bare text) :=
  decidable_of_iff (text.toList.all isBare = true) List.all_eq_true

theorem bare_append {front back : String} (frontBare : Bare front) (backBare : Bare back) :
    Bare (front ++ back) := by
  rw [Bare, String.toList_append]
  exact List.forall_mem_append.mpr ⟨frontBare, backBare⟩

theorem step_bare (text : List Char) {c : Char} (bare : isBare c = true) :
    step (.literal text) c = some ([], .literal (text ++ [c])) := by
  obtain ⟨notQuote, notBackslash, notReturn⟩ := (isBare_iff c).mp bare
  simp [step, stepLiteral, notQuote, notBackslash, notReturn]

theorem hexDigits_isHexDigit (n : Nat) : ∀ c ∈ hexDigits n, isHexDigit c = true := by
  have digit {n : Nat} (small : n < 16) : isHexDigit (Nat.digitChar n) = true := by
    simp [isHexDigit, Json.hexValue?_digitChar small]
  induction n using Nat.strong_induction_on with
  | h n ih =>
      rw [hexDigits, Nat.toDigits_eq_if (by decide)]
      split
      next small => exact List.forall_mem_singleton.mpr (digit small)
      next large =>
          rw [List.forall_mem_append, List.forall_mem_singleton]
          exact ⟨ih (n / 16) (by omega), digit (Nat.mod_lt n (by decide))⟩

theorem run_digits (text : List Char) {seen digits : List Char}
    (before : ∀ c ∈ seen, isHexDigit c = true) (behind : ∀ c ∈ digits, isHexDigit c = true)
    (short : (seen ++ digits).length ≤ 6) :
    run (.escape text ('u' :: '\x7b' :: seen)) digits =
      some ([], .escape text ('u' :: '\x7b' :: (seen ++ digits))) := by
  induction digits generalizing seen with
  | nil => simp [run]
  | cons c rest ih =>
      obtain ⟨digit, others⟩ := List.forall_mem_cons.mp behind
      have gathered : ∀ d ∈ seen ++ [c], isHexDigit d = true :=
        List.forall_mem_append.mpr ⟨before, List.forall_mem_singleton.mpr digit⟩
      have later := ih gathered others (by simpa using short)
      have first : step (.escape text ('u' :: '\x7b' :: seen)) c =
          some ([], .escape text ('u' :: '\x7b' :: (seen ++ [c]))) := by
        have atMost : seen.length + 1 ≤ 6 := by
          simp only [List.length_append, List.length_cons] at short
          omega
        have notClosing : c ≠ '\x7d' := by
          rintro rfl
          simp [isHexDigit, Json.hexValue?] at digit
        have all : (seen ++ [c]).all isHexDigit = true := List.all_eq_true.mpr gathered
        simp [step, escaped?, notClosing, atMost, all]
      simpa using run_cons first later

theorem run_escape (text : List Char) (c : Char) :
    run (.literal text) (escape c) = some ([], .literal (text ++ [c])) := by
  unfold escape
  split
  · rfl
  · rfl
  · rfl
  · rfl
  · rfl
  next notQuote notBackslash _ notReturn _ =>
      split
      next isNull =>
          have same : c = '\x00' := by
            apply Char.toNat_inj.mp
            simpa using isNull
          subst same
          rfl
      next =>
          split
          · have bare := (isBare_iff c).mpr ⟨notQuote, notBackslash, notReturn⟩
            exact run_cons (step_bare text bare) rfl
          · have opening : run (.literal text) ['\\', 'u', '\x7b'] =
                some ([], .escape text ['u', '\x7b']) := rfl
            have digits := run_digits text (by simp : ∀ c ∈ [], isHexDigit c = true)
              (hexDigits_isHexDigit c.toNat) (by simpa using hexDigits_length c)
            have closing : run (.escape text ('u' :: '\x7b' :: hexDigits c.toNat)) ['\x7d'] =
                some ([], .literal (text ++ [c])) := by
              have nonempty : hexDigits c.toNat ≠ [] := Nat.toDigits_ne_nil
              simp [run, step, escaped?, nonempty, Json.hexNumber?_hexDigits, Json.charOf?_toNat]
            exact run_trans (run_trans opening digits) closing

theorem run_escapes (text : List Char) {chars : List Char} :
    run (.literal text) (chars.flatMap escape) = some ([], .literal (text ++ chars)) := by
  induction chars generalizing text with
  | nil => simp [run]
  | cons c rest ih =>
      rw [List.flatMap_cons]
      simpa using run_trans (run_escape text c) (ih (text ++ [c]))

theorem run_bare (text : List Char) {chars : List Char}
    (bare : ∀ c ∈ chars, isBare c = true) :
    run (.literal text) chars = some ([], .literal (text ++ chars)) := by
  induction chars generalizing text with
  | nil => simp [run]
  | cons c rest ih =>
      obtain ⟨first, later⟩ := List.forall_mem_cons.mp bare
      simpa using run_cons (step_bare text first) (ih (text ++ [c]) later)

def Mode.text? : Mode → Option (List Char)
  | .literal text | .escape text _ | .gap text => some text
  | .code _ | .slash _ | .tick _ | .lifetime _ | .comment => none

theorem stepLiteral_inside {text : List Char} {c : Char} {pieces : List Piece} {next : Mode}
    (stepped : stepLiteral text c = some (pieces, next)) :
    pieces = [.literal text] ∨ pieces = [] ∧ ∃ longer, next.text? = some longer ∧
      text <+: longer ∧ longer.length ≤ text.length + 1 := by
  rw [stepLiteral] at stepped
  split at stepped
  · left
    simpa using (congrArg Prod.fst (Option.some.inj stepped)).symm
  · right
    split at stepped
    · obtain ⟨rfl, rfl⟩ := Prod.mk.inj (Option.some.inj stepped)
      exact ⟨rfl, text, rfl, List.prefix_rfl, by omega⟩
    · split at stepped
      · simp at stepped
      · obtain ⟨rfl, rfl⟩ := Prod.mk.inj (Option.some.inj stepped)
        exact ⟨rfl, text ++ [c], rfl, List.prefix_append _ _, by simp⟩

theorem step_inside {mode next : Mode} {text : List Char} {c : Char} {pieces : List Piece}
    (inside : mode.text? = some text) (stepped : step mode c = some (pieces, next)) :
    pieces = [.literal text] ∨ pieces = [] ∧ ∃ longer, next.text? = some longer ∧
      text <+: longer ∧ longer.length ≤ text.length + 1 := by
  cases mode with
  | code word | slash word | tick word | lifetime word | comment => simp [Mode.text?] at inside
  | literal gathered =>
      obtain rfl := Option.some.inj inside
      exact stepLiteral_inside stepped
  | escape gathered seen =>
      obtain rfl := Option.some.inj inside
      right
      rw [step] at stepped
      split at stepped
      · obtain ⟨rfl, rfl⟩ := Prod.mk.inj (Option.some.inj stepped)
        exact ⟨rfl, gathered, rfl, List.prefix_rfl, by omega⟩
      · obtain ⟨outcome, _, same⟩ := Option.map_eq_some_iff.mp stepped
        cases outcome with
        | some d =>
            obtain ⟨rfl, rfl⟩ := Prod.mk.inj same
            exact ⟨rfl, gathered ++ [d], rfl, List.prefix_append _ _, by simp⟩
        | none =>
            obtain ⟨rfl, rfl⟩ := Prod.mk.inj same
            exact ⟨rfl, gathered, rfl, List.prefix_rfl, by omega⟩
  | gap gathered =>
      obtain rfl := Option.some.inj inside
      rw [step] at stepped
      split at stepped
      · obtain ⟨rfl, rfl⟩ := Prod.mk.inj (Option.some.inj stepped)
        exact .inr ⟨rfl, gathered, rfl, List.prefix_rfl, by omega⟩
      · exact stepLiteral_inside stepped

theorem run_inside {mode last : Mode} {text chars : List Char} {piece : Piece}
    {later : List Piece} (inside : mode.text? = some text)
    (reads : run mode chars = some (piece :: later, last)) :
    ∃ value, piece = .literal value ∧ text <+: value := by
  induction chars generalizing mode text with
  | nil => simp [run] at reads
  | cons c rest ih =>
      obtain ⟨pieces, next, behind, stepped, ran, joined⟩ := run_cons_inv reads
      rcases step_inside inside stepped with rfl | ⟨rfl, longer, still, grows, _⟩
      · obtain ⟨rfl, _⟩ := List.cons.inj joined
        exact ⟨text, rfl, List.prefix_rfl⟩
      · obtain ⟨value, same, begins⟩ := ih still (joined ▸ ran)
        exact ⟨value, same, grows.trans begins⟩

theorem escaped?_quote {seen : List Char} (begun : seen ≠ []) : escaped? (seen ++ ['"']) = none := by
  have notDigit : Json.hexValue? '"' = none := by decide
  have ending : (seen ++ ['"']).getLast? = some '"' := List.getLast?_concat
  have long : (seen ++ ['"']).length ≠ 1 := by simpa using begun
  generalize seen ++ ['"'] = chars at ending long
  unfold escaped?
  split
  case h_10 high =>
      obtain rfl : high = '"' := by simpa using ending
      simp [isHexDigit, notDigit]
  case h_11 high low =>
      obtain rfl : low = '"' := by simpa using ending
      simp [Json.hexNumber?, notDigit]
  case h_12 digits =>
      cases digits with
      | nil => simp at ending
      | cons first rest =>
          have last : (first :: rest).getLast? = some '"' := by simpa using ending
          have quote : '"' ∈ first :: rest := List.mem_of_getLast? last
          have notHex : (first :: rest).all isHexDigit = false :=
            List.all_eq_false.mpr ⟨'"', quote, by simp [isHexDigit, notDigit]⟩
          rw [last, notHex]
          simp
  case h_13 => rfl
  -- All other escapes are one character long.
  all_goals exact absurd rfl long

theorem run_escaped_quote {text seen value ending : List Char} {last : Mode} {later : List Piece}
    (reads : run (.escape text seen) ('"' :: ';' :: '\n' :: ending) =
      some (.literal value :: later, last)) : '\n' ∈ value := by
  cases seen with
  | nil =>
      have line : run (.escape text []) ['"', ';', '\n'] =
          some ([], .literal (text ++ ['"', ';', '\n'])) := by
        simp [run, step, escaped?, stepLiteral]
      obtain ⟨rest, ran, joined⟩ := run_trans_inv line reads
      obtain rfl : rest = .literal value :: later := joined
      obtain ⟨other, same, begins⟩ := run_inside rfl ran
      obtain rfl := Piece.literal.inj same
      exact begins.subset (by simp)
  | cons first more =>
      have refused : step (.escape text (first :: more)) '"' = none := by
        rw [step, escaped?_quote (List.cons_ne_nil first more)]
        rfl
      rw [run, refused] at reads
      simp at reads

theorem value_length_le {mode last : Mode} {text value chars ending : List Char}
    {later : List Piece} (inside : mode.text? = some text) (oneLine : '\n' ∉ value)
    (reads : run mode (chars ++ '"' :: ';' :: '\n' :: ending) =
      some (.literal value :: later, last)) :
    value.length ≤ text.length + chars.length := by
  induction chars generalizing mode text with
  | nil =>
      rw [List.nil_append] at reads
      cases mode with
      | code word | slash word | tick word | lifetime word | comment => simp [Mode.text?] at inside
      | escape gathered seen => exact absurd (run_escaped_quote reads) oneLine
      | literal gathered | gap gathered =>
          obtain rfl := Option.some.inj inside
          obtain ⟨pieces, next, behind, stepped, _, joined⟩ := run_cons_inv reads
          obtain ⟨rfl, _⟩ := Prod.mk.inj (Option.some.inj stepped)
          obtain ⟨same, _⟩ := List.cons.inj joined
          obtain rfl := Piece.literal.inj same
          simp
  | cons c rest ih =>
      obtain ⟨pieces, next, behind, stepped, ran, joined⟩ := run_cons_inv reads
      -- The character closes the literal, or the mode behind it is inside and at most one longer.
      rcases step_inside inside stepped with rfl | ⟨rfl, longer, still, _, grows⟩
      · obtain ⟨same, _⟩ := List.cons.inj joined
        obtain rfl := Piece.literal.inj same
        simp
      · have bound := ih still (joined ▸ ran)
        rw [List.length_cons]
        omega

theorem bare_of_literal {text chars ending : List Char} {last : Mode} {later : List Piece}
    (oneLine : '\n' ∉ text ++ chars)
    (reads : run (.literal text) (chars ++ '"' :: ';' :: '\n' :: ending) =
      some (.literal (text ++ chars) :: later, last)) :
    ∀ c ∈ chars, isBare c = true := by
  induction chars generalizing text with
  | nil => simp
  | cons c rest ih =>
      obtain ⟨pieces, next, behind, stepped, ran, joined⟩ := run_cons_inv reads
      have first : isBare c = true := by
        rw [isBare_iff]
        refine ⟨?_, ?_, ?_⟩
        · rintro rfl
          obtain ⟨rfl, _⟩ := Prod.mk.inj (Option.some.inj stepped)
          obtain ⟨same, _⟩ := List.cons.inj joined
          simpa using Piece.literal.inj same
        · rintro rfl
          obtain ⟨rfl, rfl⟩ := Prod.mk.inj (Option.some.inj stepped)
          -- The backslash itself is not in the literal, which is then too short.
          obtain rfl : behind = .literal (text ++ '\\' :: rest) :: later := joined
          have bound := value_length_le rfl oneLine ran
          simp at bound
        · rintro rfl
          simp [step, stepLiteral] at stepped
      obtain ⟨rfl, rfl⟩ := Prod.mk.inj (Option.some.inj ((step_bare text first).symm.trans stepped))
      have split : text ++ c :: rest = text ++ [c] ++ rest := by simp
      rw [List.nil_append] at joined
      rw [joined, split] at ran
      exact List.forall_mem_cons.mpr ⟨first, ih (split ▸ oneLine) ran⟩

/-- Where a literal may begin, this one is read as the text. -/
def Denotes (literal text : String) : Prop :=
  ∀ word, opens word = true →
    run (.code word) literal.toList = some (flush word ++ [.literal text.toList], .code [])

theorem denotes_of_inside {inside : List Char} {text : String}
    (reads : run (.literal []) inside = some ([], .literal text.toList)) :
    Denotes (String.ofList ('"' :: inside ++ ['"'])) text := by
  intro word opened
  have opening : run (.code word) ['"'] = some (flush word, .literal []) := by
    simp [run, step, opened]
  have closing : run (.literal text.toList) ['"'] = some ([.literal text.toList], .code []) := rfl
  have all := run_trans (run_trans opening reads) closing
  simpa using all

theorem denotes_quoted (text : String) : Denotes (quoted text) text := by
  have reads : run (.literal []) (text.toList.flatMap escape) = some ([], .literal text.toList) :=
    run_escapes []
  exact denotes_of_inside reads

theorem denotes_raw {text : String} (bare : Bare text) :
    Denotes ("\"" ++ text ++ "\"") text := by
  have whole : "\"" ++ text ++ "\"" = String.ofList ('"' :: text.toList ++ ['"']) := by
    apply String.toList_inj.mp
    simp
  rw [whole]
  exact denotes_of_inside (run_bare [] bare)

end Lexical

end ApiContracts
