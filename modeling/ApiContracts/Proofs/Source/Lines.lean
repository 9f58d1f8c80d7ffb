import ApiContracts.Proofs.Source.Literals

/-!
Source texts line by line. Some lines are code and nothing else, some are comments, and some are
code around a literal. Two blocks of lines are alike if they are the same code around literals of
their own, whatever their comments say.
-/

namespace ApiContracts.Lexical

/-- In code the character belongs to a word or parts two words, and it does no more. -/
def isQuiet (c : Char) : Bool := !(['"', '\x27', '/', '\n'].contains c)

theorem isQuiet_iff (c : Char) :
    isQuiet c = true ↔ c ≠ '"' ∧ c ≠ '\x27' ∧ c ≠ '/' ∧ c ≠ '\n' := by
  simp [isQuiet]

def Quiet (text : String) : Prop := ∀ c ∈ text.toList, isQuiet c = true

instance (text : String) : Decidable (Quiet text) :=
  decidable_of_iff (text.toList.all isQuiet = true) List.all_eq_true

theorem quiet_append {front back : String} (frontQuiet : Quiet front) (backQuiet : Quiet back) :
    Quiet (front ++ back) := by
  rw [Quiet, String.toList_append]
  exact List.forall_mem_append.mpr ⟨frontQuiet, backQuiet⟩

theorem step_quiet (word : List Char) {c : Char} (quiet : isQuiet c = true) :
    ∃ pieces next, step (.code word) c = some (pieces, .code next) ∧ literals pieces = [] := by
  obtain ⟨notQuote, notTick, notSlash, notEnd⟩ := (isQuiet_iff c).mp quiet
  by_cases blank : c = ' '
  · exact ⟨flush word, [], by simp [step, blank], by simp⟩
  · exact ⟨[], word ++ [c], by simp [step, blank, notQuote, notTick, notSlash, notEnd], rfl⟩

theorem run_quiet {chars : List Char} (quiet : ∀ c ∈ chars, isQuiet c = true) (word : List Char) :
    ∃ pieces last, run (.code word) chars = some (pieces, .code last) ∧ literals pieces = [] := by
  induction chars generalizing word with
  | nil => exact ⟨[], word, rfl, rfl⟩
  | cons c rest ih =>
      obtain ⟨first, others⟩ := List.forall_mem_cons.mp quiet
      obtain ⟨pieces, next, stepped, noneHere⟩ := step_quiet word first
      obtain ⟨later, last, behind, noneLater⟩ := ih others next
      exact ⟨pieces ++ later, last, run_cons stepped behind, by simp [noneHere, noneLater]⟩

structure IsComment (line : String) : Prop where
  starts : ['/', '/'] <+: line.toList.dropWhile (· == ' ')
  oneLine : '\n' ∉ line.toList

instance (line : String) : Decidable (IsComment line) :=
  decidable_of_iff (['/', '/'] <+: line.toList.dropWhile (· == ' ') ∧ '\n' ∉ line.toList)
    ⟨fun ⟨starts, oneLine⟩ => ⟨starts, oneLine⟩, fun comment => ⟨comment.starts, comment.oneLine⟩⟩

theorem isComment_append {front back : String} (front_comment : IsComment front)
    (oneLine : '\n' ∉ back.toList) : IsComment (front ++ back) := by
  constructor
  · obtain ⟨rest, split⟩ := front_comment.starts
    refine ⟨rest ++ back.toList, ?_⟩
    rw [String.toList_append, List.dropWhile_append, ← split]
    simp
  · rw [String.toList_append, List.mem_append, not_or]
    exact ⟨front_comment.oneLine, oneLine⟩

theorem run_blanks {blanks : List Char} (blank : ∀ c ∈ blanks, (c == ' ') = true) :
    run (.code []) blanks = some ([], .code []) := by
  induction blanks with
  | nil => rfl
  | cons c rest ih =>
      obtain ⟨first, others⟩ := List.forall_mem_cons.mp blank
      have stepped : step (.code []) c = some ([], .code []) := by simp [step, first, flush]
      exact run_cons stepped (ih others)

theorem run_comment {chars : List Char} (oneLine : '\n' ∉ chars) :
    run .comment chars = some ([], .comment) := by
  induction chars with
  | nil => rfl
  | cons c rest ih =>
      rw [List.mem_cons, not_or] at oneLine
      have stepped : step .comment c = some ([], .comment) := by simp [step, Ne.symm oneLine.1]
      exact run_cons stepped (ih oneLine.2)

def written (lines : List String) : List Char := lines.flatMap fun line => line.toList ++ ['\n']

theorem written_append (front back : List String) :
    written (front ++ back) = written front ++ written back :=
  List.flatMap_append

/-- Between two words, the lines are read as these pieces, and then another word may begin. -/
def Reads (lines : List String) (pieces : List Piece) : Prop :=
  run (.code []) (written lines) = some (pieces, .code [])

theorem Reads.append {front back : List String} {pieces later : List Piece}
    (before : Reads front pieces) (behind : Reads back later) :
    Reads (front ++ back) (pieces ++ later) := by
  rw [Reads, written_append]
  exact run_trans before behind

def Carries (lines texts : List String) : Prop :=
  ∃ pieces, Reads lines pieces ∧ literals pieces = texts

instance (lines texts : List String) : Decidable (Carries lines texts) := by
  refine decidable_of_iff ((run (.code []) (written lines)).any fun (pieces, mode) =>
    mode == .code [] && literals pieces == texts) ?_
  simp only [Option.any_eq_true, Bool.and_eq_true, beq_iff_eq, Carries, Reads]
  constructor
  · rintro ⟨⟨pieces, _⟩, reads, rfl, same⟩
    exact ⟨pieces, reads, same⟩
  · rintro ⟨pieces, reads, same⟩
    exact ⟨_, reads, rfl, same⟩

theorem Carries.append {front back texts more : List String} (before : Carries front texts)
    (behind : Carries back more) : Carries (front ++ back) (texts ++ more) := by
  obtain ⟨pieces, reads, rfl⟩ := before
  obtain ⟨later, readsLater, rfl⟩ := behind
  exact ⟨pieces ++ later, reads.append readsLater, literals_append pieces later⟩

theorem carries_append_iff {front back texts more : List String} (before : Carries front texts) :
    Carries (front ++ back) (texts ++ more) ↔ Carries back more := by
  refine ⟨?_, before.append⟩
  rintro ⟨all, reads, whole⟩
  obtain ⟨pieces, readsFront, rfl⟩ := before
  rw [Reads, written_append] at reads
  obtain ⟨later, readsBack, rfl⟩ := run_trans_inv readsFront reads
  rw [literals_append, List.append_cancel_left_eq] at whole
  exact ⟨later, readsBack, whole⟩

theorem carries_quiet {line : String} (quiet : Quiet line) : Carries [line] [] := by
  obtain ⟨pieces, last, reads, noLiterals⟩ := run_quiet quiet []
  have ending : run (.code last) ['\n'] = some (flush last, .code []) := by simp [run, step]
  refine ⟨pieces ++ flush last, ?_, by simp [noLiterals]⟩
  simpa [Reads, written] using run_trans reads ending

theorem IsComment.split {line : String} (comment : IsComment line) :
    ∃ blanks rest, line.toList = blanks ++ '/' :: '/' :: rest ∧
      (∀ c ∈ blanks, (c == ' ') = true) ∧ '\n' ∉ rest := by
  obtain ⟨rest, behind⟩ := comment.starts
  have whole : line.toList = line.toList.takeWhile (· == ' ') ++ '/' :: '/' :: rest := by
    rw [List.cons_append, List.cons_append, List.nil_append] at behind
    rw [behind, List.takeWhile_append_dropWhile]
  refine ⟨_, rest, whole, List.all_eq_true.mp List.all_takeWhile, ?_⟩
  intro inRest
  apply comment.oneLine
  rw [whole]
  exact List.mem_append_right _ (List.mem_cons_of_mem _ (List.mem_cons_of_mem _ inRest))

theorem reads_comment {line : String} (comment : IsComment line) : Reads [line] [] := by
  obtain ⟨blanks, rest, whole, blank, oneLine⟩ := comment.split
  have slashes : run (.code []) ['/', '/'] = some ([], .comment) := rfl
  have ending : run .comment ['\n'] = some ([], .code []) := rfl
  have all := run_trans (run_blanks blank)
    (run_trans slashes (run_trans (run_comment oneLine) ending))
  simpa [Reads, written, whole] using all

theorem reads_comments {lines : List String} (comments : ∀ line ∈ lines, IsComment line) :
    Reads lines [] := by
  induction lines with
  | nil => rfl
  | cons line rest ih =>
      obtain ⟨first, others⟩ := List.forall_mem_cons.mp comments
      exact (reads_comment first).append (ih others)

/-- Behind the text, at the beginning of a line, a literal may begin. -/
def Introduces (before : String) : Prop :=
  ∃ pieces word, run (.code []) before.toList = some (pieces, .code word) ∧
    literals pieces = [] ∧ opens word = true

instance (before : String) : Decidable (Introduces before) := by
  refine decidable_of_iff ((run (.code []) before.toList).any fun (pieces, mode) =>
    literals pieces == [] && match mode with
      | .code word => opens word
      | _ => false) ?_
  simp only [Option.any_eq_true, Bool.and_eq_true, beq_iff_eq, Introduces]
  constructor
  · rintro ⟨⟨pieces, mode⟩, reads, noLiterals, opened⟩
    cases mode with
    | code word => exact ⟨pieces, word, reads, noLiterals, opened⟩
    | slash word | tick word | lifetime word => simp at opened
    | comment => simp at opened
    | literal text | gap text => simp at opened
    | escape text seen => simp at opened
  · rintro ⟨pieces, word, reads, noLiterals, opened⟩
    exact ⟨_, reads, noLiterals, opened⟩

theorem intercalate_written (first : String) (rest : List String) :
    ("\n".intercalate (first :: rest)).toList ++ ['\n'] = written (first :: rest) := by
  induction rest generalizing first with
  | nil => simp [written]
  | cons second others ih =>
      rw [String.intercalate_cons_cons, String.toList_append, List.append_assoc, ih]
      simp [written]

theorem read_lines_iff {lines : List String} {pieces : List Piece} (some_line : lines ≠ []) :
    read ("\n".intercalate lines) = some pieces ↔ Reads lines pieces := by
  obtain ⟨first, rest, rfl⟩ := List.exists_cons_of_ne_nil some_line
  rw [read, intercalate_written, Reads]
  constructor
  · intro found
    split at found
    next read reads =>
        obtain rfl := Option.some.inj found
        exact reads
    next => simp at found
  · intro reads
    rw [reads]

/-- Two blocks of lines are read as the same code around these literals. -/
def Alike (first second : List String) (texts others : List String) : Prop :=
  ∃ pieces otherPieces, Reads first pieces ∧ Reads second otherPieces ∧
    literals pieces = texts ∧ literals otherPieces = others ∧
    skeleton pieces = skeleton otherPieces

theorem Alike.append {first second back later texts others moreTexts moreOthers : List String}
    (before : Alike first second texts others) (behind : Alike back later moreTexts moreOthers) :
    Alike (first ++ back) (second ++ later) (texts ++ moreTexts) (others ++ moreOthers) := by
  obtain ⟨pieces, otherPieces, reads, otherReads, rfl, rfl, same⟩ := before
  obtain ⟨more, otherMore, readsMore, otherReadsMore, rfl, rfl, sameMore⟩ := behind
  exact ⟨pieces ++ more, otherPieces ++ otherMore, reads.append readsMore,
    otherReads.append otherReadsMore, by simp, by simp, by simp [same, sameMore]⟩

theorem alike_of_carries {lines texts : List String} (carries : Carries lines texts) :
    Alike lines lines texts texts := by
  obtain ⟨pieces, reads, same⟩ := carries
  exact ⟨pieces, pieces, reads, reads, same, same, rfl⟩

theorem alike_line {line : String} (quiet : Quiet line) : Alike [line] [line] [] [] :=
  alike_of_carries (carries_quiet quiet)

theorem alike_quiet {lines : List String} (quiet : ∀ line ∈ lines, Quiet line) :
    Alike lines lines [] [] := by
  induction lines with
  | nil => exact ⟨[], [], rfl, rfl, rfl, rfl, rfl⟩
  | cons line rest ih =>
      obtain ⟨first, others⟩ := List.forall_mem_cons.mp quiet
      exact (alike_line first).append (ih others)

theorem alike_comments {first second : List String} (comments : ∀ line ∈ first, IsComment line)
    (otherComments : ∀ line ∈ second, IsComment line) : Alike first second [] [] :=
  ⟨[], [], reads_comments comments, reads_comments otherComments, rfl, rfl, rfl⟩

theorem alike_literal {before after literal other text otherText : String} {more : List String}
    (introduces : Introduces before) (denotes : Denotes literal text)
    (otherDenotes : Denotes other otherText) (carries : Carries [after] more) :
    Alike [before ++ literal ++ after] [before ++ other ++ after] (text :: more)
      (otherText :: more) := by
  obtain ⟨front, word, opening, noLiterals, opened⟩ := introduces
  obtain ⟨back, closing, rfl⟩ := carries
  have reads {literal text : String} (denotes : Denotes literal text) :
      Reads [before ++ literal ++ after] (front ++ flush word ++ .literal text.toList :: back) := by
    have all := run_trans (run_trans opening (denotes word opened)) closing
    simpa [Reads, written] using all
  -- The literals differ; a skeleton has them blank.
  refine ⟨_, _, reads denotes, reads otherDenotes, by simp [noLiterals], by simp [noLiterals], ?_⟩
  simp [skeleton, Piece.blank]

theorem Alike.carries {first second texts others : List String}
    (alike : Alike first second texts others) : Carries first texts := by
  obtain ⟨pieces, _, reads, _, same, _⟩ := alike
  exact ⟨pieces, reads, same⟩

theorem bare_of_carries {before text : String} {lines texts : List String}
    (introduces : Introduces before) (oneLine : '\n' ∉ text.toList)
    (carries : Carries ((before ++ ("\"" ++ text ++ "\"") ++ ";") :: lines) (text :: texts)) :
    Bare text := by
  obtain ⟨front, word, opening, noLiterals, opened⟩ := introduces
  obtain ⟨all, reads, whole⟩ := carries
  have quote : run (.code word) ['"'] = some (flush word, .literal []) := by
    simp [run, step, opened]
  have chars : written ((before ++ ("\"" ++ text ++ "\"") ++ ";") :: lines) =
      (before.toList ++ ['"']) ++ (text.toList ++ '"' :: ';' :: '\n' :: written lines) := by
    simp [written]
  rw [Reads, chars] at reads
  obtain ⟨later, inside, rfl⟩ := run_trans_inv (run_trans opening quote) reads
  have found : literals later = text :: texts := by simpa [noLiterals] using whole
  cases later with
  | nil => simp [literals] at found
  | cons piece behind =>
      obtain ⟨value, rfl, _⟩ := run_inside rfl inside
      obtain ⟨same, _⟩ := List.cons.inj found
      obtain rfl : value = text.toList := by rw [← same, String.toList_ofList]
      exact bare_of_literal oneLine inside

theorem alike_flatMap {α κ : Type} {lines texts : α → List String} {code : α → κ}
    {entries others : List α}
    (alike : ∀ entry ∈ entries, ∀ other ∈ others, code entry = code other →
      Alike (lines entry) (lines other) (texts entry) (texts other))
    (same : entries.map code = others.map code) :
    Alike (entries.flatMap lines) (others.flatMap lines) (entries.flatMap texts)
      (others.flatMap texts) := by
  induction entries generalizing others with
  | nil =>
      obtain rfl := List.map_eq_nil_iff.mp same.symm
      exact ⟨[], [], rfl, rfl, rfl, rfl, rfl⟩
  | cons entry rest ih =>
      obtain ⟨other, later, rfl, sameCode, sameRest⟩ := List.map_eq_cons_iff.mp same.symm
      have first := alike entry List.mem_cons_self other List.mem_cons_self sameCode.symm
      refine first.append (ih ?_ sameRest.symm)
      intro behind isBehind otherBehind isOther
      exact alike behind (List.mem_cons_of_mem _ isBehind) otherBehind
        (List.mem_cons_of_mem _ isOther)

end ApiContracts.Lexical
