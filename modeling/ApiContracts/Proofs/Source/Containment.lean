import ApiContracts.Proofs.Source.Requests

/-!
How the files of validators are read, and with them those of all artifacts: their literals denote
just the texts that they are to carry, and files that agree in what stands in their code are the
same code, whatever their literals and comments say.
-/

namespace ApiContracts

open Lexical

/-! ### Validators -/

def RuleCheck.bare : RuleCheck → RuleCheck
  | pattern _ => pattern ""
  | check => check

def RuleCheck.texts : RuleCheck → List String
  | pattern text => [text]
  | _ => []

theorem RuleCheck.failure_quiet {check : RuleCheck} (plain : ∀ text, check ≠ pattern text) :
    Quiet check.failure := by
  have rendered (format : Decimal.FloatFormat) (bound : Float) :
      Quiet (String.ofList (format.render bound)) := by
    rw [Quiet, String.toList_ofList]
    exact format.render_quiet bound
  cases check with
  | notEmpty => decide
  | minLength count => exact quiet_append (by decide) (toString_quiet count)
  | maxLength count => exact quiet_append (by decide) (toString_quiet count)
  | minimum bound => exact quiet_append (by decide) (rendered _ bound)
  | maximum bound => exact quiet_append (by decide) (rendered _ bound)
  | minItems count => exact quiet_append (by decide) (toString_quiet count)
  | maxItems count => exact quiet_append (by decide) (toString_quiet count)
  | pattern text => exact absurd rfl (plain text)

theorem RuleCheck.bare_of_plain {check : RuleCheck} (plain : ∀ text, check ≠ pattern text) :
    check.bare = check ∧ check.texts = [] := by
  cases check with
  | pattern text => exact absurd rfl (plain text)
  | notEmpty | minLength _ | maxLength _ | minimum _ | maximum _ | minItems _ | maxItems _ =>
      exact ⟨rfl, rfl⟩

theorem RuleCheck.bare_cases {first second : RuleCheck} (same : first.bare = second.bare) :
    (∃ text other, first = pattern text ∧ second = pattern other) ∨
      first = second ∧ ∀ text, first ≠ pattern text := by
  by_cases plain : ∀ text, first ≠ pattern text
  · by_cases otherPlain : ∀ text, second ≠ pattern text
    · rw [(bare_of_plain plain).1, (bare_of_plain otherPlain).1] at same
      exact .inr ⟨same, plain⟩
    · simp only [ne_eq, not_forall, not_not] at otherPlain
      obtain ⟨text, rfl⟩ := otherPlain
      rw [(bare_of_plain plain).1] at same
      exact absurd same (plain "")
  · simp only [ne_eq, not_forall, not_not] at plain
    obtain ⟨text, rfl⟩ := plain
    by_cases otherPlain : ∀ text, second ≠ pattern text
    · rw [(bare_of_plain otherPlain).1] at same
      exact absurd same.symm (otherPlain "")
    · simp only [ne_eq, not_forall, not_not] at otherPlain
      obtain ⟨other, rfl⟩ := otherPlain
      exact .inl ⟨text, other, rfl, rfl⟩

theorem RuleCheck.failure_pattern (text : String) :
    (pattern text).failure = "!regex::Regex::new(" ++ quoted text ++
      ").map(|re| re.is_match(value)).unwrap_or(false)" :=
  rfl

theorem RuleCheck.failure_alike {first second : RuleCheck} (same : first.bare = second.bare) :
    Alike ["            if " ++ first.failure ++ " \x7b"]
      ["            if " ++ second.failure ++ " \x7b"] first.texts second.texts := by
  rcases bare_cases same with ⟨text, other, rfl, rfl⟩ | ⟨rfl, plain⟩
  · have split (text : String) : "            if " ++ (pattern text).failure ++ " \x7b" =
        "            if !regex::Regex::new(" ++ quoted text ++
          ").map(|re| re.is_match(value)).unwrap_or(false) \x7b" := by
      rw [failure_pattern]
      apply String.toList_inj.mp
      simp
    rw [split, split]
    exact alike_literal (by decide +kernel) (denotes_quoted _) (denotes_quoted _)
      (by decide +kernel)
  · have failure := failure_quiet plain
    have line : Quiet ("            if " ++ first.failure ++ " \x7b") :=
      quiet_append (quiet_append (by decide) failure) (by decide)
    rw [(bare_of_plain plain).2]
    exact alike_line line

namespace Rule

def code (rule : Rule) : RuleCode := ⟨rule.fieldName, rule.optional, rule.check.bare⟩

def texts (rule : Rule) : List String := rule.check.texts ++ [rule.name, rule.check.message]

def valueLines (rule : Rule) : List String :=
  if rule.optional then ["        if let Some(value) = &dto." ++ rule.fieldName ++ " \x7b"]
  else ["        \x7b", "            let value = &dto." ++ rule.fieldName ++ ";"]

theorem valueLines_quiet {rule : Rule} (quiet : Quiet rule.fieldName) :
    ∀ line ∈ rule.valueLines, Quiet line := by
  rw [valueLines]
  split
  · rw [List.forall_mem_singleton]
    exact quiet_append (quiet_append (by decide) quiet) (by decide)
  · rw [List.forall_mem_cons, List.forall_mem_singleton]
    exact ⟨by decide, quiet_append (quiet_append (by decide) quiet) (by decide)⟩

theorem alike {first second : Rule} (quiet : Quiet first.fieldName)
    (same : first.code = second.code) :
    Alike first.lines second.lines first.texts second.texts := by
  obtain ⟨fieldName, optional, check⟩ := RuleCode.mk.inj same
  have push : Quiet "                failures.push(ValidationFailure \x7b" := by decide
  have closing : ∀ line ∈ ["                \x7d);", "            \x7d", "        \x7d"],
      Quiet line := by
    decide
  have field : Alike ["                    field: " ++ quoted first.name ++ ","]
      ["                    field: " ++ quoted second.name ++ ","] [first.name] [second.name] :=
    alike_literal (by decide +kernel) (denotes_quoted _) (denotes_quoted _) (by decide)
  have message : Alike
      ["                    message: " ++ quoted first.check.message ++ ".to_string(),"]
      ["                    message: " ++ quoted second.check.message ++ ".to_string(),"]
      [first.check.message] [second.check.message] :=
    alike_literal (by decide +kernel) (denotes_quoted _) (denotes_quoted _) (by decide)
  have all := (alike_quiet (valueLines_quiet quiet)).append
    ((RuleCheck.failure_alike check).append ((alike_line push).append
      (field.append (message.append (alike_quiet closing)))))
  simpa [lines, valueLines, texts, ← fieldName, ← optional] using all

end Rule

namespace Validator

def code (validator : Validator) : Code :=
  .validator validator.name validator.dtoName (validator.rules.map Rule.code)

def texts (validator : Validator) : List String := validator.rules.flatMap Rule.texts

structure Tame (validator : Validator) : Prop where
  name : Quiet validator.name
  dtoName : Quiet validator.dtoName
  rules : ∀ rule ∈ validator.rules, Quiet rule.fieldName

theorem imports_quiet {validator : Validator} (tame : validator.Tame) :
    ∀ line ∈ ["", "use super::super::dtos::" ++ Naming.fileStem validator.dtoName ++ "::" ++
      validator.dtoName ++ ";", ""], Quiet line := by
  have stem := Naming.fileStem_quiet tame.dtoName
  have line : Quiet ("use super::super::dtos::" ++ Naming.fileStem validator.dtoName ++ "::" ++
      validator.dtoName ++ ";") :=
    quiet_append (quiet_append (quiet_append (quiet_append (by decide) stem) (by decide))
      tame.dtoName) (by decide)
  simp only [List.forall_mem_cons, List.not_mem_nil, false_implies, implies_true, and_true]
  exact ⟨by decide, line, by decide⟩

theorem head_quiet {validator : Validator} (tame : validator.Tame) :
    ∀ line ∈ ["pub struct " ++ validator.name ++ ";", "", "impl " ++ validator.name ++ " \x7b"],
      Quiet line := by
  have struct : Quiet ("pub struct " ++ validator.name ++ ";") :=
    quiet_append (quiet_append (by decide) tame.name) (by decide)
  have block : Quiet ("impl " ++ validator.name ++ " \x7b") :=
    quiet_append (quiet_append (by decide) tame.name) (by decide)
  simp only [List.forall_mem_cons, List.not_mem_nil, false_implies, implies_true, and_true]
  exact ⟨struct, by decide, block⟩

theorem signature_quiet {validator : Validator} (tame : validator.Tame) :
    ∀ line ∈ ["    pub fn validate(dto: &" ++ validator.dtoName ++
      ") -> Result<(), Vec<ValidationFailure>> \x7b", "        #[allow(unused_mut)]",
      "        let mut failures = Vec::new();"], Quiet line := by
  have line : Quiet ("    pub fn validate(dto: &" ++ validator.dtoName ++
      ") -> Result<(), Vec<ValidationFailure>> \x7b") :=
    quiet_append (quiet_append (by decide) tame.dtoName) (by decide +kernel)
  simp only [List.forall_mem_cons, List.not_mem_nil, false_implies, implies_true, and_true]
  exact ⟨line, by decide, by decide⟩

theorem failure_carries :
    Carries ["/// A single failed rule", "#[derive(Debug, Clone, PartialEq, Eq)]",
      "pub struct ValidationFailure \x7b", "    pub field: &'static str,",
      "    pub message: String,", "\x7d", "", "#[derive(Debug, Default)]"] [] := by
  decide +kernel

theorem alike {first second : Validator} (tame : first.Tame) (otherTame : second.Tame)
    (same : first.code = second.code) :
    Alike first.source second.source first.texts second.texts := by
  obtain ⟨name, dtoName, rules⟩ := Code.validator.inj same
  have origin {validator : Validator} (tame : validator.Tame) :
      ∀ line ∈ header ("for `" ++ validator.dtoName ++ "`."), IsComment line :=
    header_comments (by simp [tame.dtoName.oneLine])
  have doc : ∀ line ∈ ["    /// Check every rule and report all failures at once."],
      IsComment line := by
    decide +kernel
  have closing : ∀ line ∈ ["        if failures.is_empty() \x7b", "            Ok(())",
      "        \x7d else \x7b", "            Err(failures)", "        \x7d", "    \x7d", "\x7d"],
      Quiet line := by
    decide +kernel
  have checks := alike_flatMap (fun rule isRule other _ sameCode =>
    Rule.alike (tame.rules rule isRule) sameCode) rules
  have all := (alike_comments (origin tame) (origin otherTame)).append
    ((alike_quiet (imports_quiet tame)).append ((alike_of_carries failure_carries).append
      ((alike_quiet (head_quiet tame)).append ((alike_comments doc doc).append
        ((alike_quiet (signature_quiet tame)).append (checks.append (alike_quiet closing)))))))
  simpa [source, texts, ← name, ← dtoName] using all

end Validator

/-! ### Files -/

def Code.kind : Code → ArtifactKind
  | .struct _ _ _ | .enum _ _ _ => .dto
  | .request kind _ _ _ _ _ _ => .ofRequest kind
  | .handler _ _ _ _ _ => .handler
  | .validator _ _ _ => .validator

namespace Subject

def lines : Subject → List String
  | .dto made => made.source
  | .validator made => made.source
  | .request made => made.lines
  | .handler made contractModule => made.source contractModule

def code : Subject → Code
  | .dto made => made.code
  | .validator made => made.code
  | .request made => made.code
  | .handler made contractModule => made.code contractModule

def texts : Subject → List String
  | .dto made => made.texts
  | .validator made => made.texts
  | .request made => made.texts
  | .handler made _ => made.texts

def Tame : Subject → Prop
  | .dto made => made.Tame
  | .validator made => made.Tame
  | .request made => made.Tame
  | .handler made contractModule => made.Tame contractModule

def Bare : Subject → Prop
  | .request made => made.Bare
  | .dto _ | .validator _ | .handler _ _ => True

theorem code_kind (subject : Subject) : subject.code.kind = subject.kind := by
  cases subject with
  | dto made =>
      rw [code, Dto.code]
      split <;> rfl
  | validator made => rfl
  | request made => rfl
  | handler made contractModule => rfl

theorem alike {first second : Subject} (tame : first.Tame) (otherTame : second.Tame)
    (bare : first.Bare) (otherBare : second.Bare) (same : first.code = second.code) :
    Alike first.lines second.lines first.texts second.texts := by
  have kinds : first.kind = second.kind := by
    rw [← first.code_kind, ← second.code_kind, same]
  have kindsBack := kinds.symm
  cases first <;> cases second
  case dto.dto => exact Dto.alike tame otherTame same
  case validator.validator => exact Validator.alike tame otherTame same
  case request.request => exact Request.alike tame otherTame bare otherBare same
  case handler.handler => exact Handler.alike tame otherTame same
  all_goals simp [kind] at kinds kindsBack

/-- The file is read, and its literals denote its texts, just if it needs no escapes that it does
not have. -/
theorem carries_iff {subject : Subject} (tame : subject.Tame) :
    Carries subject.lines subject.texts ↔ subject.Bare := by
  refine ⟨?_, fun bare => (alike tame tame bare bare rfl).carries⟩
  cases subject with
  | request made => exact (Request.carries_iff tame).mp
  | dto made | validator made => exact fun _ => trivial
  | handler made contractModule => exact fun _ => trivial

theorem lines_ne_nil (subject : Subject) : subject.lines ≠ [] := by
  cases subject with
  | dto made => simp [lines, Dto.source, header]
  | validator made => simp [lines, Validator.source, header]
  | request made =>
      rw [lines, Request.lines]
      cases made.kind with
      | command => simp [Request.commandSource, Request.sourceWith, header]
      | query => simp [Request.querySource, Request.sourceWith, header]
  | handler made contractModule => simp [lines, Handler.source]

end Subject

namespace Instruction

def ReadsAs (instruction : Instruction) (pieces : List Piece) : Prop :=
  ∃ text, instruction.render = .ok text ∧ read text = some pieces

theorem readsAs_iff {instruction : Instruction} {pieces : List Piece}
    (fits : instruction.kind = instruction.subject.kind) :
    instruction.ReadsAs pieces ↔ Reads instruction.subject.lines pieces := by
  have source : instruction.source? = some instruction.subject.lines := by
    obtain ⟨kind, name, path, policy, subject⟩ := instruction
    obtain rfl : kind = subject.kind := fits
    cases subject with
    | dto made => rfl
    | validator made => rfl
    | request made =>
        rw [source?, Subject.kind, Subject.lines, Request.lines]
        cases made.kind <;> rfl
    | handler made contractModule => rfl
  have rendered : instruction.render = .ok ("\n".intercalate instruction.subject.lines) := by
    rw [render, source]
  rw [← read_lines_iff instruction.subject.lines_ne_nil]
  constructor
  · rintro ⟨text, same, reads⟩
    obtain rfl := Except.ok.inj (rendered.symm.trans same)
    exact reads
  · intro reads
    exact ⟨_, rendered, reads⟩

end Instruction

end ApiContracts
