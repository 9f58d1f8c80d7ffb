import ApiContracts.Proofs.Plan.Validators

/-!
Patterns in the rules of validators. One between delimiters loses nothing else, but one that ends in
a blank is cut though no delimiters enclose it.
-/

namespace ApiContracts

open Text

theorem spaced_pattern_cut :
    stripDelimiters "[A-Z] " = "[A-Z]" ∧
      ¬Undelimits "[A-Z] ".toList (stripDelimiters "[A-Z] ").toList := by
  refine ⟨by decide, fun exact => ?_⟩
  have tight := (strips_stripDelimiters "[A-Z] ").exact_iff.mp exact
  exact absurd tight (by decide)

theorem stripDelimiters_wrapped {delimiter : Char} (isDelimiter : delimiter ∈ patternDelimiters)
    (inner : List Char) :
    stripDelimiters (String.ofList (delimiter :: (inner ++ [delimiter]))) = String.ofList inner := by
  rw [stripDelimiters, String.toList_ofList,
    (trim_eq_self_iff _).mpr (tight_wrapped isDelimiter inner)]
  simp [isDelimiter]

theorem exists_of_forall₂ {α β : Type} {relates : α → β → Prop} {first : List α} {second : List β}
    (related : List.Forall₂ relates first second) {a : α} (isFirst : a ∈ first) :
    ∃ b ∈ second, relates a b := by
  induction related with
  | nil => simp at isFirst
  | cons here _ ih =>
      rcases List.mem_cons.mp isFirst with rfl | later
      · exact ⟨_, List.mem_cons_self, here⟩
      · obtain ⟨b, isSecond, holds⟩ := ih later
        exact ⟨b, List.mem_cons_of_mem _ isSecond, holds⟩

def Model.HasPattern (model : Model) (rule : Rule) (text : String) : Prop :=
  ∃ property ∈ model.properties, ∃ pattern, property.name = rule.name ∧
    property.type = .scalar .string ∧ property.pattern = some pattern ∧ Strips pattern text

theorem Dto.FieldsOf.same_name {dto : Dto} {model : Model} (fields : dto.FieldsOf model)
    {property : DtoProperty} {source : Property}
    (isField : (property, source) ∈ dto.properties.zip model.properties) :
    property.name = source.name := by
  have names := fields.names
  rw [← List.forall₂_eq_eq_eq, List.forall₂_map_left_iff, List.forall₂_map_right_iff] at names
  exact (List.forall₂_iff_zip.mp names).2 isField

theorem Validator.Guards.hasPattern {validator : Validator} {dto : Dto} {model : Model}
    (guards : validator.Guards dto model) {rule : Rule} (isRule : rule ∈ validator.rules)
    {text : String} (check : rule.check = .pattern text) : model.HasPattern rule text := by
  obtain ⟨parts, all, related⟩ := guards.rules
  rw [all] at isRule
  obtain ⟨rules, isPart, inPart⟩ := List.mem_flatten.mp isRule
  obtain ⟨⟨property, source⟩, isField, rulesFor⟩ := exists_of_forall₂ related isPart
  have named : source.name = rule.name :=
    (guards.fields.same_name isField).symm.trans (rulesFor.named rule inPart).2.symm
  obtain ⟨typed, pattern, given, strips⟩ :=
    (rulesFor.asked (.pattern text)).mp (check ▸ List.mem_map_of_mem inPart)
  exact ⟨source, (List.of_mem_zip isField).2, pattern, named, typed, given, strips⟩

namespace Document

theorem validators_enabled {document : Document} {options : PlanOptions} {plan : Plan}
    (planned : document.plan options = .ok plan) {validator : Validator}
    (isValidator : validator ∈ plan.validators) : options.validators = true := by
  obtain ⟨closure, _, rfl⟩ := (plan_eq_ok_iff document options plan).mp planned
  by_contra disabled
  simp [planOf, validatorsOf, disabled] at isValidator

/-- A pattern loses the blanks around it and then one pair of delimiters, so a pattern between
delimiters loses nothing else, and one without them stays as it is just if no blanks are around it.
What is left is what the validators of a plan check, each rule for a property of its name. -/
theorem plan_patterns (document : Document) (options : PlanOptions) :
    (∀ pattern, Strips pattern (stripDelimiters pattern)) ∧
    (∀ delimiter ∈ patternDelimiters, ∀ inner,
      stripDelimiters (String.ofList (delimiter :: (inner ++ [delimiter]))) =
        String.ofList inner) ∧
    ∀ plan, document.plan options = .ok plan → ∀ validator ∈ plan.validators,
      ∀ rule ∈ validator.rules, ∀ text, rule.check = .pattern text →
        ∃ model ∈ document.models, model.HasPattern rule text := by
  refine ⟨strips_stripDelimiters, fun _ => stripDelimiters_wrapped, ?_⟩
  intro plan planned validator isValidator rule isRule text check
  have enabled := validators_enabled planned isValidator
  obtain ⟨dto, _, model, isModel, guards⟩ :=
    exists_of_forall₂ (validators_guard enabled planned) isValidator
  exact ⟨model, isModel, guards.hasPattern isRule check⟩

def tickets : Document :=
  { title := "Tickets"
    version := "1"
    operations := []
    models :=
      [⟨"Ticket", none,
        [⟨"row", .scalar .string, true, false, none, .none, some "/[A-Z]+/"⟩,
          ⟨"gate", .scalar .string, false, false, none, .none, some "[A-Z] "⟩], []⟩] }

theorem tickets_patterns :
    ∃ plan, tickets.plan ⟨true, true⟩ = .ok plan ∧
      (plan.validators.map fun validator => validator.rules.filterMap fun rule =>
          match rule.check with
          | .pattern text => some (rule.name, text)
          | _ => none) = [[("row", "[A-Z]+"), ("gate", "[A-Z]")]] ∧
      (∀ validator ∈ plan.validators, ∀ rule ∈ validator.rules, ∀ text,
        rule.check = .pattern text → ∃ model ∈ tickets.models, model.HasPattern rule text) ∧
      stripDelimiters (String.ofList ('/' :: ("[A-Z]+".toList ++ ['/']))) =
        String.ofList "[A-Z]+".toList := by
  obtain ⟨-, wrapped, rules⟩ := plan_patterns tickets ⟨true, true⟩
  have patterns : (tickets.plan ⟨true, true⟩).map (fun plan => plan.validators.map fun validator =>
      validator.rules.filterMap fun rule =>
        match rule.check with
        | .pattern text => some (rule.name, text)
        | _ => none) = .ok [[("row", "[A-Z]+"), ("gate", "[A-Z]")]] := by
    decide +kernel
  obtain ⟨plan, planned, same⟩ := (map_ok_iff _ _ _).mp patterns
  exact ⟨plan, planned, same, rules plan planned, wrapped '/' (by decide) _⟩

end Document

end ApiContracts
