import ApiContracts.Proofs.Closure.Boxing
import ApiContracts.Proofs.Plan.Delimiters
import ApiContracts.Proofs.Plan.DtoFields
import ApiContracts.Proofs.Types.RoundTrip
import Mathlib.Data.List.Forall2

/-!
The validators of a plan. There is one for each DTO that is no enumeration, and its rules are what
the properties of the model ask for; each fits the type that its field is written with.
-/

namespace ApiContracts

open Closure RuleCheck

def numericScalars : List Scalar := [.integer, .long, .float, .double]

def Property.Asks (property : Property) : RuleCheck → Prop
  | .notEmpty => property.required = true ∧ property.nullable = false ∧
      (property.type = .scalar .string ∨ ∃ element, property.type = .array element)
  | .minLength count =>
      property.type = .scalar .string ∧ property.constraints.minLength = some count
  | .maxLength count =>
      property.type = .scalar .string ∧ property.constraints.maxLength = some count
  | .pattern text => property.type = .scalar .string ∧
      ∃ pattern, property.pattern = some pattern ∧ Strips pattern text
  | .minimum bound => (∃ scalar ∈ numericScalars, property.type = .scalar scalar) ∧
      property.constraints.minimum = some bound
  | .maximum bound => (∃ scalar ∈ numericScalars, property.type = .scalar scalar) ∧
      property.constraints.maximum = some bound
  | .minItems count =>
      (∃ element, property.type = .array element) ∧ property.constraints.minItems = some count
  | .maxItems count =>
      (∃ element, property.type = .array element) ∧ property.constraints.maxItems = some count

namespace RuleCheck

def rank : RuleCheck → Nat
  | notEmpty => 0
  | minLength _ => 1
  | maxLength _ => 2
  | pattern _ => 3
  | minimum _ => 4
  | maximum _ => 5
  | minItems _ => 6
  | maxItems _ => 7

def text? : RuleCheck → Option String
  | pattern text => some text
  | _ => none

def Fits (base : String) : RuleCheck → Prop
  | notEmpty => base = "String" ∨ ∃ element, base = "Vec<" ++ element ++ ">"
  | minLength _ | maxLength _ | pattern _ => base = "String"
  | minimum _ | maximum _ => base ∈ ["i32", "i64", "f32", "f64"]
  | minItems _ | maxItems _ => ∃ element, base = "Vec<" ++ element ++ ">"

def Ranked (checks : List RuleCheck) (places : List Nat) : Prop :=
  (checks.map rank).Sublist places

theorem Ranked.append {checks others : List RuleCheck} {places more : List Nat}
    (ranked : Ranked checks places) (otherRanked : Ranked others more) :
    Ranked (checks ++ others) (places ++ more) := by
  rw [Ranked, List.map_append]
  exact List.Sublist.append ranked otherRanked

theorem ranked_given {α : Type} (limit : Option α) (check : α → RuleCheck) (place : Nat)
    (atPlace : ∀ x, (check x).rank = place) : Ranked (limit.toList.map check) [place] := by
  cases limit <;> simp [Ranked, atPlace]

theorem ranked_if (fits : Bool) {checks : List RuleCheck} {places : List Nat}
    (ranked : Ranked checks places) : Ranked (if fits then checks else []) places := by
  cases fits with
  | false => exact List.nil_sublist _
  | true => exact ranked

end RuleCheck

theorem TypeExpr.toDto_eq_scalar_iff (type : TypeExpr) (s : Scalar) :
    type.toDto = .scalar s ↔ type = .scalar s := by
  cases type <;> simp [toDto]

theorem TypeExpr.toDto_isNumeric_iff (type : TypeExpr) :
    type.toDto.isNumeric = true ↔ ∃ scalar ∈ numericScalars, type = .scalar scalar := by
  cases type with
  | scalar s => cases s <;> simp [toDto, isNumeric, numericScalars]
  | _ => simp [toDto, isNumeric]

theorem TypeExpr.toDto_isArray_iff (type : TypeExpr) :
    type.toDto.isArray = true ↔ ∃ element, type = .array element := by
  cases type <;> simp [toDto, isArray]

namespace DtoProperty

theorem mem_checks_iff (source : Property) (check : RuleCheck) :
    check ∈ (ofProperty source).checks ↔ source.Asks check := by
  rw [checks, ofProperty]
  dsimp only
  simp only [List.mem_append, List.mem_ite_nil_right, Bool.and_eq_true, Bool.or_eq_true, beq_iff_eq,
    TypeExpr.toDto_eq_scalar_iff, TypeExpr.toDto_isNumeric_iff, TypeExpr.toDto_isArray_iff]
  cases check <;> simp [Property.Asks, strips_iff, and_assoc]

theorem checks_ordered (property : DtoProperty) :
    property.checks.Pairwise (·.rank < ·.rank) := by
  have filled : Ranked [.notEmpty] [0] := List.Sublist.refl _
  have text := ((ranked_given property.constraints.minLength .minLength 1 fun _ => rfl).append
    (ranked_given property.constraints.maxLength .maxLength 2 fun _ => rfl)).append
    (ranked_given property.pattern .pattern 3 fun _ => rfl)
  have number := (ranked_given property.constraints.minimum .minimum 4 fun _ => rfl).append
    (ranked_given property.constraints.maximum .maximum 5 fun _ => rfl)
  have items := (ranked_given property.constraints.minItems .minItems 6 fun _ => rfl).append
    (ranked_given property.constraints.maxItems .maxItems 7 fun _ => rfl)
  have all : Ranked property.checks _ := (((ranked_if _ filled).append (ranked_if _ text)).append
    (ranked_if _ number)).append (ranked_if _ items)
  rw [← List.pairwise_map]
  exact List.Pairwise.sublist all (by decide)

def baseType (property : DtoProperty) : String :=
  if property.boxed then "Box<" ++ property.type.render ++ ">" else property.type.render

theorem fieldType_eq (property : DtoProperty) : property.fieldType =
    if property.isOptional then "Option<" ++ property.baseType ++ ">" else property.baseType :=
  rfl

structure Renders (property : DtoProperty) (source : Property) : Prop where
  made : ofProperty source = { property with boxed := false }
  boxed : property.boxed = true → ∃ target, property.type = .reference target

end DtoProperty

theorem TypeExpr.toDto_render_ne (type : TypeExpr) (inner : String) :
    type.toDto.render ≠ "Option<" ++ inner ++ ">" := by
  intro same
  have chars := congrArg String.toList same
  rw [render, String.toList_ofList, String.toList_append, String.toList_append] at chars
  -- Names of DTOs end in another character, and all other types begin with one.
  have first : type.toDto.chars.head? = some 'O' := by
    rw [chars]
    rfl
  have last : type.toDto.chars.getLast? = some '>' := by
    have ending : ">".toList = ['>'] := rfl
    rw [chars, ending, List.getLast?_concat]
  cases type with
  | scalar s =>
      have other : ∀ t ∈ Scalar.all, t.spelling.toList.head? ≠ some 'O' := by decide
      have listed : s ∈ Scalar.all := by cases s <;> decide
      exact other s listed first
  | reference name =>
      rw [toDto, chars_reference, Naming.dtoName_getLast?] at last
      exact absurd last (by decide)
  | array element =>
      rw [toDto, chars_array] at first
      simp at first
  | map key value =>
      rw [toDto, chars_map] at first
      simp at first

theorem TypeExpr.render_array (element : TypeExpr) :
    (TypeExpr.array element).render = "Vec<" ++ element.render ++ ">" := by
  apply String.toList_inj.mp
  simp [render, chars_array]

namespace DtoProperty

variable {property : DtoProperty} {source : Property}

theorem Renders.type_eq (renders : property.Renders source) :
    property.type = source.type.toDto :=
  (congrArg DtoProperty.type renders.made).symm

theorem Renders.checks_eq (renders : property.Renders source) :
    property.checks = (ofProperty source).checks := by
  rw [renders.made]
  rfl

theorem Renders.isOptional_iff (renders : property.Renders source) :
    property.isOptional = true ↔ ∃ inner, property.fieldType = "Option<" ++ inner ++ ">" := by
  rw [fieldType_eq]
  constructor
  · intro optional
    exact ⟨property.baseType, by rw [if_pos optional]⟩
  · rintro ⟨inner, same⟩
    by_contra notOptional
    rw [if_neg notOptional, baseType] at same
    split at same
    · have chars := congrArg (·.toList.head?) same
      simp at chars
    · rw [renders.type_eq] at same
      exact source.type.toDto_render_ne inner same

theorem Renders.baseType_eq (renders : property.Renders source)
    (other : ∀ name, source.type ≠ .reference name) :
    property.baseType = source.type.toDto.render := by
  have unboxed : property.boxed = false := by
    rw [← Bool.not_eq_true]
    intro boxed
    obtain ⟨target, typed⟩ := renders.boxed boxed
    rw [renders.type_eq] at typed
    cases type : source.type with
    | reference name => exact other name type
    | scalar s => simp [type, TypeExpr.toDto] at typed
    | array element => simp [type, TypeExpr.toDto] at typed
    | map key value => simp [type, TypeExpr.toDto] at typed
  rw [baseType, unboxed, renders.type_eq]
  rfl

theorem Renders.baseType_scalar (renders : property.Renders source) {s : Scalar}
    (typed : source.type = .scalar s) : property.baseType = s.spelling := by
  rw [renders.baseType_eq (by simp [typed]), typed]
  apply String.toList_inj.mp
  simp [TypeExpr.toDto, TypeExpr.render, TypeExpr.chars_scalar]

theorem Renders.baseType_array (renders : property.Renders source) {element : TypeExpr}
    (typed : source.type = .array element) :
    property.baseType = "Vec<" ++ element.toDto.render ++ ">" := by
  rw [renders.baseType_eq (by simp [typed]), typed, TypeExpr.toDto, TypeExpr.render_array]

theorem Renders.fits (renders : property.Renders source) {check : RuleCheck}
    (asks : source.Asks check) : check.Fits property.baseType := by
  cases check with
  | notEmpty =>
      obtain ⟨_, _, text | ⟨element, array⟩⟩ := asks
      · exact .inl (renders.baseType_scalar text)
      · exact .inr ⟨_, renders.baseType_array array⟩
  | minLength | maxLength | pattern => exact renders.baseType_scalar asks.1
  | minimum | maximum =>
      obtain ⟨⟨s, numeric, typed⟩, _⟩ := asks
      rw [Fits, renders.baseType_scalar typed]
      have spelled : ∀ s ∈ numericScalars, s.spelling ∈ ["i32", "i64", "f32", "f64"] := by decide
      exact spelled s numeric
  | minItems | maxItems =>
      obtain ⟨⟨element, array⟩, _⟩ := asks
      exact ⟨_, renders.baseType_array array⟩

end DtoProperty

/-- The rules are those that the property asks for, in order. Each names its field, allows for an
absent value where the field does, and otherwise checks the type that it is written with. -/
structure RulesFor (rules : List Rule) (field : DtoProperty × Property) : Prop where
  named : ∀ rule ∈ rules, rule.fieldName = field.1.fieldName ∧ rule.name = field.1.name
  optional_iff : ∀ rule ∈ rules,
    rule.optional = true ↔ ∃ inner, field.1.fieldType = "Option<" ++ inner ++ ">"
  fits : ∀ rule ∈ rules, ∃ base, rule.check.Fits base ∧
    field.1.fieldType = if rule.optional then "Option<" ++ base ++ ">" else base
  asked : ∀ check, check ∈ rules.map (·.check) ↔ field.2.Asks check
  ordered : (rules.map (·.check)).Pairwise (·.rank < ·.rank)

theorem DtoProperty.Renders.rulesFor {property : DtoProperty} {source : Property}
    (renders : property.Renders source) : RulesFor property.rules (property, source) := by
  have checks : property.rules.map (·.check) = property.checks := by
    simp [DtoProperty.rules, Function.comp_def]
  constructor
  · intro rule isRule
    obtain ⟨check, _, rfl⟩ := List.mem_map.mp isRule
    exact ⟨rfl, rfl⟩
  · intro rule isRule
    obtain ⟨check, _, rfl⟩ := List.mem_map.mp isRule
    exact renders.isOptional_iff
  · intro rule isRule
    obtain ⟨check, isCheck, rfl⟩ := List.mem_map.mp isRule
    rw [renders.checks_eq, DtoProperty.mem_checks_iff] at isCheck
    exact ⟨property.baseType, renders.fits isCheck, property.fieldType_eq⟩
  · intro check
    rw [checks, renders.checks_eq]
    exact DtoProperty.mem_checks_iff source check
  · rw [checks]
    exact property.checks_ordered

structure Validator.Guards (validator : Validator) (dto : Dto) (model : Model) : Prop where
  name : validator.name = Naming.validatorName dto.name
  dtoName : validator.dtoName = dto.name
  fields : dto.FieldsOf model
  rules : ∃ parts, validator.rules = parts.flatten ∧
    List.Forall₂ RulesFor parts (dto.properties.zip model.properties)

theorem rulesFor_zip {properties : List DtoProperty} {sources : List Property}
    (renders : List.Forall₂ DtoProperty.Renders properties sources) :
    List.Forall₂ RulesFor (properties.map DtoProperty.rules) (properties.zip sources) := by
  induction renders with
  | nil => exact .nil
  | cons first _ ih => exact .cons first.rulesFor ih

namespace Dto

theorem renders_of_unboxed {dto : Dto} {model : Model} (made : ofModel model = dto.unboxed)
    (boxed : ∀ property ∈ dto.properties, property.boxed = true →
      ∃ target, property.type = .reference target) :
    List.Forall₂ DtoProperty.Renders dto.properties model.properties := by
  have properties : model.properties.map DtoProperty.ofProperty =
      dto.properties.map fun property => { property with boxed := false } :=
    congrArg Dto.properties made
  -- From here on the two lists of properties are all that counts.
  generalize dto.properties = copies at boxed properties
  generalize model.properties = sources at properties
  induction sources generalizing copies with
  | nil =>
      obtain rfl := List.map_eq_nil_iff.mp properties.symm
      exact .nil
  | cons source rest ih =>
      obtain ⟨copy, others, rfl, same, later⟩ := List.map_eq_cons_iff.mp properties.symm
      obtain ⟨first, others_boxed⟩ := List.forall_mem_cons.mp boxed
      exact .cons ⟨same.symm, first⟩ (ih others others_boxed later.symm)

theorem guards_of_validator? {dto : Dto} {model : Model} {validator : Validator}
    (made : ofModel model = dto.unboxed)
    (boxed : ∀ property ∈ dto.properties, property.boxed = true →
      ∃ target, property.type = .reference target)
    (validated : dto.validator? = some validator) : validator.Guards dto model := by
  rw [validator?] at validated
  split at validated
  next => contradiction
  next =>
      obtain rfl := Option.some.inj validated
      refine ⟨rfl, rfl, fieldsOf_of_unboxed made, dto.properties.map DtoProperty.rules, ?_,
        rulesFor_zip (renders_of_unboxed made boxed)⟩
      exact List.flatMap_def

theorem validators_forall₂ {relates : Validator → Dto → Prop} {dtos : List Dto}
    (each : ∀ dto ∈ dtos, ∀ validator, dto.validator? = some validator → relates validator dto) :
    List.Forall₂ relates (dtos.filterMap Dto.validator?) (dtos.filter fun dto => !dto.isEnum) := by
  induction dtos with
  | nil => exact .nil
  | cons dto rest ih =>
      obtain ⟨first, others⟩ := List.forall_mem_cons.mp each
      cases isEnum : dto.isEnum with
      | true =>
          have unvalidated : dto.validator? = none := by simp [validator?, isEnum]
          rw [List.filterMap_cons_none unvalidated, List.filter_cons_of_neg (by simp [isEnum])]
          exact ih others
      | false =>
          obtain ⟨validator, validated⟩ : ∃ validator, dto.validator? = some validator := by
            simp [validator?, isEnum]
          rw [List.filterMap_cons_some validated, List.filter_cons_of_pos (by simp [isEnum])]
          exact .cons (first validator validated) (ih others)

end Dto

namespace Document

theorem plannable_without_validators {document : Document} {includeAllModels : Bool}
    {closure : Closure} (plannable : document.Plannable ⟨true, includeAllModels⟩ closure) :
    document.Plannable ⟨false, includeAllModels⟩ closure :=
  { requestNames := plannable.requestNames
    built := plannable.built
    dtoStems := plannable.dtoStems
    validatorStems := List.nodup_nil
    requestStems := plannable.requestStems
    handlerStems := plannable.handlerStems }

theorem validators_guard {document : Document} {options : PlanOptions} {plan : Plan}
    (enabled : options.validators = true) (planned : document.plan options = .ok plan) :
    List.Forall₂ (fun validator dto => ∃ model ∈ document.models, validator.Guards dto model)
      plan.validators (plan.dtos.filter fun dto => !dto.isEnum) := by
  have boxing := (plan_boxing_exact planned).1
  obtain ⟨closure, plannable, rfl⟩ := (plan_eq_ok_iff document options plan).mp planned
  obtain ⟨findings, complete⟩ := closure_complete plannable.built
  simp only [planOf, validatorsOf, enabled, ↓reduceIte]
  apply Dto.validators_forall₂
  intro dto isDto validator validated
  obtain ⟨finding, isFinding, made⟩ := complete.gathered.origin isDto
  have stands := standsFor_of_lookup (complete.gathered.found finding isFinding)
  refine ⟨finding.2, stands.1, Dto.guards_of_validator? made ?_ validated⟩
  intro property isProperty boxed
  obtain ⟨target, typed, _⟩ := (boxing dto isDto property isProperty).mp boxed
  exact ⟨target, typed⟩

/-- A plan with validators has one for each DTO that is no enumeration, in their order, and its
rules are those that the properties of the DTO's model ask for. Without validators the plan is the
same but for these. -/
theorem plan_validators (document : Document) (includeAllModels : Bool) :
    (∀ plan, document.plan ⟨true, includeAllModels⟩ = .ok plan →
        List.Forall₂ (fun validator dto => ∃ model ∈ document.models, validator.Guards dto model)
            plan.validators (plan.dtos.filter fun dto => !dto.isEnum) ∧
          document.plan ⟨false, includeAllModels⟩ = .ok { plan with validators := [] }) ∧
      ∀ plan, document.plan ⟨false, includeAllModels⟩ = .ok plan → plan.validators = [] := by
  constructor
  · intro plan planned
    refine ⟨validators_guard rfl planned, ?_⟩
    obtain ⟨closure, plannable, rfl⟩ := (plan_eq_ok_iff document _ plan).mp planned
    rw [plan_eq_ok_iff]
    exact ⟨closure, plannable_without_validators plannable, rfl⟩
  · intro plan planned
    obtain ⟨closure, _, rfl⟩ := (plan_eq_ok_iff document _ plan).mp planned
    rfl

def intake : Document :=
  { title := "Intake"
    version := "1"
    operations :=
      [⟨"admit", ⟨"POST"⟩, "/patients", none, [], [], some ⟨.reference "Patient", true⟩, .void⟩]
    models :=
      [⟨"Patient", none,
          [⟨"name", .scalar .string, true, false, none,
              ⟨some 1, some 40, some 0, none, some 2, none⟩, some "/[A-Z]+/"⟩,
            ⟨"age", .scalar .integer, false, false, none,
              ⟨some 1, none, some 0, some 130, none, none⟩, some "/[0-9]+/"⟩,
            ⟨"doctors", .array (.scalar .string), true, true, none,
              ⟨none, some 40, none, none, some 1, some 3⟩, none⟩,
            ⟨"ward", .reference "Ward", true, false, none, .none, none⟩], []⟩,
        ⟨"Ward", none, [], ["north", "south"]⟩] }

theorem intake_validators :
    ∃ plan, intake.plan ⟨true, false⟩ = .ok plan ∧
      plan.validators.map (fun validator => (validator.dtoName, validator.rules.map fun rule =>
          (rule.fieldName, rule.optional, rule.check.rank))) =
        [("PatientDto", [("name", false, 0), ("name", false, 1), ("name", false, 2),
          ("name", false, 3), ("age", true, 4), ("age", true, 5), ("doctors", true, 6),
          ("doctors", true, 7)])] ∧
      plan.validators.map (·.rules.filterMap (·.check.text?)) = [["[A-Z]+"]] ∧
      List.Forall₂ (fun validator dto => ∃ model ∈ intake.models, validator.Guards dto model)
        plan.validators (plan.dtos.filter fun dto => !dto.isEnum) ∧
      intake.plan ⟨false, false⟩ = .ok { plan with validators := [] } := by
  have rules : (intake.plan ⟨true, false⟩).map (fun plan => plan.validators.map fun validator =>
      (validator.dtoName, validator.rules.map fun rule =>
        (rule.fieldName, rule.optional, rule.check.rank))) =
      .ok [("PatientDto", [("name", false, 0), ("name", false, 1), ("name", false, 2),
        ("name", false, 3), ("age", true, 4), ("age", true, 5), ("doctors", true, 6),
        ("doctors", true, 7)])] := by
    decide +kernel
  have texts : (intake.plan ⟨true, false⟩).map (·.validators.map
      (·.rules.filterMap (·.check.text?))) = .ok [["[A-Z]+"]] := by
    decide +kernel
  obtain ⟨plan, planned, same⟩ := (map_ok_iff _ _ _).mp rules
  rw [planned] at texts
  exact ⟨plan, planned, same, Except.ok.inj texts, (plan_validators intake false).1 plan planned⟩

end Document

end ApiContracts
