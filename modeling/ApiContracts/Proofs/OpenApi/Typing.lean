import ApiContracts.OpenApi.Mapping

/-!
The types of schemas, one level at a time. A schema takes its type from at most one other and puts a
layer around it, so a schema that is followed so many levels down has that many layers around the
type of the schema found there.
-/

namespace ApiContracts.OpenApi

def Keywords.variants {σ : Type} (keywords : Keywords σ) : List σ :=
  if keywords.oneOf.isEmpty then keywords.anyOf else keywords.oneOf

def membersType (follow : Schema → Typing) (keywords : Keywords Schema) : TypeExpr :=
  if !keywords.properties.isEmpty then .scalar .any
  else
    match keywords.additionalProperties with
    | some (.always true) => .map (.scalar .string) (.scalar .any)
    | some (.always false) | none => .scalar .any
    | some values => .map (.scalar .string) (follow values).type

def wordType (follow : Schema → Typing) (keywords : Keywords Schema) : TypeExpr :=
  match keywords.word? with
  | some "string" => .scalar (textType keywords.format)
  | some "integer" => .scalar (if keywords.format == some "int64" then .long else .integer)
  | some "number" => .scalar (if keywords.format == some "float" then .float else .double)
  | some "boolean" => .scalar .bool
  | some "array" =>
    .array (match keywords.items with
      | some items => (follow items).type
      | none => .scalar .any)
  | some "object" | none => membersType follow keywords
  | some _ => .scalar .any

def objectTyping (follow : Schema → Typing) (keywords : Keywords Schema) : Typing :=
  if !keywords.variants.isEmpty then
    match keywords.variants.filter (!·.isNull) with
    | [single] =>
      ⟨(follow single).type, keywords.variants.any Schema.isNull || (follow single).nullable⟩
    | _ => ⟨.scalar .any, keywords.variants.any Schema.isNull⟩
  else
    match keywords.allOf with
    | [single] => follow single
    | _ :: _ :: _ => ⟨.scalar .any, false⟩
    | [] => ⟨wordType follow keywords, keywords.type.any (·.isNullable)⟩

/-- What holds of scalars other than the unit, and is kept by arrays and maps. -/
structure Built (P : TypeExpr → Prop) : Prop where
  scalar : ∀ s, s ≠ .unit → P (.scalar s)
  array : ∀ type, P type → P (.array type)
  map : ∀ type, P type → P (.map (.scalar .string) type)

namespace Built

variable {P : TypeExpr → Prop} {follow : Schema → Typing}

theorem any (built : Built P) : P (.scalar .any) := built.scalar .any (by simp)

theorem text (built : Built P) (format : Option String) : P (.scalar (textType format)) := by
  apply built.scalar
  fun_cases textType format <;> simp

theorem members (built : Built P) (followed : ∀ schema, P (follow schema).type)
    (keywords : Keywords Schema) : P (membersType follow keywords) := by
  rw [membersType]
  split
  · exact built.any
  · split
    · exact built.map _ built.any
    · exact built.any
    · exact built.any
    · exact built.map _ (followed _)

theorem word (built : Built P) (followed : ∀ schema, P (follow schema).type)
    (keywords : Keywords Schema) : P (wordType follow keywords) := by
  rw [wordType]
  split
  · exact built.text _
  · exact built.scalar _ (by split <;> simp)
  · exact built.scalar _ (by split <;> simp)
  · exact built.scalar _ (by simp)
  · apply built.array
    split
    · exact followed _
    · exact built.any
  · exact built.members followed keywords
  · exact built.members followed keywords
  · exact built.any

theorem object (built : Built P) (followed : ∀ schema, P (follow schema).type)
    (keywords : Keywords Schema) : P (objectTyping follow keywords).type := by
  fun_cases objectTyping follow keywords
  · exact followed _
  · exact built.any
  · exact followed _
  · exact built.any
  · exact built.word followed keywords

end Built

def aliasTarget? (schemas : Schemas) (path : String) : Option Schema :=
  if (dropStart? schemaRefStart path).isSome && !isModelName schemas (refName path) then
    schemas.lookup (refName path)
  else none

def typingStep (schemas : Schemas) (follow : Schema → Typing) : Schema → Typing
  | .always _ => ⟨.scalar .any, false⟩
  | .reference path _ =>
    match aliasTarget? schemas path with
    | some target => follow target
    | none => ⟨.reference (refName path), false⟩
  | .object keywords => objectTyping follow keywords

theorem typing_succ (schemas : Schemas) (budget : Nat) (schema : Schema) :
    typing schemas (budget + 1) schema = typingStep schemas (typing schemas budget) schema := by
  cases schema with
  | always value => rfl
  | object keywords => rfl
  | reference path note =>
      rw [typing, typingStep, aliasTarget?]
      split
      · cases schemas.lookup (refName path) <;> rfl
      · rfl

theorem Typing.eq_iff {first second : Typing} :
    first = second ↔ first.type = second.type ∧ first.nullable = second.nullable := by
  cases first
  cases second
  simp

/-- What a schema makes of a type that it takes from another one. -/
inductive Layer where
  | same (nullable : Bool)
  | array (nullable : Bool)
  | map (nullable : Bool)
deriving DecidableEq

namespace Layer

def around : Layer → Typing → Typing
  | same nullable, inner => ⟨inner.type, nullable || inner.nullable⟩
  | array nullable, inner => ⟨.array inner.type, nullable⟩
  | map nullable, inner => ⟨.map (.scalar .string) inner.type, nullable⟩

theorem around_eq_iff (layer : Layer) (first second : Typing) :
    layer.around first = layer.around second ↔
      first.type = second.type ∧ (layer = .same false → first.nullable = second.nullable) := by
  cases layer with
  | same nullable => cases nullable <;> simp [around]
  | array nullable => simp [around]
  | map nullable => simp [around]

def through (layers : List Layer) (inner : Typing) : Typing := layers.foldr around inner

/-- Whether the type inside admits null shows outside only if no layer hides it. -/
def Transparent (layers : List Layer) : Prop := ∀ layer ∈ layers, layer = .same false

theorem through_type_iff (layers : List Layer) (first second : Typing) :
    (through layers first).type = (through layers second).type ↔ first.type = second.type := by
  induction layers with
  | nil => rfl
  | cons layer rest ih =>
      rw [← ih]
      cases layer <;> simp [through, around]

theorem through_eq_iff (layers : List Layer) (first second : Typing) :
    through layers first = through layers second ↔
      first.type = second.type ∧ (Transparent layers → first.nullable = second.nullable) := by
  induction layers with
  | nil => simp [through, Transparent, Typing.eq_iff]
  | cons layer rest ih =>
      have outer := around_eq_iff layer (through rest first) (through rest second)
      rw [through_type_iff] at outer
      refine outer.trans ?_
      constructor
      · rintro ⟨types, nulls⟩
        refine ⟨types, ?_⟩
        intro transparent
        obtain ⟨isSame, others⟩ := List.forall_mem_cons.mp transparent
        have inside : through rest first = through rest second :=
          Typing.eq_iff.mpr ⟨(through_type_iff ..).mpr types, nulls isSame⟩
        exact (ih.mp inside).2 others
      · rintro ⟨types, nulls⟩
        refine ⟨types, ?_⟩
        intro isSame
        have inside := ih.mpr ⟨types, fun others => nulls (List.forall_mem_cons.mpr ⟨isSame, others⟩)⟩
        rw [inside]

end Layer

def Keywords.membersSource? (keywords : Keywords Schema) : Option Schema :=
  if !keywords.properties.isEmpty then none
  else
    match keywords.additionalProperties with
    | some (.always _) => none
    | values => values

def Keywords.wordSource? (keywords : Keywords Schema) : Option (Layer × Schema) :=
  let nullable := keywords.type.any (·.isNullable)
  match keywords.word? with
  | some "array" => keywords.items.map (.array nullable, ·)
  | some "object" | none => keywords.membersSource?.map (.map nullable, ·)
  | some _ => none

def Keywords.source? (keywords : Keywords Schema) : Option (Layer × Schema) :=
  if !keywords.variants.isEmpty then
    match keywords.variants.filter (!·.isNull) with
    | [single] => some (.same (keywords.variants.any Schema.isNull), single)
    | _ => none
  else
    match keywords.allOf with
    | [single] => some (.same false, single)
    | _ :: _ :: _ => none
    | [] => keywords.wordSource?

def source? (schemas : Schemas) : Schema → Option (Layer × Schema)
  | .always _ => none
  | .reference path _ => (aliasTarget? schemas path).map (.same false, ·)
  | .object keywords => keywords.source?

def TakesFrom (source : Option (Layer × Schema)) (typed : (Schema → Typing) → Typing) : Prop :=
  match source with
  | some (layer, inner) => ∀ follow, typed follow = layer.around (follow inner)
  | none => ∀ follow other, typed follow = typed other

theorem membersType_takesFrom (keywords : Keywords Schema) (nullable : Bool) :
    TakesFrom (keywords.membersSource?.map (.map nullable, ·))
      (⟨membersType · keywords, nullable⟩) := by
  rw [Keywords.membersSource?]
  unfold membersType
  cases keywords.properties.isEmpty with
  | false => exact fun _ _ => rfl
  | true =>
      match keywords.additionalProperties with
      | none => exact fun _ _ => rfl
      | some (.always true) => exact fun _ _ => rfl
      | some (.always false) => exact fun _ _ => rfl
      | some (.reference path note) => exact fun _ => rfl
      | some (.object inner) => exact fun _ => rfl

theorem wordType_takesFrom (keywords : Keywords Schema) :
    TakesFrom keywords.wordSource?
      (⟨wordType · keywords, keywords.type.any (·.isNullable)⟩) := by
  rw [Keywords.wordSource?]
  unfold wordType
  split
  next word =>
      simp only [word]
      cases keywords.items with
      | none => exact fun _ _ => rfl
      | some items => exact fun _ => rfl
  next word =>
      simp only [word]
      exact membersType_takesFrom keywords _
  next word =>
      simp only [word]
      exact membersType_takesFrom keywords _
  next notArray notObject word =>
      intro follow other
      simp only [word]
      split <;> simp_all

theorem objectTyping_takesFrom (keywords : Keywords Schema) :
    TakesFrom keywords.source? (objectTyping · keywords) := by
  rw [Keywords.source?]
  unfold objectTyping
  by_cases alternatives : (!keywords.variants.isEmpty) = true
  · simp only [alternatives, ↓reduceIte]
    generalize keywords.variants.filter (!·.isNull) = others
    match others with
    | [] => exact fun _ _ => rfl
    | [single] => exact fun _ => rfl
    | _ :: _ :: _ => exact fun _ _ => rfl
  · simp only [alternatives, Bool.false_eq_true, ↓reduceIte]
    match keywords.allOf with
    | [] => exact wordType_takesFrom keywords
    | [single] => exact fun _ => rfl
    | _ :: _ :: _ => exact fun _ _ => rfl

theorem typingStep_takesFrom (schemas : Schemas) (schema : Schema) :
    TakesFrom (source? schemas schema) (typingStep schemas · schema) := by
  cases schema with
  | always value => exact fun _ _ => rfl
  | object keywords => exact objectTyping_takesFrom keywords
  | reference path note =>
      simp only [source?, typingStep]
      cases aliasTarget? schemas path with
      | none => exact fun _ _ => rfl
      | some target => exact fun _ => rfl

theorem typingStep_of_source {schemas : Schemas} {schema inner : Schema} {layer : Layer}
    (source : source? schemas schema = some (layer, inner)) (follow : Schema → Typing) :
    typingStep schemas follow schema = layer.around (follow inner) := by
  have takes := typingStep_takesFrom schemas schema
  rw [source] at takes
  exact takes follow

theorem typingStep_congr {schemas : Schemas} {schema : Schema} {follow other : Schema → Typing}
    (same : ∀ layer inner, source? schemas schema = some (layer, inner) →
      follow inner = other inner) :
    typingStep schemas follow schema = typingStep schemas other schema := by
  cases source : source? schemas schema with
  | none =>
      have takes := typingStep_takesFrom schemas schema
      rw [source] at takes
      exact takes follow other
  | some pair =>
      obtain ⟨layer, inner⟩ := pair
      rw [typingStep_of_source source, typingStep_of_source source, same layer inner source]

namespace Built

variable {P : TypeExpr → Prop} {schemas : Schemas}

theorem around (built : Built P) (layer : Layer) {inner : Typing} (holds : P inner.type) :
    P (layer.around inner).type := by
  cases layer with
  | same nullable => exact holds
  | array nullable => exact built.array _ holds
  | map nullable => exact built.map _ holds

/-- It holds of the type of a schema if it does of the type that this is taken from, and of what a
reference that stands for no alias is taken for. -/
theorem step (built : Built P) {schema : Schema} {follow : Schema → Typing}
    (named : ∀ path note, schema = .reference path note → aliasTarget? schemas path = none →
      P (.reference (refName path)))
    (followed : ∀ layer inner, source? schemas schema = some (layer, inner) →
      P (follow inner).type) :
    P (typingStep schemas follow schema).type := by
  cases source : source? schemas schema with
  | some pair =>
      obtain ⟨layer, inner⟩ := pair
      rw [typingStep_of_source source]
      exact built.around layer (followed layer inner source)
  | none =>
      cases schema with
      | always value => exact built.any
      | reference path note =>
          have noAlias : aliasTarget? schemas path = none := by simpa [source?] using source
          rw [typingStep, noAlias]
          exact named path note rfl noAlias
      | object keywords =>
          have takes := typingStep_takesFrom schemas (.object keywords)
          rw [source] at takes
          -- Nothing is followed, so free-form types may stand for what would be.
          have free : typingStep schemas follow (.object keywords) =
              objectTyping (fun _ => ⟨.scalar .any, false⟩) keywords := takes ..
          rw [free]
          exact built.object (fun _ => built.any) keywords

end Built

structure Formed (P : TypeExpr → Prop) : Prop where
  scalar : ∀ s, s ≠ .unit → P (.scalar s)
  reference : ∀ name, P (.reference name)
  array : ∀ type, P type → P (.array type)
  map : ∀ type, P type → P (.map (.scalar .string) type)

namespace Formed

variable {P : TypeExpr → Prop}

theorem built (formed : Formed P) : Built P := ⟨formed.scalar, formed.array, formed.map⟩

theorem typing (formed : Formed P) (schemas : Schemas) (budget : Nat) (schema : Schema) :
    P (typing schemas budget schema).type := by
  induction budget generalizing schema with
  | zero => exact formed.built.any
  | succ budget ih =>
      rw [typing_succ]
      exact formed.built.step (fun _ _ _ _ => formed.reference _) fun _ inner _ => ih inner

end Formed

end ApiContracts.OpenApi
