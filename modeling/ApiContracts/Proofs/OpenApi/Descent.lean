import ApiContracts.Proofs.OpenApi.Typing

/-!
How far down the type of a schema reaches, and what is lost if it is followed for fewer levels.
-/

namespace ApiContracts.OpenApi

inductive Descends (schemas : Schemas) : Schema → List Layer → Schema → Prop
  | here {schema} : Descends schemas schema [] schema
  | down {schema layer inner layers deep} : source? schemas schema = some (layer, inner) →
      Descends schemas inner layers deep → Descends schemas schema (layer :: layers) deep

theorem Descends.unique {schemas : Schemas} {schema first second : Schema}
    {layers others : List Layer} (left : Descends schemas schema layers first)
    (right : Descends schemas schema others second) (same : layers.length = others.length) :
    layers = others ∧ first = second := by
  induction left generalizing others with
  | here =>
      cases right with
      | here => exact ⟨rfl, rfl⟩
      | down _ _ => simp at same
  | down source _ ih =>
      cases right with
      | here => simp at same
      | down again below =>
          obtain ⟨rfl, rfl⟩ := Prod.mk.inj (Option.some.inj (source.symm.trans again))
          obtain ⟨rfl, rfl⟩ := ih below (by simpa using same)
          exact ⟨rfl, rfl⟩

/-- The schema takes its type from less than so many others, one inside the other. -/
def Ends (schemas : Schemas) (levels : Nat) (schema : Schema) : Prop :=
  ∀ layers deep, Descends schemas schema layers deep → layers.length < levels

theorem ends_iff {schemas : Schemas} {levels : Nat} {schema : Schema} :
    Ends schemas (levels + 1) schema ↔
      ∀ layer inner, source? schemas schema = some (layer, inner) → Ends schemas levels inner := by
  constructor
  · intro ends layer inner source layers deep below
    exact Nat.lt_of_succ_lt_succ (ends _ _ (.down source below))
  · rintro ends _ deep (_ | ⟨source, below⟩)
    · exact Nat.succ_pos levels
    · exact Nat.succ_lt_succ (ends _ _ source _ _ below)

theorem not_ends_zero (schemas : Schemas) (schema : Schema) : ¬Ends schemas 0 schema :=
  fun ends => Nat.not_lt_zero _ (ends _ _ .here)

def Stepwise (schemas : Schemas) (given : Nat → Schema → Typing) : Prop :=
  ∀ levels schema, given (levels + 1) schema = typingStep schemas (given levels) schema

theorem stepwise_typing (schemas : Schemas) (more : Nat) :
    Stepwise schemas fun levels => typing schemas (levels + more) := by
  intro levels schema
  change typing schemas (levels + 1 + more) schema = _
  rw [Nat.add_right_comm, typing_succ]

namespace Stepwise

variable {schemas : Schemas} {given other : Nat → Schema → Typing}

theorem descends (stepwise : Stepwise schemas given) {schema deep : Schema} {layers : List Layer}
    (below : Descends schemas schema layers deep) (levels : Nat) :
    given (levels + layers.length) schema = Layer.through layers (given levels deep) := by
  induction below with
  | here => rfl
  | down source _ ih =>
      rw [List.length_cons, ← Nat.add_assoc, stepwise, typingStep_of_source source, ih]
      rfl

theorem agrees (left : Stepwise schemas given) (right : Stepwise schemas other) {levels : Nat}
    {schema : Schema} (ends : Ends schemas levels schema) :
    given levels schema = other levels schema := by
  induction levels generalizing schema with
  | zero => exact absurd ends (not_ends_zero schemas schema)
  | succ levels ih =>
      rw [left, right]
      exact typingStep_congr fun layer inner source => ih (ends_iff.mp ends layer inner source)

end Stepwise

theorem typing_stable {schemas : Schemas} {levels more : Nat} {schema : Schema}
    (ends : Ends schemas levels schema) (le : levels ≤ more) :
    typing schemas more schema = typing schemas levels schema := by
  obtain ⟨extra, rfl⟩ := Nat.exists_eq_add_of_le le
  exact (stepwise_typing schemas extra).agrees (stepwise_typing schemas 0) ends

theorem typing_settled {schemas : Schemas} {levels more : Nat} {schema : Schema}
    (first : Ends schemas levels schema) (second : Ends schemas more schema) :
    typing schemas levels schema = typing schemas more schema := by
  rcases Nat.le_total levels more with le | le
  · exact (typing_stable first le).symm
  · exact typing_stable second le

theorem ends_or_descends (schemas : Schemas) (levels : Nat) (schema : Schema) :
    Ends schemas levels schema ∨
      ∃ layers deep, layers.length = levels ∧ Descends schemas schema layers deep := by
  induction levels generalizing schema with
  | zero => exact .inr ⟨[], schema, rfl, .here⟩
  | succ levels ih =>
      cases source : source? schemas schema with
      | none => exact .inl (ends_iff.mpr (by simp [source]))
      | some pair =>
          obtain ⟨layer, inner⟩ := pair
          rcases ih inner with ends | ⟨layers, deep, length, below⟩
          · refine .inl (ends_iff.mpr ?_)
            intro other another again
            obtain ⟨rfl, rfl⟩ := Prod.mk.inj (Option.some.inj (source.symm.trans again))
            exact ends
          · exact .inr ⟨layer :: layers, deep, congrArg (· + 1) length, .down source below⟩

theorem typing_eq_solution_iff {schemas : Schemas} {whole : Schema → Typing}
    (solves : ∀ schema, whole schema = typingStep schemas whole schema) (levels : Nat)
    (schema : Schema) :
    typing schemas levels schema = whole schema ↔
      ∀ layers deep, layers.length = levels → Descends schemas schema layers deep →
        (whole deep).type = .scalar .any ∧
          (Layer.Transparent layers → (whole deep).nullable = false) := by
  have constant : Stepwise schemas fun _ => whole := fun _ => solves
  have bounded : Stepwise schemas (typing schemas) := stepwise_typing schemas 0
  have cut {layers : List Layer} {deep : Schema} (below : Descends schemas schema layers deep)
      (length : layers.length = levels) :
      typing schemas levels schema = whole schema ↔ (whole deep).type = .scalar .any ∧
          (Layer.Transparent layers → (whole deep).nullable = false) := by
    have guarded := bounded.descends below 0
    rw [Nat.zero_add, length] at guarded
    rw [guarded, constant.descends below 0, Layer.through_eq_iff]
    exact and_congr eq_comm (imp_congr_right fun _ => eq_comm)
  -- Either nothing lies that deep, or the way down leads to one schema, where the two may differ.
  rcases ends_or_descends schemas levels schema with ends | ⟨layers, deep, length, below⟩
  · refine iff_of_true (bounded.agrees constant ends) ?_
    intro layers deep length below
    exact absurd length (Nat.ne_of_lt (ends layers deep below))
  · rw [cut below length]
    constructor
    · intro harmless others another sameLength again
      obtain ⟨rfl, rfl⟩ := below.unique again (length.trans sameLength.symm)
      exact harmless
    · exact fun all => all layers deep length below

end ApiContracts.OpenApi
