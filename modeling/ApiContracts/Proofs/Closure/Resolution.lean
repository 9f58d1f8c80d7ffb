import ApiContracts.Contract.Closure
import ApiContracts.Proofs.Naming.DtoName

/-!
Which model a name stands for. Main statements: the search by name finds just that model, and
names that derive one DTO name stand for one model if no model is itself named like a DTO.
-/

namespace ApiContracts

def DistinctNames (models : List Model) : Prop := (models.map (·.name)).Nodup

def PlainNames (models : List Model) : Prop :=
  ∀ model ∈ models, Naming.isDtoName model.name = false

def DistinctDtoNames (models : List Model) : Prop :=
  ∀ first ∈ models, ∀ second ∈ models,
    Naming.dtoName first.name = Naming.dtoName second.name → first.name = second.name

instance (models : List Model) : Decidable (DistinctNames models) :=
  inferInstanceAs (Decidable (List.Nodup _))

instance (models : List Model) : Decidable (PlainNames models) :=
  inferInstanceAs (Decidable (∀ _ ∈ _, _))

instance (models : List Model) : Decidable (DistinctDtoNames models) :=
  inferInstanceAs (Decidable (∀ _ ∈ _, ∀ _ ∈ _, _ → _))

/-- A name stands for the model of that name or, where there is none, for the model whose
nonempty name it carries with the DTO suffix behind it. -/
def StandsFor (models : List Model) (name : String) (model : Model) : Prop :=
  model ∈ models ∧
    (model.name = name ∨
      (∀ other ∈ models, other.name ≠ name) ∧ model.name ≠ "" ∧ model.name ++ "Dto" = name)

theorem find?_distinct {α : Type} {key : α → String} {entries : List α}
    (distinct : (entries.map key).Nodup) {entry : α} (member : entry ∈ entries) :
    entries.find? (key · == key entry) = some entry := by
  induction entries with
  | nil => simp at member
  | cons first rest ih =>
      obtain ⟨fresh, later⟩ := List.nodup_cons.mp distinct
      rcases List.mem_cons.mp member with rfl | inRest
      · simp
      · have other : key first ≠ key entry := by
          intro same
          exact fresh (List.mem_map.mpr ⟨entry, inRest, same.symm⟩)
        simpa [other] using ih later inRest

theorem find?_suffixed (models : List Model) (stem : String) :
    models.find? (fun model => model.name ++ "Dto" == stem ++ "Dto") =
      models.find? (·.name == stem) := by
  congr 1
  funext model
  rw [Bool.eq_iff_iff, beq_iff_eq, beq_iff_eq]
  exact ⟨Naming.append_dto_inj, fun same => by rw [same]⟩

theorem lookupModel?_plain (models : List Model) {name : String}
    (plain : Naming.isDtoName name = false) :
    lookupModel? models name = models.find? (·.name == name) := by
  rw [lookupModel?]
  split
  next found => exact found.symm
  next missing => simp [plain, missing]

theorem lookupModel?_suffixed {models : List Model} {stem : String} (nonempty : stem ≠ "")
    (unnamed : ∀ model ∈ models, model.name ≠ stem ++ "Dto") :
    lookupModel? models (stem ++ "Dto") = models.find? (·.name == stem) := by
  have missing : models.find? (·.name == stem ++ "Dto") = none := by
    simpa [List.find?_eq_none] using unnamed
  have suffixed : Naming.isDtoName (stem ++ "Dto") = true :=
    (Naming.isDtoName_iff _).mpr ⟨stem, nonempty, rfl⟩
  rw [lookupModel?, missing]
  simpa [suffixed] using find?_suffixed models stem

theorem standsFor_of_lookup {models : List Model} {name : String} {model : Model}
    (found : lookupModel? models name = some model) : StandsFor models name model := by
  rw [lookupModel?] at found
  split at found
  next hit =>
      obtain rfl := Option.some.inj found
      exact ⟨List.mem_of_find?_eq_some hit, .inl (by simpa using List.find?_some hit)⟩
  next missing =>
      split at found
      next suffixed =>
          obtain ⟨stem, nonempty, rfl⟩ := (Naming.isDtoName_iff name).mp suffixed
          have named : model.name = stem := by
            simpa using List.find?_some ((find?_suffixed models stem).symm.trans found)
          subst named
          refine ⟨List.mem_of_find?_eq_some found, .inr ⟨?_, nonempty, rfl⟩⟩
          simpa [List.find?_eq_none] using missing
      next => simp at found

theorem lookupModel?_eq_none_iff (models : List Model) (name : String) :
    lookupModel? models name = none ↔
      ∀ model ∈ models, model.name ≠ name ∧ (model.name ≠ "" → model.name ++ "Dto" ≠ name) := by
  constructor
  · intro unknown model member
    have unnamed : model.name ≠ name := by
      rintro rfl
      have found : (models.find? (·.name == model.name)).isSome = true :=
        List.find?_isSome.mpr ⟨model, member, beq_self_eq_true _⟩
      obtain ⟨first, hit⟩ := Option.isSome_iff_exists.mp found
      simp [lookupModel?, hit] at unknown
    refine ⟨unnamed, ?_⟩
    rintro nonempty rfl
    rw [lookupModel?] at unknown
    split at unknown
    · simp at unknown
    · rw [if_pos ((Naming.isDtoName_iff _).mpr ⟨model.name, nonempty, rfl⟩)] at unknown
      exact absurd (beq_self_eq_true _) (List.find?_eq_none.mp unknown model member)
  · intro apart
    cases found : lookupModel? models name with
    | none => rfl
    | some model =>
        obtain ⟨member, named | ⟨_, nonempty, suffixed⟩⟩ := standsFor_of_lookup found
        · exact absurd named (apart model member).1
        · exact absurd suffixed ((apart model member).2 nonempty)

theorem lookupModel?_suffixed_of_plain {models : List Model} (plain : PlainNames models)
    {stem : String} (stemPlain : Naming.isDtoName stem = false)
    (suffixed : Naming.isDtoName (stem ++ "Dto") = true) :
    lookupModel? models (stem ++ "Dto") = lookupModel? models stem := by
  obtain ⟨start, nonempty, same⟩ := (Naming.isDtoName_iff _).mp suffixed
  obtain rfl := Naming.append_dto_inj same
  rw [lookupModel?_plain models stemPlain]
  apply lookupModel?_suffixed nonempty
  intro model member named
  have notSuffixed := plain model member
  rw [named, suffixed] at notSuffixed
  contradiction

theorem lookupModel?_congr {models : List Model} (plain : PlainNames models)
    {first second : String} (same : Naming.dtoName first = Naming.dtoName second) :
    lookupModel? models first = lookupModel? models second := by
  rcases Naming.eq_or_suffixed_of_dtoName_eq same with
    rfl | ⟨secondPlain, firstSuffixed, rfl⟩ | ⟨firstPlain, secondSuffixed, rfl⟩
  · rfl
  · exact lookupModel?_suffixed_of_plain plain secondPlain firstSuffixed
  · exact (lookupModel?_suffixed_of_plain plain firstPlain secondSuffixed).symm

theorem dtoName_of_lookup {models : List Model} (plain : PlainNames models) {name : String}
    {model : Model} (found : lookupModel? models name = some model) :
    Naming.dtoName model.name = Naming.dtoName name := by
  obtain ⟨member, rfl | ⟨_, nonempty, rfl⟩⟩ := standsFor_of_lookup found
  · rfl
  · have suffixed := (Naming.isDtoName_iff (model.name ++ "Dto")).mpr ⟨_, nonempty, rfl⟩
    rw [Naming.dtoName_of_plain (plain model member), Naming.dtoName_of_isDtoName suffixed]

end ApiContracts
