import ApiContracts.Contract.Layout
import ApiContracts.Contract.Plan
import ApiContracts.Proofs.Naming.DtoName
import ApiContracts.Proofs.Path.Pieces
import ApiContracts.Proofs.Text.Ending

/-!
How names tell the kinds of artifacts apart. Every artifact's name ends in the word of its kind,
its file's name ends in that word too, and only a model's name can bring a slash into either.
-/

namespace ApiContracts

open Text

namespace ArtifactKind

def mark : ArtifactKind → List Char
  | dto => "Dto".toList
  | command => "Command".toList
  | query => "Query".toList
  | handler => "Handler".toList
  | validator => "Validator".toList

def fileEnding (kind : ArtifactKind) : List Char := kind.text.toList ++ ".rs".toList

theorem mark_capitalized (kind : ArtifactKind) :
    ∃ first rest, kind.mark = first :: rest ∧ Capitalized first rest ∧
      kind.mark.map Char.toLower = kind.text.toList := by
  cases kind <;> exact ⟨_, _, rfl, by decide, by decide⟩

theorem eq_of_fileEnding_suffix {first second : ArtifactKind}
    (suffix : first.fileEnding <:+ second.fileEnding) : first = second := by
  cases first <;> cases second <;> first | rfl | exact absurd suffix (by decide)

theorem eq_of_fileEndings {first second : ArtifactKind} {text : List Char}
    (isFirst : first.fileEnding <:+ text) (isSecond : second.fileEnding <:+ text) :
    first = second := by
  rcases List.suffix_or_suffix_of_suffix isFirst isSecond with inSecond | inFirst
  · exact eq_of_fileEnding_suffix inSecond
  · exact (eq_of_fileEnding_suffix inFirst).symm

theorem isName_of_fileEnding {kind : ArtifactKind} {piece : List Char}
    (suffix : kind.fileEnding <:+ piece) : Path.IsName piece := by
  have long : 2 < kind.fileEnding.length := by cases kind <;> decide
  have longer := Nat.lt_of_lt_of_le long suffix.length_le
  constructor <;> rintro rfl <;> exact absurd longer (by decide)

theorem fileEnding_plain (kind : ArtifactKind) : '/' ∉ kind.fileEnding := by
  cases kind <;> decide

theorem folder_isName (kind : ArtifactKind) : Path.IsName kind.folder.toList := by
  cases kind <;> decide

theorem folder_plain (kind : ArtifactKind) : '/' ∉ kind.folder.toList := by
  cases kind <;> decide

end ArtifactKind

namespace Naming

def fileName (artifactName : String) : String := fileStem artifactName ++ ".rs"

theorem fileName_inj {first second : String} (same : fileName first = fileName second) :
    fileStem first = fileStem second := by
  apply String.toList_inj.mp
  simpa [fileName] using congrArg String.toList same

theorem fileName_ending {kind : ArtifactKind} {name : String}
    (marked : kind.mark <:+ name.toList) : kind.fileEnding <:+ (fileName name).toList := by
  obtain ⟨text, split⟩ := marked
  obtain ⟨first, rest, mark, word, lowered⟩ := kind.mark_capitalized
  have stem := snake_capitalized word text
  rw [← mark, split, lowered] at stem
  obtain ⟨front, same⟩ := stem
  exact ⟨front, by simp [fileName, fileStem, ArtifactKind.fileEnding, ← same]⟩

theorem mem_fileStem_iff {c : Char} (low : IsLow c) (kept : Cluster.isSeparator [c] = false)
    (name : String) : c ∈ (fileStem name).toList ↔ c ∈ name.toList := by
  rw [fileStem, String.toList_ofList]
  exact snake_low_iff low kept name.toList

theorem fileStem_slash_iff (name : String) : '/' ∈ (fileStem name).toList ↔ '/' ∈ name.toList :=
  mem_fileStem_iff (by decide) (by decide) name

theorem fileName_slash {name : String} (member : '/' ∈ (fileName name).toList) :
    '/' ∈ name.toList := by
  rw [fileName, String.toList_append, List.mem_append] at member
  rcases member with inStem | inEnding
  · exact (fileStem_slash_iff name).mp inStem
  · exact absurd inEnding (by decide)

theorem suffix_marked (text word : String) : word.toList <:+ (text ++ word).toList := by
  rw [String.toList_append]
  exact List.suffix_append _ _

theorem slash_of_append {text word : String} (plain : '/' ∉ word.toList)
    (member : '/' ∈ (text ++ word).toList) : '/' ∈ text.toList := by
  rw [String.toList_append, List.mem_append] at member
  exact member.resolve_right plain

theorem dtoName_marked (modelName : String) :
    ArtifactKind.dto.mark <:+ (dtoName modelName).toList := by
  rw [dtoName]
  split
  next suffixed =>
      obtain ⟨stem, _, rfl⟩ := (isDtoName_iff modelName).mp suffixed
      exact suffix_marked stem "Dto"
  next => exact suffix_marked modelName "Dto"

theorem dtoName_slash {modelName : String} (member : '/' ∈ (dtoName modelName).toList) :
    '/' ∈ modelName.toList := by
  rw [dtoName] at member
  split at member
  · exact member
  · exact slash_of_append (by decide) member

theorem validatorName_marked (dto : String) :
    ArtifactKind.validator.mark <:+ (validatorName dto).toList :=
  suffix_marked dto "Validator"

theorem validatorName_slash {dto : String} (member : '/' ∈ (validatorName dto).toList) :
    '/' ∈ dto.toList :=
  slash_of_append (by decide) member

theorem handlerName_marked (request : String) :
    ArtifactKind.handler.mark <:+ (handlerName request).toList :=
  suffix_marked request "Handler"

theorem handlerName_slash {request : String} (member : '/' ∈ (handlerName request).toList) :
    '/' ∈ request.toList :=
  slash_of_append (by decide) member

theorem clean_plain (text : List Char) : '/' ∉ clean text := by
  rw [clean, List.mem_map]
  rintro ⟨c, _, same⟩
  split at same
  next letter => exact absurd (same ▸ letter) (by decide)
  next => exact absurd same (by decide)

theorem pascalCase_plain (text : String) : '/' ∉ (pascalCase text).toList := by
  rw [pascalCase, String.toList_ofList]
  intro member
  exact clean_plain _ (pascal_low (by decide) member)

end Naming

theorem requestName_marked (kind : RequestKind) (operationId : String) :
    (ArtifactKind.ofRequest kind).mark <:+ (requestName kind operationId).toList := by
  cases kind with
  | command => exact Naming.suffix_marked _ "Command"
  | query => exact Naming.suffix_marked _ "Query"

theorem requestName_plain (kind : RequestKind) (operationId : String) :
    '/' ∉ (requestName kind operationId).toList := by
  intro member
  apply Naming.pascalCase_plain operationId
  cases kind with
  | command => exact Naming.slash_of_append (by decide) member
  | query => exact Naming.slash_of_append (by decide) member

def ArtifactKind.ShownBy (kind : ArtifactKind) (path : String) : Prop :=
  ∃ front piece, Path.pieces path = front ++ [piece] ∧ kind.fileEnding <:+ piece

theorem ArtifactKind.ShownBy.unique {first second : ArtifactKind} {path : String}
    (isFirst : first.ShownBy path) (isSecond : second.ShownBy path) : first = second := by
  obtain ⟨front, piece, split, ending⟩ := isFirst
  obtain ⟨others, other, again, otherEnding⟩ := isSecond
  rw [split] at again
  obtain ⟨_, same⟩ := List.append_inj' again rfl
  obtain rfl := List.singleton_inj.mp same
  exact eq_of_fileEndings ending otherEnding

namespace Layout

def folderFor (layout : Layout) (kind : ArtifactKind) : String :=
  Path.join (if kind.isContract then layout.contractRoot else layout.implementationRoot)
    kind.folder

theorem pathFor_eq_join (layout : Layout) (kind : ArtifactKind) (name : String) :
    layout.pathFor kind name = Path.join (layout.folderFor kind) (Naming.fileName name) :=
  rfl

theorem folderFor_pieces (layout : Layout) (kind : ArtifactKind) :
    ∃ front, Path.pieces (layout.folderFor kind) = front ++ [kind.folder.toList] := by
  obtain ⟨front, split⟩ := Path.pieces_join
    (if kind.isContract then layout.contractRoot else layout.implementationRoot) kind.folder
  exact ⟨front, by rw [folderFor, split, Path.pieces_plain kind.folder_plain]⟩

theorem pathFor_ending (layout : Layout) {kind : ArtifactKind} {name : String}
    (marked : kind.mark <:+ name.toList) : kind.ShownBy (layout.pathFor kind name) := by
  obtain ⟨front, joined⟩ := Path.pieces_join (layout.folderFor kind) (Naming.fileName name)
  obtain ⟨text, split⟩ := Naming.fileName_ending marked
  have plain : ∀ c ∈ kind.fileEnding, (c == '/') = false := by
    intro c member
    rw [beq_eq_false_iff_ne]
    rintro rfl
    exact kind.fileEnding_plain member
  obtain ⟨others, lead, last⟩ := splitAt_ending plain text
  rw [split] at last
  refine ⟨front ++ others, lead ++ kind.fileEnding, ?_, List.suffix_append _ _⟩
  rw [pathFor_eq_join, joined, List.append_assoc]
  exact congrArg _ last

theorem pathFor_eq_slash (layout : Layout) {kind : ArtifactKind} {name : String}
    (plain : '/' ∉ name.toList) :
    layout.pathFor kind name = layout.folderFor kind ++ "/" ++ Naming.fileName name := by
  obtain ⟨front, split⟩ := layout.folderFor_pieces kind
  refine Path.join_eq_slash split kind.folder_isName ?_
  rw [Path.isAbsolute, beq_eq_false_iff_ne]
  intro slash
  exact plain (Naming.fileName_slash (List.mem_of_mem_head? slash))

theorem pathFor_pieces (layout : Layout) {kind : ArtifactKind} {name : String}
    (plain : '/' ∉ name.toList) :
    Path.pieces (layout.pathFor kind name) =
      Path.pieces (layout.folderFor kind) ++ [(Naming.fileName name).toList] := by
  have leaf : '/' ∉ (Naming.fileName name).toList :=
    fun member => plain (Naming.fileName_slash member)
  rw [layout.pathFor_eq_slash plain, Path.pieces_slash, Path.pieces_plain leaf]

end Layout

end ApiContracts
