import ApiContracts.Proofs.Source.Dtos

/-!
How the files of requests and handlers are read. Names on the wire are escaped in them; the
operation id, the method and the path stand in literals as they are. The literals of a request
denote its texts exactly if its operation id and its path need no escapes.
-/

namespace ApiContracts

open Lexical

def RequestField.written (field : RequestField) : WrittenField :=
  { doc :=
      match field.location with
      | some location => ["`" ++ field.name ++ "` " ++ location.text ++ " parameter"]
      | none => ["Request body"]
    wireName := field.name
    identifier := field.fieldName
    type := field.fieldType
    optional := !field.required }

namespace Request

def writtenFields (request : Request) : List WrittenField :=
  request.fields.map RequestField.written

def code (request : Request) : Code :=
  .request request.kind request.name request.imports (request.writtenFields.map WrittenField.code)
    request.classification.dtoResponseType.render request.classification.createdOnSuccess
    request.classification.deleteReturnsBool

def constantTexts (request : Request) : List String :=
  [request.operationId, request.method, request.path]

def texts (request : Request) : List String :=
  request.writtenFields.flatMap WrittenField.texts ++ request.constantTexts

structure Tame (request : Request) : Prop where
  operationId : '\n' ∉ request.operationId.toList
  method : '\n' ∉ request.method.toList
  bareMethod : Lexical.Bare request.method
  path : '\n' ∉ request.path.toList
  name : Quiet request.name
  imports : ∀ line ∈ request.imports, Quiet line
  fields : ∀ field ∈ request.fields,
    '\n' ∉ field.name.toList ∧ Quiet field.fieldName ∧ Quiet field.fieldType
  result : Quiet request.classification.responseType.render
  dtoResult : Quiet request.classification.dtoResponseType.render

structure Bare (request : Request) : Prop where
  operationId : Lexical.Bare request.operationId
  path : Lexical.Bare request.path

theorem fieldLines_eq (request : Request) :
    request.fieldLines = request.writtenFields.map WrittenField.fieldLines := by
  rw [writtenFields, List.map_map]
  rfl

theorem Tame.field_tame {request : Request} (tame : request.Tame) :
    ∀ field ∈ request.writtenFields, field.Tame := by
  refine List.forall_mem_map.mpr fun field member => ?_
  obtain ⟨oneLine, identifier, type⟩ := tame.fields field member
  refine ⟨?_, identifier, type⟩
  rw [RequestField.written]
  cases field.location with
  | none => simp
  | some location => cases location <;> simpa [ParameterLocation.text] using oneLine

theorem textConstant_split (name value : String) : textConstant name value =
    ("    pub const " ++ name ++ ": &'static str = ") ++ ("\"" ++ value ++ "\"") ++ ";" := by
  rw [textConstant_eq]
  apply String.toList_inj.mp
  simp

theorem introduces_constant {name : String} (quiet : Quiet name) :
    Introduces ("    pub const " ++ name ++ ": &'static str = ") := by
  have front : Quiet ("    pub const " ++ name) := quiet_append (by decide) quiet
  obtain ⟨pieces, word, reads, noLiterals⟩ := run_quiet front []
  -- The type has a lifetime, which is no quiet text.
  have type : run (.code word) ": &'static str = ".toList = some (flush (word ++ [':']) ++
      [.word "&'static".toList, .word "str".toList, .word ['=']], .code []) := by
    simp [run, step, isSmallLetter, flush]
  have all := run_trans reads type
  rw [← String.toList_append] at all
  exact ⟨_, [], all, by simp [noLiterals], rfl⟩

theorem textConstant_alike {name value other : String} (quiet : Quiet name)
    (bare : Lexical.Bare value) (otherBare : Lexical.Bare other) :
    Alike [textConstant name value] [textConstant name other] [value] [other] := by
  rw [textConstant_split, textConstant_split]
  exact alike_literal (introduces_constant quiet) (denotes_raw bare) (denotes_raw otherBare)
    (by decide)

theorem bare_of_textConstant {name value : String} {lines texts : List String}
    (quiet : Quiet name) (oneLine : '\n' ∉ value.toList)
    (carries : Carries (textConstant name value :: lines) (value :: texts)) :
    Lexical.Bare value := by
  rw [textConstant_split] at carries
  exact bare_of_carries (introduces_constant quiet) oneLine carries

def constants (request : Request) : List String :=
  [textConstant "OPERATION_ID" request.operationId, textConstant "METHOD" request.method,
    textConstant "PATH" request.path]

theorem constants_alike {first second : Request} (tame : first.Tame) (otherTame : second.Tame)
    (bare : first.Bare) (otherBare : second.Bare) :
    Alike first.constants second.constants first.constantTexts second.constantTexts := by
  have operationId := textConstant_alike (by decide : Quiet "OPERATION_ID") bare.operationId
    otherBare.operationId
  have method := textConstant_alike (by decide : Quiet "METHOD") tame.bareMethod
    otherTame.bareMethod
  have path := textConstant_alike (by decide : Quiet "PATH") bare.path otherBare.path
  exact operationId.append (method.append path)

theorem bare_of_constants {request : Request} (tame : request.Tame) {lines : List String}
    (carries : Carries (request.constants ++ lines) request.constantTexts) :
    request.Bare := by
  have operationId := bare_of_textConstant (by decide) tame.operationId carries
  refine ⟨operationId, ?_⟩
  -- Now that two constants are known to be read, what is left of the texts begins with the path.
  have first := textConstant_alike (by decide : Quiet "OPERATION_ID") operationId operationId
  have second := textConstant_alike (by decide : Quiet "METHOD") tame.bareMethod tame.bareMethod
  have behind := (carries_append_iff (first.append second).carries).mp carries
  exact bare_of_textConstant (by decide) tame.path behind

theorem role_comments {request : Request} (tame : request.Tame) {role : String}
    (oneLine : '\n' ∉ role.toList) :
    ∀ line ∈ ["///", "/// " ++ role ++ " for `" ++ request.method ++ " " ++ request.path ++ "`."],
      IsComment line := by
  rw [List.forall_mem_cons, List.forall_mem_singleton]
  refine ⟨by decide, ?_⟩
  simp only [String.append_assoc]
  apply isComment_append (by decide)
  simp [oneLine, tame.method, tame.path]

def resultLines (request : Request) : List String :=
  ["\x7d",
    "",
    "/// Contract-side result of `" ++ request.name ++ "` (domain result: `" ++
      request.classification.responseType.render ++ "`).",
    "pub type " ++ request.name ++ "Response = " ++
      request.classification.dtoResponseType.render ++ ";"]

theorem resultLines_alike {first second : Request} (tame : first.Tame) (otherTame : second.Tame)
    (name : first.name = second.name)
    (result : first.classification.dtoResponseType.render =
      second.classification.dtoResponseType.render) :
    Alike first.resultLines second.resultLines [] [] := by
  have closing : ∀ line ∈ ["\x7d", ""], Quiet line := by decide
  have comment {request : Request} (tame : request.Tame) :
      ∀ line ∈ ["/// Contract-side result of `" ++ request.name ++ "` (domain result: `" ++
        request.classification.responseType.render ++ "`)."], IsComment line := by
    rw [List.forall_mem_singleton]
    simp only [String.append_assoc]
    apply isComment_append (by decide +kernel)
    simp [tame.name.oneLine, tame.result.oneLine]
  have alias' : Quiet ("pub type " ++ first.name ++ "Response = " ++
      first.classification.dtoResponseType.render ++ ";") :=
    quiet_append (quiet_append (quiet_append (quiet_append (by decide) tame.name) (by decide))
      tame.dtoResult) (by decide)
  have all := (alike_quiet closing).append ((alike_comments (comment tame)
    (comment otherTame)).append (alike_line alias'))
  simpa [resultLines, ← name, ← result] using all

def openingLines (request : Request) (role : String) : List String :=
  header ("from operation `" ++ request.operationId ++ "`.") ++
    (dataPreamble request.imports ++
      ((docLines request.summary).map ("/// " ++ ·) ++
        (["///", "/// " ++ role ++ " for `" ++ request.method ++ " " ++ request.path ++ "`."] ++
          (structLines request.name request.fieldLines ++
            ["", "impl " ++ request.name ++ " \x7b"]))))

theorem openingLines_alike {first second : Request} (tame : first.Tame) (otherTame : second.Tame)
    (same : first.code = second.code) {role : String} (oneLine : '\n' ∉ role.toList) :
    Alike (first.openingLines role) (second.openingLines role)
      (first.writtenFields.flatMap WrittenField.texts)
      (second.writtenFields.flatMap WrittenField.texts) := by
  obtain ⟨_, name, imports, fields, _, _, _⟩ := Code.request.inj same
  have origin {request : Request} (tame : request.Tame) :
      ∀ line ∈ header ("from operation `" ++ request.operationId ++ "`."), IsComment line :=
    header_comments (by simp [tame.operationId])
  have body := structLines_alike tame.name tame.field_tame otherTame.field_tame fields
  have head : ∀ line ∈ ["", "impl " ++ first.name ++ " \x7b"], Quiet line := by
    rw [List.forall_mem_cons, List.forall_mem_singleton]
    exact ⟨by decide, quiet_append (quiet_append (by decide) tame.name) (by decide)⟩
  have all := (alike_comments (origin tame) (origin otherTame)).append
    ((dataPreamble_alike tame.imports).append
      ((alike_comments (doc_comments first.summary) (doc_comments second.summary)).append
        ((alike_comments (role_comments tame oneLine) (role_comments otherTame oneLine)).append
          (body.append (alike_quiet head)))))
  simpa only [openingLines, fieldLines_eq, ← name, ← imports, List.nil_append, List.append_nil]
    using all

theorem sourceWith_eq (request : Request) (role : String) (flags : List String) :
    request.sourceWith role flags =
      request.openingLines role ++ (request.constants ++ (flags ++ request.resultLines)) := by
  simp [sourceWith, openingLines, constants, resultLines]

theorem sourceWith_alike {first second : Request} (tame : first.Tame) (otherTame : second.Tame)
    (bare : first.Bare) (otherBare : second.Bare) (same : first.code = second.code)
    {role : String} (oneLine : '\n' ∉ role.toList) {flags : List String}
    (flagsAlike : Alike flags flags [] []) :
    Alike (first.sourceWith role flags) (second.sourceWith role flags) first.texts
      second.texts := by
  obtain ⟨_, name, _, _, result, _, _⟩ := Code.request.inj same
  have all := (openingLines_alike tame otherTame same oneLine).append
    ((constants_alike tame otherTame bare otherBare).append
      (flagsAlike.append (resultLines_alike tame otherTame name result)))
  simpa only [sourceWith_eq, texts, List.append_nil] using all

theorem bare_of_sourceWith {request : Request} (tame : request.Tame) {role : String}
    (oneLine : '\n' ∉ role.toList) {flags : List String}
    (carries : Carries (request.sourceWith role flags) request.texts) : request.Bare := by
  rw [sourceWith_eq, texts] at carries
  have opening := (openingLines_alike tame tame rfl oneLine).carries
  exact bare_of_constants tame ((carries_append_iff opening).mp carries)

def flags (request : Request) : List String :=
  ["    /// The operation answers `201 Created` on success",
    flagConstant "CREATED_ON_SUCCESS" request.classification.createdOnSuccess,
    "    /// A void delete reports `true` when the resource existed",
    flagConstant "DELETE_RETURNS_BOOL" request.classification.deleteReturnsBool]

theorem flags_alike (request : Request) : Alike request.flags request.flags [] [] := by
  have flag (name : String) (quiet : Quiet ("    pub const " ++ name ++ ": bool = ")) (value : Bool) :
      Alike [flagConstant name value] [flagConstant name value] [] [] := by
    have line : Quiet (toString value ++ ";") := by cases value <;> decide
    simpa [flagConstant_eq, String.append_assoc] using alike_line (quiet_append quiet line)
  have comment {line : String} (isComment : IsComment line) : Alike [line] [line] [] [] :=
    alike_comments (by simpa using isComment) (by simpa using isComment)
  exact (comment (by decide +kernel :
      IsComment "    /// The operation answers `201 Created` on success")).append
    ((flag "CREATED_ON_SUCCESS" (by decide) request.classification.createdOnSuccess).append
      ((comment (by decide +kernel :
          IsComment "    /// A void delete reports `true` when the resource existed")).append
        (flag "DELETE_RETURNS_BOOL" (by decide) request.classification.deleteReturnsBool)))

def lines (request : Request) : List String :=
  match request.kind with
  | .command => request.commandSource
  | .query => request.querySource

theorem alike {first second : Request} (tame : first.Tame) (otherTame : second.Tame)
    (bare : first.Bare) (otherBare : second.Bare) (same : first.code = second.code) :
    Alike first.lines second.lines first.texts second.texts := by
  obtain ⟨kind, _, _, _, _, created, deletes⟩ := Code.request.inj same
  have sameFlags : first.flags = second.flags := by rw [flags, flags, created, deletes]
  rw [lines, lines, ← kind]
  cases first.kind with
  | command =>
      have flags := first.flags_alike
      change Alike (first.sourceWith "Command" first.flags)
        (second.sourceWith "Command" second.flags) _ _
      rw [← sameFlags]
      exact sourceWith_alike tame otherTame bare otherBare same (by decide) flags
  | query =>
      exact sourceWith_alike tame otherTame bare otherBare same (by decide) (alike_quiet (by simp))

theorem carries_iff {request : Request} (tame : request.Tame) :
    Carries request.lines request.texts ↔ request.Bare := by
  constructor
  · rw [lines]
    cases request.kind with
    | command => exact bare_of_sourceWith tame (by decide)
    | query => exact bare_of_sourceWith tame (by decide)
  · intro bare
    exact (alike tame tame bare bare rfl).carries

end Request

/-! ### Handlers -/

namespace Handler

def code (handler : Handler) (contractModule : String) : Code :=
  .handler handler.classification.kind handler.name handler.requestName
    (handler.requestModule contractModule) handler.classification.isUnit

def texts (handler : Handler) : List String :=
  if handler.classification.isUnit then [] else ["implement " ++ handler.name]

structure Tame (handler : Handler) (contractModule : String) : Prop where
  name : Quiet handler.name
  bareName : Bare handler.name
  requestName : Quiet handler.requestName
  contractModule : Quiet (handler.requestModule contractModule)
  result : Quiet handler.classification.responseType.render
  dtoResult : Quiet handler.classification.dtoResponseType.render

theorem body_alike {first second : Handler}
    (bare : Bare first.name) (name : first.name = second.name)
    (isUnit : first.classification.isUnit = second.classification.isUnit) :
    Alike ["        " ++ first.body] ["        " ++ second.body] first.texts second.texts := by
  rw [body, body, texts, texts, ← name, ← isUnit]
  split
  · exact alike_line (by decide)
  · have split : "        " ++ ("todo!(\"implement " ++ first.name ++ "\")") =
        "        todo!(" ++ ("\"" ++ ("implement " ++ first.name) ++ "\"") ++ ")" := by
      apply String.toList_inj.mp
      simp
    have denotes : Denotes ("\"" ++ ("implement " ++ first.name) ++ "\"")
        ("implement " ++ first.name) :=
      denotes_raw (bare_append (by decide) bare)
    rw [split]
    exact alike_literal (by decide +kernel) denotes denotes (by decide)

theorem import_quiet {handler : Handler} {contractModule : String}
    (tame : handler.Tame contractModule) :
    Quiet ("use " ++ handler.requestModule contractModule ++ "::\x7b " ++ handler.requestName ++
      ", " ++ (handler.requestName ++ "Response") ++ " \x7d;") := by
  have front : Quiet ("use " ++ handler.requestModule contractModule ++ "::\x7b ") :=
    quiet_append (quiet_append (by decide) tame.contractModule) (by decide)
  have response := quiet_append tame.requestName (by decide : Quiet "Response")
  exact quiet_append (quiet_append (quiet_append (quiet_append front tame.requestName)
    (by decide)) response) (by decide)

theorem signature_quiet {handler : Handler} {contractModule : String}
    (tame : handler.Tame contractModule) :
    Quiet ("    pub fn handle(&self, " ++ handler.classification.kind.text ++ ": " ++
      handler.requestName ++ ") -> anyhow::Result<" ++ (handler.requestName ++ "Response") ++
      "> \x7b") := by
  have argument : Quiet handler.classification.kind.text := by
    cases handler.classification.kind <;> decide
  have front : Quiet ("    pub fn handle(&self, " ++ handler.classification.kind.text ++ ": ") :=
    quiet_append (quiet_append (by decide) argument) (by decide)
  have response := quiet_append tame.requestName (by decide : Quiet "Response")
  exact quiet_append (quiet_append (quiet_append (quiet_append front tame.requestName)
    (by decide)) response) (by decide)

theorem opening_quiet {handler : Handler} {contractModule : String}
    (tame : handler.Tame contractModule) :
    ∀ line ∈ ["#[derive(Debug, Default)]", "pub struct " ++ handler.name ++ ";", "",
      "impl " ++ handler.name ++ " \x7b",
      "    pub fn handle(&self, " ++ handler.classification.kind.text ++ ": " ++
        handler.requestName ++ ") -> anyhow::Result<" ++ (handler.requestName ++ "Response") ++
        "> \x7b",
      "        let _ = " ++ handler.classification.kind.text ++ ";"], Quiet line := by
  have argument : Quiet ("        let _ = " ++ handler.classification.kind.text ++ ";") := by
    cases handler.classification.kind <;> decide
  have struct : Quiet ("pub struct " ++ handler.name ++ ";") :=
    quiet_append (quiet_append (by decide) tame.name) (by decide)
  have head : Quiet ("impl " ++ handler.name ++ " \x7b") :=
    quiet_append (quiet_append (by decide) tame.name) (by decide)
  simp only [List.forall_mem_cons, List.not_mem_nil, false_implies, implies_true, and_true]
  exact ⟨by decide, struct, by decide, head, signature_quiet tame, argument⟩

theorem doc_comments {handler : Handler} {contractModule : String}
    (tame : handler.Tame contractModule) :
    ∀ line ∈ ["/// Handles [`" ++ handler.requestName ++ "`].", "///",
      "/// Returns `" ++ handler.classification.dtoResponseType.render ++
        "` on the contract side; the domain result is `" ++
        handler.classification.responseType.render ++ "`."], IsComment line := by
  simp only [List.forall_mem_cons, List.not_mem_nil, false_implies, implies_true, and_true,
    String.append_assoc]
  refine ⟨isComment_append (by decide) ?_, by decide, isComment_append (by decide) ?_⟩
  · simp [tame.requestName.oneLine]
  · simp [tame.dtoResult.oneLine, tame.result.oneLine]

theorem alike {first second : Handler} {contractModule otherModule : String}
    (tame : first.Tame contractModule) (otherTame : second.Tame otherModule)
    (same : first.code contractModule = second.code otherModule) :
    Alike (first.source contractModule) (second.source otherModule) first.texts second.texts := by
  obtain ⟨kind, name, requestName, requestModule, isUnit⟩ := Code.handler.inj same
  have notice : ∀ line ∈ ["// Generated once by cqrsgen. This file belongs to you: it is never overwritten,",
      "// delete it to have it generated again."], IsComment line := by
    decide +kernel
  have blank : Quiet "" := by decide
  have imports := (alike_line blank).append
    ((alike_line (import_quiet tame)).append (alike_line blank))
  have body := body_alike tame.bareName name isUnit
  have closing : ∀ line ∈ ["    \x7d", "\x7d"], Quiet line := by decide
  have all := (alike_comments notice notice).append (imports.append
    ((alike_comments (doc_comments tame) (doc_comments otherTame)).append
      ((alike_quiet (opening_quiet tame)).append (body.append (alike_quiet closing)))))
  simpa [source, ← kind, ← name, ← requestName, ← requestModule] using all

end Handler

end ApiContracts
