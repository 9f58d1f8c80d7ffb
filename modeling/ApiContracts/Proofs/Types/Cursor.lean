import ApiContracts.Proofs.Types.Grammar

/-!
What a reader of declared types passes on its way: a cursor only ever moves over whole characters,
and every step that succeeds passes the tokens it is meant to read.
-/

namespace ApiContracts

namespace Text

theorem byteLength_append (text other : List Char) :
    byteLength (text ++ other) = byteLength text + byteLength other := by
  induction text with
  | nil => simp [byteLength]
  | cons c rest ih =>
      simp only [byteLength, List.cons_append, List.foldr_cons] at ih ⊢
      omega

theorem byteLength_ascii {text : List Char} (ascii : ∀ c ∈ text, c.toNat < 128) :
    byteLength text = text.length := by
  induction text with
  | nil => rfl
  | cons c rest ih =>
      have single : c.utf8Size = 1 :=
        of_asciiCodes (fun c => c.utf8Size = 1) (by decide) (ascii c (by simp))
      have later := ih fun d member => ascii d (by simp [member])
      simp only [byteLength, List.foldr_cons, List.length_cons] at later ⊢
      omega

end Text

namespace TypeExpr

open Text

namespace Cursor

def Advances (start stop : Cursor) : Prop :=
  ∃ between, start.rest = between ++ stop.rest ∧ stop.offset = start.offset + byteLength between

theorem Advances.refl (cursor : Cursor) : cursor.Advances cursor := ⟨[], rfl, rfl⟩

theorem Advances.trans {start middle stop : Cursor} (first : start.Advances middle)
    (second : middle.Advances stop) : start.Advances stop := by
  obtain ⟨before, restBefore, offsetBefore⟩ := first
  obtain ⟨after, restAfter, offsetAfter⟩ := second
  refine ⟨before ++ after, ?_, ?_⟩
  · rw [restBefore, restAfter, List.append_assoc]
  · rw [byteLength_append]
    omega

structure Passes (start : Cursor) (tokens : List Token) (stop : Cursor) : Prop where
  advances : start.Advances stop
  spelled {later : List Token} : Spelled later stop.rest → Spelled (tokens ++ later) start.rest

theorem Passes.append {start middle stop : Cursor} {tokens others : List Token}
    (first : start.Passes tokens middle) (second : middle.Passes others stop) :
    start.Passes (tokens ++ others) stop where
  advances := first.advances.trans second.advances
  spelled later := by
    rw [List.append_assoc]
    exact first.spelled (second.spelled later)

theorem passes_skipBlanks (cursor : Cursor) : cursor.Passes [] cursor.skipBlanks where
  advances :=
    ⟨cursor.rest.takeWhile isBlank, (List.takeWhile_append_dropWhile).symm, rfl⟩
  spelled later := spelled_dropBlanks_iff.mp later

theorem eat?_eq_some_iff {mark : Char} {cursor after : Cursor} :
    cursor.eat? mark = some after ↔
      cursor.skipBlanks.rest = mark :: after.rest ∧
        after.offset = cursor.skipBlanks.offset + 1 := by
  rw [eat?]
  split
  next c rest offset next =>
      rw [next]
      by_cases same : c = mark
      · subst same
        simp only [beq_self_eq_true, ↓reduceIte, Option.some.injEq, List.cons.injEq, true_and]
        constructor
        · rintro rfl
          exact ⟨rfl, rfl⟩
        · rintro ⟨rfl, last⟩
          cases after
          simp_all
      · simp [same]
  next offset next => simp [next]

theorem passes_eat? {mark : Char} (known : mark ∈ punctuation) {cursor after : Cursor}
    (eaten : cursor.eat? mark = some after) : cursor.Passes [.mark mark] after := by
  obtain ⟨split, last⟩ := eat?_eq_some_iff.mp eaten
  have onMark : cursor.skipBlanks.Passes [.mark mark] after := by
    constructor
    · refine ⟨[mark], split, ?_⟩
      rw [last, byteLength_ascii (by simpa using punctuation_ascii known)]
      rfl
    · intro later spelled
      rw [split]
      exact spelled.marked known
  exact (passes_skipBlanks cursor).append onMark

theorem eat?_of_spelled {mark : Char} {cursor : Cursor} {later : List Token}
    (spelled : Spelled (.mark mark :: later) cursor.rest) :
    ∃ after, cursor.eat? mark = some after ∧ Spelled later after.rest := by
  obtain ⟨rest, split, _, _, behind⟩ := spelled_mark_iff.mp spelled
  exact ⟨⟨rest, cursor.skipBlanks.offset + 1⟩, eat?_eq_some_iff.mpr ⟨split, rfl⟩, behind⟩

theorem eat?_eq_none {mark : Char} (known : mark ∈ punctuation) {cursor : Cursor}
    {tokens : List Token} (spelled : Spelled tokens cursor.rest)
    (other : tokens.head? ≠ some (.mark mark)) : cursor.eat? mark = none := by
  cases eaten : cursor.eat? mark with
  | none => rfl
  | some after =>
      obtain ⟨later, behind⟩ := spelled_total after.rest
      have same := spelled.unique ((passes_eat? known eaten).spelled behind)
      simp [same] at other

theorem passes_path {start : Cursor} (named : pathLength start.rest ≠ 0) :
    start.Passes [.path (start.rest.take (pathLength start.rest))]
      ⟨start.rest.drop (pathLength start.rest), start.offset + pathLength start.rest⟩ := by
  have isRun := pathRun_take start.rest
  constructor
  · refine ⟨start.rest.take (pathLength start.rest), (List.take_append_drop _ _).symm, ?_⟩
    rw [byteLength_ascii isRun.ascii, length_take_pathLength]
  · intro later spelled
    exact spelled.named named

theorem wordTo_eq {start stop : Cursor} {tokens later : List Token}
    (advances : start.Advances stop) (spelled : Spelled (tokens ++ later) start.rest)
    (behind : Spelled later stop.rest) : start.wordTo stop = tokens.flatMap Token.chars := by
  obtain ⟨between, split, _⟩ := advances
  have taken : start.wordTo stop = between.filter (!isBlank ·) := by
    simp [wordTo, split]
  have whole := spelled.filter_eq
  rw [split, List.filter_append, behind.filter_eq, List.flatMap_append] at whole
  rw [taken]
  exact List.append_cancel_right whole

theorem Passes.wordTo_eq {start stop : Cursor} {tokens : List Token}
    (passes : start.Passes tokens stop) : start.wordTo stop = tokens.flatMap Token.chars := by
  obtain ⟨later, behind⟩ := spelled_total stop.rest
  exact Cursor.wordTo_eq passes.advances (passes.spelled behind) behind

theorem Passes.shorter {start stop : Cursor} {tokens : List Token}
    (passes : start.Passes tokens stop) (nonempty : tokens ≠ []) :
    stop.rest.length < start.rest.length := by
  obtain ⟨between, split, _⟩ := passes.advances
  obtain ⟨later, behind⟩ := spelled_total stop.rest
  have moved : between ≠ [] := by
    rintro rfl
    have whole := passes.spelled behind
    rw [split, List.nil_append] at whole
    have same := behind.unique whole
    simp [nonempty] at same
  have positive := List.length_pos_iff.mpr moved
  rw [split, List.length_append]
  omega

end Cursor

end TypeExpr

end ApiContracts
