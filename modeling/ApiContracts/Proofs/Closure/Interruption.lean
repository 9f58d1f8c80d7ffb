import ApiContracts.Proofs.Closure.Faithful

/-!
Closures that go on after a failure. A call that stops at a reference without a model leaves the
models that it gathered, but not all that they refer to. A later call passes them over as if they
had been followed, so it may succeed although its root leads to names that are not gathered or
stand for no model. Such names are always some that the root of a stopped call leads to.
-/

namespace ApiContracts

namespace Closure

def LeadsTo (models : List Model) (root : TypeExpr) : String → Prop :=
  Meets (fun name model => lookupModel? models name = some model) fun name =>
    (TypeExpr.reference name).Within root

def Covers (models : List Model) (closure : Closure) (name : String) : Prop :=
  ∃ model, lookupModel? models name = some model ∧
    closure.contains (Naming.dtoName model.name) = true

def Interrupted (models : List Model) (calls : List Call) (root : TypeExpr) : Prop :=
  ∃ earlier holder later, calls = earlier ++ .expand holder root :: later ∧
    (expand models (after models earlier) holder root).2 ≠ none

def Abandoned (models : List Model) (calls : List Call) (name : String) : Prop :=
  ∃ root, Interrupted models calls root ∧ LeadsTo models root name

theorem Abandoned.append {models : List Model} {calls : List Call} {name : String}
    (abandoned : Abandoned models calls name) (more : List Call) :
    Abandoned models (calls ++ more) name := by
  obtain ⟨root, ⟨earlier, holder, later, rfl, stopped⟩, leads⟩ := abandoned
  exact ⟨root, ⟨earlier, holder, later ++ more, by simp, stopped⟩, leads⟩

theorem Gathered.finding_of_contains {models : List Model} {findings : List Finding}
    {closure : Closure} {name : String} (gathered : Gathered models findings closure)
    (plain : PlainNames models) (there : closure.contains (Naming.dtoName name) = true) :
    ∃ finding ∈ findings, lookupModel? models name = some finding.2 := by
  obtain ⟨finding, member, same⟩ := List.mem_map.mp ((gathered.contains_iff _).mp there)
  refine ⟨finding, member, ?_⟩
  rw [← lookupModel?_congr plain same]
  exact gathered.found finding member

theorem Gathered.covers {models : List Model} {findings : List Finding} {closure : Closure}
    {name : String} (gathered : Gathered models findings closure) (plain : PlainNames models)
    (there : closure.contains (Naming.dtoName name) = true) : Covers models closure name := by
  obtain ⟨finding, _, found⟩ := gathered.finding_of_contains plain there
  refine ⟨finding.2, found, ?_⟩
  rwa [dtoName_of_lookup plain found]

/-- What the gathered models refer to has been gathered as well, apart from names left `aside`. -/
structure Accounted (models : List Model) (aside : String → Prop) (findings : List Finding)
    (closure : Closure) : Prop where
  gathered : Gathered models findings closure
  held : ∀ finding ∈ findings, ∀ name, finding.2.Mentions name →
    closure.contains (Naming.dtoName name) = true ∨ aside name

theorem Accounted.mono {models : List Model} {aside more : String → Prop}
    {findings : List Finding} {closure : Closure}
    (accounted : Accounted models aside findings closure)
    (included : ∀ name, aside name → more name) : Accounted models more findings closure :=
  ⟨accounted.gathered, fun finding member name holds =>
    (accounted.held finding member name holds).imp_right (included name)⟩

theorem Accounted.expand {models : List Model} {aside : String → Prop} {findings : List Finding}
    {closure : Closure} (accounted : Accounted models aside findings closure) (holder : String)
    (root : TypeExpr) :
    ∃ findings, Accounted models
      (fun name => aside name ∨
        (expand models closure holder root).2 ≠ none ∧ LeadsTo models root name)
      findings (expand models closure holder root).1 := by
  obtain ⟨added, walked⟩ :=
    follow_walked (root.references.map fun name => (name, holder)) accounted.gathered
  refine ⟨findings ++ added, walked.gathered, ?_⟩
  intro finding member name holds
  rcases List.mem_append.mp member with old | new
  · rcases accounted.held finding old name holds with there | isAside
    · exact .inl (accounted.gathered.contains_of_prefix walked.gathered there)
    · exact .inr (.inl isAside)
  · by_cases finished : (Closure.expand models closure holder root).2 = none
    · exact .inl (walked.closed finished finding new name holds)
    · have found := walked.gathered.found finding (List.mem_append_right _ new)
      have met : LeadsTo models root finding.1 :=
        (walked.met finding new).mono (by simp [TypeExpr.mem_references_iff])
      exact .inr (.inr ⟨finished, .held met found holds⟩)

theorem after_accounted (models : List Model) (calls : List Call) :
    ∃ findings, Accounted models (Abandoned models calls) findings (after models calls) := by
  induction calls using List.reverseRecOn with
  | nil => exact ⟨[], gathered_empty models, by simp⟩
  | append_singleton earlier call ih =>
      obtain ⟨findings, accounted⟩ := ih
      rw [after, List.foldl_append]
      cases call with
      | expand holder root =>
          obtain ⟨findings, grown⟩ := accounted.expand holder root
          refine ⟨findings, grown.mono ?_⟩
          rintro name (abandoned | ⟨stopped, leads⟩)
          · exact abandoned.append _
          · exact ⟨root, ⟨earlier, holder, [], rfl, stopped⟩, leads⟩
      | box =>
          have boxed : Accounted models (Abandoned models earlier) findings
              (after models earlier).boxRecursive :=
            ⟨accounted.gathered.boxRecursive, accounted.held⟩
          exact ⟨findings, boxed.mono fun name abandoned => abandoned.append _⟩

theorem follow_known (models : List Model) {closure : Closure} {worklist : List Reference}
    (known : ∀ reference ∈ worklist, closure.contains (Naming.dtoName reference.1) = true) :
    follow models closure worklist = (closure, none) := by
  induction worklist with
  | nil => rw [follow]
  | cons reference rest ih =>
      obtain ⟨name, holder⟩ := reference
      rw [follow, dif_pos (known (name, holder) (by simp))]
      exact ih fun other member => known other (by simp [member])

/-- A walk takes the references of its worklist before any that it adds to them. So if it stops at
a name that is not among the first ones, it has gathered all of those. -/
theorem follow_front {models : List Model} {findings : List Finding} {closure : Closure}
    {worklist front back : List Reference} {missing : Reference}
    (gathered : Gathered models findings closure) (split : worklist = front ++ back)
    (stopped : (follow models closure worklist).2 = some missing)
    (other : ∀ reference ∈ front, reference.1 ≠ missing.1) :
    ∀ reference ∈ front,
      (follow models closure worklist).1.contains (Naming.dtoName reference.1) = true := by
  fun_induction follow models closure worklist generalizing findings front back with
  | case1 closure =>
      obtain ⟨rfl, _⟩ := List.append_eq_nil_iff.mp split.symm
      simp
  | case2 closure name holder rest there ih =>
      cases front with
      | nil => simp
      | cons first front =>
          obtain ⟨rfl, later⟩ := List.cons.inj split
          rw [List.forall_mem_cons] at other ⊢
          obtain ⟨added, walked⟩ := follow_walked rest gathered
          exact ⟨gathered.contains_of_prefix walked.gathered there,
            ih gathered later stopped other.2⟩
  | case3 closure name holder rest fresh unknown =>
      cases front with
      | nil => simp
      | cons first front =>
          obtain ⟨rfl, _⟩ := List.cons.inj split
          obtain rfl := Option.some.inj stopped
          exact absurd rfl (other (name, holder) (by simp))
  | case4 closure name holder rest fresh model found ih =>
      cases front with
      | nil => simp
      | cons first front =>
          -- What the new model refers to goes behind `back`, so the front stays in front.
          obtain ⟨rfl, rfl⟩ := List.cons.inj split
          rw [List.forall_mem_cons] at other ⊢
          have grown := gathered.add fresh found
          obtain ⟨added, walked⟩ := follow_walked (front ++ back ++
            model.references.map fun reference => (reference, model.name)) grown
          refine ⟨grown.contains_of_prefix walked.gathered ?_, ?_⟩
          · simp [contains, Closure.add]
          · exact ih grown (List.append_assoc ..) stopped other.2

theorem expand_again {models : List Model} {findings : List Finding} {closure : Closure}
    {holder : String} {root : TypeExpr} {missing : Reference} (plain : PlainNames models)
    (gathered : Gathered models findings closure)
    (stopped : (expand models closure holder root).2 = some missing) (again : String) :
    (expand models (expand models closure holder root).1 again root).2 ≠ none ↔
      (TypeExpr.reference missing.1).Within root := by
  obtain ⟨added, walked⟩ := follow_walked (root.references.map fun name => (name, holder)) gathered
  rw [← expand] at walked
  constructor
  · intro stopsAgain
    by_contra absent
    have known := follow_front gathered (List.append_nil _).symm stopped (by
      intro reference member same
      obtain ⟨name, mentioned, rfl⟩ := List.mem_map.mp member
      exact absent (same ▸ (root.mem_references_iff name).mp mentioned))
    refine stopsAgain ?_
    rw [expand, expand, follow_known models (by simpa using known)]
  · intro mentioned finished
    obtain ⟨more, rewalked⟩ :=
      follow_walked (root.references.map fun name => (name, again)) walked.gathered
    have there := rewalked.followed finished (missing.1, again)
      (List.mem_map.mpr ⟨missing.1, (root.mem_references_iff missing.1).mpr mentioned, rfl⟩)
    obtain ⟨finding, _, found⟩ := rewalked.gathered.finding_of_contains plain there
    simp [(walked.missing missing stopped).1] at found

/-- After any calls, stopped or not, an expansion that succeeds covers every name that its root
leads to, apart from names that the root of a stopped call leads to as well. And an expansion that
stops will stop again just if the name without a model stands in its root. -/
theorem expand_covers {models : List Model} (plain : PlainNames models) (calls : List Call)
    (holder : String) (root : TypeExpr) :
    ((expand models (after models calls) holder root).2 = none →
      ∀ name, LeadsTo models root name →
        Covers models (expand models (after models calls) holder root).1 name ∨
          Abandoned models calls name) ∧
    ∀ missing, (expand models (after models calls) holder root).2 = some missing →
      ∀ again, (expand models (expand models (after models calls) holder root).1 again root).2 ≠
          none ↔ (TypeExpr.reference missing.1).Within root := by
  obtain ⟨findings, accounted⟩ := after_accounted models calls
  refine ⟨?_, fun missing stopped again => expand_again plain accounted.gathered stopped again⟩
  intro finished name leads
  obtain ⟨added, walked⟩ :=
    follow_walked (root.references.map fun name => (name, holder)) accounted.gathered
  obtain ⟨all, settled⟩ := accounted.expand holder root
  -- On the way from the root, the first name that is not covered was left aside by a stopped call,
  -- and so are all that come behind it.
  induction leads with
  | @seed name mentioned =>
      refine .inl (settled.gathered.covers plain ?_)
      exact walked.followed finished (name, holder)
        (List.mem_map.mpr ⟨name, (root.mem_references_iff name).mpr mentioned, rfl⟩)
  | @held name model reference _ stands holds ih =>
      rcases ih with ⟨source, same, there⟩ | ⟨other, interrupted, leads⟩
      · rw [dtoName_of_lookup plain same] at there
        obtain ⟨finding, member, found⟩ := settled.gathered.finding_of_contains plain there
        obtain rfl := Option.some.inj (found.symm.trans stands)
        rcases settled.held finding member reference holds with there | abandoned | ⟨stopped, _⟩
        · exact .inl (settled.gathered.covers plain there)
        · exact .inr abandoned
        · exact absurd finished stopped
      · exact .inr ⟨other, interrupted, .held leads stands holds⟩

def strays : List Model :=
  let property (name : String) (type : TypeExpr) : Property :=
    ⟨name, type, true, false, none, .none, none⟩
  [⟨"Pet", none, [property "owner" (.reference "Owner"), property "tag" (.reference "Tag")], []⟩,
    ⟨"Tag", none, [property "colour" (.reference "Colour")], []⟩,
    ⟨"Colour", none, [], ["red", "blue"]⟩]

def getPet : Call := .expand "getPet" (.reference "Pet")

theorem strays_covered :
    PlainNames strays ∧
      (expand strays (after strays [getPet]) "listTags" (.array (.reference "TagDto"))).2 = none ∧
      (∀ name, LeadsTo strays (.array (.reference "TagDto")) name →
        Covers strays (expand strays (after strays [getPet]) "listTags"
          (.array (.reference "TagDto"))).1 name ∨ Abandoned strays [getPet] name) ∧
      (expand strays (after strays [getPet]) "putOwner" (.reference "Owner")).2 =
        some ("Owner", "putOwner") ∧
      ((expand strays (expand strays (after strays [getPet]) "putOwner" (.reference "Owner")).1
          "putOwner" (.reference "Owner")).2 ≠ none ↔
        (TypeExpr.reference "Owner").Within (.reference "Owner")) := by
  have plain : PlainNames strays := by decide
  have finished : (expand strays (after strays [getPet]) "listTags"
      (.array (.reference "TagDto"))).2 = none := by decide +kernel
  have stopped : (expand strays (after strays [getPet]) "putOwner" (.reference "Owner")).2 =
      some ("Owner", "putOwner") := by decide +kernel
  exact ⟨plain, finished, (expand_covers plain [getPet] _ _).1 finished, stopped,
    (expand_covers plain [getPet] _ _).2 _ stopped "putOwner"⟩

theorem strays_forgotten :
    PlainNames strays ∧
      (expand strays .empty "getPet" (.reference "Pet")).2 = some ("Owner", "Pet") ∧
      (expand strays (after strays [getPet]) "getPet" (.reference "Pet")).2 = none ∧
      LeadsTo strays (.reference "Pet") "Owner" ∧ lookupModel? strays "Owner" = none ∧
      LeadsTo strays (.reference "Pet") "Tag" ∧
      (expand strays (after strays [getPet]) "getPet" (.reference "Pet")).1.contains "TagDto" =
        false := by
  have held : ∀ name ∈ ["Owner", "Tag"], LeadsTo strays (.reference "Pet") name := by
    intro name member
    have isPet : lookupModel? strays "Pet" = some strays[0] := by rfl
    refine .held (.seed .here) isPet ?_
    revert name
    decide
  exact ⟨by decide, by decide +kernel, by decide +kernel, held _ (by simp), by decide,
    held _ (by simp), by decide +kernel⟩

end Closure

end ApiContracts
