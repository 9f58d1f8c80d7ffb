import ApiContracts.Proofs.Text.Identifier

/-!
The keywords of the language that sources are written in, and which names are left beside them. Most
keywords can be used as a name in raw form; those that lead to a place cannot.
-/

namespace ApiContracts.Naming

open Text

def strictKeywords : List String :=
  ["as", "async", "await", "break", "const", "continue", "crate", "dyn", "else", "enum", "extern",
    "false", "fn", "for", "if", "impl", "in", "let", "loop", "match", "mod", "move", "mut", "pub",
    "ref", "return", "Self", "self", "static", "struct", "super", "trait", "true", "type", "unsafe",
    "use", "where", "while"]

def reservedKeywords : List String :=
  ["abstract", "become", "box", "do", "final", "macro", "override", "priv", "try", "typeof",
    "unsized", "virtual", "yield"]

def keywords : List String := strictKeywords ++ reservedKeywords

def placeKeywords : List String := ["crate", "self", "super", "Self"]

/-- The table of raw keywords leaves out what is kept for later, and no strict keyword that has a
raw form. -/
theorem mem_strictKeywords_iff (word : String) :
    word ∈ strictKeywords ↔ word ∈ rawKeywords ∨ word ∈ pathKeywords := by
  have there : ∀ word ∈ strictKeywords, word ∈ rawKeywords ∨ word ∈ pathKeywords := by decide
  have back : ∀ word ∈ rawKeywords ++ pathKeywords, word ∈ strictKeywords := by decide
  constructor
  · exact there word
  · intro listed
    exact back word (List.mem_append.mpr listed)

theorem mem_placeKeywords_iff (word : String) : word ∈ placeKeywords ↔ word ∈ pathKeywords := by
  have there : ∀ word ∈ placeKeywords, word ∈ pathKeywords := by decide
  have back : ∀ word ∈ pathKeywords, word ∈ placeKeywords := by decide
  exact ⟨there word, back word⟩

structure IsPlainName (name : String) : Prop where
  identifier : isIdentifier name = true
  notLone : name ≠ "_"
  notKeyword : name ∉ keywords

end ApiContracts.Naming
