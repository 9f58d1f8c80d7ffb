import ApiContracts.Yaml.Lexer
import ApiContracts.Yaml.Node
import ApiContracts.Yaml.Resolve

/-!
YAML text read as a JSON value: scalars are resolved, keys become their text, and aliases are
followed.
-/

namespace ApiContracts.Yaml

def maxDepth : Nat := 128

def Node.weight : Node → Nat
  | scalar _ _ _ | aliasOf _ => 1
  | sequence _ items => weights items + 2
  | mapping _ entries => entryWeights entries + 2
where
  weights : List Node → Nat
    | [] => 0
    | node :: rest => node.weight + weights rest
  entryWeights : List (Node × Node) → Nat
    | [] => 0
    | (key, value) :: rest => key.weight + value.weight + entryWeights rest

/-- A step of following nodes; the state is how many aliases may still be followed. -/
abbrev Following := StateT Nat Option

def followAlias (anchors : Anchors) (node : Node) : Following Node :=
  match node with
  | .aliasOf slot => fun left =>
    match left, anchors.node? slot with
    | left + 1, some target => some (target, left)
    | _, _ => none
  | _ => return node

def refuseOwnTag (tag : Option String) : Following Unit :=
  if tag.any (·.toList.head? == some '!') then failure else return ()

def scalarValue (text : String) (plain : Bool) (tag : Option String) : Following Json :=
  match tag with
  | some tag => StateT.lift (taggedValue? tag text)
  | none => if plain then StateT.lift (plainValue? text) else return .string text

def keyText (anchors : Anchors) (node : Node) : Following String := do
  match ← followAlias anchors node with
  | .scalar text _ _ => return text
  | _ => failure

def valueOf (anchors : Anchors) : (depth : Nat) → Node → Following Json
  | depth, node => do
    match ← followAlias anchors node with
    | .scalar text plain tag => do
      refuseOwnTag tag
      scalarValue text plain tag
    | .sequence tag items => do
      refuseOwnTag tag
      match depth with
      | 0 => failure
      | depth + 1 => return .array (← items.mapM (valueOf anchors depth))
    | .mapping tag entries => do
      refuseOwnTag tag
      match depth with
      | 0 => failure
      | depth + 1 =>
        let members ← entries.mapM fun (key, value) => do
          let name ← keyText anchors key
          return (name, ← valueOf anchors depth value)
        return .ofMembers members
    | .aliasOf _ => failure

def read? (text : String) : Option Json := do
  let tokens ← tokens? text
  match ← documentOf? tokens with
  | (none, _) => return .null
  | (some node, anchors) => (valueOf anchors maxDepth node).run' (100 * node.weight)

end ApiContracts.Yaml
