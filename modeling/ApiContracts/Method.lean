import ApiContracts.Text.Basic

/-!
HTTP methods: tokens whose case is kept and mostly ignored.
-/

namespace ApiContracts

def isTokenChar (c : Char) : Bool :=
  Text.isAsciiAlphanumeric c || "!#$%&'*+-.^_`|~".toList.contains c

structure Method where
  text : String
deriving DecidableEq, Repr

namespace Method

def ofText? (text : String) : Option Method :=
  if text.toList.isEmpty || !text.toList.all isTokenChar then none else some ⟨text⟩

def isVerb (method : Method) (verb : String) : Bool :=
  Text.lowerAscii method.text.toList == Text.lowerAscii verb.toList

end Method

end ApiContracts
