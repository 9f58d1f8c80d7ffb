/-!
Kinds of generated artifacts, the folder of each, and whether a run may replace its file.
-/

namespace ApiContracts

inductive RequestKind where
  | command | query
deriving DecidableEq, Repr

def RequestKind.text : RequestKind → String
  | .command => "command"
  | .query => "query"

inductive WritePolicy where
  | always
  | writeOnce
deriving DecidableEq, Repr

namespace WritePolicy

def text : WritePolicy → String
  | always => "always"
  | writeOnce => "write-once"

def listed : WritePolicy → String
  | always => "always"
  | writeOnce => "write_once"

end WritePolicy

inductive ArtifactKind where
  | dto | command | query | handler | validator
deriving DecidableEq, Repr

namespace ArtifactKind

def all : List ArtifactKind := [dto, command, query, handler, validator]

def text : ArtifactKind → String
  | dto => "dto"
  | command => "command"
  | query => "query"
  | handler => "handler"
  | validator => "validator"

def ofText? (word : String) : Option ArtifactKind := all.find? (·.text == word)

def ofRequest : RequestKind → ArtifactKind
  | .command => command
  | .query => query

/-- Handlers hold hand-written logic; all else is derived. -/
def policy : ArtifactKind → WritePolicy
  | handler => .writeOnce
  | dto | command | query | validator => .always

def folder : ArtifactKind → String
  | dto => "dtos"
  | command => "commands"
  | query => "queries"
  | handler => "handlers"
  | validator => "validators"

def isContract (kind : ArtifactKind) : Bool := kind != handler

end ArtifactKind

end ApiContracts
