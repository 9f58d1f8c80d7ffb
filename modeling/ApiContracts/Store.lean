import ApiContracts.Path

/-!
A tree of files and directories, as a value. Operations walk a path step by step from the
working directory and fail in the ways of a file system.
-/

namespace ApiContracts

inductive FileFault where
  | notFound
  | exists
  | notDirectory
  | isDirectory
  | notText
deriving DecidableEq, Repr

def FileFault.message : FileFault → String
  | .notFound => "No such file or directory (os error 2)"
  | .exists => "File exists (os error 17)"
  | .notDirectory => "Not a directory (os error 20)"
  | .isDirectory => "Is a directory (os error 21)"
  | .notText => "stream did not contain valid UTF-8"

inductive Entry where
  | directory
  | file (content : ByteArray)

instance : DecidableEq Entry
  | .directory, .directory => isTrue rfl
  | .directory, .file _ => isFalse nofun
  | .file _, .directory => isFalse nofun
  | .file first, .file second =>
    match ByteArray.instDecidableEq first second with
    | isTrue same => isTrue (congrArg Entry.file same)
    | isFalse different => isFalse fun same => different (Entry.file.inj same)

/-- A place in the tree: the names that lead to it from the working directory, or from the root
if the first of them is a slash. -/
abbrev Place := List String

namespace Place

def root : Place := ["/"]

/-- Whether a place is always there and a directory: the root, the working directory, and what
is above it. -/
def isFixed (place : Place) : Bool := place == root || place.all (· == "..")

def above (place : Place) : Place :=
  if place == root then root
  else if place.all (· == "..") then place ++ [".."]
  else place.dropLast

def path : Place → String
  | "/" :: names => "/" ++ "/".intercalate names
  | names => "/".intercalate names

end Place

structure Store where
  entries : List (Place × Entry)

namespace Store

def empty : Store := ⟨[]⟩

def held? (store : Store) (place : Place) : Option Entry :=
  if place.isFixed then some .directory else store.entries.lookup place

def put (store : Store) (place : Place) (entry : Entry) : Store :=
  if (store.entries.lookup place).isSome then
    ⟨store.entries.map fun old => if old.1 == place then (place, entry) else old⟩
  else ⟨store.entries ++ [(place, entry)]⟩

def erase (store : Store) (place : Place) : Store :=
  ⟨store.entries.filter fun old => !place.isPrefixOf old.1⟩

def walk (store : Store) : Place → List (List Char) → Except FileFault Place
  | place, [] => .ok place
  | place, piece :: rest =>
    match store.held? place with
    | none => .error .notFound
    | some (.file _) => .error .notDirectory
    | some .directory =>
      if piece.isEmpty || piece == ['.'] then walk store place rest
      else if piece == ['.', '.'] then walk store place.above rest
      else walk store (place ++ [String.ofList piece]) rest

def start (path : String) : Place := if Path.isAbsolute path then .root else []

def resolve (store : Store) (path : String) : Except FileFault Place :=
  if path.isEmpty then .error .notFound else store.walk (start path) (Path.pieces path)

def lookup (store : Store) (path : String) : Except FileFault Entry :=
  match store.resolve path with
  | .error fault => .error fault
  | .ok place =>
    match store.held? place with
    | some entry => .ok entry
    | none => .error .notFound

def has (store : Store) (path : String) : Bool := (store.lookup path).isOk

def readText (store : Store) (path : String) : Except FileFault String :=
  match store.lookup path with
  | .error fault => .error fault
  | .ok .directory => .error .isDirectory
  | .ok (.file content) =>
    match String.fromUTF8? content with
    | some text => .ok text
    | none => .error .notText

/-- Creates the directories that pieces of a path lead through. `created` says whether one was
created on the way: what stands in the way is then found where it stands, and before that only
at the end. -/
def makeFrom (store : Store) (created : Bool) : Place → List (List Char) →
    Store × Except FileFault Unit
  | _, [] => (store, .ok ())
  | place, piece :: rest =>
    if piece.isEmpty || piece == ['.'] then makeFrom store created place rest
    else if piece == ['.', '.'] then makeFrom store created place.above rest
    else
      let next := place ++ [String.ofList piece]
      match store.held? next with
      | some .directory => makeFrom store created next rest
      | some (.file _) =>
        (store, .error (if created || rest.all (·.isEmpty) then .exists else .notDirectory))
      | none => makeFrom (store.put next .directory) true next rest

def makeDirectories (store : Store) (path : String) : Store × Except FileFault Unit :=
  store.makeFrom false (start path) (Path.pieces path)

def makeParent (store : Store) (path : String) : Store × Except FileFault Unit :=
  match Path.parent? path with
  | some parent => if parent.isEmpty then (store, .ok ()) else store.makeDirectories parent
  | none => (store, .ok ())

def write (store : Store) (path : String) (content : ByteArray) :
    Store × Except FileFault Unit :=
  match store.resolve path with
  | .error fault => (store, .error fault)
  | .ok place =>
    match store.held? place with
    | some .directory => (store, .error .isDirectory)
    | _ => (store.put place (.file content), .ok ())

def create (store : Store) (path : String) (content : ByteArray) :
    Store × Except FileFault Unit :=
  match store.resolve path with
  | .error fault => (store, .error fault)
  | .ok place =>
    match store.held? place with
    | some _ => (store, .error .exists)
    | none => (store.put place (.file content), .ok ())

def inParent (store : Store) (path : String) (next : Store → Store × Except FileFault Unit) :
    Store × Except FileFault Unit :=
  match store.makeParent path with
  | (store, .error fault) => (store, .error fault)
  | (store, .ok ()) => next store

def remove (store : Store) (path : String) : Store × Except FileFault Unit :=
  match store.resolve path with
  | .error fault => (store, .error fault)
  | .ok place =>
    match store.held? place with
    | some _ => (store.erase place, .ok ())
    | none => (store, .error .notFound)

end Store

end ApiContracts
