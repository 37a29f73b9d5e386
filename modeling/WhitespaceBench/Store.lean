import WhitespaceBench.Text.Cut
import WhitespaceBench.Text.Utf8

namespace WhitespaceBench

/-!
# Files

A store is a directory with everything below it.  It is kept as a list of places with
what stands there; a place is the list of names that lead to it, the innermost name
first, and the root directory is the empty place.  Paths are walked name by name from
the root, so a path through a place that is no directory fails at that place.
-/

inductive FileFault where
  | isDirectory
  | notFound
  | notDirectory
  | nameTooLong
  | nullInName
  | notText
  /-- A reason that was given by someone else. -/
  | stated (reason : String)
deriving Repr, DecidableEq

namespace FileFault

def message : FileFault -> String
  | isDirectory => "Is a directory (os error 21)"
  | notFound => "No such file or directory (os error 2)"
  | notDirectory => "Not a directory (os error 20)"
  | nameTooLong => "File name too long (os error 36)"
  | nullInName => "file name contained an unexpected NUL byte"
  | notText => "stream did not contain valid UTF-8"
  | stated reason => reason

end FileFault

/-- What may stand at a place. -/
inductive Node where
  | file (bytes : List UInt8)
  | directory
deriving Repr, DecidableEq

/-- The names that lead to a place, the innermost first. -/
abbrev Location := List String

/-- A directory with everything below it. -/
structure Store where
  nodes : List (Location × Node)
deriving Repr, DecidableEq

namespace Store

def empty : Store := ⟨[]⟩

/-- What stands at a place.  There is always a directory at the root. -/
def node? (store : Store) : Location -> Option Node
  | [] => some .directory
  | place => store.nodes.lookup place

/-- Puts something at a place, over what stands there. -/
def put (store : Store) (place : Location) (node : Node) : Store :=
  ⟨(place, node) :: store.nodes.filter fun entry => entry.1 ≠ place⟩

/-- The longest name, in bytes. -/
def nameLimit : Nat := 255

/-- The longest path, in bytes. -/
def pathLimit : Nat := 4095

/-- Walks along names from a place.  The place reached may be empty, but it stands in
a directory. -/
def walk (store : Store) : List String -> Location -> Except FileFault Location
  | [], place => .ok place
  | name :: names, place =>
      match store.node? place with
      | none => .error .notFound
      | some (.file _) => .error .notDirectory
      | some .directory =>
          if name = "" ∨ name = "." then walk store names place
          else if name = ".." then walk store names place.tail
          else if nameLimit < name.utf8ByteSize then .error .nameTooLong
          else walk store names (name :: place)

def names (path : String) : List String :=
  (Text.split '/' path.toList).map String.ofList

/-- What is wrong with a path, whatever it leads to. -/
def pathFault? (path : String) : Option FileFault :=
  if path.toList.contains '\x00' then some .nullInName
  else if path = "" then some .notFound
  else if pathLimit < path.utf8ByteSize then some .nameTooLong
  else none

/-- The place that a path leads to. -/
def resolve (store : Store) (path : String) : Except FileFault Location :=
  match pathFault? path with
  | some fault => .error fault
  | none => store.walk (names path) []

/-- Whether something stands where a path leads to. -/
def holds (store : Store) (path : String) : Bool :=
  match store.resolve path with
  | .error _ => false
  | .ok place => (store.node? place).isSome

def read (store : Store) (path : String) : Except FileFault (List UInt8) :=
  match store.resolve path with
  | .error fault => .error fault
  | .ok place =>
      match store.node? place with
      | none => .error .notFound
      | some .directory => .error .isDirectory
      | some (.file bytes) => .ok bytes

def readText (store : Store) (path : String) : Except FileFault (List Char) :=
  match store.read path with
  | .error fault => .error fault
  | .ok bytes =>
      match Text.Utf8.decode? bytes with
      | none => .error .notText
      | some text => .ok text

/-- The names on the way to the last one, with a step that asks for a directory. -/
def directoryNames (names : List String) : List String :=
  (names.reverse.dropWhile (· == "")).tail.reverse ++ ["."]

/-- The place that names lead to when something is to be written there.  Names that end
in a slash can only be those of a directory, so the last of them is not looked at. -/
def target (store : Store) (names : List String) : Except FileFault Location :=
  if names.getLast? = some "" then
    match store.walk (directoryNames names) [] with
    | .error fault => .error fault
    | .ok _ => .error .isDirectory
  else store.walk names []

/-- Replaces the bytes of a file, or makes it. -/
def write (store : Store) (path : String) (bytes : List UInt8) : Except FileFault Store :=
  match pathFault? path with
  | some fault => .error fault
  | none =>
      match store.target (names path) with
      | .error fault => .error fault
      | .ok place =>
          match store.node? place with
          | some .directory => .error .isDirectory
          | _ => .ok (store.put place (.file bytes))

/-- Makes a directory, and those on the way to it. -/
def makeDirectories (store : Store) : List String -> Location -> Except FileFault Store
  | [], _ => .ok store
  | name :: names, place =>
      match store.walk [name] place with
      | .error fault => .error fault
      | .ok next =>
          match store.node? next with
          | some (.file _) => .error .notDirectory
          | some .directory => makeDirectories store names next
          | none => makeDirectories (store.put next .directory) names next

def makeDirectory (store : Store) (path : String) : Except FileFault Store :=
  store.makeDirectories (names path) []

/-- Removes what stands where a path leads to, with everything below it. -/
def remove (store : Store) (path : String) : Except FileFault Store :=
  match store.resolve path with
  | .error fault => .error fault
  | .ok place => .ok ⟨store.nodes.filter fun entry => !place.isSuffixOf entry.1⟩

end Store
end WhitespaceBench
