import WhitespaceBench.Text.Quoted

namespace WhitespaceBench
namespace Text

/-!
# Parts of a text

A text is split at a separator, or cut by bytes.  A text with n separators has n + 1
parts, some of which may be empty.  Places at which a text is cut are counted in bytes.  A
part can be cut out between two places only if both lie between characters, or at the ends
of the text; a place inside a character is a fault, that of the start being found first.
-/

/-- The parts between separators. -/
def split (separator : Char) : List Char -> List (List Char)
  | [] => [[]]
  | character :: rest =>
      if character = separator then [] :: split separator rest
      else
        match split separator rest with
        | [] => [[character]]
        | first :: others => (character :: first) :: others

/-- The two places between which a part is cut out. -/
inductive Edge where
  | start
  | stop
deriving Repr, DecidableEq

namespace Edge

/-- How a message calls a place. -/
def name : Edge -> String
  | start => "start"
  | stop => "end"

end Edge

/-- A place that lies inside a character. -/
structure Misplaced where
  edge : Edge
  index : Nat
  character : Char
  /-- The place of the character. -/
  place : Nat
deriving Repr, DecidableEq

namespace Misplaced

def message (cut : Misplaced) : String :=
  cut.edge.name ++ " byte index " ++ toString cut.index ++
    " is not a char boundary; it is inside " ++ quotedCharacter cut.character ++ " (bytes " ++
    toString cut.place ++ ".." ++ toString (cut.place + cut.character.utf8Size) ++ " of string)"

end Misplaced

/-- The character that a place lies inside of, and where it starts; the text starts at the
given place. -/
def characterAround? (index : Nat) : (place : Nat) -> List Char -> Option (Char × Nat)
  | _, [] => none
  | place, character :: rest =>
      if index ≤ place then none
      else if index < place + character.utf8Size then some (character, place)
      else characterAround? index (place + character.utf8Size) rest

def dropBytes : Nat -> List Char -> List Char
  | _, [] => []
  | count, character :: rest =>
      if count = 0 then character :: rest else dropBytes (count - character.utf8Size) rest

def takeBytes : Nat -> List Char -> List Char
  | _, [] => []
  | count, character :: rest =>
      if count = 0 then [] else character :: takeBytes (count - character.utf8Size) rest

/-- The fault of a place, if it lies inside a character. -/
def misplaced? (edge : Edge) (index : Nat) (text : List Char) : Option Misplaced :=
  (characterAround? index 0 text).map fun found => ⟨edge, index, found.1, found.2⟩

def cutFrom (text : List Char) (start : Nat) : Except Misplaced (List Char) :=
  match misplaced? .start start text with
  | some fault => .error fault
  | none => .ok (dropBytes start text)

/-- The part of a text between two places. -/
def cut (text : List Char) (start stop : Nat) : Except Misplaced (List Char) :=
  match cutFrom text start with
  | .error fault => .error fault
  | .ok rest =>
      match misplaced? .stop stop text with
      | some fault => .error fault
      | none => .ok (takeBytes (stop - start) rest)

end Text
end WhitespaceBench
