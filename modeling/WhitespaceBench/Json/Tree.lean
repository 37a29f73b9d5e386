namespace WhitespaceBench
namespace Json

/-!
# JSON text as a tree

Reading JSON never fails as a whole.  The tree holds what could be read, in the
order of the text, and says where the text breaks off: a reader that walks the
tree from left to right meets the fault of the text exactly where it stands, and
whatever is wrong with the values before it is found first.  A list that holds a
broken value is itself marked as broken, so one look tells whether a whole value
is sound.

Two kinds of token are well formed and still have no value: a string whose
escapes are not characters, and a number that is too large.  They matter only
to a reader that wants their value.
-/

inductive Number where
  | natural (number : Nat)
  | negative (number : Nat)
  | float (number : Float)

/-- How a list of items or members ends. -/
inductive Ending where
  | closed
  | broken
deriving Repr, DecidableEq

/-- The part of a text that holds one value. -/
inductive Tree where
  | null
  | boolean (flag : Bool)
  | number (number : Number)
  | text (content : String)
  /-- A well-formed token without a value. -/
  | valueless
  | array (items : List Tree) (ending : Ending)
  /-- Members in order; a name may be well formed and no text. -/
  | object (members : List (Option String × Tree)) (ending : Ending)
  /-- There is no value here. -/
  | broken

namespace Tree

/-- Whether the text of a value is well formed to its end. -/
def sound : Tree -> Bool
  | array _ ending => decide (ending = .closed)
  | object _ ending => decide (ending = .closed)
  | broken => false
  | _ => true

/-- The value of a member of an object; the last one of a name counts. -/
def member? (tree : Tree) (name : String) : Option Tree :=
  match tree with
  | object members _ => (members.reverse.find? fun member => member.1 == some name).map (·.2)
  | _ => none

end Tree

/-- A text as read: its value, and whether nothing but blanks follows it. -/
structure Text where
  value : Tree
  complete : Bool

end Json
end WhitespaceBench
