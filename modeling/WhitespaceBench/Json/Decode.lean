import WhitespaceBench.Decode.Shape
import WhitespaceBench.Json.Parser

namespace WhitespaceBench
namespace Json

open Decode

/-!
# Records from JSON

A record is read from an object, whose members are visited in order, or from an
array that lists its fields in declaration order.  The first thing that is wrong
decides, be it a value that does not fit or the place where the text breaks off.

A tree is read either as it stands in a text or as a value that was taken apart
before.  A value has no double members and its members are in the order of their
names; it also knows how long its arrays are before their elements are read.
-/

inductive Failure where
  /-- The text is not well formed. -/
  | malformed
  /-- A well-formed value does not fit. -/
  | unfit (fault : Fault)

inductive Origin where
  | text
  | value
deriving Repr, DecidableEq

/-- How messages call a tree, unless its text is not well formed. -/
def Tree.found? : Tree -> Option Found
  | .null => some .null
  | .boolean flag => some (.boolean flag)
  | .number (.natural size) => some (.integer size)
  | .number (.negative size) => some (.integer (-(size : Int)))
  | .number (.float approximate) => some (.float approximate)
  | .text content => some (.text content)
  | .array _ _ => some .sequence
  | .object _ _ => some .map
  | .valueless => none
  | .broken => none

/-- The failure of a reader that meets a tree of another type. -/
def mismatch (expected : String) (tree : Tree) : Failure :=
  match tree.found? with
  | some found => .unfit (.wrongType found expected)
  | none => .malformed

def readUnsigned (expected : String) (bound : Nat) (tree : Tree) :
    Except Failure { number : Nat // number < bound } :=
  match tree with
  | .number (.natural number) =>
      if fits : number < bound then .ok ⟨number, fits⟩
      else .error (.unfit (.wrongValue (.integer number) expected))
  | .number (.negative number) =>
      .error (.unfit (.wrongValue (.integer (-(number : Int))) expected))
  | other => .error (mismatch expected other)

def readBoolean : Tree -> Except Failure Bool
  | .boolean flag => .ok flag
  | other => .error (mismatch "a boolean" other)

def readText : Tree -> Except Failure String
  | .text content => .ok content
  | other => .error (mismatch "a string" other)

def readNull : Tree -> Except Failure Unit
  | .null => .ok ()
  | other => .error (mismatch "unit" other)

def alternative {Choice : Type} (choices : List (String × Choice)) (name : String) :
    Except Failure Choice :=
  match choices.lookup name with
  | some choice => .ok choice
  | none => .error (.unfit (.unknownVariant name (choices.map (·.1))))

/-- A text keeps all members in order.  A value has one member of each name, the
last one given, and is sorted by name. -/
def Origin.members (origin : Origin) (members : List (Option String × Tree)) :
    List (Option String × Tree) :=
  match origin with
  | .text => members
  | .value => members.foldl placed []
where
  /-- Puts a member in its place, over an earlier one of the same name. -/
  placed : List (Option String × Tree) -> Option String × Tree -> List (Option String × Tree)
    | [], member => [member]
    | first :: rest, member =>
        if first.1 = member.1 then member :: rest
        else if (member.1.getD "") < (first.1.getD "") then member :: first :: rest
        else first :: placed rest member

/-- One of several alternatives, by its name alone or as the only member of an
object, with null as its value. -/
def readChoice (origin : Origin) {Choice : Type} (choices : List (String × Choice))
    (tree : Tree) : Except Failure Choice :=
  match origin, tree with
  | _, .text name => alternative choices name
  | .text, .object [] _ => .error .malformed
  | .text, .object ((name, inner) :: others) ending =>
      match name with
      | none => .error .malformed
      | some name =>
          match alternative choices name with
          | .error failure => .error failure
          | .ok choice =>
              match readNull inner with
              | .error failure => .error failure
              | .ok () =>
                  if others.isEmpty && decide (ending = .closed) then .ok choice
                  else .error .malformed
  | .text, _ => .error .malformed
  | .value, .object members _ =>
      match origin.members members with
      | [(some name, inner)] =>
          match alternative choices name with
          | .error failure => .error failure
          | .ok choice =>
              match readNull inner with
              | .error failure => .error failure
              | .ok () => .ok choice
      | _ => .error (.unfit (.wrongValue .map "map with a single key"))
  | .value, other => .error (mismatch "string or map" other)

def readOptional {Inner : Type} (read : Tree -> Except Failure Inner) (tree : Tree) :
    Except Failure (Option Inner) :=
  match tree with
  | .null => .ok none
  | other =>
      match read other with
      | .error failure => .error failure
      | .ok inner => .ok (some inner)

section Records

variable {Record Result : Type}

/-- Reads one member into a draft.  That a name is given twice is found before its
value is looked at. -/
def readMember (shape : Shape Tree Failure Record Result) (draft : Draft Record)
    (member : Option String × Tree) : Except Failure (Draft Record) :=
  match member.1 with
  | none => .error .malformed
  | some name =>
      match shape.named? name with
      | none =>
          if shape.strict then .error (.unfit (.unknownField name shape.names))
          else if member.2.sound then .ok draft
          else .error .malformed
      | some field =>
          if draft.given.contains name then .error (.unfit (.duplicateField name))
          else
            match field.store member.2 draft.record with
            | .error failure => .error failure
            | .ok record => .ok ⟨record, name :: draft.given⟩

def readMembers (shape : Shape Tree Failure Record Result) :
    List (Option String × Tree) -> Draft Record -> Except Failure (Draft Record)
  | [], draft => .ok draft
  | member :: members, draft =>
      match readMember shape draft member with
      | .error failure => .error failure
      | .ok next => readMembers shape members next

def finish (shape : Shape Tree Failure Record Result) (record : Record) :
    Except Failure Result :=
  match shape.finish record with
  | .error fault => .error (.unfit fault)
  | .ok result => .ok result

/-- Reads elements into fields in declaration order, and gives the elements left.
A list that ends early leaves the initial values of fields that are not required. -/
def readElements (shape : Shape Tree Failure Record Result) (ending : Ending) :
    List (Field Tree Failure Record) -> List Tree -> (count : Nat) -> Record ->
      Except Failure (Record × List Tree)
  | [], elements, _, record => .ok (record, elements)
  | field :: fields, [], count, record =>
      if ending = .broken then .error .malformed
      else if field.required then
        .error (.unfit (.wrongLength count shape.expectedLength))
      else readElements shape ending fields [] count record
  | field :: fields, element :: elements, count, record =>
      match field.store element record with
      | .error failure => .error failure
      | .ok next => readElements shape ending fields elements (count + 1) next

def readRecord (origin : Origin) (shape : Shape Tree Failure Record Result) (tree : Tree) :
    Except Failure Result :=
  match tree with
  | .object members ending =>
      match readMembers shape (origin.members members) ⟨shape.initial, []⟩ with
      | .error failure => .error failure
      | .ok draft =>
          if ending = .broken then .error .malformed
          else
            match shape.missing? draft.given with
            | some name => .error (.unfit (.missingField name))
            | none => finish shape draft.record
  | .array elements ending =>
      match readElements shape ending shape.fields elements 0 shape.initial with
      | .error failure => .error failure
      | .ok (record, left) =>
          match finish shape record with
          | .error failure => .error failure
          | .ok result =>
              if left.isEmpty && decide (ending = .closed) then .ok result
              else
                match origin with
                | .text => .error .malformed
                | .value =>
                    .error (.unfit (.wrongLength elements.length "fewer elements in array"))
  | other => .error (mismatch shape.expected other)

end Records

/-- How JSON presents the values of records. -/
def dialect (origin : Origin) : Dialect Tree Failure where
  unsigned := readUnsigned
  boolean := readBoolean
  text := readText
  choice := readChoice origin
  optional := readOptional
  record := readRecord origin

/-- Reads a whole text with a reader for its value.  Anything but blanks behind the
value is a fault, but only if the value fits. -/
def decode {Result : Type} (read : Dialect Tree Failure -> Tree -> Except Failure Result)
    (text : List Char) : Except Failure Result :=
  let parsed := parse text
  match read (dialect .text) parsed.value with
  | .error failure => .error failure
  | .ok result => if parsed.complete then .ok result else .error .malformed

end Json
end WhitespaceBench
