namespace WhitespaceBench
namespace Toml

/-!
# TOML documents

A document is a table of keys and values.  Values remember where they stand in
the text, so that a message about a value can point at it.  Tables remember how
they came about: only some of them may be extended by later statements.
-/

/-- A part of a text, given by what is left of the text at its start and at its end. -/
structure Span where
  start : List Char
  rest : List Char

namespace Span

/-- The part from the start of one span to the end of another. -/
def upTo (first last : Span) : Span := ⟨first.start, last.rest⟩

end Span

structure Key where
  name : String
  span : Option Span

/-- A value that holds no other values.  Integers are 64-bit words with a sign.  The
parts of a date or a time are never used, so they are not kept. -/
inductive Scalar where
  | string (content : String)
  | integer (number : Int64)
  | float (number : Float)
  | boolean (flag : Bool)
  | dateTime

inductive ArrayForm where
  /-- Between square brackets. -/
  | bracketed
  /-- By headers in double brackets, each of which adds a table.  Since only the newest
  one can still change, they are kept the newest first. -/
  | headers
deriving Repr, DecidableEq

inductive TableForm where
  /-- Between braces. -/
  | inline
  /-- By a header of its own, or as the root of the document. -/
  | header
  /-- By a longer header that passes through it. -/
  | implicit
  /-- By a dotted key that passes through it. -/
  | dotted
deriving Repr, DecidableEq

inductive Value where
  | scalar (span : Option Span) (scalar : Scalar)
  | array (span : Option Span) (form : ArrayForm) (items : List Value)
  | table (span : Option Span) (form : TableForm) (entries : List (Key × Value))

/-- The items of an array in the order of the text. -/
def ArrayForm.inOrder (form : ArrayForm) (items : List Value) : List Value :=
  match form with
  | bracketed => items
  | headers => items.reverse

namespace Value

/-- Where a value stands, if it stands in one place. -/
def span : Value -> Option Span
  | scalar span _ => span
  | array span _ _ => span
  | table span _ _ => span

end Value

/-- The entries of a table, in the order in which they were made. -/
abbrev Entries := List (Key × Value)

namespace Entries

def get? : Entries -> String -> Option Value
  | [], _ => none
  | (key, value) :: rest, name => if key.name = name then some value else get? rest name

/-- Changes the value of a key in its place, or adds the key at the end.  The
change is told the present value and may refuse. -/
def alter (key : Key) (change : Option Value -> Option Value) : Entries -> Option Entries
  | [] =>
      match change none with
      | none => none
      | some value => some [(key, value)]
  | (first, value) :: rest =>
      if first.name = key.name then
        match change (some value) with
        | none => none
        | some changed => some ((first, changed) :: rest)
      else
        match alter key change rest with
        | none => none
        | some changed => some ((first, value) :: changed)

def erase (entries : Entries) (name : String) : Entries :=
  entries.filter fun entry => entry.1.name ≠ name

end Entries

/-- One assignment of a value to a key, possibly through a path of dotted keys. -/
structure Assignment where
  path : List Key
  key : Key
  value : Value

/-- Changes the newest table of an array of tables. -/
def changeNewest (change : Entries -> Option Entries) : List Value -> Option (List Value)
  | .table span form entries :: older =>
      match change entries with
      | none => none
      | some changed => some (.table span form changed :: older)
  | _ => none

/-- Assigns a value.  Dotted keys make tables, and pass through tables that dotted
keys made; they also pass through a table that only headers passed through, or the
last table of an array of tables, but cannot assign directly into one of these.
A key that has a value cannot be assigned again. -/
def assign : (path : List Key) -> Key -> Value -> Entries -> Option Entries
  | [], key, value, entries =>
      entries.alter key fun present =>
        match present with
        | none => some value
        | some _ => none
  | step :: path, key, value, entries =>
      entries.alter step fun present =>
        match present with
        | none =>
            match assign path key value [] with
            | none => none
            | some inner => some (.table none .dotted inner)
        | some (.table span .dotted inner) =>
            match assign path key value inner with
            | none => none
            | some changed => some (.table span .dotted changed)
        | some (.table span .implicit inner) =>
            if path.isEmpty then none
            else
              match assign path key value inner with
              | none => none
              | some changed => some (.table span .implicit changed)
        | some (.array span .headers tables) =>
            if path.isEmpty then none
            else
              match changeNewest (assign path key value) tables with
              | none => none
              | some changed => some (.array span .headers changed)
        | some _ => none

def assignAll : List Assignment -> Entries -> Option Entries
  | [], entries => some entries
  | assignment :: assignments, entries =>
      match assign assignment.path assignment.key assignment.value entries with
      | none => none
      | some changed => assignAll assignments changed

end Toml
end WhitespaceBench
