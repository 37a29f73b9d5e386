import WhitespaceBench.Decode.Shape
import WhitespaceBench.Toml.Document

namespace WhitespaceBench
namespace Toml

open Decode

/-!
# Records from TOML

A record is read from a table, whose entries are visited in order, or from an array
that lists its fields in declaration order; what is left of a longer array is passed
over.  A date holds no entry that any record knows.

A mismatch points at the value that does not fit.  Tables that only paths have made
stand in no place of their own; then the nearest value around that has a place is
pointed at, and for an entry of a table also its key.
-/

/-- What does not fit, and where. -/
structure Mismatch where
  fault : Fault
  span : Option Span

namespace Mismatch

/-- Gives a mismatch a place, unless it has one. -/
def within (mismatch : Mismatch) (span : Option Span) : Mismatch :=
  ⟨mismatch.fault, mismatch.span <|> span⟩

end Mismatch

/-- How messages call a scalar. -/
def Scalar.found : Scalar -> Found
  | .string content => .text content
  | .integer size => .integer size.toInt
  | .float size => .float size
  | .boolean flag => .boolean flag
  | .dateTime => .map

def Value.found : Value -> Found
  | .scalar _ content => content.found
  | .array _ _ _ => .sequence
  | .table _ _ _ => .map

/-- The mismatch of a reader that meets a value of another type. -/
def mismatch (expected : String) (value : Value) : Mismatch :=
  ⟨.wrongType value.found expected, value.span⟩

def readUnsigned (expected : String) (bound : Nat) (value : Value) :
    Except Mismatch { number : Nat // number < bound } :=
  match value with
  | .scalar span (.integer number) =>
      if fits : 0 ≤ number.toInt ∧ number.toInt.toNat < bound then
        .ok ⟨number.toInt.toNat, fits.2⟩
      else .error ⟨.wrongValue (.integer number.toInt) expected, span⟩
  | other => .error (mismatch expected other)

def readBoolean : Value -> Except Mismatch Bool
  | .scalar _ (.boolean flag) => .ok flag
  | other => .error (mismatch "a boolean" other)

def readText : Value -> Except Mismatch String
  | .scalar _ (.string content) => .ok content
  | other => .error (mismatch "a string" other)

/-- What messages call the type of a scalar. -/
def Scalar.kind : Scalar -> String
  | .string _ => "string"
  | .integer _ => "integer"
  | .float _ => "float"
  | .boolean _ => "boolean"
  | .dateTime => "datetime"

/-- A table or an array that holds nothing. -/
def readNothing : Value -> Except Mismatch Unit
  | .table span _ entries =>
      if entries.isEmpty then .ok () else .error ⟨.tableNotEmpty, span⟩
  | .array span .bracketed items =>
      if items.isEmpty then .ok () else .error ⟨.tableNotEmpty, span⟩
  | .array span .headers items =>
      if items.isEmpty then .ok () else .error ⟨.arrayNotEmpty, span⟩
  | .scalar span scalar => .error ⟨.notTable scalar.kind, span⟩

def alternative {Choice : Type} (choices : List (String × Choice)) (name : String)
    (span : Option Span) : Except Mismatch Choice :=
  match choices.lookup name with
  | some choice => .ok choice
  | none => .error ⟨.unknownVariant name (choices.map (·.1)), span⟩

/-- One of several alternatives, by its name alone or as the only key of a table, with
nothing in it. -/
def readChoice {Choice : Type} (choices : List (String × Choice)) (value : Value) :
    Except Mismatch Choice :=
  match value with
  | .scalar span (.string name) => alternative choices name span
  | .table span _ [] => .error ⟨.noEntry, span⟩
  | .table span _ [(key, inner)] =>
      match alternative choices key.name key.span with
      | .error error => .error (error.within span)
      | .ok choice =>
          match readNothing inner with
          | .error error => .error (error.within span)
          | .ok () => .ok choice
  | .table span _ _ => .error ⟨.severalEntries, span⟩
  | other => .error ⟨.notStringOrTable, other.span⟩

/-- A value that may be left out is never empty when it is given. -/
def readOptional {Inner : Type} (read : Value -> Except Mismatch Inner) (value : Value) :
    Except Mismatch (Option Inner) :=
  match read value with
  | .error error => .error error
  | .ok inner => .ok (some inner)

section Records

variable {Record Result : Type}

def readEntry (shape : Shape Value Mismatch Record Result) (draft : Draft Record)
    (entry : Key × Value) : Except Mismatch (Draft Record) :=
  match shape.named? entry.1.name with
  | none =>
      if shape.strict then .error ⟨.unknownField entry.1.name shape.names, entry.1.span⟩
      else .ok draft
  | some field =>
      if draft.given.contains entry.1.name then
        .error ⟨.duplicateField entry.1.name, entry.1.span⟩
      else
        match field.store entry.2 draft.record with
        | .error error => .error (error.within (entry.2.span <|> entry.1.span))
        | .ok record => .ok ⟨record, entry.1.name :: draft.given⟩

def readEntries (shape : Shape Value Mismatch Record Result) :
    Entries -> Draft Record -> Except Mismatch (Draft Record)
  | [], draft => .ok draft
  | entry :: entries, draft =>
      match readEntry shape draft entry with
      | .error error => .error error
      | .ok next => readEntries shape entries next

def finish (shape : Shape Value Mismatch Record Result) (record : Record) :
    Except Mismatch Result :=
  match shape.finish record with
  | .error fault => .error ⟨fault, none⟩
  | .ok result => .ok result

def readTable (shape : Shape Value Mismatch Record Result) (entries : Entries) :
    Except Mismatch Result :=
  match readEntries shape entries ⟨shape.initial, []⟩ with
  | .error error => .error error
  | .ok draft =>
      match shape.missing? draft.given with
      | some name => .error ⟨.missingField name, none⟩
      | none => finish shape draft.record

/-- Reads items into fields in declaration order.  An array that ends early leaves the
initial values of fields that are not required. -/
def readItems (shape : Shape Value Mismatch Record Result) :
    List (Field Value Mismatch Record) -> List Value -> (count : Nat) -> Record ->
      Except Mismatch Result
  | [], _, _, record => finish shape record
  | field :: fields, [], count, record =>
      if field.required then .error ⟨.wrongLength count shape.expectedLength, none⟩
      else readItems shape fields [] count record
  | field :: fields, item :: items, count, record =>
      match field.store item record with
      | .error error => .error error
      | .ok next => readItems shape fields items (count + 1) next

def readContent (shape : Shape Value Mismatch Record Result) (value : Value) :
    Except Mismatch Result :=
  match value with
  | .table _ _ entries => readTable shape entries
  | .array _ form items => readItems shape shape.fields (form.inOrder items) 0 shape.initial
  | .scalar _ .dateTime => readTable shape []
  | other => .error (mismatch shape.expected other)

/-- Reads a record, pointing at its value where nothing inside it can be pointed at. -/
def readRecord (shape : Shape Value Mismatch Record Result) (value : Value) :
    Except Mismatch Result :=
  match readContent shape value with
  | .error error => .error (error.within value.span)
  | .ok result => .ok result

end Records

/-- How TOML presents the values of records. -/
def dialect : Dialect Value Mismatch where
  unsigned := readUnsigned
  boolean := readBoolean
  text := readText
  choice := readChoice
  optional := readOptional
  record := readRecord

inductive Failure where
  /-- The text is no document. -/
  | malformed
  /-- The document does not fit. -/
  | unfit (text : List Char) (fault : Fault) (span : Span)

/-- Reads a whole text with a reader for its root table. -/
def decode {Result : Type} (read : Dialect Value Mismatch -> Value -> Except Mismatch Result)
    (text : List Char) : Except Failure Result :=
  match parse text with
  | none => .error .malformed
  | some root =>
      match read dialect root with
      | .error error => .error (.unfit text error.fault (error.span.getD ⟨text, text⟩))
      | .ok result => .ok result

end Toml
end WhitespaceBench
