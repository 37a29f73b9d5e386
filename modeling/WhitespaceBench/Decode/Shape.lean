import WhitespaceBench.Decode.Fault

namespace WhitespaceBench
namespace Decode

/-!
# Shapes of records

A shape lists the fields of a record in declaration order and says how the value
of each is stored.  Reading starts from an initial record and stores the fields
that are given; a field that is not required keeps its initial value.  The same
shape is read from every data format: a `Dialect` supplies the readers for plain
values and knows how the format presents a record.
-/

/-- One field of a record: its name, whether it has to be given, and how a value
of the format is read into the record. -/
structure Field (Value Error Record : Type) where
  name : String
  required : Bool
  store : Value -> Record -> Except Error Record

/-- How a record is read.  The last step turns the stored fields into the result. -/
structure Shape (Value Error Record Result : Type) where
  name : String
  /-- Whether a name that is not a field is a fault; otherwise it is passed over. -/
  strict : Bool
  /-- Whether a list that is too short is told the number of fields. -/
  counted : Bool
  initial : Record
  fields : List (Field Value Error Record)
  finish : Record -> Except Fault Result

namespace Shape

variable {Value Error Record Result : Type}

def expected (shape : Shape Value Error Record Result) : String :=
  "struct " ++ shape.name

/-- How a message names the record when a list has too few elements. -/
def expectedLength (shape : Shape Value Error Record Result) : String :=
  if shape.counted then
    shape.expected ++ " with " ++ toString shape.fields.length ++
      (if shape.fields.length = 1 then " element" else " elements")
  else shape.expected

def named? (shape : Shape Value Error Record Result) (name : String) :
    Option (Field Value Error Record) :=
  shape.fields.find? fun field => field.name == name

def names (shape : Shape Value Error Record Result) : List String :=
  shape.fields.map fun field => field.name

/-- The first required field that was not given. -/
def missing? (shape : Shape Value Error Record Result) (given : List String) : Option String :=
  (shape.fields.find? fun field => field.required && !given.contains field.name).map
    fun field => field.name

end Shape

/-- A record on the way, with the names that were given so far. -/
structure Draft (Record : Type) where
  record : Record
  given : List String

/-- How a data format presents the values that records are made of. -/
structure Dialect (Value Error : Type) where
  /-- A number below a bound, and how messages name the type. -/
  unsigned : (expected : String) -> (bound : Nat) -> Value ->
    Except Error { number : Nat // number < bound }
  boolean : Value -> Except Error Bool
  text : Value -> Except Error String
  /-- One of a list of named alternatives. -/
  choice : {Choice : Type} -> List (String × Choice) -> Value -> Except Error Choice
  /-- A value that may be given as nothing. -/
  optional : {Inner : Type} -> (Value -> Except Error Inner) -> Value ->
    Except Error (Option Inner)
  record : {Record Result : Type} -> Shape Value Error Record Result -> Value ->
    Except Error Result

namespace Dialect

variable {Value Error : Type}

/-- A 64-bit word, named as the type of sizes or as a plain word. -/
def word (dialect : Dialect Value Error) (expected : String) (value : Value) :
    Except Error UInt64 :=
  match dialect.unsigned expected UInt64.size value with
  | .error error => .error error
  | .ok number => .ok (UInt64.ofNatLT number.1 number.2)

/-- A size: a 64-bit word. -/
def size (dialect : Dialect Value Error) : Value -> Except Error UInt64 :=
  dialect.word "usize"

def count (dialect : Dialect Value Error) (value : Value) : Except Error UInt32 :=
  match dialect.unsigned "u32" UInt32.size value with
  | .error error => .error error
  | .ok number => .ok (UInt32.ofNatLT number.1 number.2)

end Dialect

/-- Puts a value that was read into its place in a record. -/
def storing {Value Error Record Inner : Type} (read : Value -> Except Error Inner)
    (place : Inner -> Record -> Record) (value : Value) (record : Record) :
    Except Error Record :=
  match read value with
  | .error error => .error error
  | .ok inner => .ok (place inner record)

end Decode
end WhitespaceBench
