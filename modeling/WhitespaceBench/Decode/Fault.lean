import WhitespaceBench.Decimal.Layout
import WhitespaceBench.Text.Quoted

namespace WhitespaceBench
namespace Decode

/-!
# What can be wrong with a value

A document in some data format is read into a typed record.  The faults below say
what did not fit; they are the same for all formats, only the layout of a
floating-point number inside a message differs.
-/

/-- What was met in the place of the expected thing. -/
inductive Found where
  | null
  | boolean (flag : Bool)
  | integer (number : Int)
  | float (number : Float)
  | text (content : String)
  | sequence
  | map

namespace Found

def describe (layout : Decimal.Layout) : Found -> String
  | null => "null"
  | boolean flag => "boolean `" ++ toString flag ++ "`"
  | integer number => "integer `" ++ toString number ++ "`"
  | float number => "floating point `" ++ layout.text number ++ "`"
  | text content => "string " ++ Text.quoted content
  | sequence => "sequence"
  | map => "map"

end Found

inductive Fault where
  | wrongType (found : Found) (expected : String)
  | wrongValue (found : Found) (expected : String)
  | wrongLength (count : Nat) (expected : String)
  | missingField (name : String)
  | duplicateField (name : String)
  | unknownField (name : String) (known : List String)
  | unknownVariant (name : String) (known : List String)
  | durationOverflow
  | notStringOrTable
  | noEntry
  | severalEntries
  | tableNotEmpty
  | arrayNotEmpty
  | notTable (kind : String)

namespace Fault

/-- The admissible names, each in backquotes. -/
def alternatives : List String -> String
  | [] => "nothing"
  | [only] => "`" ++ only ++ "`"
  | [first, second] => "`" ++ first ++ "` or `" ++ second ++ "`"
  | names => "one of " ++ String.intercalate ", " (names.map fun name => "`" ++ name ++ "`")

def message (layout : Decimal.Layout) : Fault -> String
  | wrongType found expected =>
      "invalid type: " ++ found.describe layout ++ ", expected " ++ expected
  | wrongValue found expected =>
      "invalid value: " ++ found.describe layout ++ ", expected " ++ expected
  | wrongLength count expected =>
      "invalid length " ++ toString count ++ ", expected " ++ expected
  | missingField name => "missing field `" ++ name ++ "`"
  | duplicateField name => "duplicate field `" ++ name ++ "`"
  | unknownField name known =>
      "unknown field `" ++ name ++ "`, expected " ++ alternatives known
  | unknownVariant name known =>
      "unknown variant `" ++ name ++ "`, expected " ++ alternatives known
  | durationOverflow => "overflow deserializing Duration"
  | notStringOrTable => "wanted string or table"
  | noEntry => "wanted exactly 1 element, found 0 elements"
  | severalEntries => "wanted exactly 1 element, more than 1 element"
  | tableNotEmpty => "expected empty table"
  | arrayNotEmpty => "expected empty array"
  | notTable kind => "expected table, found " ++ kind

end Fault
end Decode
end WhitespaceBench
