import WhitespaceBench.Text.Hex
import WhitespaceBench.Toml.Literal
import WhitespaceBench.Word

namespace WhitespaceBench
namespace Toml

/-!
# Writing documents

A document is written as sections with a header and one line for each value.  A
string is written in the first of four forms that shows it without escapes: on one
line or on several, between double or single quotes.  Where none does, it is written
between double quotes with escapes.  A tab is always escaped between double quotes.

Two things cannot be written: a number that needs the sign bit of a 64-bit word, and a
string with so many equal quotes in a row that their count needs more than eight bits.
The first is an error of the writer.  The second is none: the count is kept in a byte, and
a build that checks for overflow panics there, so that the writer never returns.  The
first value of a document that cannot be written decides how writing ends.
-/

/-- Why a value is not written. -/
inductive WriteFault where
  | outOfRange
  /-- Stands for the panic of a build that checks for overflow. -/
  | countOverflow
deriving Repr, DecidableEq

namespace WriteFault

/-- The wording of an error; for a count that overflows, that of the panic. -/
def message : WriteFault -> String
  | outOfRange => "out-of-range value for u64 type"
  | countOverflow => Word.overflowText

end WriteFault

/-- Whether a character has to be escaped wherever escapes are known. -/
def isControl (character : Char) : Bool :=
  (decide (character.toNat < 0x20) || character.toNat == 0x7F) &&
    character != '\t' && character != '\n'

/-- Whether a list has so many copies of a character in a row. -/
def hasRun (wanted : Char) (length : Nat) : (run : Nat) -> List Char -> Bool
  | run, [] => decide (length ≤ run)
  | run, character :: rest =>
      decide (length ≤ run) ||
        (if character = wanted then hasRun wanted length (run + 1) rest
         else hasRun wanted length 0 rest)

/-- The longest run of equal quotes that is counted. -/
def runLimit : Nat := 255

/-- Whether all runs of equal quotes can be counted. -/
def isCountable (content : List Char) : Bool :=
  !hasRun Quote.double.character (runLimit + 1) 0 content &&
    !hasRun Quote.single.character (runLimit + 1) 0 content

structure Form where
  quote : Quote
  multiline : Bool
deriving Repr, DecidableEq

namespace Form

def ofContent (content : List Char) : Form :=
  let controls := content.any isControl
  let backslash := content.contains '\\'
  let lines := content.contains '\n'
  let double := Quote.double.character
  let single := Quote.single.character
  if !controls && !backslash && !lines && !content.contains double then ⟨.double, false⟩
  else if !controls && !lines && !content.contains single then ⟨.single, false⟩
  else if !controls && !backslash && !hasRun double 3 0 content then ⟨.double, true⟩
  else if !controls && !hasRun single 3 0 content then ⟨.single, true⟩
  else ⟨.double, lines⟩

def delimiter (form : Form) : List Char :=
  List.replicate (if form.multiline then 3 else 1) form.quote.character

end Form

/-- One character between double quotes.  On several lines a line break stands for
itself, and so does a quote that is not the third in a row. -/
def escapedCharacter (multiline : Bool) (run : Nat) (character : Char) : List Char :=
  if character = '\x08' then ['\\', 'b']
  else if character = '\t' then ['\\', 't']
  else if character = '\n' then if multiline then ['\n'] else ['\\', 'n']
  else if character = '\x0c' then ['\\', 'f']
  else if character = '\r' then ['\\', 'r']
  else if character = '\x22' then
    if multiline ∧ run < 2 then ['\x22'] else ['\\', '\x22']
  else if character = '\\' then ['\\', '\\']
  else if character.toNat < 0x20 ∨ character.toNat = 0x7F then
    '\\' :: 'u' :: (Text.Hex.digits 4 character.toNat).map Char.toUpper
  else [character]

/-- The number of quotes in a row behind a character; an escaped one starts anew. -/
def nextRun (multiline : Bool) (run : Nat) (character : Char) : Nat :=
  if character = '\x22' ∧ multiline ∧ run < 2 then run + 1 else 0

def escapedContent (multiline : Bool) : (run : Nat) -> List Char -> List Char
  | _, [] => []
  | run, character :: rest =>
      escapedCharacter multiline run character ++
        escapedContent multiline (nextRun multiline run character) rest

/-- A string as it is written.  Several lines start behind the opening quotes. -/
def writtenString (content : List Char) : List Char :=
  let form := Form.ofContent content
  let opening := if form.multiline && content.contains '\n' then ['\n'] else []
  let body :=
    match form.quote with
    | .double => escapedContent form.multiline 0 content
    | .single => content
  form.delimiter ++ opening ++ body ++ form.delimiter

/-- A value of a document that is written. -/
inductive Plain where
  | number (size : Nat)
  | flag (flag : Bool)
  | text (content : String)
deriving Repr, DecidableEq

namespace Plain

/-- What keeps a value from being written. -/
def fault? : Plain -> Option WriteFault
  | number size => if size < 0x8000000000000000 then none else some .outOfRange
  | flag _ => none
  | text content => if isCountable content.toList then none else some .countOverflow

def written : Plain -> List Char
  | number size => (toString size).toList
  | flag value => if value then ['t', 'r', 'u', 'e'] else ['f', 'a', 'l', 's', 'e']
  | text content => writtenString content.toList

end Plain

/-- A named table of plain values. -/
structure Sheet where
  name : String
  lines : List (String × Plain)
deriving Repr, DecidableEq

namespace Sheet

def writtenLine (line : String × Plain) : List Char :=
  line.1.toList ++ [' ', '=', ' '] ++ line.2.written ++ ['\n']

def written (sheet : Sheet) : List Char :=
  '[' :: sheet.name.toList ++ [']', '\n'] ++ sheet.lines.flatMap writtenLine

def fault? (sheet : Sheet) : Option WriteFault :=
  sheet.lines.findSome? fun line => line.2.fault?

end Sheet

/-- Tables as they are written, with an empty line between them. -/
def writtenSheets : List Sheet -> List Char
  | [] => []
  | [sheet] => sheet.written
  | sheet :: sheets => sheet.written ++ '\n' :: writtenSheets sheets

/-- The text of tables, unless one of their values cannot be written. -/
def write (sheets : List Sheet) : Except WriteFault (List Char) :=
  match sheets.findSome? Sheet.fault? with
  | some fault => .error fault
  | none => .ok (writtenSheets sheets)

end Toml
end WhitespaceBench
