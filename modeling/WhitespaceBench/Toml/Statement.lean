import WhitespaceBench.Toml.Literal
import WhitespaceBench.Toml.Number

namespace WhitespaceBench
namespace Toml

/-!
# The statements of a document

A document is a sequence of lines.  Each holds a header, an assignment or nothing,
and may end in a comment.  Readers take a text and return what it starts with and
the text behind it; nothing is returned for a text that breaks the rules.

Values are nested less than 80 deep, and a dotted key has less than 80 parts.
-/

/-- The largest depth of nested values, and the largest number of parts of a key. -/
def depthLimit : Nat := 79

/-- Whether a character may stand in a key without quotes. -/
def isBare (character : Char) : Bool :=
  character.isAlphanum || character == '_' || character == '-'

def simpleKey : List Char -> Option (Key × List Char)
  | [] => none
  | character :: rest =>
      match quote? character with
      | some quote =>
          match singleLine quote rest with
          | none => none
          | some (content, behind) =>
              some (⟨String.ofList content, some ⟨character :: rest, behind⟩⟩, behind)
      | none =>
          if isBare character then
            let behind := rest.dropWhile isBare
            some (⟨String.ofList (character :: rest.takeWhile isBare),
              some ⟨character :: rest, behind⟩⟩, behind)
          else none

/-- A key of at most so many parts, given as the path in front of its last part. -/
def dottedKey : Nat -> List Char -> Option (List Key × Key × List Char)
  | 0, _ => none
  | bound + 1, text =>
      match simpleKey (skipBlanks text) with
      | none => none
      | some (key, rest) =>
          match skipBlanks rest with
          | '.' :: others =>
              match dottedKey bound others with
              | none => none
              | some (path, last, behind) => some (key :: path, last, behind)
          | behind => some ([], key, behind)

def wordValue : List Char -> Option (Scalar × List Char)
  | 't' :: 'r' :: 'u' :: 'e' :: rest => some (.boolean true, rest)
  | 'f' :: 'a' :: 'l' :: 's' :: 'e' :: rest => some (.boolean false, rest)
  | text => specialFloat false text

/-- A value that holds no other values. -/
def scalarContent : List Char -> Option (Scalar × List Char)
  | [] => none
  | character :: rest =>
      match quote? character with
      | some quote =>
          match stringBody quote rest with
          | none => none
          | some (content, behind) => some (.string (String.ofList content), behind)
      | none =>
          if isDigit character || character == '+' || character == '-' then
            numeric (character :: rest)
          else wordValue (character :: rest)

/-- A value that holds no other values, and where it stands. -/
def scalarValue (text : List Char) : Option (Value × List Char) :=
  match scalarContent text with
  | none => none
  | some (scalar, behind) => some (.scalar (some ⟨text, behind⟩) scalar, behind)

/-- The text behind blanks, line breaks and comments, from inside a comment or not. -/
def skipSpaceFrom : (comment : Bool) -> List Char -> List Char
  | _, [] => []
  | _, '\r' :: '\n' :: rest => skipSpaceFrom false rest
  | comment, character :: rest =>
      if comment && isPlain character then skipSpaceFrom true rest
      else if isBlank character || character == '\n' then skipSpaceFrom false rest
      else if character == '#' then skipSpaceFrom true rest
      else character :: rest

def skipSpace (text : List Char) : List Char :=
  skipSpaceFrom false text

/-- The items of an array from one that has to be there.  A comma may stand behind
the last item.  An item takes at least one character, so a list as long as the text
bounds their number. -/
def items (read : List Char -> Option (Value × List Char)) :
    (steps text : List Char) -> Option (List Value × List Char)
  | [], _ => none
  | _ :: steps, text =>
      match read text with
      | none => none
      | some (item, rest) =>
          match skipSpace rest with
          | ']' :: behind => some ([item], behind)
          | ',' :: others =>
              match skipSpace others with
              | ']' :: behind => some ([item], behind)
              | more =>
                  match items read steps more with
                  | none => none
                  | some (others, behind) => some (item :: others, behind)
          | _ => none

def assignment (read : List Char -> Option (Value × List Char)) (text : List Char) :
    Option (Assignment × List Char) :=
  match dottedKey depthLimit text with
  | some (path, key, '=' :: rest) =>
      match read (skipBlanks rest) with
      | none => none
      | some (value, behind) => some (⟨path, key, value⟩, behind)
  | _ => none

/-- The assignments between braces from one that has to be there.  No comma stands
behind the last one.  Their number is bounded as that of items is. -/
def inlineAssignments (read : List Char -> Option (Value × List Char)) :
    (steps text : List Char) -> Option (List Assignment × List Char)
  | [], _ => none
  | _ :: steps, text =>
      match assignment read text with
      | none => none
      | some (first, rest) =>
          match skipBlanks rest with
          | '\x7d' :: behind => some ([first], behind)
          | ',' :: others =>
              match inlineAssignments read steps others with
              | none => none
              | some (more, behind) => some (first :: more, behind)
          | _ => none

def arrayBody (read : List Char -> Option (Value × List Char)) (text : List Char) :
    Option (List Value × List Char) :=
  match skipSpace text with
  | ']' :: behind => some ([], behind)
  | others => items read others others

def tableBody (read : List Char -> Option (Value × List Char)) (text : List Char) :
    Option (Entries × List Char) :=
  match skipBlanks text with
  | '\x7d' :: behind => some ([], behind)
  | others =>
      match inlineAssignments read others others with
      | none => none
      | some (assignments, behind) =>
          match assignAll assignments [] with
          | none => none
          | some entries => some (entries, behind)

/-- A value that may nest so many levels deep. -/
def value : (depth : Nat) -> List Char -> Option (Value × List Char)
  | 0, text => scalarValue text
  | depth + 1, text =>
      match text with
      | '[' :: rest =>
          match arrayBody (value depth) rest with
          | none => none
          | some (read, behind) => some (.array (some ⟨text, behind⟩) .bracketed read, behind)
      | '\x7b' :: rest =>
          match tableBody (value depth) rest with
          | none => none
          | some (read, behind) => some (.table (some ⟨text, behind⟩) .inline read, behind)
      | _ => scalarValue text

/-- The text behind the end of a line, and behind a comment in front of it. -/
def lineEnd? (text : List Char) : Option (List Char) :=
  let behind : List Char :=
    match skipBlanks text with
    | '#' :: rest => rest.dropWhile isPlain
    | rest => rest
  match behind with
  | [] => some []
  | _ => lineBreak? behind

/-- A line that opens a table, or one more table of an array. -/
structure Header where
  element : Bool
  path : List Key
  key : Key
  span : Span

inductive Statement where
  | header (header : Header)
  | assignment (assignment : Assignment)

/-- A header.  Those with double brackets open one more table of an array. -/
def headerLine : List Char -> Option (Header × List Char)
  | '[' :: '[' :: rest =>
      match dottedKey depthLimit rest with
      | some (path, key, ']' :: ']' :: behind) =>
          some (⟨true, path, key, ⟨'[' :: '[' :: rest, behind⟩⟩, behind)
      | _ => none
  | '[' :: rest =>
      match dottedKey depthLimit rest with
      | some (path, key, ']' :: behind) =>
          some (⟨false, path, key, ⟨'[' :: rest, behind⟩⟩, behind)
      | _ => none
  | _ => none

def statement (text : List Char) : Option (Statement × List Char) :=
  match text with
  | '[' :: _ =>
      match headerLine text with
      | none => none
      | some (header, behind) => some (.header header, behind)
  | _ =>
      match assignment (value depthLimit) text with
      | none => none
      | some (assigned, behind) => some (.assignment assigned, behind)

def isEmptyLine : List Char -> Bool
  | [] => true
  | character :: _ => character == '#' || character == '\n' || character == '\r'

/-- All statements of a text.  Each line takes at least one character, so the length
of the text bounds the number of steps. -/
def statements : Nat -> List Char -> Option (List Statement)
  | 0, text => if text.isEmpty then some [] else none
  | bound + 1, text =>
      let line := skipBlanks text
      if line.isEmpty then some []
      else if isEmptyLine line then
        match lineEnd? line with
        | none => none
        | some rest => statements bound rest
      else
        match statement line with
        | none => none
        | some (first, behind) =>
            match lineEnd? behind with
            | none => none
            | some rest =>
                match statements bound rest with
                | none => none
                | some more => some (first :: more)

end Toml
end WhitespaceBench
