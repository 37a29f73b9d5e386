import WhitespaceBench.Text.Hex

namespace WhitespaceBench
namespace Toml

/-!
# String literals

There are two kinds of quotes, and both come single for one line and threefold for
several lines.  Between double quotes a backslash starts an escape; between single
quotes every character stands for itself.  Readers take the text behind the opening
quotes and return the content and the text behind the closing quotes.
-/

inductive Quote where
  | double
  | single
deriving Repr, DecidableEq

namespace Quote

def character : Quote -> Char
  | double => '\x22'
  | single => '\x27'

end Quote

def isBlank (character : Char) : Bool :=
  character == ' ' || character == '\t'

def skipBlanks (text : List Char) : List Char :=
  text.dropWhile isBlank

/-- The text behind a line break, if there is one here. -/
def lineBreak? : List Char -> Option (List Char)
  | '\n' :: rest => some rest
  | '\r' :: '\n' :: rest => some rest
  | _ => none

/-- Whether a character may stand in a comment, or for itself in a string. -/
def isPlain (character : Char) : Bool :=
  character == '\t' || (decide (0x20 ≤ character.toNat) && character.toNat != 0x7F)

/-- The character of a code point; surrogates and all beyond Unicode have none. -/
def codePoint? (code : Nat) : Option Char :=
  if valid : code.isValidChar then some (Char.ofNatAux code valid) else none

/-- The character written by hexadecimal digits, exactly so many, and what follows. -/
def hexEscape? (width : Nat) (text : List Char) : Option (Char × List Char) :=
  if (text.take width).length = width then
    match Text.Hex.number? (text.take width) with
    | none => none
    | some code =>
        match codePoint? code with
        | none => none
        | some character => some (character, text.drop width)
  else none

/-- The character of an escape behind its backslash, and what follows. -/
def escape? : List Char -> Option (Char × List Char)
  | [] => none
  | letter :: rest =>
      if letter = 'b' then some ('\x08', rest)
      else if letter = 't' then some ('\t', rest)
      else if letter = 'n' then some ('\n', rest)
      else if letter = 'f' then some ('\x0c', rest)
      else if letter = 'r' then some ('\r', rest)
      else if letter = '\x22' then some ('\x22', rest)
      else if letter = '\\' then some ('\\', rest)
      else if letter = 'u' then hexEscape? 4 rest
      else if letter = 'U' then hexEscape? 8 rest
      else none

/-- Puts characters in front of the content that is read next. -/
def prepend (characters : List Char) :
    Option (List Char × List Char) -> Option (List Char × List Char)
  | none => none
  | some (content, rest) => some (characters ++ content, rest)

/-- The content of a string on one line.  A step takes at least one character, so a list
as long as the text bounds the number of steps. -/
def singleLineWithin (quote : Quote) : (steps text : List Char) ->
    Option (List Char × List Char)
  | _, [] => none
  | [], _ :: _ => none
  | _ :: steps, character :: rest =>
      if character = quote.character then some ([], rest)
      else if quote = .double ∧ character = '\\' then
        match escape? rest with
        | none => none
        | some (escaped, behind) => prepend [escaped] (singleLineWithin quote steps behind)
      else if isPlain character then prepend [character] (singleLineWithin quote steps rest)
      else none

def singleLine (quote : Quote) (text : List Char) : Option (List Char × List Char) :=
  singleLineWithin quote text text

def skipLines : List Char -> List Char
  | [] => []
  | '\r' :: '\n' :: rest => skipLines rest
  | character :: rest =>
      if isBlank character || character == '\n' then skipLines rest else character :: rest

/-- The text behind a line break that a backslash takes away, together with all
blanks and line breaks behind it. -/
def joinedLine? (text : List Char) : Option (List Char) :=
  match lineBreak? (skipBlanks text) with
  | none => none
  | some rest => some (skipLines rest)

/-- The content of a string on several lines.  Fewer than three quotes in a row are
content.  Three close the string, and up to two more in front of them are content.
Steps are bounded as they are for one line. -/
def multiLineWithin (quote : Quote) : (steps text : List Char) ->
    Option (List Char × List Char)
  | _, [] => none
  | [], _ :: _ => none
  | _ :: steps, character :: rest =>
      if character = quote.character then
        let run := (rest.takeWhile (· == quote.character)).length + 1
        if run < 3 then
          prepend (List.replicate run quote.character)
            (multiLineWithin quote steps (rest.drop (run - 1)))
        else
          some (List.replicate (min (run - 3) 2) quote.character, rest.drop (min run 5 - 1))
      else if quote = .double ∧ character = '\\' then
        match joinedLine? rest with
        | some behind => multiLineWithin quote steps behind
        | none =>
            match escape? rest with
            | none => none
            | some (escaped, behind) => prepend [escaped] (multiLineWithin quote steps behind)
      else
        match lineBreak? (character :: rest) with
        | some behind => prepend ['\n'] (multiLineWithin quote steps behind)
        | none =>
            if isPlain character then prepend [character] (multiLineWithin quote steps rest)
            else none

/-- The content of a string on several lines. -/
def multiLine (quote : Quote) (text : List Char) : Option (List Char × List Char) :=
  multiLineWithin quote text text

def secondAndThird? (quote : Quote) : List Char -> Option (List Char)
  | first :: second :: rest =>
      if first = quote.character ∧ second = quote.character then some rest else none
  | _ => none

/-- The content of a string behind its first quote.  A line break right behind the
opening quotes of several lines is no content. -/
def stringBody (quote : Quote) (text : List Char) : Option (List Char × List Char) :=
  match secondAndThird? quote text with
  | none => singleLine quote text
  | some rest =>
      match lineBreak? rest with
      | none => multiLine quote rest
      | some behind => multiLine quote behind

/-- The quote that a character opens. -/
def quote? (character : Char) : Option Quote :=
  if character = Quote.double.character then some .double
  else if character = Quote.single.character then some .single
  else none

end Toml
end WhitespaceBench
