import WhitespaceBench.Text.Alphanumeric

namespace WhitespaceBench
namespace Logging
namespace Pattern

/-!
# Modes of a pattern

How the characters of a pattern are understood depends on modes.  They are switched
inside the pattern by a list of letters behind an opening parenthesis and a question
mark: letters in front of a dash switch a mode on, and letters behind it switch it off.
Only three of the modes matter for whether a pattern can be used.
-/

/-- The modes that matter for whether a pattern can be used. -/
structure Modes where
  /-- The case of letters does not matter. -/
  insensitive : Bool
  /-- Characters are matched, and not bytes. -/
  unicode : Bool
  /-- Blanks and comments are passed over. -/
  spaced : Bool
deriving Repr, DecidableEq

def modeLetters : List Char := ['i', 'm', 's', 'U', 'u', 'R', 'x']

namespace Modes

def initial : Modes := ⟨false, true, false⟩

/-- What a list of letters makes of one mode. -/
def switched (letters : List Char) (letter : Char) (before : Bool) : Bool :=
  if (letters.takeWhile (· != '-')).contains letter then true
  else if letters.contains letter then false
  else before

/-- The modes behind a list of letters. -/
def switch (modes : Modes) (letters : List Char) : Modes where
  insensitive := switched letters 'i' modes.insensitive
  unicode := switched letters 'u' modes.unicode
  spaced := switched letters 'x' modes.spaced

end Modes

/-- The text behind blanks and comments.  A comment lasts to the end of its line. -/
def skipSpace : (comment : Bool) -> List Char -> List Char
  | _, [] => []
  | true, character :: rest => skipSpace (character != '\n') rest
  | false, character :: rest =>
      if Text.Alphanumeric.isBlank character then skipSpace false rest
      else if character = '#' then skipSpace true rest
      else character :: rest

/-- The text behind what a mode passes over. -/
def Modes.skip (modes : Modes) (text : List Char) : List Char :=
  if modes.spaced then skipSpace false text else text

/-- The character behind blanks and at most one sign of a comment, if there is one. -/
def beyondSpace? (text : List Char) : Option Char :=
  let behind :=
    match text.dropWhile Text.Alphanumeric.isBlank with
    | '#' :: rest => rest.dropWhile Text.Alphanumeric.isBlank
    | rest => rest
  match behind with
  | character :: _ => some character
  | [] => text.head?

/-- The character that comes next under a mode, comments seen only by their sign. -/
def Modes.next? (modes : Modes) (text : List Char) : Option Char :=
  if modes.spaced then beyondSpace? text else text.head?

/-- The letters of a switch up to the colon or parenthesis that ends it, whether it was
the parenthesis, and the text behind it.  No letter stands twice, and no dash at the end.
The letters that were seen are kept the last first. -/
def modeSwitch : (seen : List Char) -> List Char -> Option (List Char × Bool × List Char)
  | _, [] => none
  | seen, character :: rest =>
      if character = ':' ∨ character = ')' then
        if seen.head? = some '-' then none
        else some (seen.reverse, character == ')', rest)
      else if ('-' :: modeLetters).contains character && !seen.contains character then
        modeSwitch (character :: seen) rest
      else none

end Pattern
end Logging
end WhitespaceBench
