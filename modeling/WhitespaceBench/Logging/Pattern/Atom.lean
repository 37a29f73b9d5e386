import WhitespaceBench.Logging.Pattern.Mode
import WhitespaceBench.Text.Hex

namespace WhitespaceBench
namespace Logging
namespace Pattern

/-!
# Atoms of a pattern

An atom is the smallest part of a pattern: a character, a class with a short name, or
an assertion about the place in the text.  A character can be written by an escape.

No tables of character properties are at hand.  So classes of characters cannot be
asked for by property or by a short name, and the case of characters cannot be ignored,
unless bytes are matched.  What is matched is text, however, and a class of bytes must
not reach beyond ASCII.
-/

/-- The smallest parts of a pattern. -/
inductive Atom where
  /-- One character, given by two hexadecimal digits or in another way. -/
  | literal (character : Char) (byte : Bool)
  /-- Every character, line breaks perhaps apart. -/
  | any
  /-- Digits, blanks or characters of words, or all but these. -/
  | shorthand (negated : Bool)
  /-- The start or the end of a line or of the text. -/
  | lineEdge
  /-- A place where a word starts or ends, or where none does. -/
  | wordEdge
deriving Repr, DecidableEq

namespace Atom

def isUsable (modes : Modes) : Atom -> Bool
  | literal character byte =>
      if modes.unicode then !modes.insensitive else !byte || decide (character.toNat < 0x80)
  | any => modes.unicode
  | shorthand negated => !modes.unicode && !negated
  | lineEdge => true
  | wordEdge => true

/-- Whether an atom can be a member of a bracketed class under a mode. -/
def isMember (modes : Modes) : Atom -> Bool
  | literal character _ =>
      if modes.unicode then !modes.insensitive else decide (character.toNat < 0x80)
  | any => false
  | shorthand negated => !modes.unicode && !negated
  | lineEdge => false
  | wordEdge => false

end Atom

/-- The number that so many hexadecimal digits write, and the text behind them. -/
def hexNumber (modes : Modes) : (count : Nat) -> (number : Nat) -> List Char ->
    Option (Nat × List Char)
  | 0, number, text => some (number, text)
  | count + 1, number, text =>
      match modes.skip text with
      | [] => none
      | digit :: rest =>
          match Text.Hex.value? digit with
          | none => none
          | some value => hexNumber modes count (number * 16 + value) rest

/-- A character given by so many hexadecimal digits. -/
def hexLiteral (modes : Modes) (count : Nat) (text : List Char) : Option (Atom × List Char) :=
  match hexNumber modes count 0 text with
  | none => none
  | some (number, rest) =>
      if number.isValidChar then some (.literal (Char.ofNat number) (count == 2), rest)
      else none

/-- The number of digits behind the letter of a numeric escape. -/
def digitCount? (letter : Char) : Option Nat :=
  if letter = 'x' then some 2
  else if letter = 'u' then some 4
  else if letter = 'U' then some 8
  else none

/-- The control characters that have a letter, by their letters. -/
def controlLetters : List (Char × Char) :=
  [('a', '\x07'), ('f', '\x0c'), ('t', '\t'), ('n', '\n'), ('r', '\r'), ('v', '\x0b')]

/-- Whether a character stands for itself behind a backslash. -/
def isEscapable (character : Char) : Bool :=
  decide (character.toNat < 0x80) && !character.isAlphanum && character != '<' &&
    character != '>'

def letterAtom? (letter : Char) : Option Atom :=
  if isEscapable letter then some (.literal letter false)
  else if ['d', 's', 'w'].contains letter then some (.shorthand false)
  else if ['D', 'S', 'W'].contains letter then some (.shorthand true)
  else if ['A', 'z'].contains letter then some .lineEdge
  else if ['b', 'B', '<', '>'].contains letter then some .wordEdge
  else (controlLetters.lookup letter).map fun control => .literal control false

/-- The atom of an escape, given the text behind the backslash. -/
def escape (modes : Modes) : List Char -> Option (Atom × List Char)
  | [] => none
  | letter :: rest =>
      match digitCount? letter with
      | some count => hexLiteral modes count rest
      | none => (letterAtom? letter).map fun atom => (atom, rest)

end Pattern
end Logging
end WhitespaceBench
