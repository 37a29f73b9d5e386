import WhitespaceBench.Json.Lexeme

namespace WhitespaceBench
namespace Json

/-!
# From text to tree

The reader returns the tree of the value that a text starts with and the text
behind it.  The first argument of each function bounds the number of steps; twice
the length of the text is always enough, since between two steps without a
character there is one that takes a character.
-/

/-- Whether a text starts with a word, and what follows it. -/
def word? : List Char -> List Char -> Option (List Char)
  | [], text => some text
  | _ :: _, [] => none
  | letter :: letters, character :: text =>
      if letter = character then word? letters text else none

/-- A literal word stands for its value, or there is none. -/
def literal (letters : List Char) (value : Tree) (text : List Char) : Tree × List Char :=
  match word? letters text with
  | some rest => (value, rest)
  | none => (.broken, [])

mutual

def value : Nat -> List Char -> Tree × List Char
  | 0, _ => (.broken, [])
  | bound + 1, text =>
      match skipBlanks text with
      | [] => (.broken, [])
      | '\x22' :: rest =>
          match pieces rest with
          | none => (.broken, [])
          | some (read, left) =>
              match characters? read with
              | some characters => (.text (String.ofList characters), left)
              | none => (.valueless, left)
      | '[' :: rest =>
          match skipBlanks rest with
          | ']' :: left => (.array [] .closed, left)
          | others =>
              match items bound others with
              | (read, ending, left) => (.array read ending, left)
      | '\x7b' :: rest =>
          match skipBlanks rest with
          | '\x7d' :: left => (.object [] .closed, left)
          | '\x22' :: others =>
              match members bound ('\x22' :: others) with
              | (read, ending, left) => (.object read ending, left)
          | _ => (.object [] .broken, [])
      | 'n' :: rest => literal ['u', 'l', 'l'] .null rest
      | 't' :: rest => literal ['r', 'u', 'e'] (.boolean true) rest
      | 'f' :: rest => literal ['a', 'l', 's', 'e'] (.boolean false) rest
      | '-' :: rest => unsignedNumber true rest
      | character :: rest =>
          if isDigit character then unsignedNumber false (character :: rest) else (.broken, [])

/-- The items of an array from one that has to be there. -/
def items : Nat -> List Char -> List Tree × Ending × List Char
  | 0, _ => ([], .broken, [])
  | bound + 1, text =>
      match value bound text with
      | (read, left) =>
          if read.sound then
            match skipBlanks left with
            | ']' :: rest => ([read], .closed, rest)
            | ',' :: rest =>
                match skipBlanks rest with
                | ']' :: _ => ([read], .broken, [])
                | others =>
                    match items bound others with
                    | (more, ending, behind) => (read :: more, ending, behind)
            | _ => ([read], .broken, [])
          else ([read], .broken, [])

/-- The members of an object from one that has to be there. -/
def members : Nat -> List Char -> List (Option String × Tree) × Ending × List Char
  | 0, _ => ([], .broken, [])
  | bound + 1, text =>
      match text with
      | '\x22' :: rest =>
          match pieces rest with
          | none => ([], .broken, [])
          | some (written, left) =>
              let name := (characters? written).map String.ofList
              match skipBlanks left with
              | ':' :: others =>
                  match value bound others with
                  | (read, behind) =>
                      if read.sound then
                        match skipBlanks behind with
                        | '\x7d' :: rest => ([(name, read)], .closed, rest)
                        | ',' :: rest =>
                            match members bound (skipBlanks rest) with
                            | (more, ending, last) => ((name, read) :: more, ending, last)
                        | _ => ([(name, read)], .broken, [])
                      else ([(name, read)], .broken, [])
              | _ => ([(name, .broken)], .broken, [])
      | _ => ([], .broken, [])

end

def parse (text : List Char) : Text :=
  match value (2 * text.length + 2) text with
  | (read, left) => ⟨read, read.sound && (skipBlanks left).isEmpty⟩

end Json
end WhitespaceBench
