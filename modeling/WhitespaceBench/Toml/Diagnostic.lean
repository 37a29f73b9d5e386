import WhitespaceBench.Text.Utf8
import WhitespaceBench.Toml.Decode

namespace WhitespaceBench
namespace Toml

open Decode

/-!
# Messages that point into the text

A message quotes the line in which a span starts and underlines the span as far as
it lies in that line.  Columns count characters; the length of an underline counts
bytes, and there is always at least one mark.
-/

/-- Where a span starts, and the line that it starts in. -/
structure Place where
  /-- The number of lines in front. -/
  line : Nat
  /-- The number of characters in front within the line. -/
  column : Nat
  content : List Char

namespace Place

/-- The place where a rest of a text starts. -/
def ofRest (text rest : List Char) : Place :=
  let before := text.take (text.length - rest.length)
  let margin := (before.reverse.takeWhile (· != '\n')).reverse
  ⟨before.count '\n', margin.length, margin ++ rest.takeWhile (· != '\n')⟩

end Place

def blanks (count : Nat) : String :=
  String.ofList (List.replicate count ' ')

def markCount (place : Place) (span : Span) : Nat :=
  max 1 (min (Text.Utf8.size span.start - Text.Utf8.size span.rest)
    (Text.Utf8.size place.content - place.column))

/-- A message about a part of a text.  It ends in a line break. -/
def pointed (text : List Char) (span : Span) (message : String) : String :=
  let place := Place.ofRest text span.start
  let number := toString (place.line + 1)
  let gutter := blanks (number.length + 1) ++ "|"
  "TOML parse error at line " ++ number ++ ", column " ++ toString (place.column + 1) ++ "\n" ++
    gutter ++ "\n" ++
    number ++ " | " ++ String.ofList place.content ++ "\n" ++
    gutter ++ blanks (place.column + 1) ++
      String.ofList (List.replicate (markCount place span) '^') ++ "\n" ++
    message ++ "\n"

namespace Failure

def message : Failure -> String
  | malformed => "TOML parse error: the text is no TOML document\n"
  | unfit text fault span => pointed text span (fault.message .plain)

end Failure
end Toml
end WhitespaceBench
