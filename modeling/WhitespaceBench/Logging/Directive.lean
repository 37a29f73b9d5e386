import WhitespaceBench.Event
import WhitespaceBench.Logging.Field
import WhitespaceBench.Text.Cut

namespace WhitespaceBench
namespace Logging

/-!
# Filter directives

A directive says how much is logged from where.  It is a level, a target, or a target
and a level with an equals sign between them; behind the target may stand, in square
brackets, the name of a span and the fields that an event has to have.

Blanks around a directive are not looked at, and places in it are counted in bytes from
the first character that is no blank.  Its parts, however, are cut out of the text as
it was given, so blanks in front shift them, and may shift them into a character.
-/

inductive DirectiveFault where
  | shape
  | level
  | value (fault : Pattern.Fault)
  | misplaced (cut : Text.Misplaced)
deriving Repr, DecidableEq

namespace DirectiveFault

def message : DirectiveFault -> String
  | shape => "invalid filter directive"
  | level =>
      "error parsing level filter: expected one of \x22off\x22, \x22error\x22, \x22warn\x22, " ++
        "\x22info\x22, \x22debug\x22, \x22trace\x22, or a number 0-5"
  | value fault => "invalid field filter: " ++ fault.message
  | misplaced cut => cut.message

/-- The fault of a directive in which a field was not understood. -/
def ofField : FieldFault -> DirectiveFault
  | .missing => shape
  | .value fault => value fault

end DirectiveFault

/-- How much is logged from where. -/
structure Directive where
  verbosity : Nat
  target : Option (List Char)
  span : Option (List Char)
  fields : List FieldPattern
deriving Repr, DecidableEq

/-- The levels by name, with their verbosities. -/
def levelNames : List (String × Nat) :=
  [("off", 0), ("error", 1), ("warn", 2), ("info", 3), ("debug", 4), ("trace", 5)]

/-- The number that decimal digits write, a plus sign in front or not. -/
def plainNumber? (text : List Char) : Option Nat :=
  let digits : List Char :=
    match text with
    | '+' :: rest => rest
    | _ => text
  if digits.isEmpty || !digits.all Char.isDigit then none
  else some (digits.foldl (fun total digit => total * 10 + (digit.toNat - 0x30)) 0)

/-- The verbosity of a level, given by number or by name in any case; nothing at all
means errors. -/
def verbosity? (text : List Char) : Option Nat :=
  match (plainNumber? text).filter (· ≤ 5) with
  | some number => some number
  | none =>
      if text.isEmpty then some 1
      else levelNames.lookup (String.ofList (text.map Char.toLower))

def trimmed (text : List Char) : List Char :=
  ((text.dropWhile Text.Alphanumeric.isBlank).reverse.dropWhile Text.Alphanumeric.isBlank).reverse

/-- What is being read, and the place where it started. -/
inductive Reading where
  | nothing
  | levelOrTarget (start : Nat)
  | span (start : Nat)
  | field (start : Nat)
  | fieldsDone
  | targetDone
  | level (start : Nat)
deriving Repr, DecidableEq

def mayStart (character : Char) : Bool :=
  character == '-' || character == ':' || character == '_' ||
    Text.Alphanumeric.isAlphanumeric character

/-- Goes on with a part of the text, if it can be cut out. -/
def withPart {Result : Type} (part : Except Text.Misplaced (List Char))
    (next : List Char -> Except DirectiveFault Result) : Except DirectiveFault Result :=
  match part with
  | .error fault => .error (.misplaced fault)
  | .ok found => next found

def step (text : List Char) (place : Nat) (character : Char) (reading : Reading)
    (directive : Directive) : Except DirectiveFault (Reading × Directive) :=
  match reading with
  | .nothing =>
      if character = '[' then .ok (.span (place + 1), directive)
      else if mayStart character then .ok (.levelOrTarget place, directive)
      else .error .shape
  | .levelOrTarget start =>
      if character = '=' ∨ character = '[' then
        withPart (Text.cut text start place) fun target =>
          .ok (if character = '=' then .level (place + 1) else .span (place + 1),
            { directive with target := some target })
      else .ok (reading, directive)
  | .span start =>
      if character = ']' then
        withPart (Text.cut text start place) fun name =>
          .ok (.targetDone, { directive with span := some name })
      else if character = '\x7b' then
        withPart (Text.cut text start place) fun name =>
          .ok (.field (place + 1),
            { directive with span := if name.isEmpty then none else some name })
      else .ok (reading, directive)
  | .field start =>
      if character = '\x7d' then
        withPart (Text.cut text start place) fun part =>
          match FieldPattern.parse part with
          | .error fault => .error (.ofField fault)
          | .ok field =>
              .ok (.fieldsDone, { directive with fields := directive.fields ++ [field] })
      else .ok (reading, directive)
  | .fieldsDone => if character = ']' then .ok (.targetDone, directive) else .error .shape
  | .targetDone => if character = '=' then .ok (.level (place + 1), directive) else .error .shape
  | .level _ => .ok (reading, directive)

/-- Takes all characters of a directive from a place on. -/
def steps (text : List Char) : List Char -> (place : Nat) -> Reading -> Directive ->
    Except DirectiveFault (Reading × Directive)
  | [], _, reading, directive => .ok (reading, directive)
  | character :: rest, place, reading, directive =>
      match step text place character reading directive with
      | .error fault => .error fault
      | .ok (next, changed) => steps text rest (place + character.utf8Size) next changed

def finish (text : List Char) (reading : Reading) (directive : Directive) :
    Except DirectiveFault Directive :=
  match reading with
  | .levelOrTarget start =>
      withPart (Text.cutFrom text start) fun part =>
        match verbosity? part with
        | some verbosity => .ok { directive with verbosity := verbosity, target := none }
        | none => .ok { directive with target := some part }
  | .level start =>
      withPart (Text.cutFrom text start) fun part =>
        if part.isEmpty then .ok directive
        else
          match verbosity? part with
          | some verbosity => .ok { directive with verbosity := verbosity }
          | none => .error .level
  | .targetDone => .ok directive
  | _ => .error .shape

/-- Reads a directive.  Without a level it admits everything. -/
def Directive.parse (text : List Char) : Except DirectiveFault Directive :=
  match steps text (trimmed text) 0 .nothing ⟨5, none, none, []⟩ with
  | .error fault => .error fault
  | .ok (reading, directive) => finish text reading directive

end Logging
end WhitespaceBench
