import WhitespaceBench.Logging.Pattern.Atom

namespace WhitespaceBench
namespace Logging
namespace Pattern

/-!
# Bracketed classes

A bracketed class lists characters, ranges, classes with names and other bracketed
classes.  Lists can be combined by an intersection, a difference or a symmetric
difference, from left to right.  A closing bracket in the first place, and dashes there,
stand for themselves.

Only the depth of nesting is kept of a class.  A list of one member is as deep as the
member, a longer one is deeper by one, and so are a combination and a class.
-/

/-- The depth of parts that stand in a row. -/
def rowDepth : List Nat -> Nat
  | [] => 0
  | [depth] => depth
  | depths => depths.foldl max 0 + 1

/-- How far the first place of a class was read. -/
inductive Opening where
  /-- Nothing was read behind the bracket. -/
  | bracket
  /-- A caret was read, or nothing that matters. -/
  | start
  /-- Only dashes were read. -/
  | dashes
  | done
deriving Repr, DecidableEq

/-- A class that was opened and not closed. -/
structure Bracket where
  opening : Opening
  /-- The depth of what stands left of an operator. -/
  left : Option Nat
  /-- The depths of the members behind it. -/
  members : List Nat
deriving Repr, DecidableEq

namespace Bracket

/-- A class behind its opening bracket. -/
def opened : Bracket := ⟨.bracket, none, []⟩

def push (bracket : Bracket) (depth : Nat) : Bracket :=
  { bracket with opening := .done, members := depth :: bracket.members }

def depth (bracket : Bracket) : Nat :=
  match bracket.left with
  | none => rowDepth bracket.members
  | some left => max left (rowDepth bracket.members) + 1

/-- A class behind an operator. -/
def combine (bracket : Bracket) : Bracket := ⟨.done, some bracket.depth, []⟩

end Bracket

def classNames : List String :=
  ["alnum", "alpha", "ascii", "blank", "cntrl", "digit", "graph", "lower", "print", "punct",
    "space", "upper", "word", "xdigit"]

/-- A class given by its name, behind its opening bracket: whether it is negated, and the
text behind it. -/
def namedClass? : List Char -> Option (Bool × List Char)
  | ':' :: text =>
      let negated := text.head? == some '^'
      let body := if negated then text.tail else text
      match body.dropWhile (· != ':') with
      | ':' :: ']' :: rest =>
          if classNames.contains (String.ofList (body.takeWhile (· != ':'))) then
            some (negated, rest)
          else none
      | _ => none
  | _ => none

/-- Whether a class given by its name can be used under a mode. -/
def namedClassIsUsable (modes : Modes) (negated : Bool) : Bool :=
  if modes.unicode then !modes.insensitive else !negated

/-- The atom at the start of a text inside a class. -/
def memberAtom (modes : Modes) : List Char -> Option (Atom × List Char)
  | [] => none
  | '\\' :: rest => escape modes rest
  | character :: rest => some (.literal character false, rest)

def isRange : Atom -> Atom -> Bool
  | .literal first _, .literal last _ => decide (first.toNat ≤ last.toNat)
  | _, _ => false

/-- The text behind a character or a range at the start of a text inside a class.  A dash
in front of another dash or of the end is no sign of a range. -/
def member (modes : Modes) (text : List Char) : Option (List Char) :=
  match memberAtom modes text with
  | none => none
  | some (first, rest) =>
      if !first.isMember modes then none
      else
        match modes.skip rest with
        | '-' :: behind =>
            let next := modes.next? behind
            if next = some ']' ∨ next = some '-' then some ('-' :: behind)
            else
              match memberAtom modes (modes.skip behind) with
              | none => none
              | some (last, others) =>
                  if last.isMember modes && isRange first last then some others else none
        | others => some others

def startsWithOperator : List Char -> Bool
  | '&' :: '&' :: _ => true
  | '-' :: '-' :: _ => true
  | '~' :: '~' :: _ => true
  | _ => false

/-- What one step inside a class leads to: the classes that are open, the innermost first,
or the depth of the class that was closed. -/
inductive ClassStep where
  | within (brackets : List Bracket) (rest : List Char)
  | closed (depth : Nat) (rest : List Char)
deriving Repr, DecidableEq

/-- Takes one member, operator or bracket of a class. -/
def classStep (modes : Modes) (bracket : Bracket) (around : List Bracket) (character : Char)
    (rest : List Char) : Option ClassStep :=
  let standsForItself := (Atom.literal character false).isMember modes
  if character = '^' ∧ bracket.opening = .bracket then
    if modes.unicode then some (.within ({ bracket with opening := .start } :: around) rest)
    else none
  else if character = '-' ∧ bracket.opening ≠ .done then
    if standsForItself then
      some (.within ({ bracket.push 0 with opening := .dashes } :: around) rest)
    else none
  else if character = ']' ∧ (bracket.opening = .bracket ∨ bracket.opening = .start) then
    if standsForItself then some (.within (bracket.push 0 :: around) rest) else none
  else if character = ']' then
    match around with
    | [] => some (.closed (bracket.depth + 1) rest)
    | outer :: others => some (.within (outer.push (bracket.depth + 1) :: others) rest)
  else if character = '[' then
    match namedClass? rest with
    | some (negated, behind) =>
        if namedClassIsUsable modes negated then some (.within (bracket.push 0 :: around) behind)
        else none
    | none => some (.within (.opened :: bracket :: around) rest)
  else if startsWithOperator (character :: rest) then
    some (.within (bracket.combine :: around) rest.tail)
  else
    (member modes (character :: rest)).map fun behind =>
      .within (bracket.push 0 :: around) behind

/-- Reads a class to its end: its depth, and the text behind it.  A step takes at least one
character, so the length of the text bounds the steps. -/
def classDepth (modes : Modes) : (bound : Nat) -> (brackets : List Bracket) -> List Char ->
    Option (Nat × List Char)
  | 0, _, _ => none
  | _ + 1, [], _ => none
  | bound + 1, bracket :: around, text =>
      match modes.skip text with
      | [] => none
      | character :: rest =>
          match classStep modes bracket around character rest with
          | none => none
          | some (.closed depth behind) => some (depth, behind)
          | some (.within brackets behind) => classDepth modes bound brackets behind

def bracketedClass (modes : Modes) (text : List Char) : Option (Nat × List Char) :=
  classDepth modes (text.length + 1) [.opened] text

end Pattern
end Logging
end WhitespaceBench
