import WhitespaceBench.Logging.Pattern.Bracket

namespace WhitespaceBench
namespace Logging
namespace Pattern

/-!
# Patterns

The value of a field is asked for by a regular expression.  No event is ever compared
with one, but a directive is understood only if its patterns can be used.

A pattern is a row of parts, or several rows with bars between them.  Parts are atoms,
bracketed classes, groups in parentheses and switches of modes; all but switches can be
repeated.  A closing brace ends the field in which a pattern stands, so a pattern never
holds one, and no opening brace outside of a class has its counterpart.

The pattern is read from left to right.  What is kept of the parts is how deep they are
nested: patterns that are nested too deep cannot be used.
-/

inductive Fault where
  | malformed
  /-- The pattern asks for the edges of words outside of ASCII. -/
  | wordEdges
deriving Repr, DecidableEq

namespace Fault

def message : Fault -> String
  | malformed => "error building NFA"
  | wordEdges =>
      "unsupported regex feature for DFAs: cannot build DFAs for regexes with Unicode word " ++
        "boundaries; switch to ASCII word boundaries, or heuristically enable Unicode word " ++
        "boundaries or use a different regex engine"

end Fault

def depthLimit : Nat := 250

/-- What is kept of a part. -/
structure Part where
  depth : Nat
  repeatable : Bool
deriving Repr, DecidableEq

structure Group where
  /-- The modes in front of the group, which come back behind it. -/
  before : Modes
  /-- The depths of the rows that ended in a bar. -/
  rows : List Nat
  /-- The parts of the row that is being read, the last first. -/
  parts : List Part
deriving Repr, DecidableEq

namespace Group

/-- A group behind its opening parenthesis. -/
def opened (before : Modes) : Group := ⟨before, [], []⟩

def push (group : Group) (part : Part) : Group :=
  { group with parts := part :: group.parts }

/-- The depth of the row that is being read. -/
def lastRow (group : Group) : Nat :=
  rowDepth (group.parts.map Part.depth)

def depth (group : Group) : Nat :=
  rowDepth (group.lastRow :: group.rows)

def divide (group : Group) : Group :=
  { group with rows := group.lastRow :: group.rows, parts := [] }

/-- A group whose last part is repeated. -/
def repeatLast? (group : Group) : Option Group :=
  match group.parts with
  | [] => none
  | last :: others =>
      if last.repeatable then some { group with parts := ⟨last.depth + 1, true⟩ :: others }
      else none

end Group

structure Outline where
  modes : Modes
  /-- The names of groups. -/
  names : List (List Char)
  /-- The innermost group; the whole pattern is one as well. -/
  group : Group
  /-- The groups around it. -/
  around : List Group
  /-- Whether edges of words outside of ASCII were asked for. -/
  wordEdges : Bool
deriving Repr, DecidableEq

namespace Outline

def initial : Outline := ⟨.initial, [], .opened .initial, [], false⟩

/-- Adds a part to the innermost group. -/
def push (outline : Outline) (part : Part) : Outline :=
  { outline with group := outline.group.push part }

def pushAtom? (outline : Outline) (atom : Atom) : Option Outline :=
  if atom.isUsable outline.modes then
    some { outline.push ⟨0, true⟩ with
      wordEdges := outline.wordEdges || (outline.modes.unicode && atom == .wordEdge) }
  else none

/-- Opens a group that has modes of its own. -/
def openGroup (outline : Outline) (modes : Modes) : Outline :=
  { outline with
    modes := modes
    group := .opened outline.modes
    around := outline.group :: outline.around }

def closeGroup? (outline : Outline) : Option Outline :=
  match outline.around with
  | [] => none
  | outer :: others =>
      some { outline with
        modes := outline.group.before
        group := outer.push ⟨outline.group.depth + 1, true⟩
        around := others }

/-- Whether a list of characters is the name of a group. -/
def isGroupName : List Char -> Bool
  | [] => false
  | first :: rest =>
      (first == '_' || Text.Alphanumeric.isLetter first) &&
        rest.all fun character =>
          ['_', '.', '[', ']'].contains character || Text.Alphanumeric.isAlphanumeric character

/-- Opens a group that has a name, given the text from the name on.  No two groups have
the same name. -/
def openNamed? (outline : Outline) (text : List Char) : Option (Outline × List Char) :=
  let name := text.takeWhile (· != '>')
  match text.dropWhile (· != '>') with
  | [] => none
  | _ :: rest =>
      if isGroupName name && !outline.names.contains name then
        some ({ outline.openGroup outline.modes with names := name :: outline.names }, rest)
      else none

/-- Switches modes, for a group or for the rest of the innermost one, given the text behind
the question mark. -/
def openSwitch? (outline : Outline) (text : List Char) : Option (Outline × List Char) :=
  match modeSwitch [] text with
  | none => none
  | some (letters, ended, rest) =>
      let modes := outline.modes.switch letters
      if !ended then some (outline.openGroup modes, rest)
      else if letters.isEmpty then none
      else some ({ outline.push ⟨0, false⟩ with modes := modes }, rest)

/-- Takes what an opening parenthesis starts, given the text behind it. -/
def openParenthesis? (outline : Outline) (text : List Char) : Option (Outline × List Char) :=
  match outline.modes.skip text with
  | '?' :: 'P' :: '<' :: rest => outline.openNamed? rest
  | '?' :: '<' :: rest => outline.openNamed? rest
  | '?' :: rest => outline.openSwitch? rest
  | rest => some (outline.openGroup outline.modes, rest)

/-- The text behind a sign that makes a repetition lazy. -/
def skipLazy : List Char -> List Char
  | '?' :: rest => rest
  | text => text

/-- Takes the part that starts with a character. -/
def step (outline : Outline) (character : Char) (rest : List Char) :
    Option (Outline × List Char) :=
  if character = '(' then outline.openParenthesis? rest
  else if character = ')' then outline.closeGroup?.map fun next => (next, rest)
  else if character = '|' then some ({ outline with group := outline.group.divide }, rest)
  else if character = '[' then
    (bracketedClass outline.modes rest).map fun (depth, behind) =>
      (outline.push ⟨depth, true⟩, behind)
  else if character = '?' ∨ character = '*' ∨ character = '+' then
    outline.group.repeatLast?.map fun group => ({ outline with group := group }, skipLazy rest)
  else if character = '\x7b' then none
  else if character = '\\' then
    match escape outline.modes rest with
    | none => none
    | some (atom, behind) => (outline.pushAtom? atom).map fun next => (next, behind)
  else
    let atom : Atom :=
      if character = '.' then .any
      else if character = '^' ∨ character = '$' then .lineEdge
      else .literal character false
    (outline.pushAtom? atom).map fun next => (next, rest)

/-- Reads a pattern to its end.  A step takes at least one character, so the length of the
text bounds the steps. -/
def read? : (bound : Nat) -> Outline -> List Char -> Option Outline
  | 0, _, _ => none
  | bound + 1, outline, text =>
      match outline.modes.skip text with
      | [] => some outline
      | character :: rest =>
          match outline.step character rest with
          | none => none
          | some (next, behind) => read? bound next behind

end Outline

/-- Why a pattern cannot be used, if it cannot. -/
def fault? (text : List Char) : Option Fault :=
  match Outline.initial.read? (text.length + 1) text with
  | none => some .malformed
  | some outline =>
      if !outline.around.isEmpty || decide (depthLimit < outline.group.depth) then
        some .malformed
      else if outline.wordEdges then some .wordEdges
      else none

end Pattern
end Logging
end WhitespaceBench
