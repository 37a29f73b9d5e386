import WhitespaceBench.Logging.Directive
import WhitespaceBench.Text.Lowercase
import WhitespaceBench.Text.Utf8

namespace WhitespaceBench
namespace Logging

/-!
# Filters

A filter is a list of rules, the most specific first: longer targets come before
shorter ones, and more fields before fewer.  The first rule that matches an event
decides whether it is logged.  A rule matches all targets that start with its own.

A filter is made from directives with commas between them.  A directive that names a
span, or the value of a field, never matches an event outside of spans, and no event
is inside one.  Where there are no directives only errors are logged.

A directive that is not understood is passed over, or makes a whole text unusable.  One
whose parts cannot be cut out leaves no filter at all.
-/

structure Rule where
  target : Option (List Char)
  fields : List (List Char)
  verbosity : Nat
deriving Repr, DecidableEq

namespace Rule

/-- The rule of a directive, if it can match events outside of spans. -/
def ofDirective? (directive : Directive) : Option Rule :=
  if directive.span.isSome || directive.fields.any (·.valued) then none
  else some ⟨directive.target, directive.fields.map (·.name), directive.verbosity⟩

/-- The length of the target in bytes, one more than it is, and zero without target. -/
def reach (rule : Rule) : Nat :=
  match rule.target with
  | none => 0
  | some target => Text.Utf8.size target + 1

/-- Compares texts by code points. -/
def compareTexts : List Char -> List Char -> Ordering
  | [], [] => .eq
  | [], _ :: _ => .lt
  | _ :: _, [] => .gt
  | first :: firsts, second :: seconds =>
      (compare first.toNat second.toNat).then (compareTexts firsts seconds)

def compareLists : List (List Char) -> List (List Char) -> Ordering
  | [], [] => .eq
  | [], _ :: _ => .lt
  | _ :: _, [] => .gt
  | first :: firsts, second :: seconds =>
      (compareTexts first second).then (compareLists firsts seconds)

/-- Compares rules by how specific they are; rules with the same target and the same
fields are equal. -/
def specificity (first second : Rule) : Ordering :=
  ((compare first.reach second.reach).then
    (compare first.fields.length second.fields.length)).then
      ((compareTexts (first.target.getD []) (second.target.getD [])).then
        (compareLists first.fields second.fields))

/-- Whether a rule applies to an event.  Every event has a field for its message. -/
def covers (rule : Rule) (event : Event) : Bool :=
  (rule.target.getD []).isPrefixOf event.target.toList &&
    rule.fields.all fun name =>
      ("message" :: event.fields.map (·.1)).contains (String.ofList name)

end Rule

/-- A filter: rules, the most specific first. -/
structure Filter where
  rules : List Rule
deriving Repr, DecidableEq

namespace Filter

/-- Puts a rule in its place, over one with the same target and fields. -/
def insert (rule : Rule) : List Rule -> List Rule
  | [] => [rule]
  | first :: rest =>
      match rule.specificity first with
      | .gt => rule :: first :: rest
      | .eq => rule :: rest
      | .lt => first :: insert rule rest

def errorsOnly : Filter := ⟨[⟨none, [], 1⟩]⟩

/-- Whether a directive concerns spans; its rule, if any, is put in place later. -/
def concernsSpans (directive : Directive) : Bool :=
  directive.span.isSome || !directive.fields.isEmpty

def ofDirectives (directives : List Directive) : Filter :=
  if directives.isEmpty then errorsOnly
  else
    let ordered := directives.filter (!concernsSpans ·) ++ directives.filter concernsSpans
    ⟨(ordered.filterMap Rule.ofDirective?).foldl (fun rules rule => insert rule rules) []⟩

/-- The texts of directives with commas between them; empty ones are passed over. -/
def parts (text : List Char) : List (List Char) :=
  (Text.split ',' text).filter (!·.isEmpty)

/-- The filter of a text in which every directive has to be understood, if there is one. -/
def strict (text : List Char) : Except Text.Misplaced (Option Filter) :=
  match (parts text).mapM Directive.parse with
  | .error (.misplaced cut) => .error cut
  | .error _ => .ok none
  | .ok directives => .ok (some (ofDirectives directives))

/-- What is said about a directive that was not understood. -/
def complaint (part : List Char) (fault : DirectiveFault) : String :=
  "ignoring `" ++ String.ofList part ++ "`: " ++ fault.message

/-- Reads directives from left to right, passing over those that are not understood, with
what is said about these. -/
def understood : List (List Char) -> List String × Except Text.Misplaced (List Directive)
  | [] => ([], .ok [])
  | part :: others =>
      match Directive.parse part with
      | .error (.misplaced cut) => ([], .error cut)
      | .error fault =>
          let (complaints, result) := understood others
          (complaint part fault :: complaints, result)
      | .ok directive =>
          let (complaints, result) := understood others
          (complaints, result.map (directive :: ·))

/-- The filter of a text, passing over directives that are not understood, and what is
said about these. -/
def lenient (text : List Char) : List String × Except Text.Misplaced Filter :=
  let (complaints, result) := understood (parts text)
  (complaints, result.map ofDirectives)

/-- The filter of a program: that of the environment if it is there and understood, and
else that of the configured level. -/
def choose (environment : Option String) (level : String) :
    List String × Except Text.Misplaced Filter :=
  let configured := lenient (Text.lowercase level).toList
  match environment with
  | none => configured
  | some text =>
      match strict text.toList with
      | .error cut => ([], .error cut)
      | .ok (some filter) => ([], .ok filter)
      | .ok none => configured

def admits (filter : Filter) (event : Event) : Bool :=
  match filter.rules.find? fun rule => rule.covers event with
  | none => false
  | some rule => decide (event.level.verbosity ≤ rule.verbosity)

end Filter

inductive SetupFault where
  /-- A directive cannot be cut into its parts. -/
  | misplaced (cut : Text.Misplaced)
  /-- Logging was set up before. -/
  | repeated
deriving Repr, DecidableEq

namespace SetupFault

def message : SetupFault -> String
  | misplaced cut => cut.message
  | repeated => "a global default trace dispatcher has already been set"

end SetupFault

/-- Sets logging up, which can be done only once in a process: what is said about the
filter, and the filter. -/
def setUp (done : Bool) (environment : Option String) (level : String) :
    List String × Except SetupFault Filter :=
  let (complaints, chosen) := Filter.choose environment level
  match chosen with
  | .error cut => (complaints, .error (.misplaced cut))
  | .ok filter => (complaints, if done then .error .repeated else .ok filter)

end Logging
end WhitespaceBench
