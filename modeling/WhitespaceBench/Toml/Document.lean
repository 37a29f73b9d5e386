import WhitespaceBench.Toml.Statement

namespace WhitespaceBench
namespace Toml

/-!
# From statements to a document

The assignments in front of the first header belong to the root table; every header
is followed by the assignments of its own table.  A table may be opened by one
header only.  A table that longer headers have passed through before may still be
opened, and is then moved behind its present siblings; a table that dotted keys have
made, or that stands between braces, is complete.
-/

/-- A header with the assignments that follow it. -/
structure Section where
  header : Header
  assignments : List Assignment

/-- The assignments in front of the first header, and the sections from there on. -/
def outline : List Statement -> List Assignment × List Section
  | [] => ([], [])
  | .assignment assignment :: rest =>
      let (own, sections) := outline rest
      (assignment :: own, sections)
  | .header header :: rest =>
      let (own, sections) := outline rest
      ([], ⟨header, own⟩ :: sections)

/-- The span of a table reaches to the end of its last assigned value. -/
def extended (span : Span) (assignments : List Assignment) : Span :=
  match assignments.getLast? with
  | none => span
  | some assignment =>
      match assignment.value.span with
      | none => span
      | some last => span.upTo last

/-- Follows the path of a header, making tables on the way, and changes the table
that it leads to. -/
def within : (path : List Key) -> (Entries -> Option Entries) -> Entries -> Option Entries
  | [], change, entries => change entries
  | step :: path, change, entries =>
      entries.alter step fun present =>
        match present with
        | none =>
            match within path change [] with
            | none => none
            | some inner => some (.table none .implicit inner)
        | some (.table span form inner) =>
            if form = .inline then none
            else
              match within path change inner with
              | none => none
              | some changed => some (.table span form changed)
        | some (.array span .headers tables) =>
            match changeNewest (within path change) tables with
            | none => none
            | some changed => some (.array span .headers changed)
        | some _ => none

/-- Opens a table in its parent and makes its assignments. -/
def openTable (part : Section) (entries : Entries) : Option Entries :=
  let key := part.header.key
  let opened (own : Entries) : Value :=
    .table (some (extended part.header.span part.assignments)) .header own
  match entries.get? key.name with
  | none =>
      match assignAll part.assignments [] with
      | none => none
      | some own => some (entries ++ [(key, opened own)])
  | some (.table _ .implicit present) =>
      match assignAll part.assignments present with
      | none => none
      | some own => some (entries.erase key.name ++ [(key, opened own)])
  | some _ => none

/-- Adds a table to an array of tables in its parent and makes its assignments. -/
def addElement (part : Section) (entries : Entries) : Option Entries :=
  let span := extended part.header.span part.assignments
  match assignAll part.assignments [] with
  | none => none
  | some own =>
      let element : Value := .table (some span) .header own
      entries.alter part.header.key fun present =>
        match present with
        | none => some (.array (some span) .headers [element])
        | some (.array (some whole) .headers tables) =>
            some (.array (some (whole.upTo span)) .headers (element :: tables))
        | some _ => none

def placeSection (part : Section) (entries : Entries) : Option Entries :=
  within part.header.path (if part.header.element then addElement part else openTable part) entries

def placeSections : List Section -> Entries -> Option Entries
  | [], entries => some entries
  | part :: parts, entries =>
      match placeSection part entries with
      | none => none
      | some changed => placeSections parts changed

/-- The text behind a byte order mark, if there is one. -/
def skipMark (text : List Char) : List Char :=
  match text with
  | first :: rest => if first.toNat = 0xFEFF then rest else text
  | [] => []

def assemble (text : List Char) (read : List Statement) : Option Value :=
  let (own, sections) := outline read
  match assignAll own [] with
  | none => none
  | some entries =>
      match placeSections sections entries with
      | none => none
      | some placed => some (.table (some (extended ⟨text, text⟩ own)) .header placed)

/-- The root table of the document that a text holds. -/
def parse (text : List Char) : Option Value :=
  let content := skipMark text
  match statements (content.length + 1) content with
  | none => none
  | some read => assemble text read

end Toml
end WhitespaceBench
