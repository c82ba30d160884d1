import WitBridge.Toml.Value

/-!
# Filling TOML tables

A document is a list of assignments and headings. An assignment adds an entry to the table of
the heading above it, or, under a dotted name, to a table within that one; a heading opens a
table, or one more of a row of tables. Nothing is given twice: a table has at most one
heading, what stands between braces is complete, and dotted names add only to tables that
dotted names made.
-/
namespace WitBridge.Toml

/-- A dotted name: the tables it passes through and the name in the last of them. -/
structure Key where
  path : List String := []
  name : String
  deriving DecidableEq, Repr

/-- A value for a key. -/
structure Assignment where
  key : Key
  value : Value
  deriving Repr

/-- A heading. -/
inductive Heading where
  /-- Opens the one table of its name. -/
  | table (key : Key)
  /-- Opens one more of the tables of its name. -/
  | element (key : Key)
  deriving DecidableEq, Repr

/-- A line of a document. -/
inductive Statement where
  | assignment (assignment : Assignment)
  | heading (heading : Heading)
  deriving Repr

/-- The entries of a table, in order. -/
abbrev Entries := List (String × Value)

namespace Entries

/-- Give an entry another value. -/
def replace (entries : Entries) (name : String) (value : Value) : Entries :=
  entries.map fun entry => if entry.1 = name then (name, value) else entry

/-- Add an entry after the others. -/
def add (entries : Entries) (name : String) (value : Value) : Entries :=
  entries ++ [(name, value)]

/-- Change the table that a path leads to from a table, with tables made for what is missing on
the way. Of a row of tables the path takes the last. A path of a dotted name passes only
through tables without a heading. -/
def alter (dotted : Bool) (change : Origin → Entries → Option Entries) (origin : Origin)
    (entries : Entries) : List String → Option Entries
  | [] => change origin entries
  | name :: path =>
    match entries.lookup name with
    | none => do
      let made := if dotted then .dotted else .passage
      return entries.add name (.table made (← alter dotted change made [] path))
    | some (.table found inner) =>
      if found = .inline || (dotted && found = .heading) then none
      else do
        return entries.replace name (.table found (← alter dotted change found inner path))
    | some (.tables elements) => do
      let last ← alter dotted change .heading (← elements.getLast?) path
      return entries.replace name (.tables (elements.dropLast ++ [last]))
    | some _ => none

/-- Add the entry of an assignment to a table. -/
def assign (origin : Origin) (entries : Entries) (assignment : Assignment) : Option Entries :=
  let ⟨⟨path, name⟩, value⟩ := assignment
  let change := fun (found : Origin) (inner : Entries) =>
    if (path.isEmpty || found = .dotted) && (inner.lookup name).isNone then
      some (inner.add name value)
    else none
  alter true change origin entries path

/-- Add the entries of assignments to a table, one after the other. -/
def fill (origin : Origin) (entries : Entries) (assignments : List Assignment) :
    Option Entries :=
  assignments.foldlM (assign origin) entries

/-- Open the table of a heading and fill it. -/
def openTable (entries : Entries) (heading : Heading) (assignments : List Assignment) :
    Option Entries :=
  match heading with
  | .table ⟨path, name⟩ =>
    let change := fun (_ : Origin) (inner : Entries) =>
      match inner.lookup name with
      | none => do return inner.add name (.table .heading (← fill .heading [] assignments))
      | some (.table .passage known) => do
        return inner.replace name (.table .heading (← fill .heading known assignments))
      | some _ => none
    alter false change .heading entries path
  | .element ⟨path, name⟩ =>
    let change := fun (_ : Origin) (inner : Entries) =>
      match inner.lookup name with
      | none => do return inner.add name (.tables [← fill .heading [] assignments])
      | some (.tables elements) => do
        return inner.replace name (.tables (elements ++ [← fill .heading [] assignments]))
      | some _ => none
    alter false change .heading entries path

/-- The assignments above the first heading, and each heading with the assignments under it. -/
def sections : List Statement → List Assignment × List (Heading × List Assignment)
  | [] => ([], [])
  | .assignment assignment :: rest =>
    let (own, others) := sections rest
    (assignment :: own, others)
  | .heading heading :: rest =>
    let (own, others) := sections rest
    ([], (heading, own) :: others)

/-- The entries of a document. -/
def ofStatements (statements : List Statement) : Option Entries := do
  let (own, others) := sections statements
  let root ← fill .heading [] own
  others.foldlM (fun entries (heading, assignments) => openTable entries heading assignments) root

end Entries

end WitBridge.Toml
