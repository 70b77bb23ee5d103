namespace RecordGraph.Toml

/-! Tables of a TOML document. Every name is given a value once, and every table is opened once:
by a heading, by the headings of tables inside it, or by dotted names. -/

/-- A value. Values of other kinds are not told apart. -/
inductive Value where
  | text (value : String)
  | integer (value : Int)
  | other
  deriving DecidableEq

inductive Origin where
  /-- Under a heading of its own. -/
  | heading
  /-- On the way to the table of a heading. -/
  | passage
  /-- On the way along a dotted name. -/
  | dots
  deriving DecidableEq

inductive Item where
  | value (value : Value)
  | table (origin : Origin) (entries : List (String × Item))
  | tables (elements : List (List (String × Item)))

abbrev Table := List (String × Item)

namespace Table

def find? (name : String) (table : Table) : Option Item := table.lookup name

def put (name : String) (item : Item) : Table → Table
  | [] => [(name, item)]
  | (known, old) :: others =>
      if known = name then (name, item) :: others else (known, old) :: put name item others

/-- Changes the table at the end of a path. Tables that are missing on the way come about by
`passing`. A path leads through the last of several tables; a dotted one does not lead through a
table with a heading. -/
def within (passing : Origin) (change : Origin → Table → Option Table) :
    (path : List String) → Origin → Table → Option Table
  | [], origin, table => change origin table
  | name :: path, _, table =>
      match table.find? name with
      | none => do
          let inner ← within passing change path passing []
          some (table.put name (.table passing inner))
      | some (.value _) => none
      | some (.table origin inner) =>
          if passing = .dots ∧ origin = .heading then none
          else do
            let inner ← within passing change path origin inner
            some (table.put name (.table origin inner))
      | some (.tables elements) => do
          let inner ← within passing change path .heading (← elements.getLast?)
          some (table.put name (.tables (elements.dropLast ++ [inner])))

structure Setting where
  path : List String
  name : String
  value : Value

/-- A table with one more value. A dotted name ends in a table that only dotted names have made. -/
def set (setting : Setting) (table : Table) : Option Table :=
  table.within .dots add setting.path .heading
where
  add (origin : Origin) (table : Table) : Option Table :=
    if setting.path.isEmpty = (origin = .dots : Bool) then none
    else match table.find? setting.name with
      | none => some (table.put setting.name (.value setting.value))
      | some _ => none

def setAll (settings : List Setting) (table : Table) : Option Table :=
  settings.foldlM (fun table setting => table.set setting) table

/-- A part of a document with a heading: either the one table of its name or one element in a list
of tables. -/
structure Section where
  isElement : Bool
  path : List String
  name : String
  settings : List Setting

def addSection (part : Section) (table : Table) : Option Table :=
  table.within .passage add part.path .heading
where
  add (_ : Origin) (table : Table) : Option Table := do
    let item ← match part.isElement, table.find? part.name with
      | true, none => do some (.tables [← setAll part.settings []])
      | true, some (.tables elements) => do
          some (.tables (elements ++ [← setAll part.settings []]))
      | false, none => do some (.table .heading (← setAll part.settings []))
      | false, some (.table .passage inner) => do
          some (.table .heading (← setAll part.settings inner))
      | _, _ => none
    some (table.put part.name item)

def ofParts (settings : List Setting) (sections : List Section) : Option Table := do
  sections.foldlM (fun table part => table.addSection part) (← setAll settings [])

end Table

end RecordGraph.Toml
