import ModelAdapter.Settings.Setting

/-! # The tables of a TOML document

A document is a sequence of statements: a header opens a table, a header in double
brackets adds a table to an array of tables, and an assignment gives a name a value
in the table opened last.  A name with dots leads through tables, which are made on
the way.

No table is defined twice and no name is given twice:

  * a header opens a table that does not exist, or that was only made on the way by
    another header;
  * an assignment goes through tables that assignments made, and no others;
  * a name that has a value, a list or a table in braces among them, keeps it.
-/

namespace ModelAdapter.Toml

/-! ## §1. Tables under construction -/

/-- What made a table, which decides what may still be added to it. -/
inductive Origin
  /-- It was on the way to a table that a header opened. -/
  | implied
  | header
  /-- It was on the way to a name that was given a value. -/
  | dotted
  deriving DecidableEq, Repr

inductive Node
  | value (s : Setting)
  | table (origin : Origin) (entries : List (String × Node))
  /-- An array of tables, of which only the last one can grow. -/
  | tables (rows : List (List (String × Node)))

abbrev Nodes := List (String × Node)

/-- Gives a name a node, in place of the one it has. -/
def put (nodes : Nodes) (name : String) (node : Node) : Nodes :=
  if nodes.any (·.1 == name) then nodes.map (fun e => if e.1 == name then (name, node) else e)
  else nodes ++ [(name, node)]

/-- Changes the table that a path leads to.  Tables that are missing on the way are made;
those that are there must be of an origin that lets the path through. -/
def within? (made : Origin) (passes : Origin → Bool) (change : Nodes → Option Nodes) :
    (path : List String) → Nodes → Option Nodes
  | [], nodes => change nodes
  | name :: path, nodes =>
      match nodes.lookup name with
      | none =>
          (within? made passes change path []).map
            (fun inner => put nodes name (.table made inner))
      | some (.table origin inner) =>
          if passes origin then
            (within? made passes change path inner).map
              (fun inner => put nodes name (.table origin inner))
          else none
      -- A path through an array of tables leads into its last one.
      | some (.tables rows) =>
          (within? made passes change path (rows.getLast?.getD [])).map
            (fun row => put nodes name (.tables (rows.dropLast ++ [row])))
      | some (.value _) => none

def openTable? (name : String) (nodes : Nodes) : Option Nodes :=
  match nodes.lookup name with
  | none => some (put nodes name (.table .header []))
  | some (.table .implied inner) => some (put nodes name (.table .header inner))
  | _ => none

/-- Adds a table to the array of tables under a name. -/
def addTable? (name : String) (nodes : Nodes) : Option Nodes :=
  match nodes.lookup name with
  | none => some (put nodes name (.tables [[]]))
  | some (.tables rows) => some (put nodes name (.tables (rows ++ [[]])))
  | _ => none

def giveValue? (name : String) (s : Setting) (nodes : Nodes) : Option Nodes :=
  match nodes.lookup name with
  | none => some (put nodes name (.value s))
  | some _ => none

/-- Gives a value to the name at the end of a path. -/
def assign? (path : List String) (s : Setting) (nodes : Nodes) : Option Nodes := do
  within? .dotted (· == .dotted) (giveValue? (← path.getLast?) s) path.dropLast nodes

/-! ## §2. Statements -/

inductive Statement
  | header (path : List String)
  | element (path : List String)
  | assignment (path : List String) (s : Setting)

/-- The tables so far, and the path of the one opened last. -/
structure Document where
  nodes : Nodes
  current : List String

/-- Carries out a statement. -/
def Document.obey? (d : Document) : Statement → Option Document
  | .header path => do
      let change := openTable? (← path.getLast?)
      return ⟨← within? .implied (fun _ => true) change path.dropLast d.nodes, path⟩
  | .element path => do
      let change := addTable? (← path.getLast?)
      return ⟨← within? .implied (fun _ => true) change path.dropLast d.nodes, path⟩
  | .assignment path s => do
      -- A header has made the way to the table, so every origin lets this path through.
      let nodes ← within? .implied (fun _ => true) (assign? path s) d.current d.nodes
      return { d with nodes }

/-! ## §3. Finished tables -/

mutual

def Node.setting : Node → Setting
  | .value s => s
  | .table _ entries => .table (settings entries)
  | .tables rows => .list (tableList rows)

/-- The settings of a finished table. -/
def settings : Nodes → Settings
  | [] => []
  | (name, node) :: rest => (name, node.setting) :: settings rest

def tableList : List Nodes → List Setting
  | [] => []
  | row :: rest => .table (settings row) :: tableList rest

end

end ModelAdapter.Toml
