import ComponentForm.Entries

/-! Values of a TOML document, and the assembly of its tables. A table is opened once, by a header,
by dotted keys, or in line; what merely lies on the way to another may still be opened. -/
namespace ComponentForm.Toml

inductive Origin
  /-- It lies on the way of a header. -/
  | implied
  | dotted
  | opened
deriving DecidableEq, Repr

inductive Value
  | string (text : String)
  | integer (value : Int)
  | boolean (value : Bool)
  | float
  | moment
  | array (items : List Value)
  /-- A table that is written as a value. -/
  | inline (origin : Origin) (entries : List (String × Value))
  | table (origin : Origin) (entries : List (String × Value))
  /-- The tables that headers in double brackets opened one after the other. -/
  | tables (items : List Value)
deriving Repr

abbrev Table := Entries Value

/-- Keys with dots between them, and a value for the last. -/
abbrev Line := List String × Value

/-- Puts the value of a line into a table, `top` being the table of the line itself and `dotted`
whether dotted keys made the table. The last key must be new, and the tables on the way to it must
be open for dotted keys. -/
def putLine (inlined : Bool) : (dotted top : Bool) → Table → List String → Value → Option Table
  | _, _, _, [], _ => none
  | dotted, top, t, [k], v =>
    if dotted = top ∨ Entries.has t k then none else some (Entries.put t k v)
  | _, _, t, k :: rest, v =>
    let within (make : Table → Value) (dotted : Bool) (child : Table) : Option Table :=
      (putLine inlined dotted false child rest v).map fun child => Entries.put t k (make child)
    match Entries.value? t k with
    | none => within (if inlined then .inline .dotted else .table .dotted) true []
    | some (.inline .dotted child) => if inlined then within (.inline .dotted) true child else none
    | some (.table .dotted child) => within (.table .dotted) true child
    | some (.table .implied child) => within (.table .implied) false child
    | some (.tables items) =>
      match items.getLast? with
      | some (.table origin child) =>
        within (fun child => .tables (items.dropLast ++ [.table origin child])) false child
      | _ => none
    | some _ => none

def putLines (inlined : Bool) (t : Table) (lines : List Line) : Option Table :=
  lines.foldlM (fun t line => putLine inlined false true t line.1 line.2) t

/-- Changes the table at the end of a header path, making the tables that are missing. -/
def editAt (edit : Table → Option Table) : Table → List String → Option Table
  | t, [] => edit t
  | t, k :: rest =>
    match Entries.value? t k with
    | none => (editAt edit [] rest).map fun child => Entries.put t k (.table .implied child)
    | some (.table origin child) =>
      (editAt edit child rest).map fun child => Entries.put t k (.table origin child)
    | some (.tables items) =>
      match items.getLast? with
      | some (.table origin child) =>
        (editAt edit child rest).map fun child =>
          Entries.put t k (.tables (items.dropLast ++ [.table origin child]))
      | _ => none
    | some _ => none

inductive Header
  | table (path : List String)
  | element (path : List String)

def putSection (root : Table) (header : Header) (lines : List Line) : Option Table :=
  match header with
  | .table path =>
    path.getLast?.bind fun k => editAt (fun parent =>
      match Entries.value? parent k with
      | none => (putLines false [] lines).map fun t => Entries.put parent k (.table .opened t)
      | some (.table .implied t) =>
        (putLines false t lines).map fun t => Entries.put parent k (.table .opened t)
      | some _ => none) root path.dropLast
  | .element path =>
    path.getLast?.bind fun k => editAt (fun parent =>
      match Entries.value? parent k with
      | none => (putLines false [] lines).map fun t =>
          Entries.put parent k (.tables [.table .opened t])
      | some (.tables items) => (putLines false [] lines).map fun t =>
          Entries.put parent k (.tables (items ++ [.table .opened t]))
      | some _ => none) root path.dropLast

end ComponentForm.Toml
