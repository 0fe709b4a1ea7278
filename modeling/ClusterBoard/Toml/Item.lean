/-!
# Tables of a settings file

A settings file is a tree of tables. A table comes from a header, from the header of a table inside
it, or from a dotted key, and that decides how it may still grow: a header defines a table once,
and a dotted key extends only tables that dotted keys made.
-/

namespace ClusterBoard.Toml

/-- How a table came to be. -/
inductive Origin where
  | header
  | implied
  | dotted
  deriving DecidableEq, Repr, Inhabited

/-- What a key stands for. Numbers with a fraction and dates are read and not kept. -/
inductive Item where
  | string (text : String)
  | integer (value : Int)
  | boolean (value : Bool)
  | float
  | datetime
  | array (items : List Item)
  | inline (entries : List (String × Item))
  | table (origin : Origin) (entries : List (String × Item))
  | tables (list : List (List (String × Item)))
  deriving Repr, Inhabited

/-- The entries of a table, in order. -/
abbrev Entries := List (String × Item)

namespace Entries

/-- What a key stands for. -/
def get? (entries : Entries) (key : String) : Option Item :=
  (entries.find? (·.1 == key)).map (·.2)

/-- Changes what a key stands for; no change is possible where `f` gives none. -/
def alter? (key : String) (f : Option Item → Option Item) : Entries → Option Entries
  | [] => (f none).map fun item => [(key, item)]
  | (k, item) :: rest =>
    if k = key then (f (some item)).map fun item => (k, item) :: rest
    else (alter? key f rest).map ((k, item) :: ·)

/-- Changes the table at a path, making the tables on the way. A dotted key passes no table that has
a header of its own; the path leads into the last table of a list of tables. -/
def alterAt? (dotted : Bool) (f : Origin → Entries → Option Entries) :
    List String → Origin → Entries → Option Entries
  | [], origin, entries => f origin entries
  | key :: rest, _, entries =>
    alter? key (fun item =>
      match item with
      | none =>
        let origin := if dotted then .dotted else .implied
        (alterAt? dotted f rest origin []).map (.table origin)
      | some (.table origin inner) =>
        if dotted ∧ origin = .header then none
        else (alterAt? dotted f rest origin inner).map (.table origin)
      | some (.tables list) =>
        match list.getLast? with
        | some last =>
          (alterAt? dotted f rest .header last).map fun last => .tables (list.dropLast ++ [last])
        | none => none
      | some _ => none) entries

/-- Gives a new key its item. -/
def put? (key : String) (item : Item) (entries : Entries) : Option Entries :=
  alter? key (fun present => if present.isSome then none else some item) entries

/-- Gives a dotted key its item, seen from a table. -/
def assign? (path : List String) (key : String) (item : Item) (origin : Origin)
    (entries : Entries) : Option Entries :=
  alterAt? true (fun origin entries =>
    if path ≠ [] ∧ origin ≠ .dotted then none else put? key item entries) path origin entries

/-- The header of a table. -/
def declare? (path : List String) (key : String) (entries : Entries) : Option Entries :=
  alterAt? false (fun _ entries => alter? key (fun item =>
    match item with
    | none => some (.table .header [])
    | some (.table .implied inner) => some (.table .header inner)
    | some _ => none) entries) path .header entries

/-- The header of one more table of a list. -/
def declareNext? (path : List String) (key : String) (entries : Entries) : Option Entries :=
  alterAt? false (fun _ entries => alter? key (fun item =>
    match item with
    | none => some (.tables [[]])
    | some (.tables list) => some (.tables (list ++ [[]]))
    | some _ => none) entries) path .header entries

end Entries

end ClusterBoard.Toml
