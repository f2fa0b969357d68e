import CommandConsole.Number.Binary

/-! # TOML values

The values of a TOML document. Tables keep their entries in the order of the document and remember
how they came about, because that decides what may still be added to them.
-/

namespace CommandConsole.Toml

/-- A floating point value. Literals that no finite number is near are kept apart from infinity. -/
inductive FloatValue where
  | finite (value : Binary .double)
  | infinite (negative : Bool)
  | notANumber
  | outOfRange

/-- How a table came about. -/
inductive Origin where
  /-- By a header of its own, or as the document itself. -/
  | header
  /-- As the parent of a table with a header. -/
  | implied
  /-- By a dotted key. -/
  | dotted
  /-- Written out in braces; nothing can be added to it. -/
  | closed
deriving DecidableEq

/-- A value. An array is `growing` if its items are tables with headers of their own. An integer has
no value if its digits spell none. -/
inductive Value where
  | string (text : String)
  | integer (value : Option Int)
  | float (value : FloatValue)
  | boolean (value : Bool)
  | datetime (text : String)
  | array (growing : Bool) (items : List Value)
  | table (origin : Origin) (entries : List (String × Value))

/-! ## Adding to tables -/

/-- Puts an entry in the place of the one with the same key, or at the end. -/
def putEntry (key : String) (value : Value) : List (String × Value) → List (String × Value)
  | [] => [(key, value)]
  | (k, v) :: rest => if k = key then (k, value) :: rest else (k, v) :: putEntry key value rest

namespace Value

/-- The table at a path, changed by `change`. Tables that are missing on the way are created with
the given origin. The way leads through the last table of a growing array; a dotted key leads
neither through a closed table nor through one with a header. -/
def update (origin : Origin) (change : Value → Option Value) : List String → Value → Option Value
  | [], value => change value
  | key :: path, .table own entries =>
      let put (child : Option Value) : Option Value :=
        child.map fun child => .table own (putEntry key child entries)
      match entries.lookup key with
      | none => put (update origin change path (.table origin []))
      | some (.table .closed _) => none
      | some (.table .header inner) =>
          if origin = .dotted then none else put (update origin change path (.table .header inner))
      | some (.table other inner) => put (update origin change path (.table other inner))
      | some (.array true items) =>
          match items.getLast? with
          | none => none
          | some last =>
              put ((update origin change path last).map fun last =>
                .array true (items.dropLast ++ [last]))
      | some _ => none
  | _ :: _, _ => none

/-- Adds an entry with a dotted key to a table. The tables that the key leads through belong to
dotted keys alone, and the last part of the key must be new. -/
def insert (table : Value) (path : List String) (key : String) (value : Value) : Option Value :=
  update .dotted
    (fun
      | .table origin entries =>
          if (origin == .dotted) == path.isEmpty || (entries.lookup key).isSome then none
          else some (.table origin (entries ++ [(key, value)]))
      | _ => none)
    path table

/-- Opens the table with the header `path` and then `key`, which must not have been opened. -/
def openTable (root : Value) (path : List String) (key : String) : Option Value :=
  update .implied
    (fun
      | .table origin entries =>
          match entries.lookup key with
          | none => some (.table origin (entries ++ [(key, .table .header [])]))
          | some (.table .implied inner) =>
              some (.table origin (putEntry key (.table .header inner) entries))
          | some _ => none
      | _ => none)
    path root

/-- Opens one more table of the growing array with the header `path` and then `key`. -/
def openItem (root : Value) (path : List String) (key : String) : Option Value :=
  update .implied
    (fun
      | .table origin entries =>
          match entries.lookup key with
          | none => some (.table origin (entries ++ [(key, .array true [.table .header []])]))
          | some (.array true items) =>
              some (.table origin (putEntry key (.array true (items ++ [.table .header []])) entries))
          | some _ => none
      | _ => none)
    path root

end Value

end CommandConsole.Toml
