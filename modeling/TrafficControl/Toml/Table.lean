import TrafficControl.Toml.Scalar

namespace TrafficControl.Toml

inductive Origin where
  | header
  | passed
  | dotted
  | inline
  deriving DecidableEq, Repr

inductive Item where
  | scalar (v : Json)
  | array (elems : List Item)
  | table (origin : Origin) (entries : List (String × Item))
  /-- The rows of an array of tables: those that are complete, and the last one. -/
  | rows (complete : List (List (String × Item))) (last : List (String × Item))
  deriving Inhabited, Repr

abbrev Items := List (String × Item)

mutual

def Item.toJson? : Item → Option Json
  | .scalar v => some v
  | .array elems => (elemsToJson? elems).map .array
  | .table _ entries => tableToJson? entries
  | .rows complete last => do
    let rows ← rowsToJson? complete
    let row ← tableToJson? last
    some (.array (rows ++ [row]))

def elemsToJson? : List Item → Option (List Json)
  | [] => some []
  | e :: rest => do
    let j ← e.toJson?
    let js ← elemsToJson? rest
    some (j :: js)

/-- A table whose first key is the one of dates and times holds one as a string, and nothing else
in it counts. -/
def tableToJson? : List (String × Item) → Option Json
  | [] => some (.object [])
  | (key, item) :: rest =>
    if key = dateTimeKey then
      match item with
      | .scalar (.str s) => (dateTime? .inString s.toList).map dateTimeForm
      | _ => none
    else do
      let j ← item.toJson?
      let members ← membersToJson? rest
      some (.ofMembers ((key, j) :: members))

def membersToJson? : List (String × Item) → Option (List (String × Json))
  | [] => some []
  | (key, item) :: rest => do
    let j ← item.toJson?
    let members ← membersToJson? rest
    some ((key, j) :: members)

def rowsToJson? : List (List (String × Item)) → Option (List Json)
  | [] => some []
  | row :: rest => do
    let j ← tableToJson? row
    let js ← rowsToJson? rest
    some (j :: js)

end

def put (key : String) (item : Item) : Items → Items
  | [] => [(key, item)]
  | (k, old) :: rest => if k = key then (key, item) :: rest else (k, old) :: put key item rest

/-- Gives a key its item. The path leads to the table of the key; its last table has to be made by
dotted keys. -/
def assign? (key : String) (item : Item) : List String → Items → Option Items
  | [], items =>
    match Entries.get? key items with
    | none => some (put key item items)
    | some _ => none
  | step :: path, items =>
    match Entries.get? step items with
    | none => (assign? key item path []).map fun inner => put step (.table .dotted inner) items
    | some (.table .dotted inner) =>
      (assign? key item path inner).map fun inner => put step (.table .dotted inner) items
    | some (.table .passed inner) =>
      if path.isEmpty then none
      else (assign? key item path inner).map fun inner => put step (.table .passed inner) items
    | some (.rows complete last) =>
      if path.isEmpty then none
      else (assign? key item path last).map fun last => put step (.rows complete last) items
    | some _ => none

def updateAt? (change : Items → Option Items) : List String → Items → Option Items
  | [], items => change items
  | step :: path, items =>
    match Entries.get? step items with
    | none => (updateAt? change path []).map fun inner => put step (.table .passed inner) items
    | some (.table .inline _) => none
    | some (.table origin inner) =>
      (updateAt? change path inner).map fun inner => put step (.table origin inner) items
    | some (.rows complete last) =>
      (updateAt? change path last).map fun last => put step (.rows complete last) items
    | some _ => none

/-- Opens the table of a header. One that was passed through before moves behind all others. -/
def openTable? (key : String) (items : Items) : Option Items :=
  match Entries.get? key items with
  | none => some (put key (.table .header []) items)
  | some (.table .passed inner) =>
    some (put key (.table .header inner) (Entries.erase key items))
  | some _ => none

def openRow? (key : String) (items : Items) : Option Items :=
  match Entries.get? key items with
  | none => some (put key (.rows [] []) items)
  | some (.rows complete last) => some (put key (.rows (complete ++ [last]) []) items)
  | some _ => none

end TrafficControl.Toml
