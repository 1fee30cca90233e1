import TrafficControl.Document.Mismatch

namespace TrafficControl

inductive Place where
  | json
  | yaml
  | setAside
  deriving DecidableEq, Repr

def Dialect.place : Dialect → Place
  | .json => .json
  | .yaml => .yaml

abbrev Reader (α : Type) := Place → Document → Except Mismatch α

namespace Reader

/-- The document as a reader at this place looks at it. -/
def seen (place : Place) (d : Document) : Document :=
  match place with
  | .yaml => d.untagged
  | _ => d

def kind (d : Document) (wanted : Wanted) : Mismatch := .kind d.found wanted

def expectText (wanted : Wanted) : Reader String := fun place d =>
  match seen place d with
  | .str s => .ok s
  | d => .error (kind d wanted)

def text : Reader String := expectText .string

def boolean : Reader Bool := fun place d =>
  match seen place d with
  | .bool b => .ok b
  | d => .error (kind d .boolean)

def word (bits : Nat) : Reader Nat := fun place d =>
  match seen place d with
  | .int n =>
    if 0 ≤ n ∧ n.toNat < 1 <<< bits then .ok n.toNat else .error (.range n (.word bits))
  | d => .error (kind d (.word bits))

def word16 : Reader UInt16 := fun place d => (word 16 place d).map UInt16.ofNat

def word32 : Reader UInt32 := fun place d => (word 32 place d).map UInt32.ofNat

def word64 : Reader UInt64 := fun place d => (word 64 place d).map UInt64.ofNat

def optional (read : Reader α) : Reader (Option α) := fun place d =>
  match d with
  | .null => .ok none
  | d => (read place d).map some

def sequence (read : Reader α) : Reader (List α) := fun place d =>
  match seen place d with
  | .seq elems => elems.mapM (read place)
  | .null => if place = .yaml then .ok [] else .error (kind .null .sequence)
  | d => .error (kind d .sequence)

def entry (read : Reader α) (place : Place) (e : Document × Document) :
    Except Mismatch (String × α) := do
  let key ← text place e.1
  let value ← read place e.2
  return (key, value)

def table (read : Reader α) : Reader (Table α) := fun place d =>
  match seen place d with
  | .map entries => (entries.mapM (entry read place)).map Table.ofList
  | .null => if place = .yaml then .ok .empty else .error (kind .null .map)
  | d => .error (kind d .map)

def chosen (choices : List (String × α)) (name : String) : Except Mismatch α :=
  match choices.find? fun c => c.1 = name with
  | some c => .ok c.2
  | none => .error (.unknownChoice name (choices.map Prod.fst))

/-- The choice that a document names. A document set aside can give the number of the choice. -/
def choiceName (choices : List (String × α)) : Reader α := fun place d =>
  match place, seen place d with
  | _, .str name => chosen choices name
  | .setAside, .int n =>
    if 0 ≤ n then
      match choices[n.toNat]? with
      | some c => .ok c.2
      | none => .error (.choiceIndex n choices.length)
    else .error (.kind (.int n) .choiceName)
  | _, d => .error (kind d .choiceName)

def noContent : Reader Unit := fun place d =>
  match place, d with
  | _, .null => .ok ()
  | .setAside, .map [] => .ok ()
  | _, d => .error (kind d .unit)

def choiceWithContent (choices : List (String × α)) (place : Place) (name content : Document) :
    Except Mismatch α := do
  let c ← choiceName choices place name
  noContent place content
  return c

def choice (choices : List (String × α)) : Reader α := fun place d =>
  match place, d with
  | _, .str name => chosen choices name
  | .yaml, .tagged tag content =>
    choiceWithContent choices .yaml (.str (Document.tagName tag)) content
  | .yaml, d => .error (kind d .taggedChoice)
  | _, .map [(name, content)] => choiceWithContent choices place name content
  | _, .map _ => .error .singleKey
  | _, d => .error (kind d .choice)

structure Field (α : Type) where
  name : String
  set : Place → Document → α → Except Mismatch α

def field (name : String) (read : Reader β) (put : β → α → α) : Field α :=
  ⟨name, fun place d x => (read place d).map (put · x)⟩

/-- The fields of a record type in their order. Where they are not required, those that a document
leaves out keep their value in `start`. -/
structure Form (α : Type) where
  name : String
  fields : List (Field α)
  start : α
  required : Bool

/-- The name of the field that a key stands for; no name for a key that stands for no field. A
document set aside can give the number of the field. -/
def fieldName (fields : List (Field α)) : Reader (Option String) := fun place d =>
  match place, seen place d with
  | _, .str name => .ok (some name)
  | .setAside, .int n =>
    if 0 ≤ n then .ok (fields[n.toNat]?.map Field.name) else .error (.kind (.int n) .fieldName)
  | _, d => .error (kind d .fieldName)

structure Draft (α : Type) where
  record : α
  set : List String

def setField (fields : List (Field α)) (place : Place) (draft : Draft α)
    (e : Document × Document) : Except Mismatch (Draft α) := do
  let name? ← fieldName fields place e.1
  match fields.find? fun f => some f.name = name? with
  | some f =>
    if draft.set.contains f.name then .error (.duplicateField f.name)
    else return ⟨← f.set place e.2 draft.record, f.name :: draft.set⟩
  | none => return draft

def ofEntries (form : Form α) (place : Place) (entries : List (Document × Document)) :
    Except Mismatch α := do
  let draft ← entries.foldlM (setField form.fields place) ⟨form.start, []⟩
  match form.fields.find? fun f => form.required && !draft.set.contains f.name with
  | some f => .error (.missingField f.name)
  | none => return draft.record

def setInOrder (place : Place) : List (Field α) → List Document → α → Except Mismatch α
  | f :: fields, d :: elems, x => do setInOrder place fields elems (← f.set place d x)
  | _, _, x => .ok x

def tooMany (place : Place) (fields : Nat) : Extent :=
  match place with
  | .json => .fewerInArray
  | .yaml => .fewerInSequence
  | .setAside => .exactly fields

def ofElems (form : Form α) (place : Place) (elems : List Document) : Except Mismatch α := do
  let record ← setInOrder place form.fields elems form.start
  let count := form.fields.length
  if form.required && elems.length < count then
    .error (.length elems.length (.fields form.name count))
  else if count < elems.length then .error (.length elems.length (tooMany place count))
  else return record

def record (form : Form α) : Reader α := fun place d =>
  match place, seen place d with
  | _, .map entries => ofEntries form place entries
  | .yaml, .null => ofEntries form .yaml []
  | .yaml, d => .error (kind d (.record form.name))
  | _, .seq elems => ofElems form place elems
  | _, d => .error (kind d (.record form.name))

end Reader

end TrafficControl
