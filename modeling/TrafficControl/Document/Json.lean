import TrafficControl.Document.Reader

namespace TrafficControl.Reader

mutual

def jsonTree (place : Place) : Document → Except Mismatch Json
  | .null => .ok .null
  | .bool b => .ok (.bool b)
  | .int n => .ok (.int n)
  | .float x => .ok (.ofDouble x)
  | .str s => .ok (.str s)
  | .seq elems => (jsonElems place elems).map .array
  | .map entries => (jsonMembers place .textKey entries).map .ofMembers
  | .tagged _ _ => .error (.kind .tagged .json)

def jsonElems (place : Place) : List Document → Except Mismatch (List Json)
  | [] => .ok []
  | d :: rest => do return (← jsonTree place d) :: (← jsonElems place rest)

/-- The first key is asked for in other words than the keys behind it. -/
def jsonMembers (place : Place) (wanted : Wanted) :
    List (Document × Document) → Except Mismatch (List (String × Json))
  | [] => .ok []
  | (key, value) :: rest => do
    let key ← expectText wanted place key
    let value ← jsonTree place value
    return (key, value) :: (← jsonMembers place .string rest)

end

def json : Reader Json := jsonTree

end TrafficControl.Reader
