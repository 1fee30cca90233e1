import TrafficControl.Query.Param
import TrafficControl.Value

namespace TrafficControl.Query

inductive Step where
  | name (key : String)
  | index (i : Nat)
  deriving DecidableEq, Repr

def Step.follow? : Step → Value → Option Value
  | .name key, v => v.key? key
  | .index i, v => v.index? i

def walk? (steps : List Step) (v : Value) : Option Value :=
  steps.foldlM (fun v s => s.follow? v) v

def brackets? : List Char → Option (List Step)
  | [] => some []
  | '[' :: rest =>
    match h : Text.cut? ']' rest with
    | some (inner, after) => do
      have _ := Text.cut?_length h
      let i ← index? inner
      let steps ← brackets? after
      some (.index i :: steps)
    | none => none
  | _ :: _ => none
termination_by cs => cs.length
decreasing_by simp_wf; omega

def token? (cs : List Char) : Option (List Step) :=
  let name := cs.takeWhile (· != '[')
  let indexes := brackets? (cs.dropWhile (· != '['))
  if name.isEmpty then indexes else indexes.map (.name (String.ofList name) :: ·)

/-- The steps of a path; empty tokens are passed over. -/
def steps? (path : List Char) : Option (List Step) :=
  ((Text.splitOn '.' path).filter (!·.isEmpty)).foldr
    (fun token rest => do
      let here ← token? token
      let rest ← rest
      some (here ++ rest))
    (some [])

def readPlain? (query : String) (arguments : List Value) : Option String := do
  let (n, path) ← splitParam? query.toList
  let argument ← arguments[n]?
  let steps ← steps? path
  let target ← walk? steps argument
  target.display?

end TrafficControl.Query
