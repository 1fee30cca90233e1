import TrafficControl.Yaml.Cursor

namespace TrafficControl.Yaml

structure Gap where
  blanks : List Char
  broken : Bool
  firstBreak : List Char
  moreBreaks : List Char

namespace Gap

def empty : Gap := ⟨[], false, [], []⟩

def escapedBreak : Gap := ⟨[], true, [], []⟩

def fold (g : Gap) : List Char :=
  if !g.broken then g.blanks
  else if g.firstBreak = ['\n'] then (if g.moreBreaks.isEmpty then [' '] else g.moreBreaks)
  else g.firstBreak ++ g.moreBreaks

/-- Reads on while there is white space. A tab left of `indent` on a new line is refused. -/
def read? (indent : Int) : Nat → Gap → Cursor → Option (Gap × Cursor)
  | 0, g, cur => some (g, cur)
  | fuel + 1, g, cur =>
    match cur.rest with
    | [] => some (g, cur)
    | c :: _ =>
      if isBlank c then
        if !g.broken then read? indent fuel { g with blanks := g.blanks ++ [c] } cur.next
        else if c = '\t' ∧ (cur.column : Int) < indent then none
        else read? indent fuel g cur.next
      else if isBreak c then
        let (kept, cur) := cur.takeBreak
        if g.broken then read? indent fuel { g with moreBreaks := g.moreBreaks ++ kept } cur
        else read? indent fuel ⟨[], true, kept, g.moreBreaks⟩ cur
      else some (g, cur)

end Gap

end TrafficControl.Yaml
