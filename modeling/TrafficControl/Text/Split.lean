namespace TrafficControl.Text

def cut? (stop : Char) : List Char → Option (List Char × List Char)
  | [] => none
  | c :: rest =>
    if c = stop then some ([], rest)
    else (cut? stop rest).map fun (before, after) => (c :: before, after)

theorem cut?_length {stop : Char} {cs before after : List Char}
    (h : cut? stop cs = some (before, after)) : after.length < cs.length := by
  induction cs generalizing before with
  | nil => simp [cut?] at h
  | cons c rest ih =>
    simp only [cut?] at h
    split at h
    · simp_all
    · obtain ⟨pair, found, same⟩ := Option.map_eq_some_iff.mp h
      obtain ⟨b, a⟩ := pair
      simp only [Prod.mk.injEq] at same
      obtain ⟨-, rfl⟩ := same
      exact Nat.lt_succ_of_lt (ih found)

def afterWord? : List Char → List Char → Option (List Char)
  | [], cs => some cs
  | w :: word, c :: cs => if w = c then afterWord? word cs else none
  | _ :: _, [] => none

def cutWord? (word : List Char) : List Char → Option (List Char × List Char)
  | [] => (afterWord? word []).map fun after => ([], after)
  | c :: rest =>
    match afterWord? word (c :: rest) with
    | some after => some ([], after)
    | none => (cutWord? word rest).map fun (before, after) => (c :: before, after)

def splitOn (sep : Char) : List Char → List (List Char)
  | [] => [[]]
  | c :: rest =>
    if c = sep then [] :: splitOn sep rest
    else
      match splitOn sep rest with
      | head :: tail => (c :: head) :: tail
      | [] => [[c]]

end TrafficControl.Text
