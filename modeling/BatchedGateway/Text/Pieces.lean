/- Cutting text at a character and replacing a word in it. -/

namespace BatchedGateway.Text

/-- The pieces between the separators: one more than there are separators. -/
def pieces (sep : Char) : List Char → List (List Char)
  | [] => [[]]
  | c :: rest =>
      if c = sep then [] :: pieces sep rest
      else match pieces sep rest with
        | [] => [[c]]
        | p :: ps => (c :: p) :: ps

/-- Cuts before the first separator, which is dropped. -/
def cutAt (sep : Char) (cs : List Char) : List Char × Option (List Char) :=
  match cs.dropWhile (· ≠ sep) with
  | [] => (cs, none)
  | _ :: rest => (cs.takeWhile (· ≠ sep), some rest)

/-- Drops `word` from the front, if `cs` starts with it. -/
def strip? : (word cs : List Char) → Option (List Char)
  | [], cs => some cs
  | _ :: _, [] => none
  | w :: ws, c :: cs => if w = c then strip? ws cs else none

theorem strip?_length {word cs rest : List Char} (h : strip? word cs = some rest) :
    rest.length + word.length = cs.length := by
  induction word generalizing cs with
  | nil => cases h; rfl
  | cons w ws ih =>
      cases cs with
      | nil => cases h
      | cons c cs =>
          simp only [strip?] at h
          split at h
          · have := ih h
            simp only [List.length_cons]
            omega
          · cases h

/-- Every occurrence of `word`, read from the left without overlap, becomes `instead`. -/
def replaceAll (word instead : List Char) (cs : List Char) : List Char :=
  match cs with
  | [] => []
  | c :: rest =>
      if word = [] then c :: replaceAll word instead rest
      else match _h : strip? word (c :: rest) with
        | some after => instead ++ replaceAll word instead after
        | none => c :: replaceAll word instead rest
termination_by cs.length
decreasing_by
  · simp
  · have := strip?_length _h
    cases word with
    | nil => contradiction
    | cons w ws => simp only [List.length_cons] at this ⊢; omega
  · simp

def replace (s word instead : String) : String :=
  String.ofList (replaceAll word.toList instead.toList s.toList)

end BatchedGateway.Text
