/-! # Starts of texts

What follows a given start, if the text has it. -/

namespace PageBuilder.Text

/-- The characters after `start`. -/
def afterChars? : List Char → List Char → Option (List Char)
  | [], cs => some cs
  | _ :: _, [] => none
  | s :: start, c :: cs => if s = c then afterChars? start cs else none

/-- The text after `start`. -/
def after? (start s : String) : Option String :=
  (afterChars? start.toList s.toList).map String.ofList

theorem afterChars?_eq_some_iff {start cs rest : List Char} :
    afterChars? start cs = some rest ↔ cs = start ++ rest := by
  induction start generalizing cs with
  | nil => simp [afterChars?]
  | cons s start ih =>
    cases cs with
    | nil => simp [afterChars?]
    | cons c cs =>
      simp only [afterChars?, List.cons_append, List.cons.injEq]
      split
      · next h => rw [ih]; simp [h]
      · next h => simp [Ne.symm h]

end PageBuilder.Text
