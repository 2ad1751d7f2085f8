import PageBuilder.Numeral

/-! # Fresh ids

An id is a stem followed by a stamp. Among the stamps from the clock on, the first one whose id is
not taken is used; one more candidate than there are taken ids is enough, since different stamps
give different ids. -/

namespace PageBuilder

/-- The id with the given stamp. -/
def stampedId (stem : String) (stamp : Int) : String :=
  stem ++ Numeral.text stamp

/-- The first stamp from `clock` on whose id is not taken. -/
def freshStamp (stem : String) (taken : List String) (clock : Int) : Int :=
  let candidates := (List.range (taken.length + 1)).map fun (k : Nat) => clock + (k : Int)
  (candidates.find? fun stamp => !taken.contains (stampedId stem stamp)).getD clock

/-- An id that is not taken. -/
def freshId (stem : String) (taken : List String) (clock : Int) : String :=
  stampedId stem (freshStamp stem taken clock)

theorem stampedId_injective {stem : String} {m n : Int} (h : stampedId stem m = stampedId stem n) :
    m = n := by
  have := congrArg String.toList h
  simp only [stampedId, Numeral.text, String.toList_append, String.toList_ofList,
    List.append_cancel_left_eq] at this
  exact Numeral.ofInt_injective this

end PageBuilder
