import PageBuilder.Proofs.JsonReading
import PageBuilder.Proofs.QuotedText

/-!
# Limits of the reader

Without limits a text is read or faulty. With a limit on the nesting, a text that opens more lists
than that is neither: the reader stops at the first list that is too deep, whatever follows it.
-/

namespace PageBuilder.Json

/-! ### Readers without limits -/

theorem map_ne_error {ε α β : Type} {r : Except ε α} {f : α → β} {e : ε} (h : r ≠ .error e) :
    r.map f ≠ .error e := by
  cases r with
  | error e' => simpa [Except.map] using h
  | ok a => simp [Except.map]

theorem mapError_fault_ne_overrun {ε α : Type} (r : Except ε α) (limit : Overrun) :
    r.mapError Halt.fault ≠ .error (.overrun limit) := by
  cases r <;> simp [Except.mapError]

section Unlimited

variable [Limits]

theorem Unlimited.readMagnitude_ne (h : Unlimited) (negative : Bool) (cs : List Char)
    (limit : Overrun) : readMagnitude negative cs ≠ .error (.overrun limit) := by
  unfold readMagnitude
  split
  · simp
  · dsimp only
    split
    · rw [h.tooLong]
      simp
    · simp

theorem Unlimited.readScalar_ne (h : Unlimited) (cs : List Char) (limit : Overrun) :
    readScalar cs ≠ .error (.overrun limit) := by
  unfold readScalar
  split
  · simp
  · split
    · exact h.readMagnitude_ne true _ limit
    · exact h.readMagnitude_ne false _ limit

/-- With this much fuel the readers meet no limit. -/
structure ReadsOn (fuel : Nat) : Prop where
  value : ∀ depth cs limit, readValue fuel depth cs ≠ .error (.overrun limit)
  items : ∀ depth cs limit, readItems fuel depth cs ≠ .error (.overrun limit)
  fields : ∀ depth acc cs limit, readFields fuel depth acc cs ≠ .error (.overrun limit)

namespace ReadsOn

variable {fuel : Nat}

theorem value_succ (h : Unlimited) (ih : ReadsOn fuel) (depth : Nat) (cs : List Char)
    (limit : Overrun) : readValue (fuel + 1) depth cs ≠ .error (.overrun limit) := by
  unfold readValue
  split
  · exact map_ne_error (mapError_fault_ne_overrun _ limit)
  · simp only [h.tooDeep, Bool.false_eq_true, if_false]
    split
    · simp
    · exact map_ne_error (ih.items _ _ limit)
  · simp only [h.tooDeep, Bool.false_eq_true, if_false]
    split
    · simp
    · exact map_ne_error (ih.fields _ _ _ limit)
  · exact h.readScalar_ne _ limit

theorem items_succ (ih : ReadsOn fuel) (depth : Nat) (cs : List Char) (limit : Overrun) :
    readItems (fuel + 1) depth cs ≠ .error (.overrun limit) := by
  unfold readItems
  split
  · next e hvalue =>
    intro he
    cases he
    exact ih.value _ _ limit hvalue
  · split
    · simp
    · exact map_ne_error (ih.items _ _ limit)
    · simp

theorem fields_succ (ih : ReadsOn fuel) (depth : Nat) (acc : Fields) (cs : List Char)
    (limit : Overrun) : readFields (fuel + 1) depth acc cs ≠ .error (.overrun limit) := by
  unfold readFields
  split
  · split
    · simp
    · split
      · split
        · next e hvalue =>
          intro he
          cases he
          exact ih.value _ _ limit hvalue
        · dsimp only
          split
          · simp
          · exact ih.fields _ _ _ limit
          · simp
      · simp
  · simp

end ReadsOn

/-- The induction is on the fuel that the three readers share. -/
theorem Unlimited.readsOn (h : Unlimited) (fuel : Nat) : ReadsOn fuel := by
  induction fuel with
  | zero =>
      constructor
      · intro depth cs limit
        simp [readValue]
      · intro depth cs limit
        simp [readItems]
      · intro depth acc cs limit
        simp [readFields]
  | succ fuel ih => exact ⟨ih.value_succ h, ih.items_succ, ih.fields_succ⟩

/-- Without limits every text is read or faulty. -/
theorem Unlimited.parseChars_ne (h : Unlimited) (cs : List Char) (limit : Overrun) :
    parseChars cs ≠ .error (.overrun limit) := by
  unfold parseChars
  split
  · simp
  · split
    · next e hvalue =>
      intro he
      cases he
      exact (h.readsOn _).value _ _ limit hvalue
    · split <;> simp

end Unlimited

/-! ### Texts beyond the limit -/

section Deep

/-- Lists that are opened and not closed. -/
def opened (n : Nat) : List Char :=
  List.replicate n '['

/-- Lists that are opened and not closed in the first field of an object. -/
def openedInObject (n : Nat) : List Char :=
  '{' :: '"' :: 'a' :: '"' :: ':' :: opened n

theorem getLast?_openedInObject (n : Nat) : (openedInObject (n + 1)).getLast? = some '[' := by
  simp [openedInObject, opened, List.getLast?_replicate, List.getLast?_cons]

theorem skipSpace_opened (n : Nat) : skipSpace (opened n) = opened n := by
  cases n with
  | zero => rfl
  | succ n => exact skipSpace_cons rfl (opened n)

variable [Limits]

/-- The induction is on the lists that are still to be opened. -/
theorem readValue_opened {n depth fuel : Nat} (h : tooDeep (depth + (n + 1)) = true)
    (hfuel : 2 * (n + 1) ≤ fuel) :
    readValue fuel depth (opened (n + 1)) = .error (.overrun .depth) := by
  induction n generalizing depth fuel with
  | zero =>
      obtain ⟨fuel, rfl⟩ := Nat.exists_eq_add_of_le' hfuel
      simp only [opened, List.replicate_succ, readValue]
      rw [if_pos h]
  | succ n ih =>
      obtain ⟨fuel, rfl⟩ := Nat.exists_eq_add_of_le' (show 2 ≤ fuel by omega)
      simp only [opened, List.replicate_succ, readValue]
      split
      · rfl
      · have hinner : readValue fuel (depth + 1) (opened (n + 1)) = .error (.overrun .depth) := by
          refine ih ?_ (by omega)
          rwa [Nat.add_assoc, Nat.add_comm 1]
        rw [opened, List.replicate_succ] at hinner
        simp [skipSpace, isSpace, readItems, hinner, Except.map]

/-- Too many lists are opened. -/
theorem parseChars_opened {n : Nat} (h : tooDeep n = true) :
    parseChars (opened n) = .error (.overrun .depth) := by
  cases n with
  | zero => simp [tooDeep] at h
  | succ n =>
      have hread : readValue (2 * (opened (n + 1)).length + 2) 0 (opened (n + 1)) =
          .error (.overrun .depth) := by
        refine readValue_opened (by rwa [Nat.zero_add]) ?_
        rw [opened, List.length_replicate]
        omega
      rw [parseChars, if_neg (by simp [opened, List.replicate_succ]), skipSpace_opened, hread]

theorem readFields_opened {n depth fuel : Nat} (h : tooDeep (depth + (n + 1)) = true)
    (hfuel : 2 * (n + 1) ≤ fuel) :
    readFields (fuel + 1) depth [] ('"' :: 'a' :: '"' :: ':' :: opened (n + 1)) =
      .error (.overrun .depth) := by
  have hkey : readString ('a' :: '"' :: ':' :: opened (n + 1)) =
      .ok ("a", ':' :: opened (n + 1)) := readString_quoted "a" _
  have hcolon : skipSpace (':' :: opened (n + 1)) = ':' :: opened (n + 1) := skipSpace_cons rfl _
  unfold readFields
  simp only [hkey, hcolon, skipSpace_opened, readValue_opened h hfuel]

/-- Too many lists are opened inside an object. -/
theorem parseChars_openedInObject {n : Nat} (h : tooDeep (n + 1) = true) :
    parseChars (openedInObject n) = .error (.overrun .depth) := by
  have hread : readValue (2 * (openedInObject n).length + 2) 0 (openedInObject n) =
      .error (.overrun .depth) := by
    simp only [openedInObject, readValue]
    split
    · rfl
    · next hone =>
      cases n with
      | zero => exact absurd h hone
      | succ n =>
          have hquote : skipSpace ('"' :: 'a' :: '"' :: ':' :: opened (n + 1)) =
              '"' :: 'a' :: '"' :: ':' :: opened (n + 1) := skipSpace_cons rfl _
          have hfuel : 2 * (n + 1) ≤ 2 * (openedInObject (n + 1)).length := by
            simp only [openedInObject, opened, List.length_cons, List.length_replicate]
            omega
          have hdeep : tooDeep (0 + 1 + (n + 1)) = true := by rwa [Nat.add_comm (0 + 1)]
          have hfields := readFields_opened hdeep hfuel
          rw [openedInObject] at hfields
          simp only [hquote]
          change Except.map _ (readFields _ _ _ _) = _
          rw [hfields]
          rfl
  have hskip : skipSpace (openedInObject n) = openedInObject n := skipSpace_cons rfl _
  rw [parseChars, if_neg (by simp [openedInObject]), hskip, hread]

end Deep

/-- A text that opens more lists than the program reads. -/
def deepText : String :=
  String.ofList (opened 100000)

theorem parse_deepText : parse deepText = .error (.overrun .depth) := by
  rw [deepText, parse, String.toList_ofList]
  exact parseChars_opened rfl

/-- A text that opens more lists inside an object than the program reads. -/
def deepObject : String :=
  String.ofList (openedInObject 100000)

theorem parseChars_deepObject : parseChars deepObject.toList = .error (.overrun .depth) := by
  rw [deepObject, String.toList_ofList]
  exact parseChars_openedInObject rfl

end PageBuilder.Json
