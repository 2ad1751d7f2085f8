import PageBuilder.Proofs.DoubleText
import PageBuilder.Proofs.FieldLists
import PageBuilder.Proofs.QuotedText

/-! # Document text reads back

What either layout writes for a well-formed value, the reader takes back as that value, if the value
is within its limits.

## Implementation notes

The readers recurse on fuel and the writer on the value. The lemmas about items and fields assume
that each part reads back with any fuel of at least twice the length of its text, so the induction
of the main result is on the value alone. -/

namespace PageBuilder.Json

/-! ### White space -/

/-- Only white space stands between the tokens of a layout. -/
structure Layout.Blank (l : Layout) : Prop where
  gap : ∀ level, ∀ c ∈ l.gap level, isSpace c
  afterColon : ∀ c ∈ l.afterColon, isSpace c

theorem Layout.compact_blank : Layout.compact.Blank where
  gap := by simp [Layout.compact]
  afterColon := by simp [Layout.compact]

theorem Layout.pretty_blank : Layout.pretty.Blank where
  gap := by
    intro level c hc
    rcases List.mem_cons.mp hc with rfl | hmem
    · rfl
    · rw [List.eq_of_mem_replicate hmem]
      rfl
  afterColon := by simp [Layout.pretty, isSpace]

theorem NumberEnds.of_space {c : Char} (hc : isSpace c) (rest : List Char) :
    NumberEnds (c :: rest) := by
  simp only [isSpace, Bool.or_eq_true, beq_iff_eq] at hc
  rcases hc with ((rfl | rfl) | rfl) | rfl <;> exact .cons rfl (by decide) (by decide) (by decide) _

/-- White space and what ends a number end it together. -/
theorem NumberEnds.append {ws rest : List Char} (hws : ∀ c ∈ ws, isSpace c)
    (hrest : NumberEnds rest) : NumberEnds (ws ++ rest) := by
  cases ws with
  | nil => exact hrest
  | cons c ws => exact .of_space (hws c List.mem_cons_self) _

/-! ### Scalars -/

/-- The values that are words and numbers. -/
def isPlain : Json → Bool
  | .null | .bool _ | .int _ | .float _ => true
  | _ => false

theorem readScalar_plain [Limits] (l : Layout) (level : Nat) {v : Json} (hv : v.isPlain)
    {depth : Nat} (hfits : v.fits depth = true) {rest : List Char} (hrest : NumberEnds rest) :
    readScalar (write l level v ++ rest) = .ok (v, rest) := by
  cases v with
  | null => rfl
  | bool b => cases b <;> rfl
  | int n => exact readScalar_ofInt n hrest (by simpa [fits] using hfits)
  | float x => exact readScalar_write x hrest
  | str s => cases hv
  | arr xs => cases hv
  | obj fs => cases hv

/-- The first characters of words and numbers. -/
def StartsScalar (c : Char) : Prop :=
  c.isDigit ∨ c ∈ ['-', 'n', 't', 'f', 'N', 'I']

theorem exists_start_of_readScalar [Limits] {cs : List Char} {r : Json × List Char}
    (h : readScalar cs = .ok r) : ∃ c rest, cs = c :: rest ∧ StartsScalar c := by
  unfold readScalar at h
  split at h
  · next hword =>
    obtain ⟨w, hw, hafter⟩ := List.exists_of_findSome?_eq_some hword
    obtain ⟨after, hstart, -⟩ := Option.map_eq_some_iff.mp hafter
    rw [Text.afterChars?_eq_some_iff] at hstart
    simp only [words, List.mem_cons, List.not_mem_nil, or_false] at hw
    rcases hw with rfl | rfl | rfl | rfl | rfl | rfl <;>
      exact ⟨_, _, hstart, .inr (by decide)⟩
  · split at h
    · exact ⟨_, _, rfl, .inr (by decide)⟩
    · obtain ⟨c, rest, hcs, hc⟩ := exists_digit_of_readMagnitude h
      exact ⟨c, rest, hcs, .inl hc⟩

/-- A character that starts no scalar. -/
theorem StartsScalar.ne {c d : Char} (hc : StartsScalar c) (hdigit : d.isDigit = false)
    (hd : d ∉ ['-', 'n', 't', 'f', 'N', 'I']) : c ≠ d :=
  ne_of_digit_or_mem hc hdigit hd

theorem readValue_of_readScalar [Limits] {cs : List Char} {r : Json × List Char}
    (h : readScalar cs = .ok r) {fuel : Nat} (hfuel : 0 < fuel) (depth : Nat) :
    readValue fuel depth cs = .ok r := by
  obtain ⟨c, rest, rfl, hc⟩ := exists_start_of_readScalar h
  obtain ⟨fuel, rfl⟩ := Nat.exists_eq_add_one_of_ne_zero hfuel.ne'
  unfold readValue
  split
  · next heq => exact absurd (List.cons.inj heq).1 (hc.ne rfl (by decide))
  · next heq => exact absurd (List.cons.inj heq).1 (hc.ne rfl (by decide))
  · next heq => exact absurd (List.cons.inj heq).1 (hc.ne rfl (by decide))
  · exact h

/-! ### Where values start -/

/-- A character that is no white space, closes nothing and is no byte order mark. -/
def StartsValue (c : Char) : Prop :=
  isSpace c = false ∧ c ≠ ']' ∧ c ≠ '}' ∧ c ≠ '\uFEFF'

theorem StartsScalar.startsValue {c : Char} (hc : StartsScalar c) : StartsValue c := by
  refine ⟨?_, hc.ne rfl (by decide), hc.ne rfl (by decide), hc.ne (by decide) (by decide)⟩
  simp only [isSpace, Bool.or_eq_false_iff, beq_eq_false_iff_ne]
  exact ⟨⟨⟨hc.ne rfl (by decide), hc.ne rfl (by decide)⟩, hc.ne rfl (by decide)⟩,
    hc.ne rfl (by decide)⟩

theorem exists_start_of_write (l : Layout) (level : Nat) (v : Json) :
    ∃ c rest, write l level v = c :: rest ∧ StartsValue c := by
  by_cases hv : v.isPlain
  · let _ := Limits.unlimited
    have hfits := Unlimited.fits ⟨rfl, rfl⟩ 0 v
    have hread := readScalar_plain l level hv hfits .nil
    rw [List.append_nil] at hread
    obtain ⟨c, rest, hcs, hc⟩ := exists_start_of_readScalar hread
    exact ⟨c, rest, hcs, hc.startsValue⟩
  · have hquote : StartsValue '"' := by unfold StartsValue; decide
    have hbracket : StartsValue '[' := by unfold StartsValue; decide
    have hbrace : StartsValue '{' := by unfold StartsValue; decide
    cases v with
    | null => exact absurd rfl hv
    | bool b => exact absurd rfl hv
    | int n => exact absurd rfl hv
    | float x => exact absurd rfl hv
    | str s => exact ⟨_, _, rfl, hquote⟩
    | arr xs => cases xs <;> exact ⟨_, _, rfl, hbracket⟩
    | obj fs => cases fs <;> exact ⟨_, _, rfl, hbrace⟩

theorem skipSpace_write (l : Layout) (level : Nat) (v : Json) (rest : List Char) :
    skipSpace (write l level v ++ rest) = write l level v ++ rest := by
  obtain ⟨c, cs, hcs, hc⟩ := exists_start_of_write l level v
  rw [hcs, List.cons_append, skipSpace_cons hc.1]

theorem length_write_pos (l : Layout) (level : Nat) (v : Json) : 0 < (write l level v).length := by
  obtain ⟨c, cs, hcs, -⟩ := exists_start_of_write l level v
  rw [hcs]
  exact Nat.zero_lt_succ _

/-! ### Lists and objects -/

section Containers

variable {l : Layout}

/-- The end of a list or object: what is written after its last part. -/
structure Closing (close : Char) (tail rest : List Char) : Prop where
  ends : NumberEnds tail
  close : skipSpace tail = close :: rest

theorem Closing.of_gap (hl : l.Blank) (level : Nat) (close : Char) (hspace : isSpace close = false)
    (hends : ∀ rest, NumberEnds (close :: rest)) (rest : List Char) :
    Closing close (l.gap level ++ close :: rest) rest where
  ends := .append (hl.gap level) (hends rest)
  close := by rw [skipSpace_append (hl.gap level), skipSpace_cons hspace]

theorem numberEnds_comma (rest : List Char) : NumberEnds (',' :: rest) :=
  .cons rfl (by decide) (by decide) (by decide) rest

variable [Limits]

/-- With enough fuel the text of a value that is within the limits is read as that value, up to
where it ends. -/
def ReadsBack (l : Layout) (v : Json) : Prop :=
  ∀ level depth fuel rest, v.fits depth = true → NumberEnds rest →
    2 * (write l level v).length ≤ fuel →
      readValue fuel depth (write l level v ++ rest) = .ok (v, rest)

theorem readsBack_plain {v : Json} (hv : v.isPlain) : ReadsBack l v := by
  intro level depth fuel rest hfits hrest hfuel
  have hpos := length_write_pos l level v
  exact readValue_of_readScalar (readScalar_plain l level hv hfits hrest) (by omega) depth

theorem readsBack_str (s : String) : ReadsBack l (.str s) := by
  intro level depth fuel rest _ _ hfuel
  have hpos := length_write_pos l level (.str s)
  obtain ⟨fuel, rfl⟩ := Nat.exists_eq_add_one_of_ne_zero (n := fuel) (by omega)
  have hread := readString_quoted s rest
  simp only [write, quote, List.cons_append, List.append_assoc, List.nil_append]
  change ((readString _).mapError _).map _ = _
  rw [hread]
  rfl

theorem readItems_write (hl : l.Blank) (level : Nat) {depth : Nat} {xs : List Json} (hne : xs ≠ [])
    (hread : ∀ x ∈ xs, ReadsBack l x) (hfits : ∀ x ∈ xs, x.fits depth = true)
    {tail rest : List Char} (htail : Closing ']' tail rest)
    (fuel : Nat) (hfuel : 2 * (writeItems l level xs).length + 1 ≤ fuel) :
    readItems fuel depth (skipSpace (writeItems l level xs ++ tail)) = .ok (xs, rest) := by
  induction xs generalizing fuel with
  | nil => exact absurd rfl hne
  | cons x xs ih =>
      obtain ⟨fuel, rfl⟩ := Nat.exists_eq_add_one_of_ne_zero (Nat.ne_zero_of_lt hfuel)
      have hx := hread x List.mem_cons_self
      have hxfits := hfits x List.mem_cons_self
      cases xs with
      | nil =>
          simp only [writeItems, List.length_append] at hfuel
          have hvalue := hx level depth fuel tail hxfits htail.ends (by omega)
          rw [writeItems, List.append_assoc, skipSpace_append (hl.gap level), skipSpace_write]
          unfold readItems
          rw [hvalue]
          simp only [htail.close]
      | cons y ys =>
          simp only [writeItems, List.length_append, List.length_cons] at hfuel
          have hvalue := hx level depth fuel (',' :: (writeItems l level (y :: ys) ++ tail))
            hxfits (numberEnds_comma _) (by omega)
          have hrest := ih (List.cons_ne_nil y ys)
            (fun z hz => hread z (List.mem_cons_of_mem x hz))
            (fun z hz => hfits z (List.mem_cons_of_mem x hz)) fuel (by omega)
          rw [writeItems, List.append_assoc, List.append_assoc, skipSpace_append (hl.gap level),
            skipSpace_write, List.cons_append]
          unfold readItems
          rw [hvalue]
          simp only [skipSpace_cons (c := ',') rfl, hrest]
          rfl

/-- How the reader goes on after the value of a field. -/
def afterField (fuel depth : Nat) (acc : Fields) (more : List Char) :
    Except (Halt Fault) (Fields × List Char) :=
  match skipSpace more with
  | '}' :: after => .ok (acc, after)
  | ',' :: after => readFields fuel depth acc (skipSpace after)
  | _ => .error (.fault .expectingComma)

/-- One field, up to where its value ends. -/
theorem readFields_field (hl : l.Blank) {level depth : Nat} {f : String × Json}
    (hf : ReadsBack l f.2) (hfits : f.2.fits depth = true) {acc : Fields} {more : List Char}
    (hmore : NumberEnds more) {fuel : Nat} (hfuel : 2 * (write l level f.2).length ≤ fuel) :
    readFields (fuel + 1) depth acc
        (skipSpace
          (l.gap level ++ (quote f.1 ++ ':' :: (l.afterColon ++ write l level f.2)) ++ more)) =
      afterField fuel depth (Fields.set acc f.1 f.2) more := by
  have hvalue := hf level depth fuel more hfits hmore hfuel
  have hkey := readString_quoted f.1 (':' :: (l.afterColon ++ (write l level f.2 ++ more)))
  rw [List.append_assoc, skipSpace_append (hl.gap level)]
  simp only [quote, List.cons_append, List.append_assoc, List.nil_append,
    skipSpace_cons (c := '"') rfl]
  conv => lhs; unfold readFields
  simp only [hkey, skipSpace_cons (c := ':') rfl, skipSpace_append hl.afterColon, skipSpace_write,
    hvalue]
  rfl

theorem readFields_write (hl : l.Blank) (level : Nat) {depth : Nat} {fs : Fields} (hne : fs ≠ [])
    (hread : ∀ f ∈ fs, ReadsBack l f.2) (hfits : ∀ f ∈ fs, f.2.fits depth = true)
    {tail rest : List Char} (htail : Closing '}' tail rest)
    (acc : Fields) (fuel : Nat) (hfuel : 2 * (writeFields l level fs).length + 1 ≤ fuel) :
    readFields fuel depth acc (skipSpace (writeFields l level fs ++ tail)) =
      .ok (Fields.merge acc fs, rest) := by
  induction fs generalizing acc fuel with
  | nil => exact absurd rfl hne
  | cons f fs ih =>
      obtain ⟨fuel, rfl⟩ := Nat.exists_eq_add_one_of_ne_zero (Nat.ne_zero_of_lt hfuel)
      have hf := hread f List.mem_cons_self
      have hffits := hfits f List.mem_cons_self
      cases fs with
      | nil =>
          simp only [writeFields, List.length_append, List.length_cons] at hfuel
          rw [writeFields, readFields_field hl hf hffits htail.ends (by omega), afterField,
            htail.close]
          rfl
      | cons g gs =>
          simp only [writeFields, List.length_append, List.length_cons] at hfuel
          have hrest := ih (List.cons_ne_nil g gs)
            (fun h hh => hread h (List.mem_cons_of_mem f hh))
            (fun h hh => hfits h (List.mem_cons_of_mem f hh)) (Fields.set acc f.1 f.2) fuel
            (by omega)
          have hshape : writeFields l level (f :: g :: gs) ++ tail =
              l.gap level ++ (quote f.1 ++ ':' :: (l.afterColon ++ write l level f.2)) ++
                ',' :: (writeFields l level (g :: gs) ++ tail) := by
            simp [writeFields]
          rw [hshape, readFields_field hl hf hffits (numberEnds_comma _) (by omega), afterField,
            skipSpace_cons (c := ',') rfl]
          exact hrest

theorem readItems_bracket (fuel depth : Nat) (after : List Char) (r : List Json × List Char) :
    readItems fuel depth (']' :: after) ≠ .ok r := by
  intro h
  match fuel with
  | 0 => simp [readItems] at h
  | 1 => simp [readItems, readValue] at h
  | fuel + 2 =>
      have hscalar : readScalar (']' :: after) = .error (.fault .expectingValue) := rfl
      simp [readItems, readValue, hscalar] at h

theorem readFields_brace (fuel depth : Nat) (acc : Fields) (after : List Char)
    (r : Fields × List Char) : readFields fuel depth acc ('}' :: after) ≠ .ok r := by
  intro h
  cases fuel with
  | zero => simp [readFields] at h
  | succ fuel => simp [readFields] at h

theorem readValue_items {fuel depth : Nat} {inside : List Char} {xs : List Json} {rest : List Char}
    (hdepth : tooDeep (depth + 1) = false)
    (h : readItems fuel (depth + 1) (skipSpace inside) = .ok (xs, rest)) :
    readValue (fuel + 1) depth ('[' :: inside) = .ok (.arr xs, rest) := by
  simp only [readValue, hdepth, Bool.false_eq_true, if_false]
  split
  · next hclose =>
    rw [hclose] at h
    exact absurd h (readItems_bracket fuel _ _ _)
  · rw [h]
    rfl

theorem readValue_fields {fuel depth : Nat} {inside : List Char} {fs : Fields} {rest : List Char}
    (hdepth : tooDeep (depth + 1) = false)
    (h : readFields fuel (depth + 1) [] (skipSpace inside) = .ok (fs, rest)) :
    readValue (fuel + 1) depth ('{' :: inside) = .ok (.obj fs, rest) := by
  simp only [readValue, hdepth, Bool.false_eq_true, if_false]
  split
  · next hclose =>
    rw [hclose] at h
    exact absurd h (readFields_brace fuel _ _ _ _)
  · rw [h]
    rfl

theorem readsBack_arr (hl : l.Blank) {xs : List Json} (hread : ∀ x ∈ xs, ReadsBack l x) :
    ReadsBack l (.arr xs) := by
  intro level depth fuel rest hfits _ hfuel
  obtain ⟨hdepth, hitemsFit⟩ := fits_arr.mp hfits
  have hpos := length_write_pos l level (.arr xs)
  obtain ⟨fuel, rfl⟩ := Nat.exists_eq_add_one_of_ne_zero (n := fuel) (by omega)
  cases xs with
  | nil =>
      simp only [write, List.cons_append, readValue, hdepth, Bool.false_eq_true, if_false]
      rfl
  | cons x xs =>
      simp only [write, List.length_cons, List.length_append, List.length_nil] at hfuel
      have htail := Closing.of_gap hl level ']' rfl
        (fun rest => .cons rfl (by decide) (by decide) (by decide) rest) rest
      have hitems := readItems_write hl (level + 1) (List.cons_ne_nil x xs) hread hitemsFit htail
        fuel (by omega)
      have hshape : write l level (.arr (x :: xs)) ++ rest =
          '[' :: (writeItems l (level + 1) (x :: xs) ++ (l.gap level ++ ']' :: rest)) := by
        simp [write]
      rw [hshape]
      exact readValue_items hdepth hitems

theorem readsBack_obj (hl : l.Blank) {fs : Fields} (hkeys : fs.DistinctKeys)
    (hread : ∀ f ∈ fs, ReadsBack l f.2) : ReadsBack l (.obj fs) := by
  intro level depth fuel rest hfits _ hfuel
  obtain ⟨hdepth, hfieldsFit⟩ := fits_obj.mp hfits
  have hpos := length_write_pos l level (.obj fs)
  obtain ⟨fuel, rfl⟩ := Nat.exists_eq_add_one_of_ne_zero (n := fuel) (by omega)
  cases fs with
  | nil =>
      simp only [write, List.cons_append, readValue, hdepth, Bool.false_eq_true, if_false]
      rfl
  | cons f fs =>
      simp only [write, List.length_cons, List.length_append, List.length_nil] at hfuel
      have htail := Closing.of_gap hl level '}' rfl
        (fun rest => .cons rfl (by decide) (by decide) (by decide) rest) rest
      have hfields := readFields_write hl (level + 1) (List.cons_ne_nil f fs) hread hfieldsFit htail
        [] fuel (by omega)
      have hmerge : Fields.merge [] (f :: fs) = f :: fs := Fields.merge_eq_append hkeys
      rw [hmerge] at hfields
      have hshape : write l level (.obj (f :: fs)) ++ rest =
          '{' :: (writeFields l (level + 1) (f :: fs) ++ (l.gap level ++ '}' :: rest)) := by
        simp [write]
      rw [hshape]
      exact readValue_fields hdepth hfields

/-- The induction is on the value: its parts read back, so it does. -/
theorem WellFormed.readsBack (hl : l.Blank) {v : Json} (h : v.WellFormed) : ReadsBack l v := by
  refine WellFormed.induction ?_ (fun xs => readsBack_arr hl) (fun fs => readsBack_obj hl) v h
  intro v hitems hfields
  cases v with
  | str s => exact readsBack_str s
  | arr xs => cases hitems
  | obj fs => cases hfields
  | _ => exact readsBack_plain rfl

end Containers

/-! ### Whole texts -/

variable [Limits]

theorem parseChars_write {l : Layout} (hl : l.Blank) {v : Json} (hv : v.WellFormed)
    (hfits : v.fits 0 = true) : parseChars (write l 0 v) = .ok v := by
  obtain ⟨c, cs, hcs, hc⟩ := exists_start_of_write l 0 v
  have hmark : (write l 0 v).head? ≠ some '\uFEFF' := by
    rw [hcs]
    intro h
    exact hc.2.2.2 (Option.some.inj h)
  have hskip : skipSpace (write l 0 v) = write l 0 v := by
    have := skipSpace_write l 0 v []
    rwa [List.append_nil] at this
  have hread := hv.readsBack hl 0 0 (2 * (write l 0 v).length + 2) [] hfits .nil
    (Nat.le_add_right _ 2)
  rw [List.append_nil] at hread
  rw [parseChars, if_neg hmark, hskip, hread]
  rfl

/-- The compact text of a value within the limits reads back as the value. -/
theorem parse_compactText {v : Json} (hv : v.WellFormed) (hfits : v.fits 0 = true) :
    parse v.compactText = .ok v := by
  rw [parse, compactText, String.toList_ofList]
  exact parseChars_write Layout.compact_blank hv hfits

/-- The text of a value within the limits on several lines reads back as the value. -/
theorem parse_prettyText {v : Json} (hv : v.WellFormed) (hfits : v.fits 0 = true) :
    parse v.prettyText = .ok v := by
  rw [parse, prettyText, String.toList_ofList]
  exact parseChars_write Layout.pretty_blank hv hfits

end PageBuilder.Json
