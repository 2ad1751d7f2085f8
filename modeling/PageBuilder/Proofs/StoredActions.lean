import PageBuilder.Proofs.ComponentCodec
import PageBuilder.Proofs.JsonReading
import PageBuilder.Proofs.JsonText
import PageBuilder.View.Component

/-! # One token for every encoding of an action

An action object resolves to the same token as the object written out as a text, with white space
around it or not, and as what either of them was read as. Storing an action on a component and
reading it again changes neither its token nor what the button does, and null, texts and objects
are stored as they were. -/

namespace PageBuilder

/-! ### Texts that spell an object -/

theorem Text.not_blank_of_stripChars {cs rest : List Char} {c : Char}
    (h : stripChars cs = c :: rest) : isBlank c = false := by
  -- what is left after the end is stripped is a start of what was left before
  have hprefix : stripChars cs <+: cs.dropWhile isBlank := by
    rw [← List.reverse_suffix, stripChars, List.reverse_reverse]
    exact List.dropWhile_suffix isBlank
  rw [h] at hprefix
  obtain ⟨after, hafter⟩ := hprefix
  have hhead := List.head?_dropWhile_not isBlank cs
  rw [← hafter] at hhead
  simpa using hhead

theorem Text.isBlank_of_isSpace {c : Char} (h : Json.isSpace c) : isBlank c := by
  simp only [Json.isSpace, Bool.or_eq_true, beq_iff_eq] at h
  rcases h with ((rfl | rfl) | rfl) | rfl <;> rfl

/-- No token space is left at the start of a text without white space at its ends. -/
theorem Json.skipSpace_stripChars (cs : List Char) :
    skipSpace (Text.stripChars cs) = Text.stripChars cs := by
  cases hstrip : Text.stripChars cs with
  | nil => rfl
  | cons c rest =>
      have hblank := Text.not_blank_of_stripChars hstrip
      apply skipSpace_cons
      rw [Bool.eq_false_iff]
      intro hspace
      rw [Text.isBlank_of_isSpace hspace] at hblank
      cases hblank

section Reading

variable [Json.Limits]

theorem Json.head?_of_readValue_obj {fuel depth : Nat} {cs rest : List Char} {fs : Fields}
    (h : readValue fuel depth cs = .ok (.obj fs, rest)) : cs.head? = some '{' := by
  cases fuel with
  | zero => cases h
  | succ fuel =>
      unfold readValue at h
      split at h
      · obtain ⟨r, -, hr⟩ := map_ok h
        cases hr
      · split at h
        · cases h
        · split at h
          · cases h
          · obtain ⟨r, -, hr⟩ := map_ok h
            cases hr
      · rfl
      · cases (flat_of_readScalar h).2

/-- A stripped text that spells an object starts with its brace. -/
theorem Json.head?_of_parse_strip {s : String} {fs : Fields}
    (h : parse (Text.strip s) = .ok (.obj fs)) :
    (Text.stripChars s.toList).head? = some '{' := by
  rw [parse, Text.strip, String.toList_ofList, parseChars] at h
  split at h
  · cases h
  · rw [skipSpace_stripChars] at h
    split at h
    · cases h
    · next v rest hread =>
      split at h
      · cases h
        exact head?_of_readValue_obj hread
      · cases h

namespace Action

/-- A text that spells an action object holds it. -/
theorem decodeText?_of_parse {s type : String} {fs : Fields}
    (h : Json.parse (Text.strip s) = .ok (.obj fs)) (htype : Fields.value fs "type" = .str type) :
    decodeText? s = .ok (some fs) := by
  have hhead := Json.head?_of_parse_strip h
  rw [Json.parse, Text.strip, String.toList_ofList] at h
  simp [decodeText?, hhead, h, htype, Json.text?]

end Action

namespace Component

/-- A component that was read has the action of its record. -/
theorem canonical_of_ofJson {place : String} {fs : Fields} (hfs : (Json.obj fs).WellFormed)
    {c : Component} (h : ofJson place (.obj fs) = .ok c) :
    c.Canonical ∧ Action.ofJson? (Fields.value fs "action") = .ok c.action := by
  obtain ⟨gs, id, action, hgs, -, hid, haction, rfl⟩ := ofJson_eq_ok_iff.mp h
  cases hgs
  exact ⟨ofFields_canonical hid hfs haction, haction⟩

end Component

end Reading

namespace ActionForm

section

variable [Json.Limits]

theorem token?_of_text {s type : String} {fs : Fields}
    (htype : Fields.value fs "type" = .str type)
    (h : Json.parse (Text.strip s) = .ok (.obj fs)) :
    (stored (.str s)).token? = (stored (.obj fs)).token? := by
  simp only [token?, action?, Action.ofJson?, Action.decodeText?_of_parse h htype]
  rfl

/-- All encodings of an action object have its token. Whatever is read as an action has the same
token after it was written back, and null, texts and objects are written back as they are. On a
component that is written and read again, the button does what it did. Without limits on the reader
every value is read. -/
theorem one_token_kept_by_storage :
    (∀ (fs : Fields) (type s : String), Fields.value fs "type" = .str type →
        Json.parse (Text.strip s) = .ok (.obj fs) →
        ∃ ofText ofObject, Action.ofJson? (.str s) = .ok ofText ∧
          Action.ofJson? (.obj fs) = .ok ofObject ∧
          ∀ form ∈ [stored (.str s), read ofText, read ofObject],
            form.token? = (stored (.obj fs)).token?) ∧
      (∀ raw action, Action.ofJson? raw = .ok action →
        ∃ again, Action.ofJson? (Action.toJson? action) = .ok again ∧
          (read again).token? = (read action).token? ∧
          (raw = .null ∨ (∃ s, raw = .str s) ∨ (∃ fs, raw = .obj fs) →
            Action.toJson? action = raw)) ∧
      (Json.Unlimited → ∀ raw, ∃ action, Action.ofJson? raw = .ok action) ∧
      ∀ (place : String) (fs : Fields) (c : Component), (Json.obj fs).WellFormed →
        Component.ofJson place (.obj fs) = .ok c →
        ∃ again, Component.ofJson place c.toJson = .ok again ∧
          (∀ ctx, View.press ctx again.action = View.press ctx c.action) ∧
          (Action.isCoerced (Fields.value fs "action") = false →
            Fields.value c.toFields "action" = Fields.value fs "action") := by
  refine ⟨?_, ?_, ?_, ?_⟩
  · intro fs type s htype hs
    have htoken := token?_of_text htype hs
    have htext : Action.ofJson? (.str s) = .ok (some (Action.ofText s (some fs))) := by
      rw [Action.ofJson?, Action.decodeText?_of_parse hs htype]
      rfl
    refine ⟨_, _, htext, rfl, fun form hform => ?_⟩
    simp only [List.mem_cons, List.not_mem_nil, or_false] at hform
    rcases hform with rfl | rfl | rfl <;> first | exact htoken | rfl
  · intro raw action haction
    refine ⟨action, Action.ofJson?_toJson? haction, rfl, fun hraw => ?_⟩
    apply Action.toJson?_ofJson? haction
    rcases hraw with rfl | ⟨s, rfl⟩ | ⟨fs, rfl⟩ <;> rfl
  · intro hjson raw
    exact Action.ofJson?_isOk_iff.mpr fun s _ => Action.decodeText?_ne hjson s
  · intro place fs c hfs hc
    obtain ⟨hcanonical, haction⟩ := Component.canonical_of_ofJson hfs hc
    refine ⟨c, hcanonical.ofJson_toJson place, fun _ => rfl, ?_⟩
    intro hkept
    rw [hcanonical.value_action, Action.toJson?_ofJson? haction hkept]

end

/-- The fields of a toast without parameters. -/
def bareToast : Fields :=
  [("type", .str "@toast"), ("params", .null)]

/-- The toast written out between a no-break space and a new line. -/
def paddedToast : String :=
  "\u00a0" ++ Json.compactText (.obj bareToast) ++ "\n"

/-- The padded text has the token of its object, and a list keeps the token of the name that it
displays as. -/
theorem padded_toast_resolves :
    Json.parse (Text.strip paddedToast) = .ok (.obj bareToast) ∧
      (stored (.str paddedToast)).token? = (stored (.obj bareToast)).token? ∧
      ∃ action again, Action.ofJson? (.arr [.obj bareToast]) = .ok action ∧
        Action.ofJson? (Action.toJson? action) = .ok again ∧
        (read again).token? = (read action).token? := by
  have hstrip : Text.strip paddedToast = Json.compactText (.obj bareToast) := by decide +kernel
  have hparse : Json.parse (Text.strip paddedToast) = .ok (.obj bareToast) := by
    rw [hstrip]
    refine Json.parse_compactText ?_ (by decide)
    simp [bareToast, Json.wellFormed_obj, Fields.DistinctKeys]
  obtain ⟨hencodings, hstorage, -⟩ := one_token_kept_by_storage
  obtain ⟨_, _, _, _, hforms⟩ := hencodings _ "@toast" _ rfl hparse
  obtain ⟨again, hagain, htoken, -⟩ := hstorage (.arr [.obj bareToast]) _ rfl
  exact ⟨hparse, hforms _ List.mem_cons_self, _, again, rfl, hagain, htoken⟩

end ActionForm

end PageBuilder
