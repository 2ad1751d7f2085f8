import PageBuilder.Document.Published
import PageBuilder.Json.Acceptance
import PageBuilder.Proofs.Normalization

/-! # Shapes of stored values

The JSON Schema of a shape accepts exactly the values that have the shape. What having a shape says
of the fields of a record, and which relations between values keep a shape: above all, completing a
record keeps its shape if the defaults have the shapes of their fields. -/

namespace PageBuilder

/-! ### Keywords -/

namespace Json

theorem keywordsAccept_cons (k : String × Json) (ks : Fields) (v : Json) :
    keywordsAccept (k :: ks) v = (keywordsAccept [k] v && keywordsAccept ks v) := by
  obtain ⟨name, argument⟩ := k
  rw [keywordsAccept.eq_def, keywordsAccept.eq_def [_]]
  simp only [keywordsAccept, Bool.and_true]

theorem keywordsAccept_append (ks ks' : Fields) (v : Json) :
    keywordsAccept (ks ++ ks') v = (keywordsAccept ks v && keywordsAccept ks' v) := by
  induction ks with
  | nil => simp [keywordsAccept]
  | cons k ks ih =>
      rw [List.cons_append, keywordsAccept_cons, ih, keywordsAccept_cons k ks, Bool.and_assoc]

theorem isAtLeast_int (bound n : Int) : isAtLeast bound (.int n) = decide (bound ≤ n) := rfl

theorem hasMinLength_one (s : String) : hasMinLength 1 (.str s) = (s != "") := by
  rw [Bool.eq_iff_iff, bne_iff_ne, ne_eq, ← String.length_eq_zero_iff]
  simp only [hasMinLength, decide_eq_true_eq]
  omega

theorem hasMinItems_one (xs : List Json) : hasMinItems 1 (.arr xs) = !xs.isEmpty := by
  cases xs with
  | nil => rfl
  | cons x xs =>
      simp only [hasMinItems, List.length_cons, List.isEmpty_cons, Bool.not_false,
        decide_eq_true_eq]
      omega

theorem hasAll_map_str (names : List String) (fs : Fields) :
    hasAll (names.map .str) (.obj fs) = names.all (Fields.has fs) := by
  simp [hasAll, text?, Function.comp_def]

end Json

namespace Shape

open Json (accepts keywordsAccept hasTypeIn hasType)

/-- A record is accepted by its JSON Schema if its properties are. -/
theorem accepts_record (required : List String) {properties : List (String × Shape)}
    (hproperties : ∀ fs,
      Json.propertiesAccept (propertyKeywords properties) fs = propertiesConform properties fs)
    (v : Json) :
    (record required properties).toJson.accepts v = (record required properties).conforms v := by
  cases v with
  | obj fs =>
      have hrequired : keywordsAccept
          (if required.isEmpty then [] else [("required", .arr (required.map .str))]) (.obj fs) =
            required.all (Fields.has fs) := by
        cases required with
        | nil => simp [keywordsAccept]
        | cons name names =>
            simpa [keywordsAccept] using Json.hasAll_map_str (name :: names) fs
      have hpresent : keywordsAccept
          (if properties.isEmpty then [] else [("properties", .obj (propertyKeywords properties))])
            (.obj fs) = propertiesConform properties fs := by
        rw [← hproperties fs]
        cases properties with
        | nil => simp [keywordsAccept, propertyKeywords, Json.propertiesAccept]
        | cons p ps => simp [keywordsAccept, Json.fields?]
      rw [toJson, keywords, accepts, Json.keywordsAccept_append, Json.keywordsAccept_cons,
        hrequired, hpresent]
      simp [keywordsAccept, typeKeyword, hasTypeIn, hasType, conforms]
  | _ => simp [toJson, keywords, typeKeyword, accepts, keywordsAccept, hasTypeIn, hasType, conforms]

mutual

/-- The JSON Schema of a shape accepts exactly the values that have the shape. -/
theorem accepts_toJson : (s : Shape) → (v : Json) → s.toJson.accepts v = s.conforms v
  | .anything, v => by simp [toJson, keywords, accepts, keywordsAccept, conforms]
  | .text nonEmpty, v => by
    cases nonEmpty <;> cases v <;>
      simp [toJson, keywords, typeKeyword, accepts, keywordsAccept, hasTypeIn, hasType, conforms,
        Json.hasMinLength_one]
  | .textOrNull, v | .numberOrText, v => by
    cases v <;>
      simp [toJson, keywords, accepts, keywordsAccept, hasTypeIn, hasType, Json.text?, conforms]
  | .flag, v => by
    cases v <;>
      simp [toJson, keywords, typeKeyword, accepts, keywordsAccept, hasTypeIn, hasType, conforms]
  | .integer nonNegative, v => by
    cases nonNegative <;> cases v <;>
      simp [toJson, keywords, typeKeyword, accepts, keywordsAccept, hasTypeIn, hasType, conforms,
        Json.isAtLeast_int]
  | .list nonEmpty items, v => by
    have hitems : accepts (.obj items.keywords) = items.conforms := funext (accepts_toJson items)
    cases nonEmpty <;> cases v <;>
      simp [toJson, keywords, typeKeyword, accepts, keywordsAccept, hasTypeIn, hasType, conforms,
        Json.items?, hitems, Json.hasMinItems_one]
  | .record required properties, v =>
    accepts_record required (propertiesAccept_propertyKeywords properties) v
  | .oneOf options, v => by
    simp [toJson, keywords, accepts, keywordsAccept, conforms, acceptCount_optionKeywords options]

theorem propertiesAccept_propertyKeywords : (ps : List (String × Shape)) → (fs : Fields) →
    Json.propertiesAccept (propertyKeywords ps) fs = propertiesConform ps fs
  | [], fs => by simp [propertyKeywords, Json.propertiesAccept, propertiesConform]
  | p :: ps, fs => by
    have hfirst : accepts (.obj p.2.keywords) = p.2.conforms := funext (accepts_toJson p.2)
    have hrest := propertiesAccept_propertyKeywords ps fs
    simp [propertyKeywords, Json.propertiesAccept, propertiesConform, hfirst, hrest]

theorem acceptCount_optionKeywords : (options : List Shape) → (v : Json) →
    Json.acceptCount (optionKeywords options) v = conformCount options v
  | [], v => by simp [optionKeywords, Json.acceptCount, conformCount]
  | s :: ss, v => by
    have hfirst : accepts (.obj s.keywords) v = s.conforms v := accepts_toJson s v
    have hrest := acceptCount_optionKeywords ss v
    simp [optionKeywords, Json.acceptCount, conformCount, hfirst, hrest]

end

/-! ### What a shape says -/

/-- The value has the shape. -/
def Fits (s : Shape) (v : Json) : Prop :=
  s.conforms v = true

instance (s : Shape) (v : Json) : Decidable (s.Fits v) :=
  inferInstanceAs (Decidable (_ = true))

theorem fits_anyText_iff {v : Json} : anyText.Fits v ↔ v.IsText := by
  cases v <;> simp [Fits, anyText, conforms, Json.IsText]

theorem fits_someText_iff {v : Json} : someText.Fits v ↔ v.IsText ∧ v ≠ .str "" := by
  cases v <;> simp [Fits, someText, conforms, Json.IsText]

theorem fits_textOrNull_iff {v : Json} : textOrNull.Fits v ↔ v = .null ∨ v.IsText := by
  cases v <;> simp [Fits, conforms, Json.IsText]

theorem fits_flag_iff {v : Json} : flag.Fits v ↔ v.IsFlag := by
  cases v <;> simp [Fits, conforms, Json.IsFlag]

theorem fits_integer_iff {v : Json} : (integer false).Fits v ↔ ∃ n, v = .int n := by
  cases v <;> simp [Fits, conforms]

theorem fits_list_iff {nonEmpty : Bool} {items : Shape} {v : Json} :
    (list nonEmpty items).Fits v ↔ v.ListOf items.Fits ∧ (nonEmpty = true → v ≠ .arr []) := by
  cases v <;> cases nonEmpty <;> simp [Fits, conforms, Json.ListOf, and_comm]

theorem propertiesConform_iff {ps : List (String × Shape)} {fs : Fields} :
    propertiesConform ps fs = true ↔ ∀ p ∈ ps, fs.Typed p.1 p.2.Fits := by
  induction ps with
  | nil => simp [propertiesConform]
  | cons p ps ih =>
      rw [propertiesConform, Bool.and_eq_true, ih, List.forall_mem_cons]
      simp [Fields.Typed, Fits, Option.all_eq_true]

theorem fits_record_iff {required : List String} {properties : List (String × Shape)}
    {v : Json} :
    (record required properties).Fits v ↔ v.ObjectWith fun fs =>
      (∀ key ∈ required, (Fields.get? fs key).isSome) ∧
        ∀ p ∈ properties, fs.Typed p.1 p.2.Fits := by
  cases v <;>
    simp [Fits, conforms, Json.ObjectWith, propertiesConform_iff, Fields.has]

/-- A value that has a shape is not null if null has not. -/
theorem Fits.ne_null {s : Shape} {v : Json} (h : s.Fits v) (hnull : ¬ s.Fits .null) :
    v ≠ .null := by
  rintro rfl
  exact hnull h

/-! ### Relations that keep a shape -/

/-- What is related to a value of the shape has the shape. -/
def KeptBy (s : Shape) (r : Json → Json → Prop) : Prop :=
  ∀ v w, r v w → s.Fits v → s.Fits w

theorem keptBy_eq (s : Shape) : s.KeptBy (· = ·) := by
  rintro v _ rfl hv
  exact hv

/-- Completing a record keeps its shape if the defaults have the shapes of their fields, and if what
stands in the fields keeps theirs. -/
theorem keptBy_relates {c : Completion} {required : List String}
    {properties : List (String × Shape)}
    (hdefaults : ∀ p ∈ properties, c.defaults.Typed p.1 p.2.Fits)
    (hinner : ∀ p ∈ properties, p.2.KeptBy (c.kept p.1)) :
    (record required properties).KeptBy c.Relates := by
  intro v w hvw hv
  obtain ⟨fs, rfl, hrequired, hfs⟩ := fits_record_iff.mp hv
  cases w with
  | obj gs =>
      have hcompletes : c.Completes fs gs := hvw
      refine fits_record_iff.mpr ⟨gs, rfl, ?_, ?_⟩
      · intro key hkey
        have hfills := hcompletes key
        obtain ⟨v, hv⟩ := Option.isSome_iff_exists.mp (hrequired key hkey)
        rw [hv] at hfills
        cases hget : Fields.get? gs key with
        | none =>
            rw [hget] at hfills
            exact hfills.elim
        | some w => rfl
      · intro p hp w hw
        have hfills := hcompletes p.1
        rw [hw] at hfills
        cases hget : Fields.get? fs p.1 with
        | none =>
            rw [hget] at hfills
            exact hdefaults p hp w hfills.symm
        | some v =>
            rw [hget] at hfills
            exact hinner p hp v w hfills (hfs p hp v hget)
  | _ => cases hvw

theorem forall_fits_of_eachItem {c : Nat → Completion} {items : Shape}
    (h : ∀ index, items.KeptBy (c index).Relates) {index : Nat} {vs ws : List Json}
    (hvw : Completion.EachItem c index vs ws) (hvs : ∀ v ∈ vs, items.Fits v) :
    ∀ w ∈ ws, items.Fits w := by
  induction vs generalizing index ws with
  | nil =>
      cases ws with
      | nil => simp
      | cons w ws => exact hvw.elim
  | cons v vs ih =>
      cases ws with
      | nil => exact hvw.elim
      | cons w ws =>
          rw [List.forall_mem_cons] at hvs ⊢
          exact ⟨h index v w hvw.1 hvs.1, ih hvw.2 hvs.2⟩

/-- Completing the items of a list keeps the shape of the list. -/
theorem keptBy_relatesItems {c : Nat → Completion} {nonEmpty : Bool} {items : Shape}
    (h : ∀ index, items.KeptBy (c index).Relates) :
    (list nonEmpty items).KeptBy (Completion.RelatesItems c) := by
  intro v w hvw hv
  obtain ⟨⟨vs, rfl, hvs⟩, hne⟩ := fits_list_iff.mp hv
  cases w with
  | arr ws =>
      refine fits_list_iff.mpr ⟨⟨ws, rfl, forall_fits_of_eachItem h hvw hvs⟩, ?_⟩
      rintro hnonEmpty hws
      cases hws
      cases vs with
      | nil => exact hne hnonEmpty rfl
      | cons v vs => exact hvw.elim
  | _ => cases hvw

end Shape

end PageBuilder
