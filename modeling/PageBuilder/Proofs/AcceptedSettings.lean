import PageBuilder.Config
import PageBuilder.Proofs.DoubleRange
import PageBuilder.Proofs.JsonReading
import PageBuilder.Proofs.ReadRecords

/-! # Settings that are accepted

Settings are checked as they are given and then taken as colors, doubles, whole numbers and texts.
What is taken is as documented except where a value is at the edge of its check: a color with a new
line after its digits, a double that is not finite, a frame smaller than one. The fields of accepted
settings give the same settings again, unless the whole part of a frame is zero.

## Implementation notes

`Taken` says what every accepted setting is, `Documented` what it should be, and `Regular` is the
condition on the given values under which the two agree. -/

namespace PageBuilder

/-! ### Colors -/

namespace Text

/-- A hash and six or eight hexadecimal digits, and nothing after them. -/
def HexColorCode (s : String) : Prop :=
  ∃ digits, s.toList = '#' :: digits ∧ (∀ d ∈ digits, isHexDigit d = true) ∧
    (digits.length = 6 ∨ digits.length = 8)

theorem HexColorCode.getLast?_ne {s : String} (h : HexColorCode s) :
    s.toList.getLast? ≠ some '\n' := by
  obtain ⟨digits, hs, hdigits, -⟩ := h
  intro hlast
  have hmem : '\n' ∈ '#' :: digits := hs ▸ List.mem_of_getLast? hlast
  rcases List.mem_cons.mp hmem with hhash | hdigit
  · exact absurd hhash (by decide)
  · exact absurd (hdigits '\n' hdigit) (by decide)

theorem isHexColor_iff {s : String} :
    isHexColor s = true ↔ HexColorCode (String.ofList (dropFinalNewline s.toList)) := by
  unfold isHexColor HexColorCode
  rw [String.toList_ofList]
  generalize dropFinalNewline s.toList = cs
  split
  · simp [List.all_eq_true]
  · next hno =>
    constructor
    · nofun
    · rintro ⟨digits, rfl, -⟩
      exact absurd rfl (hno digits)

/-- The codes are the accepted colors without a new line at their end. -/
theorem hexColorCode_iff {s : String} :
    HexColorCode s ↔ isHexColor s = true ∧ s.toList.getLast? ≠ some '\n' := by
  rw [isHexColor_iff, dropFinalNewline]
  constructor
  · intro h
    rw [if_neg h.getLast?_ne, String.ofList_toList]
    exact ⟨h, h.getLast?_ne⟩
  · rintro ⟨h, hlast⟩
    rwa [if_neg hlast, String.ofList_toList] at h

end Text

/-! ### Values at the edge of a check -/

namespace Json

/-- Not a text with a new line at its end. -/
def NoFinalNewline (v : Json) : Prop :=
  ∀ s, v = .str s → s.toList.getLast? ≠ some '\n'

/-- Not `nan` or an infinite double. -/
def NotNonFinite (v : Json) : Prop :=
  ∀ x, v = .float x → x.finite?.isSome = true

/-- Not a double below one. -/
def NotBelowOne (v : Json) : Prop :=
  ∀ x, v = .float x → x.lt .one = false

theorem noFinalNewline_str {s : String} :
    (Json.str s).NoFinalNewline ↔ s.toList.getLast? ≠ some '\n' := by
  simp [NoFinalNewline]

theorem notNonFinite_float {x : Binary64} :
    (Json.float x).NotNonFinite ↔ x.finite?.isSome = true := by
  simp [NotNonFinite]

theorem notBelowOne_float {x : Binary64} :
    (Json.float x).NotBelowOne ↔ x.lt .one = false := by
  simp [NotBelowOne]

end Json

/-! ### Whole parts -/

namespace Binary64

/-- The whole part of a number above zero is zero exactly if the number is below one. -/
theorem truncate_of_pos {x : Binary64} {n : Int} (hx : x.le .zero = false)
    (h : x.truncate = .ok n) : 0 ≤ n ∧ (1 ≤ n ↔ x.lt .one = false) := by
  cases x with
  | nan | infinite => cases h
  | finite s r =>
      cases s with
      | true =>
          have hsign : zero.lt (.finite true r) = true := (zero_lt_iff_of_finite rfl).mpr hx
          cases hsign
      | false =>
          cases h
          have hone : one = .finite false ⟨1023 * Nat.pow 2 52, by decide⟩ := by decide +kernel
          have hwhole : 1 ≤ units r / unitsInOne ↔ ¬ units r < unitsInOne := by
            rw [Nat.le_div_iff_mul_le unitsInOne_pos, Nat.one_mul, Nat.not_lt]
          refine ⟨Int.natCast_nonneg _, ?_⟩
          rw [hone, lt, decide_eq_false_iff_not, Fin.lt_def, ← units_lt_unitsInOne_iff, ← hwhole]
          exact Int.ofNat_le

end Binary64

namespace Config

variable {fs : Fields} {key : String} {c : Config}

/-! ### What the checks let through -/

theorem color_eq_ok_iff {s : String} :
    color fs key = .ok s ↔ Fields.value fs key = .str s ∧ Text.isHexColor s = true := by
  unfold color
  cases Fields.value fs key with
  | str t =>
      by_cases ht : Text.isHexColor t = true
      · simp only [ht, if_true, Except.ok.injEq, Json.str.injEq]
        constructor
        · rintro rfl
          exact ⟨rfl, ht⟩
        · rintro ⟨rfl, -⟩
          rfl
      · simp only [ht, Json.str.injEq]
        constructor
        · nofun
        · rintro ⟨rfl, hs⟩
          exact absurd hs ht
  | _ => simp

theorem checkPositive_eq_ok_iff :
    checkPositive fs key = .ok () ↔
      (∃ n, Fields.value fs key = .int n ∧ 0 < n) ∨
        ∃ x, Fields.value fs key = .float x ∧ x.le .zero = false := by
  unfold checkPositive
  cases Fields.value fs key with
  | int n =>
      by_cases hn : 0 < n
      · simp [signs?, hn, Int.not_le.mpr hn]
      · simp [signs?, hn, Int.not_lt.mp hn]
  | float x => cases hx : x.le .zero <;> simp [signs?, hx]
  | _ => simp [signs?]

theorem checkPositive_iff_of_int {n : Int}
    (hvalue : Fields.value fs key = .int n) : checkPositive fs key = .ok () ↔ 0 < n := by
  simp [checkPositive_eq_ok_iff, hvalue]

theorem checkNotNegative_eq_ok_iff :
    checkNotNegative fs key = .ok () ↔
      (∃ n, Fields.value fs key = .int n ∧ 0 ≤ n) ∨
        ∃ x, Fields.value fs key = .float x ∧ x.lt .zero = false := by
  unfold checkNotNegative
  cases Fields.value fs key with
  | int n =>
      by_cases hn : 0 ≤ n
      · simp [signs?, hn, Int.not_lt.mpr hn]
      · simp [signs?, hn, Int.not_le.mp hn]
  | float x => cases hx : x.lt .zero <;> simp [signs?, hx]
  | _ => simp [signs?]

theorem stem_eq_ok_iff {s : String} :
    stem fs key = .ok s ↔ Fields.value fs key = .str s ∧ Text.blank s = false := by
  rw [← identifier?_eq_some_iff]
  unfold stem
  cases identifier? (Fields.value fs key) <;> simp

theorem double_eq_ok_iff_of_int {n : Int} {x : Binary64}
    (hvalue : Fields.value fs key = .int n) :
    double fs key = .ok x ↔ Binary64.ofInt? n = some x := by
  rw [double, Except.mapError_eq_ok_iff, hvalue, TypedProps.doubleOr, toDouble]
  cases Binary64.ofInt? n <;> simp

theorem double_eq_ok_iff_of_float {x y : Binary64}
    (hvalue : Fields.value fs key = .float y) : double fs key = .ok x ↔ y = x := by
  rw [double, Except.mapError_eq_ok_iff, hvalue, TypedProps.doubleOr]
  simp only [Except.ok.injEq]

/-- The doubles that are taken are finite unless a double that is not was given. -/
theorem isSome_finite?_of_double {x : Binary64}
    (h : double fs key = .ok x) :
    x.finite?.isSome = true ↔ (Fields.value fs key).NotNonFinite := by
  cases hvalue : Fields.value fs key with
  | int n =>
      obtain ⟨r, rfl, -⟩ := Binary64.ofInt?_eq_some ((double_eq_ok_iff_of_int hvalue).mp h)
      exact iff_of_true rfl nofun
  | float y =>
      cases (double_eq_ok_iff_of_float hvalue).mp h
      exact Json.notNonFinite_float.symm
  | _ =>
      rw [double, hvalue] at h
      cases h
      exact iff_of_true rfl nofun

/-- A double is taken with the sign of the number that was checked. -/
theorem le_zero_of_double {x : Binary64}
    (hcheck : checkPositive fs key = .ok ()) (h : double fs key = .ok x) :
    x.le .zero = false := by
  rcases checkPositive_eq_ok_iff.mp hcheck with ⟨n, hvalue, hn⟩ | ⟨y, hvalue, hy⟩
  · exact Binary64.ofInt?_pos ((double_eq_ok_iff_of_int hvalue).mp h) hn
  · rwa [← (double_eq_ok_iff_of_float hvalue).mp h]

theorem lt_zero_of_double {x : Binary64}
    (hcheck : checkNotNegative fs key = .ok ()) (h : double fs key = .ok x) :
    x.lt .zero = false := by
  rcases checkNotNegative_eq_ok_iff.mp hcheck with ⟨n, hvalue, hn⟩ | ⟨y, hvalue, hy⟩
  · exact Binary64.ofInt?_nonneg ((double_eq_ok_iff_of_int hvalue).mp h) hn
  · rwa [← (double_eq_ok_iff_of_float hvalue).mp h]

theorem whole_of_checkPositive {n : Int}
    (hcheck : checkPositive fs key = .ok ()) (h : whole fs key = .ok n) :
    0 ≤ n ∧ (1 ≤ n ↔ (Fields.value fs key).NotBelowOne) := by
  unfold whole at h
  rcases checkPositive_eq_ok_iff.mp hcheck with ⟨m, hvalue, hm⟩ | ⟨x, hvalue, hx⟩
  · rw [hvalue] at h ⊢
    cases h
    exact ⟨hm.le, iff_of_true hm nofun⟩
  · rw [hvalue] at h ⊢
    have htruncate : x.truncate = .ok n :=
      Except.mapError_eq_ok_iff.mp (Except.mapError_eq_ok_iff.mp h)
    obtain ⟨hn, hone⟩ := Binary64.truncate_of_pos hx htruncate
    exact ⟨hn, hone.trans Json.notBelowOne_float.symm⟩

/-! ### All settings -/

/-- The checks that given settings pass, and what is taken of them. -/
structure Takes (fs : Fields) (c : Config) : Prop where
  primaryColor : color fs "primary_color" = .ok c.primaryColor
  secondaryColor : color fs "secondary_color" = .ok c.secondaryColor
  positive : ∀ key ∈ ["page_inset_px", "image_height_px", "frame_width_px", "frame_height_px"],
    checkPositive fs key = .ok ()
  notNegative : checkNotNegative fs "component_gap_px" = .ok ()
  componentStem : stem fs "component_id_prefix" = .ok c.componentStem
  pageStem : stem fs "page_id_prefix" = .ok c.pageStem
  logLevel : level fs "log_level" = .ok c.logLevel
  pageInset : double fs "page_inset_px" = .ok c.pageInset
  componentGap : double fs "component_gap_px" = .ok c.componentGap
  imageHeight : double fs "image_height_px" = .ok c.imageHeight
  frameWidth : whole fs "frame_width_px" = .ok c.frameWidth
  frameHeight : whole fs "frame_height_px" = .ok c.frameHeight

theorem ofAllFields_eq_ok_iff :
    ofAllFields fs = .ok c ↔ Takes fs c := by
  constructor
  · intro h
    simp only [ofAllFields, Except.bind_eq_ok_iff] at h
    obtain ⟨primary, hprimary, secondary, hsecondary, _, hinset, _, hheight, _, hframeWidth, _,
      hframeHeight, _, hgap, stem, hstem, pageStem, hpageStem, level, hlevel, inset, hpageInset,
      gap, hcomponentGap, height, himageHeight, width, hwidth, tall, htall, hc⟩ := h
    cases hc
    refine ⟨hprimary, hsecondary, ?_, hgap, hstem, hpageStem, hlevel, hpageInset, hcomponentGap,
      himageHeight, hwidth, htall⟩
    simp only [List.forall_mem_cons]
    exact ⟨hinset, hheight, hframeWidth, hframeHeight, nofun⟩
  · intro h
    have hpositive := h.positive
    simp only [List.forall_mem_cons] at hpositive
    obtain ⟨hinset, hheight, hframeWidth, hframeHeight, -⟩ := hpositive
    simp only [ofAllFields, h.primaryColor, h.secondaryColor, hinset, hheight, hframeWidth,
      hframeHeight, h.notNegative, h.componentStem, h.pageStem, h.logLevel, h.pageInset,
      h.componentGap, h.imageHeight, h.frameWidth, h.frameHeight]
    rfl

/-- The defaults with the overrides in their places. -/
def given (overrides : Fields) : Fields :=
  Fields.merge (toFields {}) overrides

theorem takes_of_ofFields {overrides : Fields} (h : ofFields overrides = .ok c) :
    Takes (given overrides) c := by
  simp only [ofFields] at h
  split at h
  · cases h
  · exact ofAllFields_eq_ok_iff.mp h

/-- Settings as they are documented. -/
structure Documented (c : Config) : Prop where
  primaryColor : Text.HexColorCode c.primaryColor
  secondaryColor : Text.HexColorCode c.secondaryColor
  pageInset : c.pageInset.finite?.isSome = true ∧ Binary64.zero.lt c.pageInset = true
  imageHeight : c.imageHeight.finite?.isSome = true ∧ Binary64.zero.lt c.imageHeight = true
  frameWidth : 1 ≤ c.frameWidth
  frameHeight : 1 ≤ c.frameHeight
  componentGap : c.componentGap.finite?.isSome = true ∧ Binary64.zero.le c.componentGap = true
  componentStem : Text.blank c.componentStem = false
  pageStem : Text.blank c.pageStem = false
  logLevel : c.logLevel.name ∈ ["DEBUG", "INFO", "WARNING", "ERROR", "CRITICAL"]

/-- What all accepted settings are: a color is a code up to one new line at its end, a number is on
the right side of zero as far as it is a number, and a frame may be zero. -/
structure Taken (c : Config) : Prop where
  primaryColor : Text.HexColorCode (String.ofList (Text.dropFinalNewline c.primaryColor.toList))
  secondaryColor :
    Text.HexColorCode (String.ofList (Text.dropFinalNewline c.secondaryColor.toList))
  pageInset : c.pageInset.le .zero = false
  imageHeight : c.imageHeight.le .zero = false
  frameWidth : 0 ≤ c.frameWidth
  frameHeight : 0 ≤ c.frameHeight
  componentGap : c.componentGap.lt .zero = false
  componentStem : Text.blank c.componentStem = false
  pageStem : Text.blank c.pageStem = false
  logLevel : c.logLevel.name ∈ ["DEBUG", "INFO", "WARNING", "ERROR", "CRITICAL"]

/-- No given value is at the edge of its check. -/
structure Regular (fs : Fields) : Prop where
  primaryColor : (Fields.value fs "primary_color").NoFinalNewline
  secondaryColor : (Fields.value fs "secondary_color").NoFinalNewline
  pageInset : (Fields.value fs "page_inset_px").NotNonFinite
  imageHeight : (Fields.value fs "image_height_px").NotNonFinite
  componentGap : (Fields.value fs "component_gap_px").NotNonFinite
  frameWidth : (Fields.value fs "frame_width_px").NotBelowOne
  frameHeight : (Fields.value fs "frame_height_px").NotBelowOne

theorem Takes.taken (h : Takes fs c) : c.Taken where
  primaryColor := Text.isHexColor_iff.mp (color_eq_ok_iff.mp h.primaryColor).2
  secondaryColor := Text.isHexColor_iff.mp (color_eq_ok_iff.mp h.secondaryColor).2
  pageInset := le_zero_of_double (h.positive _ (by simp)) h.pageInset
  imageHeight := le_zero_of_double (h.positive _ (by simp)) h.imageHeight
  frameWidth := (whole_of_checkPositive (h.positive _ (by simp)) h.frameWidth).1
  frameHeight := (whole_of_checkPositive (h.positive _ (by simp)) h.frameHeight).1
  componentGap := lt_zero_of_double h.notNegative h.componentGap
  componentStem := (stem_eq_ok_iff.mp h.componentStem).2
  pageStem := (stem_eq_ok_iff.mp h.pageStem).2
  logLevel := by cases c.logLevel <;> decide

theorem hexColorCode_iff_of_color {s : String} (h : color fs key = .ok s) :
    Text.HexColorCode s ↔ (Fields.value fs key).NoFinalNewline := by
  obtain ⟨hvalue, hs⟩ := color_eq_ok_iff.mp h
  rw [Text.hexColorCode_iff, hvalue, Json.noFinalNewline_str]
  exact and_iff_right hs

theorem positive_iff_of_double {x : Binary64}
    (hcheck : checkPositive fs key = .ok ()) (h : double fs key = .ok x) :
    x.finite?.isSome = true ∧ Binary64.zero.lt x = true ↔
      (Fields.value fs key).NotNonFinite := by
  rw [← isSome_finite?_of_double h]
  refine and_iff_left_of_imp fun hfinite => ?_
  rw [Binary64.zero_lt_iff_of_finite hfinite]
  exact le_zero_of_double hcheck h

theorem notNegative_iff_of_double {x : Binary64}
    (hcheck : checkNotNegative fs key = .ok ()) (h : double fs key = .ok x) :
    x.finite?.isSome = true ∧ Binary64.zero.le x = true ↔
      (Fields.value fs key).NotNonFinite := by
  rw [← isSome_finite?_of_double h]
  refine and_iff_left_of_imp fun hfinite => ?_
  rw [Binary64.zero_le_iff_of_finite hfinite]
  exact lt_zero_of_double hcheck h

theorem Takes.documented_iff_regular (h : Takes fs c) : c.Documented ↔ Regular fs := by
  have hprimary := hexColorCode_iff_of_color h.primaryColor
  have hsecondary := hexColorCode_iff_of_color h.secondaryColor
  have hinset := positive_iff_of_double (h.positive _ (by simp)) h.pageInset
  have himage := positive_iff_of_double (h.positive _ (by simp)) h.imageHeight
  have hgap := notNegative_iff_of_double h.notNegative h.componentGap
  have hwidth := (whole_of_checkPositive (h.positive _ (by simp)) h.frameWidth).2
  have hheight := (whole_of_checkPositive (h.positive _ (by simp)) h.frameHeight).2
  constructor
  · intro hc
    exact ⟨hprimary.mp hc.primaryColor, hsecondary.mp hc.secondaryColor, hinset.mp hc.pageInset,
      himage.mp hc.imageHeight, hgap.mp hc.componentGap, hwidth.mp hc.frameWidth,
      hheight.mp hc.frameHeight⟩
  · intro hfs
    exact ⟨hprimary.mpr hfs.primaryColor, hsecondary.mpr hfs.secondaryColor,
      hinset.mpr hfs.pageInset, himage.mpr hfs.imageHeight, hwidth.mpr hfs.frameWidth,
      hheight.mpr hfs.frameHeight, hgap.mpr hfs.componentGap, h.taken.componentStem,
      h.taken.pageStem, h.taken.logLevel⟩

/-! ### Settings given again -/

theorem level_toFields : level c.toFields "log_level" = .ok c.logLevel := by
  have hvalue : Fields.value c.toFields "log_level" = .str c.logLevel.name := rfl
  rw [level, hvalue]
  cases c.logLevel <;> rfl

/-- The fields of accepted settings pass every check but that of a frame that is zero. -/
theorem Taken.takes_toFields_iff (h : c.Taken) :
    Takes c.toFields c ↔ 1 ≤ c.frameWidth ∧ 1 ≤ c.frameHeight := by
  have hwidth : checkPositive c.toFields "frame_width_px" = .ok () ↔ 1 ≤ c.frameWidth :=
    checkPositive_iff_of_int rfl
  have hheight : checkPositive c.toFields "frame_height_px" = .ok () ↔ 1 ≤ c.frameHeight :=
    checkPositive_iff_of_int rfl
  rw [← hwidth, ← hheight]
  constructor
  · intro hc
    exact ⟨hc.positive _ (by simp), hc.positive _ (by simp)⟩
  · rintro ⟨hframeWidth, hframeHeight⟩
    exact {
      primaryColor := color_eq_ok_iff.mpr ⟨rfl, Text.isHexColor_iff.mpr h.primaryColor⟩
      secondaryColor := color_eq_ok_iff.mpr ⟨rfl, Text.isHexColor_iff.mpr h.secondaryColor⟩
      positive := by
        simp only [List.forall_mem_cons]
        exact ⟨checkPositive_eq_ok_iff.mpr (.inr ⟨_, rfl, h.pageInset⟩),
          checkPositive_eq_ok_iff.mpr (.inr ⟨_, rfl, h.imageHeight⟩), hframeWidth, hframeHeight,
          nofun⟩
      notNegative := checkNotNegative_eq_ok_iff.mpr (.inr ⟨_, rfl, h.componentGap⟩)
      componentStem := stem_eq_ok_iff.mpr ⟨rfl, h.componentStem⟩
      pageStem := stem_eq_ok_iff.mpr ⟨rfl, h.pageStem⟩
      logLevel := level_toFields
      pageInset := rfl
      componentGap := rfl
      imageHeight := rfl
      frameWidth := rfl
      frameHeight := rfl }

/-- Accepted settings are as documented, and their fields give the same settings again, exactly if
no given value is at the edge of its check: a color ends with its digits, the inset, the image
height and the gap are finite, and a frame is at least one. The fields alone give the same settings
exactly if no frame is zero. -/
theorem documented_and_fixed_iff_regular {overrides : Fields}
    (h : ofFields overrides = .ok c) :
    (c.Documented ∧ ofFields c.toFields = .ok c ↔ Regular (given overrides)) ∧
      (ofFields c.toFields = .ok c ↔ 1 ≤ c.frameWidth ∧ 1 ≤ c.frameHeight) ∧ c.Taken := by
  have htakes : Takes (given overrides) c := takes_of_ofFields h
  have hfixed : ofFields c.toFields = .ok c ↔ 1 ≤ c.frameWidth ∧ 1 ≤ c.frameHeight := by
    have hknown : ofFields c.toFields = ofAllFields c.toFields := rfl
    rw [hknown, ofAllFields_eq_ok_iff, htakes.taken.takes_toFields_iff]
  refine ⟨?_, hfixed, htakes.taken⟩
  rw [← htakes.documented_iff_regular, hfixed]
  exact and_iff_left_of_imp fun hc => ⟨hc.frameWidth, hc.frameHeight⟩

/-- Settings of the least size, and a gap of negative zero. -/
def leastSettings : Fields := [
  ("primary_color", .str "#A1b2C3d4"),
  ("frame_width_px", .float .one),
  ("frame_height_px", .int 1),
  ("component_gap_px", .float (-.zero)),
  ("page_inset_px", .float (.finite false ⟨1, by decide⟩)),
  ("log_level", .str "debug")]

/-- What they are taken for. -/
def leastConfig : Config where
  primaryColor := "#A1b2C3d4"
  frameWidth := 1
  frameHeight := 1
  componentGap := -.zero
  pageInset := .finite false ⟨1, by decide⟩
  logLevel := .debug

theorem least_settings_documented :
    ofFields leastSettings = .ok leastConfig ∧ leastConfig.Documented ∧
      ofFields leastConfig.toFields = .ok leastConfig := by
  have h : ofFields leastSettings = .ok leastConfig := by decide +kernel
  have hregular : Regular (given leastSettings) := {
    primaryColor := Json.noFinalNewline_str.mpr (by decide +kernel)
    secondaryColor := Json.noFinalNewline_str.mpr (by decide +kernel)
    pageInset := Json.notNonFinite_float.mpr rfl
    imageHeight := Json.notNonFinite_float.mpr (by decide +kernel)
    componentGap := Json.notNonFinite_float.mpr rfl
    frameWidth := Json.notBelowOne_float.mpr (by decide +kernel)
    frameHeight := nofun }
  exact ⟨h, (documented_and_fixed_iff_regular h).1.mpr hregular⟩

/-- A frame that is half a pixel wide. -/
def narrowSettings : Fields :=
  [("frame_width_px", .float (.finite false ⟨1022 * Nat.pow 2 52, by decide⟩))]

/-- The narrow frame is accepted with a width of zero, which is refused when it is given again. -/
theorem not_all_accepted_documented :
    ¬ ∀ overrides c, ofFields overrides = .ok c →
      c.Documented ∧ ofFields c.toFields = .ok c := by
  intro hall
  have h : ofFields narrowSettings = .ok { frameWidth := 0 } := by decide +kernel
  exact absurd (hall _ _ h).1.frameWidth (by decide)

end Config

end PageBuilder
