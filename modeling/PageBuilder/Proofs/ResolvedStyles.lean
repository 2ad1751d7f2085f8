import PageBuilder.Proofs.RecordCodec
import PageBuilder.View.Component

/-! # Resolved styles resolve to themselves

What a style resolves to is said key by key. A whole box keeps its key if it is a number; a side of
a box takes the value inside the object form, and without one the value under its own key; a plain
key keeps its value. A resolved style has no object form of a box, so a second pass finds every
value where the first one put it.

## Implementation notes

The order of the keys is not part of this: a side that only the object form gives comes after the
sides with a key of their own, and a second pass puts all of them into the order of the sides. -/

namespace PageBuilder

namespace Style

/-! ### Keys and values -/

/-- The keys of a resolved style for one box. -/
def boxKeys (box : Box) : List String :=
  box.name :: Side.all.map (sideKey box)

/-- The keys of a resolved style. -/
def keys : List String :=
  boxKeys .margin ++ (boxKeys .padding ++ plainKeys)

theorem keys_nodup : keys.Nodup := by
  decide

theorem rest_nodup : (boxKeys .padding ++ plainKeys).Nodup :=
  (List.nodup_append'.mp keys_nodup).2.1

theorem boxKeys_nodup (box : Box) : (boxKeys box).Nodup := by
  cases box <;> decide

theorem Side.mem_all (side : Side) : side ∈ Side.all := by
  cases side <;> decide

/-- What a whole box keeps: a number. -/
def wholeValue? : Json → Option Json
  | .int n => some (.int n)
  | .float x => some (.float x)
  | _ => none

/-- What the object form of a box gives for a side. -/
def sideValue? (side : Side) : Json → Option Json
  | .obj sides => (Fields.value sides side.name).unlessNull
  | _ => none

/-- What a plain key keeps: anything but null and the empty text. -/
def plainValue? : Json → Option Json
  | .str "" => none
  | v => v.unlessNull

theorem wholeValue?_ne_null (v : Json) : wholeValue? v ≠ some .null := by
  cases v <;> simp [wholeValue?]

theorem sideValue?_ne_null (side : Side) (v : Json) : sideValue? side v ≠ some .null := by
  cases v with
  | obj sides => exact Json.unlessNull_ne_null _
  | _ => simp [sideValue?]

theorem plainValue?_ne_null (v : Json) : plainValue? v ≠ some .null := by
  unfold plainValue?
  split
  · simp
  · exact Json.unlessNull_ne_null _

/-- A number is kept again. -/
theorem wholeValue?_wholeValue? (v : Json) :
    wholeValue? ((wholeValue? v).getD .null) = wholeValue? v := by
  cases v <;> rfl

/-- What a whole box keeps is no object form. -/
theorem sideValue?_wholeValue? (side : Side) (v : Json) :
    sideValue? side ((wholeValue? v).getD .null) = none := by
  cases v <;> rfl

theorem plainValue?_plainValue? (v : Json) :
    plainValue? ((plainValue? v).getD .null) = plainValue? v := by
  cases v with
  | str s =>
      by_cases hs : s = ""
      · subst hs
        rfl
      · have hkept : plainValue? (.str s) = some (.str s) := by
          simp [plainValue?, hs, Json.unlessNull, Json.isNull]
        rw [hkept, Option.getD_some, hkept]
  | _ => rfl

/-! ### The parts of a resolved style -/

theorem present_eq (key : String) (v : Json) :
    present key v = Fields.present [(key, v.unlessNull)] :=
  unlessNull_field key v

theorem presentText_eq (key : String) (v : Json) :
    presentText key v = Fields.present [(key, plainValue? v)] := by
  unfold presentText
  split
  · rfl
  · next hne =>
    have hkept : plainValue? v = v.unlessNull := by
      unfold plainValue?
      split
      · exact absurd rfl hne
      · rfl
    rw [hkept, present_eq]

theorem flatMap_present {α : Type} (xs : List α) (slot : α → String × Option Json) :
    (xs.flatMap fun x => Fields.present [slot x]) = Fields.present (xs.map slot) := by
  induction xs with
  | nil => rfl
  | cons x xs ih =>
      rw [List.flatMap_cons, ih, ← Fields.present_append, List.map_cons, List.singleton_append]

/-- The sides of a box under keys of their own. -/
def flatSlots (style : Fields) (box : Box) : List (String × Option Json) :=
  Side.all.map fun side =>
    (sideKey box side, (Fields.value style (sideKey box side)).unlessNull)

/-- What the value of a whole box gives. -/
def wholeSlots (box : Box) (v : Json) : List (String × Option Json) :=
  (box.name, wholeValue? v) :: Side.all.map fun side => (sideKey box side, sideValue? side v)

/-- The plain keys. -/
def plainSlots (style : Fields) : List (String × Option Json) :=
  plainKeys.map fun key => (key, plainValue? (Fields.value style key))

theorem flatSlots_nodup (style : Fields) (box : Box) :
    ((flatSlots style box).map Prod.fst).Nodup :=
  (List.nodup_cons.mp (boxKeys_nodup box)).2

theorem wholeSlots_nodup (box : Box) (v : Json) : ((wholeSlots box v).map Prod.fst).Nodup :=
  boxKeys_nodup box

theorem plainSlots_nodup (style : Fields) : ((plainSlots style).map Prod.fst).Nodup :=
  (List.nodup_append'.mp rest_nodup).2.1

theorem boxFields_eq (box : Box) (v : Json) :
    boxFields box v = Fields.present (wholeSlots box v) := by
  cases v with
  | obj sides =>
      simp only [boxFields, present_eq, flatMap_present]
      rfl
  | _ => rfl

theorem resolveBox_eq (style : Fields) (box : Box) :
    resolveBox style box =
      Fields.merge (Fields.present (flatSlots style box))
        (Fields.present (wholeSlots box (Fields.value style box.name))) := by
  simp only [resolveBox, present_eq, flatMap_present, boxFields_eq, flatSlots]

theorem resolve_eq (style : Fields) :
    resolve style = resolveBox style .margin ++ (resolveBox style .padding ++
      Fields.present (plainSlots style)) := by
  simp [resolve, Box.all, presentText_eq, flatMap_present, plainSlots]

variable {style : Fields} {box : Box}

theorem flat_within (style : Fields) (box : Box) :
    Fields.Within (Side.all.map (sideKey box)) (Fields.present (flatSlots style box)) :=
  .present (flatSlots_nodup style box)

theorem whole_within (box : Box) (v : Json) :
    Fields.Within (boxKeys box) (Fields.present (wholeSlots box v)) :=
  .present (wholeSlots_nodup box v)

theorem resolveBox_within (style : Fields) (box : Box) :
    Fields.Within (boxKeys box) (resolveBox style box) := by
  rw [resolveBox_eq]
  exact ((flat_within style box).mono (List.subset_cons_self _ _)).merge (whole_within box _)

theorem plain_within (style : Fields) :
    Fields.Within plainKeys (Fields.present (plainSlots style)) :=
  .present (plainSlots_nodup style)

theorem rest_within (style : Fields) :
    Fields.Within (boxKeys .padding ++ plainKeys)
      (resolveBox style .padding ++ Fields.present (plainSlots style)) :=
  .append rest_nodup (resolveBox_within style .padding) (plain_within style)

theorem resolve_within (style : Fields) : Fields.Within keys (resolve style) := by
  rw [resolve_eq]
  exact .append keys_nodup (resolveBox_within style .margin) (rest_within style)

/-! ### What a key of a resolved style holds -/

theorem get?_resolveBox (style : Fields) (box : Box) (key : String) :
    (resolveBox style box).get? key =
      ((Fields.present (wholeSlots box (Fields.value style box.name))).get? key).or
        ((Fields.present (flatSlots style box)).get? key) := by
  rw [resolveBox_eq, Fields.get?_merge (whole_within box _).distinct]

theorem get?_resolve_of_mem_boxKeys {key : String} (h : key ∈ boxKeys box) :
    (resolve style).get? key = (resolveBox style box).get? key := by
  rw [resolve_eq]
  cases box with
  | margin => exact (rest_within style).get?_append_left keys_nodup h
  | padding =>
      rw [(resolveBox_within style .margin).get?_append_right keys_nodup
        (List.mem_append_left plainKeys h)]
      exact (plain_within style).get?_append_left rest_nodup h

theorem get?_resolve_name (style : Fields) (box : Box) :
    (resolve style).get? box.name = wholeValue? (Fields.value style box.name) := by
  have hflat : (Fields.present (flatSlots style box)).get? box.name = none := by
    apply Fields.get?_eq_none_iff.mpr
    exact fun hmem =>
      (List.nodup_cons.mp (boxKeys_nodup box)).1 ((flat_within style box).keys_subset hmem)
  rw [get?_resolve_of_mem_boxKeys List.mem_cons_self, get?_resolveBox, hflat, Option.or_none]
  exact Fields.get?_present (wholeSlots_nodup box _) List.mem_cons_self

/-- The object form of a box wins over the key of the side. -/
theorem get?_resolve_sideKey (style : Fields) (box : Box) (side : Side) :
    (resolve style).get? (sideKey box side) =
      (sideValue? side (Fields.value style box.name)).or
        (Fields.value style (sideKey box side)).unlessNull := by
  have hslot (slot : Side → String × Option Json) : slot side ∈ Side.all.map slot :=
    List.mem_map_of_mem side.mem_all
  have hkey : sideKey box side ∈ boxKeys box :=
    List.mem_cons_of_mem _ (List.mem_map_of_mem side.mem_all)
  have hflat : (Fields.present (flatSlots style box)).get? (sideKey box side) =
      (Fields.value style (sideKey box side)).unlessNull :=
    Fields.get?_present (flatSlots_nodup style box) (hslot _)
  have hwhole :
      (Fields.present (wholeSlots box (Fields.value style box.name))).get? (sideKey box side) =
        sideValue? side (Fields.value style box.name) :=
    Fields.get?_present (wholeSlots_nodup box _) (List.mem_cons_of_mem _ (hslot _))
  rw [get?_resolve_of_mem_boxKeys hkey, get?_resolveBox, hflat, hwhole]

theorem get?_resolve_plain {key : String} (h : key ∈ plainKeys) :
    (resolve style).get? key = plainValue? (Fields.value style key) := by
  rw [resolve_eq, (resolveBox_within style .margin).get?_append_right keys_nodup
      (List.mem_append_right _ h),
    (resolveBox_within style .padding).get?_append_right rest_nodup h]
  exact Fields.get?_present (plainSlots_nodup style) (List.mem_map_of_mem h)

/-! ### A second pass -/

/-- The style `r` is what `style` resolves to, up to the order of its keys. -/
structure Resolves (style r : Fields) : Prop where
  distinct : r.DistinctKeys
  known : ∀ key ∈ r.keys, key ∈ keys
  not_null : ∀ f ∈ r, f.2 ≠ .null
  whole : ∀ box : Box, r.get? box.name = wholeValue? (Fields.value style box.name)
  /-- The object form of a box wins over the key of the side. -/
  side : ∀ box side, r.get? (sideKey box side) =
    (sideValue? side (Fields.value style box.name)).or
      (Fields.value style (sideKey box side)).unlessNull
  plain : ∀ key ∈ plainKeys, r.get? key = plainValue? (Fields.value style key)

theorem mem_keys_cases {key : String} (h : key ∈ keys) :
    (∃ box : Box, key = box.name) ∨ (∃ box side, key = sideKey box side) ∨ key ∈ plainKeys := by
  have hbox (box : Box) (h : key ∈ boxKeys box) :
      (∃ box : Box, key = box.name) ∨ (∃ box side, key = sideKey box side) ∨
        key ∈ plainKeys := by
    rcases List.mem_cons.mp h with hname | hside
    · exact .inl ⟨box, hname⟩
    · obtain ⟨side, -, hside⟩ := List.mem_map.mp hside
      exact .inr (.inl ⟨box, side, hside.symm⟩)
  rcases List.mem_append.mp h with hmargin | hrest
  · exact hbox .margin hmargin
  · rcases List.mem_append.mp hrest with hpadding | hplain
    · exact hbox .padding hpadding
    · exact .inr (.inr hplain)

theorem get?_resolve_ne_null (style : Fields) {key : String} (h : key ∈ keys) :
    (resolve style).get? key ≠ some .null := by
  rcases mem_keys_cases h with ⟨box, rfl⟩ | ⟨box, side, rfl⟩ | hplain
  · rw [get?_resolve_name]
    exact wholeValue?_ne_null _
  · rw [get?_resolve_sideKey, ne_eq, Option.or_eq_some_iff]
    rintro (hside | ⟨-, hflat⟩)
    · exact sideValue?_ne_null side _ hside
    · exact Json.unlessNull_ne_null _ hflat
  · rw [get?_resolve_plain hplain]
    exact plainValue?_ne_null _

theorem resolves_resolve (style : Fields) : Resolves style (resolve style) where
  distinct := (resolve_within style).distinct
  known := (resolve_within style).keys_subset
  not_null := by
    intro f hf hnull
    have hfound := Fields.get?_of_mem (resolve_within style).distinct hf
    have hknown := (resolve_within style).keys_subset (List.mem_map_of_mem hf)
    exact get?_resolve_ne_null style hknown (hfound.trans (congrArg some hnull))
  whole := get?_resolve_name style
  side := get?_resolve_sideKey style
  plain _ h := get?_resolve_plain h

/-- A resolved style holds under every key what it resolves to. -/
theorem Resolves.again {style r r' : Fields} (h : Resolves style r) (h' : Resolves r r')
    (key : String) : r'.get? key = r.get? key := by
  have hkept (key : String) : (Fields.value r key).unlessNull = r.get? key := by
    apply Json.unlessNull_getD
    intro hnull
    exact h.not_null _ (Fields.mem_of_get?_eq_some hnull) rfl
  by_cases hkey : key ∈ keys
  · rcases mem_keys_cases hkey with ⟨box, rfl⟩ | ⟨box, side, rfl⟩ | hplain
    · rw [h'.whole, Fields.value, h.whole, wholeValue?_wholeValue?]
    · have hwhole : sideValue? side (Fields.value r box.name) = none := by
        rw [Fields.value, h.whole, sideValue?_wholeValue?]
      rw [h'.side, hwhole, Option.none_or, hkept]
    · rw [h'.plain _ hplain, Fields.value, h.plain _ hplain, plainValue?_plainValue?]
  · rw [Fields.get?_eq_none_iff.mpr (mt (h'.known key) hkey),
      Fields.get?_eq_none_iff.mpr (mt (h.known key) hkey)]

/-- A style, or none at all, resolves to known keys without null: to the number that stands for a
whole box, for every side of a box to what the object form gives there or else to the value of its
own key, and to the plain keys. A second pass gives the same fields again, perhaps in another
order. -/
theorem resolved_by_precedence_and_stable (style : Option Fields) :
    let resolved := View.resolved style
    Resolves (style.getD []) resolved ∧
      (∀ key, (View.resolved (some resolved)).get? key = resolved.get? key) ∧
      (View.resolved (some resolved)).Perm resolved := by
  intro resolved
  have hfirst : Resolves (style.getD []) resolved := resolves_resolve _
  have hsame := hfirst.again (resolves_resolve resolved)
  exact ⟨hfirst, hsame, (resolve_within resolved).perm (resolve_within _) hsame⟩

/-- The top side, which only the object form gives, moves to the front in a second pass. -/
example :
    let style : Fields := [("margin", .obj [("top", .int 1)]), ("marginLeft", .int 2)]
    resolve style = [("marginLeft", .int 2), ("marginTop", .int 1)] ∧
      resolve (resolve style) = [("marginTop", .int 1), ("marginLeft", .int 2)] :=
  ⟨rfl, rfl⟩

end Style

end PageBuilder
