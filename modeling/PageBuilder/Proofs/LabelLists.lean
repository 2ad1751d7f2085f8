import Mathlib.Data.List.DropRight
import PageBuilder.Proofs.EditedDocuments
import PageBuilder.Proofs.ImportGrammar
import PageBuilder.Proofs.StoredActions

/-! # Lists of labels

Labels are given as any values and stored as texts: without white space at their ends, without
blank ones, and each once, at the place of its first occurrence. Stored labels stay as they are when
they are given again, also with values behind them that they came from, and when the document is
saved and read. -/

namespace PageBuilder

/-! ### Stripped texts -/

namespace Text

theorem stripChars_stripChars (cs : List Char) : stripChars (stripChars cs) = stripChars cs := by
  have hfront : (stripChars cs).dropWhile isBlank = stripChars cs := by
    cases hstrip : stripChars cs with
    | nil => rfl
    | cons c rest => rw [List.dropWhile_cons_of_neg (by simp [not_blank_of_stripChars hstrip])]
  have hback : (stripChars cs).reverse.dropWhile isBlank = (stripChars cs).reverse := by
    rw [stripChars, List.reverse_reverse, List.dropWhile_idempotent]
  conv_lhs => rw [stripChars, hfront, hback, List.reverse_reverse]

/-- A stripped text has no white space at its ends. -/
theorem strip_strip (s : String) : strip (strip s) = strip s := by
  rw [strip, strip, String.toList_ofList, stripChars_stripChars]

end Text

/-! ### First occurrences -/

section FirstOccurrences

variable {α : Type} [BEq α] [LawfulBEq α]

/-- A loop that appends what it does not have yet keeps the first occurrences. -/
theorem foldl_append_new (seen xs : List α) :
    xs.foldl (fun acc x => if acc.contains x then acc else acc ++ [x]) seen =
      seen ++ (xs.filter fun x => !seen.contains x).eraseDups := by
  induction xs generalizing seen with
  | nil => simp
  | cons x xs ih =>
      rw [List.foldl_cons, ih]
      by_cases hseen : x ∈ seen
      · rw [if_pos (List.contains_iff_mem.mpr hseen),
          List.filter_cons_of_neg (by simpa using hseen)]
      · have hrest : (xs.filter fun y => !(seen ++ [x]).contains y) =
            (xs.filter fun y => !seen.contains y).filter fun y => !y == x := by
          rw [List.filter_filter]
          refine List.filter_congr fun y _ => ?_
          rw [Bool.eq_iff_iff]
          simp [and_comm]
        rw [if_neg (by simpa using hseen), hrest, List.filter_cons_of_pos (by simpa using hseen),
          List.eraseDups_cons, List.append_assoc, List.singleton_append]

theorem nodup_eraseDups : (xs : List α) → xs.eraseDups.Nodup
  | [] => by simp
  | x :: xs => by
    have hnew : x ∉ (xs.filter fun y => !y == x).eraseDups := by simp
    rw [List.eraseDups_cons, List.nodup_cons]
    exact ⟨hnew, nodup_eraseDups _⟩
termination_by xs => xs.length
decreasing_by exact Nat.lt_succ_of_le (List.length_filter_le _ _)

theorem eraseDups_eq_self {xs : List α} (h : xs.Nodup) : xs.eraseDups = xs := by
  induction xs with
  | nil => rfl
  | cons x xs ih =>
      obtain ⟨hnew, hrest⟩ := List.nodup_cons.mp h
      have hkept : (xs.filter fun y => !y == x) = xs := by
        refine List.filter_eq_self.mpr fun y hy => ?_
        simpa using fun heq : y = x => hnew (heq ▸ hy)
      rw [List.eraseDups_cons, hkept, ih hrest]

/-- What stands among the first occurrences already adds nothing behind them. -/
theorem eraseDups_append_of_subset {xs ys : List α} (hxs : xs.Nodup) (hys : ys ⊆ xs) :
    (xs ++ ys).eraseDups = xs := by
  have hnone : ys.removeAll xs = [] := by
    simpa [List.removeAll, List.filter_eq_nil_iff] using fun y hy => hys hy
  rw [List.eraseDups_append, hnone, eraseDups_eq_self hxs, List.eraseDups_nil, List.append_nil]

end FirstOccurrences

/-! ### Labels of values -/

/-- The texts of values without white space at their ends, blank ones left out. -/
def labelTexts (vs : List Json) : List String :=
  (vs.map fun v => Text.strip v.display).filter (· != "")

theorem labelTexts_append (vs ws : List Json) :
    labelTexts (vs ++ ws) = labelTexts vs ++ labelTexts ws := by
  simp [labelTexts]

theorem normalLabels_eq (vs : List Json) : normalLabels vs = (labelTexts vs).eraseDups := by
  rw [normalLabels, foldl_append_new]
  simp [labelTexts]

theorem mem_labelTexts_iff {vs : List Json} {l : String} :
    l ∈ labelTexts vs ↔ l ≠ "" ∧ ∃ v ∈ vs, Text.strip v.display = l := by
  simp [labelTexts, and_comm]

theorem labelTexts_subset {vs ws : List Json} (h : ∀ w ∈ ws, w ∈ vs) :
    labelTexts ws ⊆ labelTexts vs := by
  intro l hl
  obtain ⟨hne, w, hw, rfl⟩ := mem_labelTexts_iff.mp hl
  exact mem_labelTexts_iff.mpr ⟨hne, w, h w hw, rfl⟩

/-- A label is not empty and has no white space at its ends. -/
theorem stripped_of_mem_normalLabels {vs : List Json} {l : String} (h : l ∈ normalLabels vs) :
    l ≠ "" ∧ Text.strip l = l := by
  rw [normalLabels_eq, List.mem_eraseDups, mem_labelTexts_iff] at h
  obtain ⟨hne, v, -, rfl⟩ := h
  exact ⟨hne, Text.strip_strip v.display⟩

/-- Texts of labels are the labels. -/
theorem labelTexts_normalLabels (vs : List Json) :
    labelTexts ((normalLabels vs).map .str) = normalLabels vs := by
  have htexts : ((normalLabels vs).map fun l => Text.strip (Json.str l).display) =
      (normalLabels vs).map id :=
    List.map_congr_left fun l hl => (stripped_of_mem_normalLabels hl).2
  rw [labelTexts, List.map_map]
  refine (congrArg (List.filter (· != "")) htexts).trans ?_
  rw [List.map_id, List.filter_eq_self]
  intro l hl
  exact bne_iff_ne.mpr (stripped_of_mem_normalLabels hl).1

/-- Labels in front of values that they came from are the labels again. -/
theorem normalLabels_again {vs ws : List Json} (h : ∀ w ∈ ws, w ∈ vs) :
    normalLabels ((normalLabels vs).map .str ++ ws) = normalLabels vs := by
  rw [normalLabels_eq, labelTexts_append, labelTexts_normalLabels, normalLabels_eq vs]
  refine eraseDups_append_of_subset (nodup_eraseDups _) fun l hl => ?_
  exact List.mem_eraseDups.mpr (labelTexts_subset h hl)

/-! ### Labels of a document -/

/-- The lists of labels that a document has. -/
inductive LabelList where
  | permissions
  | statuses
  deriving DecidableEq, Repr

namespace LabelList

def setting : LabelList → Setting
  | .permissions => .permissions
  | .statuses => .statuses

/-- The change of settings that gives the labels as values. -/
def change (l : LabelList) (vs : List Json) : SettingsChange :=
  [(l.setting.key, .plain (.arr vs))]

/-- The labels of a document. -/
def labels? (l : LabelList) (d : Document) : Option (List String) :=
  match l with
  | .permissions => d.permissions
  | .statuses => d.statuses

/-- The document with other labels. -/
def put (l : LabelList) (d : Document) (labels : List String) : Document :=
  match l with
  | .permissions => { d with permissions := some labels }
  | .statuses => { d with statuses := some labels }

theorem labels?_put (l : LabelList) (d : Document) (labels : List String) :
    l.labels? (l.put d labels) = some labels := by
  cases l <;> rfl

theorem put_put (l : LabelList) (d : Document) (old labels : List String) :
    l.put (l.put d old) labels = l.put d labels := by
  cases l <;> rfl

/-- The labels of a document that was read are what its field of labels reads as. -/
theorem readLabels_of_ofJson [Json.Limits] {fs : Fields} {d : Document}
    (h : Document.ofJson (.obj fs) = .ok d) (l : LabelList) :
    Document.readLabels (Fields.value fs l.setting.key) = .ok (l.labels? d) := by
  obtain ⟨_, _, _, _, _, hfs, -, -, hpermissions, hstatuses, hcheck⟩ :=
    Document.ofJson_eq_ok_iff.mp h
  cases hfs
  obtain ⟨rfl, -⟩ := Document.check_eq_ok_iff.mp hcheck
  cases l with
  | permissions => exact hpermissions
  | statuses => exact hstatuses

theorem readLabels_toFields {d : Document} (h : Fields.Extras Document.keys d.extras)
    (l : LabelList) :
    Document.readLabels (Fields.value d.toFields l.setting.key) = .ok (l.labels? d) := by
  cases l with
  | permissions => exact Document.readLabels_permissions h
  | statuses => exact Document.readLabels_statuses h

theorem check_put {d : Document} (h : d.check = .ok d) (l : LabelList) (labels : List String) :
    (l.put d labels).check = .ok (l.put d labels) := by
  obtain ⟨-, hid, hpages⟩ := Document.check_eq_ok_iff.mp h
  refine Document.check_eq_ok_iff.mpr ⟨rfl, ?_⟩
  cases l <;> exact ⟨hid, hpages⟩

/-- A change of labels stores the labels of the values and changes nothing else. -/
theorem updateSettings_change {d : Document} (h : d.check = .ok d) (l : LabelList)
    (vs : List Json) : d.updateSettings (l.change vs) = .ok (l.put d (normalLabels vs)) := by
  have hnames : (l.change vs).map Prod.fst = [l.setting.key] := rfl
  have hreserved : [l.setting.key].contains "schema" = false := by cases l <;> rfl
  have hsetting : (Setting.ofKey? l.setting.key).isNone = false := by cases l <;> rfl
  have hknown : (l.change vs).unknownNames = [] := by
    simp [SettingsChange.unknownNames, hnames, hsetting]
  have hall : (l.change vs).applyAll d = .ok (l.put d (normalLabels vs)) := by cases l <;> rfl
  simp only [Document.updateSettings, hnames, hreserved, hknown, hall, check_put h]
  rfl

theorem put_canonical [Json.Limits] {d : Document} (h : d.Canonical) (l : LabelList)
    (vs : List Json) : (l.put d (normalLabels vs)).Canonical := by
  refine h.updateSettings ?_ (updateSettings_change h.checked l vs)
  intro key n hmem
  simp [change] at hmem

theorem put_valid {d : Document} (h : d.Valid) (l : LabelList) (labels : List String) :
    (l.put d labels).Valid := by
  cases l <;> exact ⟨h.id_not_blank, h.page_id_not_blank, h.component_id_not_blank, h.pageIds_nodup⟩

end LabelList

/-! ### Documents that can be read again -/

/-- No record of the document has an extra field under a key of its format. -/
structure Document.ExtrasApart (d : Document) : Prop where
  document : Fields.Extras keys d.extras
  pages : ∀ p ∈ d.pages, Fields.Extras Page.keys p.extras
  components : ∀ c ∈ d.components, Fields.Extras Component.keys c.extras

theorem Component.hasId_toFields {c : Component} (hid : Text.blank c.id = false)
    (hextras : Fields.Extras keys c.extras) : c.toFields.HasId :=
  ⟨c.id, value_id hextras, hid⟩

theorem Page.itemsAt_toJson {p : Page} (hextras : Fields.Extras keys p.extras) :
    p.toJson.itemsAt "components" = p.components.map Component.toJson :=
  itemsAt_components (storedComponents?_eq_some_iff.mpr (.inr (value_components hextras)))

theorem Page.readable_toFields {p : Page} (hid : Text.blank p.id = false)
    (hextras : Fields.Extras keys p.extras) (hcomponents : ∀ c ∈ p.components, c.toFields.HasId) :
    Readable p.toFields := by
  refine ⟨⟨p.id, value_id hextras, hid⟩, (Fields.typed_iff_value (.inl rfl)).mpr ?_⟩
  refine .inr ⟨_, value_components hextras, ?_⟩
  rintro _ hraw
  obtain ⟨c, hc, rfl⟩ := List.mem_map.mp hraw
  exact ⟨c.toFields, rfl, hcomponents c hc⟩

namespace Document

theorem Canonical.extrasApart [Json.Limits] {d : Document} (h : d.Canonical) : d.ExtrasApart where
  document := h.extras
  pages p hp := (h.pages p hp).extras
  components _ hc := (h.component hc).extras

/-- The actions of components that were read are written within the limits. -/
theorem Canonical.actionFits [Json.Limits] {d : Document} (h : d.Canonical) {c : Component}
    (hc : c ∈ d.components) : Component.ActionFits c.toJson := by
  have haction : Action.ofJson? (c.toJson.field "action") = .ok c.action := by
    have hvalue : c.toJson.field "action" = Action.toJson? c.action := (h.component hc).value_action
    rw [hvalue]
    exact (h.component hc).action
  exact Action.ofJson?_isOk_iff.mp ⟨_, haction⟩

/-- The components are written page by page. -/
theorem ExtrasApart.storedComponents_toJson {d : Document} (h : d.ExtrasApart) :
    storedComponents d.toJson = d.components.map Component.toJson := by
  have hpages : storedPages d.toJson = d.pages.map Page.toJson := by
    simp [storedPages, Json.itemsAt, Json.field, toJson, Json.fields?, value_pages h.document,
      Json.items?]
  rw [storedComponents, hpages, List.flatMap_map, Document.components, List.map_flatMap]
  exact List.flatMap_congr fun p hp => Page.itemsAt_toJson (h.pages p hp)

/-- What is written for a valid document can be read, if its extra fields are apart. -/
theorem Valid.readable_toFields {d : Document} (h : d.Valid) (hextras : d.ExtrasApart) :
    Readable d.toFields := by
  have hpages : ∀ p ∈ d.pages, Page.Readable p.toFields := by
    intro p hp
    refine Page.readable_toFields (h.page_id_not_blank p hp) (hextras.pages p hp) fun c hc => ?_
    have hmem : c ∈ d.components := mem_components.mpr ⟨p, hp, hc⟩
    exact Component.hasId_toFields (h.component_id_not_blank c hmem) (hextras.components c hmem)
  have hids : (d.pages.map Page.toFields).map (Fields.value · "id") = d.pageIds.map .str := by
    rw [pageIds, List.map_map, List.map_map]
    exact List.map_congr_left fun p hp => Page.value_id (hextras.pages p hp)
  have htruthy : (Json.str d.id).truthy := Json.truthy_str_of_not_blank h.id_not_blank
  refine ⟨⟨d.pages.map Page.toFields, ?_, ?_, ?_⟩, ⟨.str d.id, ?_, h.id_not_blank⟩, ?_⟩
  · rw [value_pages hextras.document, List.map_map]
    rfl
  · simpa using hpages
  · rw [hids]
    exact h.pageIds_nodup.map fun _ _ => Json.str.inj
  · rw [value_id hextras.document, List.find?_cons_of_pos htruthy]
  · exact labels_iff.mpr ⟨⟨_, LabelList.permissions.readLabels_toFields hextras.document⟩,
      ⟨_, LabelList.statuses.readLabels_toFields hextras.document⟩⟩

end Document

namespace LabelList

/-- What is written for a document is read with the same labels. -/
theorem exists_read [Json.Limits] {d : Document} (h : d.Valid) (hextras : d.ExtrasApart)
    (hfits : ∀ c ∈ d.components, Component.ActionFits c.toJson) (l : LabelList) :
    ∃ read, Document.ofJson d.toJson = .ok read ∧ l.labels? read = l.labels? d := by
  have hstored : ∀ raw ∈ Document.storedComponents d.toJson, Component.ActionFits raw := by
    rw [hextras.storedComponents_toJson]
    simpa using hfits
  obtain ⟨read, hread⟩ :=
    Document.ofJson_isOk_iff.mpr ⟨h.readable_toFields hextras, hstored⟩
  have hlabels := l.readLabels_of_ofJson hread
  rw [l.readLabels_toFields hextras.document] at hlabels
  exact ⟨read, hread, (Except.ok.inj hlabels).symm⟩

theorem put_extrasApart {d : Document} (h : d.ExtrasApart) (l : LabelList)
    (labels : List String) : (l.put d labels).ExtrasApart := by
  cases l <;> exact ⟨h.document, h.pages, h.components⟩

theorem components_put (l : LabelList) (d : Document) (labels : List String) :
    (l.put d labels).components = d.components := by
  cases l <;> rfl

end LabelList

namespace Document

/-- Labels that are given as values are stored as the first occurrences of their texts, without
white space at the ends and without blank ones. The same labels are stored when they are given
again, with values behind them that they came from. What is written for the document is read with
these labels if no extra field stands under a key of the format, as long as no action in it is
beyond a limit of the reader; and a document that keeps what a read one keeps is read as it is. -/
theorem labels_stored_and_stable [Json.Limits] {d : Document} (h : d.Valid) (l : LabelList)
    (vs : List Json) :
    let stored := ((vs.map fun v => Text.strip v.display).filter (· != "")).eraseDups
    ∃ next, d.updateSettings (l.change vs) = .ok next ∧ next = l.put d stored ∧
      l.labels? next = some stored ∧
      (∀ label ∈ stored, label ≠ "" ∧ Text.strip label = label) ∧ stored.Nodup ∧
      (∀ ws : List Json, (∀ w ∈ ws, w ∈ vs) →
        next.updateSettings (l.change (stored.map .str ++ ws)) = .ok next) ∧
      (d.ExtrasApart → (∀ c ∈ d.components, Component.ActionFits c.toJson) →
        ∃ read, ofJson next.toJson = .ok read ∧ l.labels? read = some stored) ∧
      (d.Canonical → ofJson next.toJson = .ok next ∧
        (next.toJson.fits 0 = true → Json.parse next.exportText = .ok next.toJson)) := by
  intro stored
  have hcheck : d.check = .ok d :=
    check_eq_ok_iff.mpr ⟨rfl, h.id_not_blank, h.pageIds_nodup⟩
  have hstored : normalLabels vs = stored := normalLabels_eq vs
  refine ⟨l.put d stored, ?_, rfl, l.labels?_put d stored, ?_, nodup_eraseDups _, ?_, ?_, ?_⟩
  · rw [← hstored]
    exact l.updateSettings_change hcheck vs
  · intro label hlabel
    exact stripped_of_mem_normalLabels (hstored ▸ hlabel)
  · intro ws hws
    have hagain : normalLabels (stored.map .str ++ ws) = stored := by
      rw [← hstored]
      exact normalLabels_again hws
    rw [l.updateSettings_change (l.check_put hcheck stored), hagain, l.put_put]
  · intro hextras hfits
    rw [← l.labels?_put d stored]
    refine l.exists_read (l.put_valid h stored) (l.put_extrasApart hextras stored) ?_
    rwa [l.components_put]
  · intro hcanonical
    have hnext : (l.put d stored).Canonical := hstored ▸ l.put_canonical hcanonical vs
    exact ⟨hnext.ofJson_toJson, Json.parse_prettyText hnext.toJson_wellFormed⟩

/-- Values with repeated labels: texts that differ in white space, and a number and its text. -/
def looseLabels : List Json :=
  [.str " camera ", .int 1, .str "", .str "1", .str "\u00a0camera", .null, .str " "]

theorem looseLabels_stored :
    ∃ next read, (initial none).updateSettings (LabelList.statuses.change looseLabels) = .ok next ∧
      next.statuses = some ["camera", "1", "None"] ∧
      next.updateSettings (LabelList.statuses.change
        [.str "camera", .str "1", .str "None", .null, .int 1]) = .ok next ∧
      ofJson next.toJson = .ok read ∧ read.statuses = next.statuses ∧ read = next := by
  have hcanonical := initial_canonical none
  have htexts : ((looseLabels.map fun v => Text.strip v.display).filter (· != "")).eraseDups =
      ["camera", "1", "None"] := by decide +kernel
  obtain ⟨next, hnext, -, hlabels, -, -, hagain, hread, hreload⟩ :=
    labels_stored_and_stable hcanonical.valid .statuses looseLabels
  rw [htexts] at hlabels hagain hread
  obtain ⟨read, hnextread, hreadlabels⟩ :=
    hread hcanonical.extrasApart fun c hc => hcanonical.actionFits hc
  have hsame : read = next := Except.ok.inj (hnextread.symm.trans (hreload hcanonical).1)
  exact ⟨next, read, hnext, hlabels, hagain [.null, .int 1] (by simp [looseLabels]), hnextread,
    hreadlabels.trans hlabels.symm, hsame⟩

/-- The first document with an extra field under the key of the permissions. -/
def maskedLabels : Document :=
  { initial none with extras := [("permissions", .int 5)] }

/-- An extra field under the key of the labels is written in their place, so not every document is
read with the labels that it stores. -/
theorem not_every_labels_reload :
    ¬ ∀ (d : Document) (l : LabelList) (vs : List Json), d.Valid →
      ∃ next read, d.updateSettings (l.change vs) = .ok next ∧ ofJson next.toJson = .ok read ∧
        l.labels? read = l.labels? next := by
  intro hall
  have hvalid : maskedLabels.Valid :=
    ⟨(initial_valid none).id_not_blank, (initial_valid none).page_id_not_blank,
      (initial_valid none).component_id_not_blank, (initial_valid none).pageIds_nodup⟩
  obtain ⟨next, read, hnext, hread, -⟩ := hall maskedLabels .permissions [.str "camera"] hvalid
  have hcheck : maskedLabels.check = .ok maskedLabels :=
    check_eq_ok_iff.mpr ⟨rfl, hvalid.id_not_blank, hvalid.pageIds_nodup⟩
  rw [LabelList.updateSettings_change hcheck] at hnext
  cases hnext
  have hrefused : ofJson (LabelList.permissions.put maskedLabels
      (normalLabels [.str "camera"])).toJson = .error (.fault .labelsNotAList) := rfl
  rw [hrefused] at hread
  cases hread

end Document

end PageBuilder
