import PageBuilder.Proofs.ImportGrammar
import PageBuilder.Proofs.Shapes

/-! # The published shape agrees with reading and writing

A stored document that the published JSON Schema accepts is read, if its ids are in order, and what
is then written is accepted again.

## Implementation notes

A document of the published shape is well typed, so writing it completes it, and completing keeps
the shape level by level. One field stands apart: a payment may be null in the shape, and it is not
written then. It is dropped before the document is compared with what is written. -/

namespace PageBuilder

open Shape

theorem Fields.Typed.mono {fs : Fields} {key : String} {p q : Json → Prop} (h : fs.Typed key p)
    (hpq : ∀ v, p v → q v) : fs.Typed key q := by
  intro v hv
  exact hpq v (h v hv)

theorem Fields.without_without {fs : Fields} {ks ks' : List String} (h : ks ⊆ ks') :
    without (without fs ks) ks' = without fs ks' := by
  rw [without, without, List.filter_filter]
  apply List.filter_congr
  intro f _
  by_cases hkept : f.1 ∈ ks'
  · simp [hkept]
  · have hks : f.1 ∉ ks := fun hmem => hkept (h hmem)
    simp [hkept, hks]

theorem Json.ListOf.mono {p q : Json → Prop} {v : Json} (h : v.ListOf p) (hpq : ∀ x, p x → q x) :
    v.ListOf q := by
  obtain ⟨xs, rfl, hxs⟩ := h
  exact ⟨xs, rfl, fun x hx => hpq x (hxs x hx)⟩

/-! ### Values of the published shapes are well typed -/

theorem Validation.wellTyped_of_fits {v : Json} (h : Validation.shape.Fits v) :
    v.ObjectWith Validation.WellTyped := by
  obtain ⟨fs, rfl, -, hfs⟩ := fits_record_iff.mp h
  simp only [List.forall_mem_cons] at hfs
  obtain ⟨hrequired, hminLength, hmaxLength, hmin, hmax, -⟩ := hfs
  refine ⟨fs, rfl, hrequired.mono fun v => fits_flag_iff.mp, ?_⟩
  simp only [List.forall_mem_cons]
  exact ⟨hminLength.mono fun v hv => hv.ne_null (by decide),
    hmaxLength.mono fun v hv => hv.ne_null (by decide),
    hmin.mono fun v hv => hv.ne_null (by decide), hmax.mono fun v hv => hv.ne_null (by decide),
    List.forall_mem_nil _⟩

theorem Action.text_or_object_of_fits {v : Json} (h : Action.shape.Fits v) :
    v.IsText ∨ v.IsObject := by
  cases v with
  | str s => exact .inl ⟨s, rfl⟩
  | obj fs => exact .inr ⟨fs, rfl⟩
  | _ => simp [Fits, Action.shape, anyText, conforms, conformCount] at h

theorem Component.wellTyped_of_fits {v : Json} (h : Component.shape.Fits v) :
    v.ObjectWith Component.WellTyped := by
  obtain ⟨fs, rfl, -, hfs⟩ := fits_record_iff.mp h
  rw [List.forall_mem_append] at hfs
  simp only [List.forall_mem_cons] at hfs
  obtain ⟨⟨-, htype, hprops, haction, hvalidation, -⟩, -⟩ := hfs
  refine ⟨fs, rfl, ?_, ?_, ?_, ?_⟩
  · exact htype.mono fun v => fits_anyText_iff.mp
  · refine hprops.mono fun v hv => .inr ?_
    obtain ⟨ps, rfl, -⟩ := fits_record_iff.mp hv
    exact ⟨ps, rfl⟩
  · exact haction.mono fun v hv => .inr (Action.text_or_object_of_fits hv)
  · exact hvalidation.mono fun v hv => .inr (Validation.wellTyped_of_fits hv)

theorem Page.wellTyped_of_fits {v : Json} (h : Page.shape.Fits v) :
    v.ObjectWith Page.WellTyped := by
  obtain ⟨fs, rfl, -, hfs⟩ := fits_record_iff.mp h
  simp only [List.forall_mem_cons] at hfs
  obtain ⟨-, horder, htitle, hcomponents, -⟩ := hfs
  refine ⟨fs, rfl, ?_, ?_, ?_⟩
  · exact horder.mono fun v => fits_integer_iff.mp
  · exact htitle.mono fun v => fits_anyText_iff.mp
  · exact hcomponents.mono fun v hv =>
      (fits_list_iff.mp hv).1.mono fun x => Component.wellTyped_of_fits

theorem Navigation.wellTyped_of_fits {v : Json} (h : Navigation.shape.Fits v) :
    v.ObjectWith Navigation.WellTyped := by
  obtain ⟨fs, rfl, -, hfs⟩ := fits_record_iff.mp h
  simp only [List.forall_mem_cons] at hfs
  obtain ⟨hguest, hinitial, -⟩ := hfs
  refine ⟨fs, rfl, ⟨?_⟩⟩
  simp only [Navigation.keys, List.forall_mem_cons]
  exact ⟨hguest.mono fun v => fits_anyText_iff.mp, hinitial.mono fun v => fits_anyText_iff.mp,
    List.forall_mem_nil _⟩

theorem Metadata.wellTyped_of_fits {v : Json} (h : Metadata.shape.Fits v) :
    v.ObjectWith Metadata.WellTyped := by
  obtain ⟨fs, rfl, -, hfs⟩ := fits_record_iff.mp h
  simp only [List.forall_mem_cons] at hfs
  obtain ⟨hrevision, hcreatedBy, -⟩ := hfs
  exact ⟨fs, rfl, hrevision.mono fun v hv => hv.ne_null (by decide),
    hcreatedBy.mono fun v => fits_anyText_iff.mp⟩

namespace Document

/-- A document of the shape is well typed unless it has a payment of null. -/
theorem wellTyped_of_fits {fs : Fields} (h : shape.Fits (.obj fs))
    (hpayment : fs.Typed "payment" (· ≠ .null)) : WellTyped fs := by
  obtain ⟨_, hobj, -, hfs⟩ := fits_record_iff.mp h
  cases hobj
  simp only [List.forall_mem_cons] at hfs
  obtain ⟨hid, hversion, hname, hdescription, hslug, hisPublic, hisPublished, hpublishedAt,
    hnavigation, hpages, hmetadata, hcreatedAt, hupdatedAt, -, hpermissions, hstatuses, -⟩ := hfs
  have htext (v : Json) : anyText.Fits v → v.IsText := fits_anyText_iff.mp
  have hflag (v : Json) : flag.Fits v → v.IsFlag := fits_flag_iff.mp
  have hlabels (v : Json) (hv : (list false anyText).Fits v) : v.ListOf Json.IsText :=
    (fits_list_iff.mp hv).1.mono htext
  refine ⟨hid.mono fun v => fits_someText_iff.mp, ?_, ?_,
    hpublishedAt.mono fun v => fits_textOrNull_iff.mp,
    hnavigation.mono fun v => Navigation.wellTyped_of_fits,
    hmetadata.mono fun v => Metadata.wellTyped_of_fits, hpayment, ?_, ?_⟩
  · simp only [List.forall_mem_cons]
    exact ⟨hversion.mono htext, hname.mono htext, hdescription.mono htext, hslug.mono htext,
      hcreatedAt.mono htext, hupdatedAt.mono htext, List.forall_mem_nil _⟩
  · simp only [List.forall_mem_cons]
    exact ⟨hisPublic.mono hflag, hisPublished.mono hflag, List.forall_mem_nil _⟩
  · simp only [List.forall_mem_cons]
    exact ⟨hpermissions.mono hlabels, hstatuses.mono hlabels, List.forall_mem_nil _⟩
  · refine hpages.mono fun v hv => ?_
    obtain ⟨hitems, hne⟩ := fits_list_iff.mp hv
    exact ⟨hitems.mono fun x => Page.wellTyped_of_fits, hne rfl⟩

end Document

/-! ### Completing keeps the published shapes -/

theorem keptBy_keepFields (required : List String) (properties : List (String × Shape)) :
    (record required properties).KeptBy keepFields.Relates := by
  apply keptBy_relates
  · intro p _
    exact .of_absent rfl
  · intro p _
    exact keptBy_eq p.2

theorem Component.shape_keptBy : Component.shape.KeptBy Component.completion.Relates := by
  apply keptBy_relates
  · exact propertiesConform_iff.mp rfl
  · rw [List.forall_mem_append]
    simp only [OptionalKey.grid, List.map_cons, List.map_nil, List.forall_mem_cons]
    exact ⟨⟨keptBy_eq _, keptBy_eq _, keptBy_eq _, keptBy_eq _, keptBy_keepFields _ _,
      List.forall_mem_nil _⟩, keptBy_eq _, keptBy_eq _, keptBy_eq _, keptBy_eq _,
      List.forall_mem_nil _⟩

theorem Page.shape_keptBy (index : Nat) :
    Page.shape.KeptBy (Page.completion index).Relates := by
  apply keptBy_relates
  · exact propertiesConform_iff.mp rfl
  · simp only [List.forall_mem_cons]
    exact ⟨keptBy_eq _, keptBy_eq _, keptBy_eq _,
      keptBy_relatesItems fun _ => Component.shape_keptBy, List.forall_mem_nil _⟩

namespace Document

theorem idOfSlug_ne_empty (slug : Json) : idOfSlug slug ≠ "" := by
  unfold idOfSlug
  cases hslug : slug.text?.filter (· != "") with
  | none => decide
  | some s => simpa using (Option.filter_eq_some_iff.mp hslug).2

theorem shape_keptBy (slug : Json) : shape.KeptBy (completion slug).Relates := by
  apply keptBy_relates
  · apply propertiesConform_iff.mp
    simp [propertiesConform, completion, Fields.get?_cons, conforms, someText, anyText,
      Navigation.shape, Metadata.shape, idOfSlug_ne_empty]
  · simp only [List.forall_mem_cons]
    exact ⟨keptBy_eq _, keptBy_eq _, keptBy_eq _, keptBy_eq _, keptBy_eq _, keptBy_eq _,
      keptBy_eq _, keptBy_eq _, keptBy_keepFields _ _, keptBy_relatesItems Page.shape_keptBy,
      keptBy_keepFields _ _, keptBy_eq _, keptBy_eq _, keptBy_eq _, keptBy_eq _, keptBy_eq _,
      List.forall_mem_nil _⟩

end Document

/-! ### Values of the published shapes are read -/

theorem Fields.value_of_get? {fs : Fields} {key : String} {v : Json} (h : get? fs key = some v) :
    value fs key = v := by
  rw [value, h, Option.getD_some]

/-- A record whose id is a text that is not blank. -/
theorem hasId_of_fits {required : List String} {properties : List (String × Shape)} {fs : Fields}
    (h : (record required properties).Fits (.obj fs)) (hid : "id" ∈ required)
    (htext : ("id", someText) ∈ properties)
    (hblank : ∀ id, (Json.obj fs).field "id" = .str id → Text.blank id = false) : fs.HasId := by
  obtain ⟨_, hobj, hrequired, hfs⟩ := fits_record_iff.mp h
  cases hobj
  obtain ⟨v, hv⟩ := Option.isSome_iff_exists.mp (hrequired "id" hid)
  obtain ⟨⟨id, rfl⟩, -⟩ := fits_someText_iff.mp (hfs _ htext v hv)
  have hvalue := Fields.value_of_get? hv
  exact ⟨id, hvalue, hblank id hvalue⟩

theorem Page.readable_of_fits {fs : Fields} (h : Page.shape.Fits (.obj fs))
    (hblank : ∀ v ∈ Json.obj fs :: (Json.obj fs).itemsAt "components",
      ∀ id, v.field "id" = .str id → Text.blank id = false) : Page.Readable fs := by
  obtain ⟨hpage, hcomponents⟩ := List.forall_mem_cons.mp hblank
  refine ⟨hasId_of_fits h (by simp) (by simp) hpage, ?_⟩
  intro v hv
  obtain ⟨_, hobj, -, hfs⟩ := fits_record_iff.mp h
  cases hobj
  obtain ⟨⟨xs, rfl, hxs⟩, -⟩ := fits_list_iff.mp
    (hfs ("components", .list false Component.shape) (by simp) v hv)
  have hitems : (Json.obj fs).itemsAt "components" = xs := by
    simp [Json.itemsAt, Json.field, Json.fields?, Fields.value_of_get? hv, Json.items?]
  rw [hitems] at hcomponents
  refine .inr ⟨xs, rfl, ?_⟩
  intro x hx
  obtain ⟨gs, rfl, -⟩ := fits_record_iff.mp (hxs x hx)
  refine ⟨gs, rfl, hasId_of_fits (hxs _ hx) ?_ ?_ (hcomponents _ hx)⟩
  · simp
  · simp

namespace Document

/-- A document of the shape is read if its ids are in order. -/
theorem readable_of_fits {fs : Fields} (h : shape.Fits (.obj fs))
    (hids : WellIdentified (.obj fs)) : Readable fs := by
  obtain ⟨_, hobj, hrequired, hfs⟩ := fits_record_iff.mp h
  cases hobj
  have hblank := hids.not_blank
  rw [List.forall_mem_cons, List.forall_mem_append] at hblank
  obtain ⟨hown, hpageIds, hcomponentIds⟩ := hblank
  obtain ⟨v, hget⟩ := Option.isSome_iff_exists.mp (hrequired "pages" (by simp))
  obtain ⟨⟨xs, rfl, hxs⟩, -⟩ := fits_list_iff.mp
    (hfs ("pages", .list true Page.shape) (by simp) v hget)
  have hvalue := Fields.value_of_get? hget
  have hstored : storedPages (.obj fs) = xs := by
    simp [storedPages, Json.itemsAt, Json.field, Json.fields?, hvalue, Json.items?]
  have hreadable : ∀ x ∈ xs, x.ObjectWith Page.Readable := by
    intro x hx
    obtain ⟨gs, rfl, -⟩ := fits_record_iff.mp (hxs x hx)
    refine ⟨gs, rfl, Page.readable_of_fits (hxs _ hx) (List.forall_mem_cons.mpr ⟨?_, ?_⟩)⟩
    · exact hpageIds _ (hstored ▸ hx)
    · intro c hc
      exact hcomponentIds c (List.mem_flatMap.mpr ⟨_, hstored ▸ hx, hc⟩)
  obtain ⟨stored, rfl, hpages⟩ := Json.forall_objectWith_iff.mp hreadable
  refine ⟨⟨stored, hvalue, hpages, ?_⟩, ?_, ?_⟩
  · have hnodup := hids.pages_nodup
    rw [hstored, List.map_map] at hnodup
    exact hnodup
  · obtain ⟨id, hid, hblank⟩ := hasId_of_fits h (by simp) (by simp) hown
    refine ⟨.str id, ?_, hblank⟩
    rw [hid]
    exact List.find?_cons_of_pos (Json.truthy_str_of_not_blank hblank)
  · have hlabels (v : Json) (hv : (list false anyText).Fits v) : LabelsReadable v := by
      obtain ⟨⟨xs, rfl, -⟩, -⟩ := fits_list_iff.mp hv
      exact .inr (.inr ⟨xs, rfl⟩)
    simp only [List.forall_mem_cons]
    exact ⟨(hfs ("permissions", .list false anyText) (by simp)).mono hlabels,
      (hfs ("statuses", .list false anyText) (by simp)).mono hlabels, List.forall_mem_nil _⟩

theorem publishedSchema_accepts (v : Json) : publishedSchema.accepts v = shape.conforms v := by
  rw [← accepts_toJson, publishedSchema, Shape.toJson, Json.accepts, Json.accepts,
    Json.keywordsAccept_append]
  simp [Json.keywordsAccept]

/-! ### A payment of null -/

theorem ofJson_congr [Json.Limits] {fs gs : Fields}
    (hvalue : ∀ key, Fields.value fs key = Fields.value gs key)
    (hextras : Fields.without fs keys = Fields.without gs keys) :
    ofJson (.obj fs) = ofJson (.obj gs) := by
  simp only [ofJson, ofFields, storedId, hvalue, hextras]

/-- Without a payment a document keeps its shape and means the same if the payment was null. -/
theorem exists_without_null_payment [Json.Limits] {fs : Fields} (hfs : (Json.obj fs).WellFormed)
    (h : shape.Fits (.obj fs)) :
    ∃ gs : Fields, (Json.obj gs).WellFormed ∧ shape.Fits (.obj gs) ∧
      gs.Typed "payment" (· ≠ .null) ∧ ofJson (.obj gs) = ofJson (.obj fs) := by
  by_cases hnull : Fields.get? fs "payment" = some .null
  · have habsent : Fields.get? (Fields.without fs ["payment"]) "payment" = none :=
      Fields.get?_eq_none_iff.mpr (Fields.not_mem_keys_without (by simp))
    have hkept (key : String) (hkey : key ≠ "payment") :
        Fields.get? (Fields.without fs ["payment"]) key = Fields.get? fs key :=
      Fields.get?_without (by simpa using hkey)
    refine ⟨Fields.without fs ["payment"], hfs.without _, ?_, .of_absent habsent,
      ofJson_congr ?_ ?_⟩
    · obtain ⟨_, hobj, hrequired, htyped⟩ := fits_record_iff.mp h
      cases hobj
      refine fits_record_iff.mpr ⟨_, rfl, ?_, ?_⟩
      · intro key hkey
        rw [hkept key (by rintro rfl; simp at hkey)]
        exact hrequired key hkey
      · intro p hp
        by_cases hkey : p.1 = "payment"
        · rw [hkey]
          exact .of_absent habsent
        · intro v hv
          rw [hkept p.1 hkey] at hv
          exact htyped p hp v hv
    · intro key
      by_cases hkey : key = "payment"
      · rw [hkey, Fields.value_of_get?_none habsent, Fields.value_of_get? hnull]
      · rw [Fields.value, Fields.value, hkept key hkey]
    · exact Fields.without_without (by simp [keys])
  · refine ⟨fs, hfs, h, ?_, rfl⟩
    rintro v hv rfl
    exact hnull hv

/-- A stored document that the published JSON Schema accepts, with no blank id and with different
ids for its pages, is read exactly if no action in it is a text beyond a limit of the reader. What
is written after it was read is accepted again. -/
theorem accepted_read_and_written [Json.Limits] {raw : Json} (hraw : raw.WellFormed)
    (haccepted : publishedSchema.accepts raw = true) (hids : WellIdentified raw) :
    ((∃ d, ofJson raw = .ok d) ↔ ∀ c ∈ storedComponents raw, Component.ActionFits c) ∧
      ∀ d, ofJson raw = .ok d → publishedSchema.accepts d.toJson = true := by
  rw [publishedSchema_accepts] at haccepted
  obtain ⟨fs, rfl, -⟩ := fits_record_iff.mp haccepted
  have hreadable := readable_of_fits haccepted hids
  obtain ⟨gs, hgs, hfits, hpayment, hsame⟩ := exists_without_null_payment hraw haccepted
  constructor
  · rw [ofJson_isOk_iff]
    exact ⟨fun h => h.2, fun h => ⟨hreadable, h⟩⟩
  · intro d hd
    have hcompletes := (wellTyped_of_fits hfits hpayment).completes hgs (hsame.trans hd)
    rw [publishedSchema_accepts]
    exact shape_keptBy _ (.obj gs) d.toJson hcompletes hfits

/-- A document with a payment of null, a page without a title, rules that are not whole numbers and
keys that are unknown. -/
def publishedShop : Json :=
  .obj [("payment", .null), ("id", .str "shop"), ("published_at", .null), ("theme", .bool true),
    ("navigation", .obj [("initialPageId", .str "home"), ("transition", .null)]),
    ("metadata", .obj [("revision", .int 0)]), ("permissions", .arr [.str "camera"]),
    ("pages", .arr [
      .obj [("components", .arr [
        .obj [("props", .obj []), ("type", .str "button"), ("id", .str "pay"),
          ("action", .obj [("type", .str ""), ("params", .obj [("amount", .null)])]),
          ("gridRow", .int (-1)), ("note", .null)],
        .obj [("id", .str "name"), ("type", .str "text-input"), ("props", .obj []),
          ("action", .str "@toast"),
          ("validation", .obj [("required", .bool false), ("max", .float .nan),
            ("minLength", .int 0)])]]), ("id", .str "home")],
      .obj [("id", .str "cart"), ("components", .arr []), ("order", .int 7)]])]

theorem publishedShop_wellIdentified : WellIdentified publishedShop where
  not_blank := by
    simp [publishedShop, storedPages, storedComponents, Json.itemsAt, Json.field, Json.fields?,
      Json.items?, Fields.value, Fields.get?_cons]
    decide
  pages_nodup := by
    simp [publishedShop, storedPages, Json.itemsAt, Json.field, Json.fields?, Json.items?,
      Fields.value, Fields.get?_cons]

theorem publishedShop_actionsFit :
    ∀ c ∈ storedComponents publishedShop, Component.ActionFits c := by
  have htoast (limit : Json.Overrun) : Action.decodeText? "@toast" ≠ .error limit := by
    have hname : Action.decodeText? "@toast" = .ok none := rfl
    simp [hname]
  simp [publishedShop, storedComponents, storedPages, Json.itemsAt, Json.field, Json.fields?,
    Json.items?, Fields.value, Fields.get?_cons, Component.ActionFits, htoast]

theorem shop_written_as_published :
    publishedShop.WellFormed ∧ publishedSchema.accepts publishedShop = true ∧
      WellIdentified publishedShop ∧
      ∃ d, ofJson publishedShop = .ok d ∧ publishedSchema.accepts d.toJson = true := by
  have hwf : publishedShop.WellFormed := by
    simp [publishedShop, Json.wellFormed_obj, Json.wellFormed_arr, Fields.DistinctKeys]
  have haccepted : publishedSchema.accepts publishedShop = true := by decide +kernel
  obtain ⟨hread, hwritten⟩ := accepted_read_and_written hwf haccepted publishedShop_wellIdentified
  obtain ⟨d, hd⟩ := hread.mpr publishedShop_actionsFit
  exact ⟨hwf, haccepted, publishedShop_wellIdentified, d, hd, hwritten d hd⟩

/-- A document of one button whose action is the given text. -/
def buttonShop (action : String) : Json :=
  .obj [("id", .str "shop"), ("pages", .arr [.obj [("id", .str "home"), ("components", .arr [
    .obj [("id", .str "pay"), ("type", .str "button"), ("props", .obj []),
      ("action", .str action)]])]])]

theorem buttonShop_wellIdentified (action : String) : WellIdentified (buttonShop action) where
  not_blank := by
    simp [buttonShop, storedPages, storedComponents, Json.itemsAt, Json.field, Json.fields?,
      Json.items?, Fields.value, Fields.get?_cons]
    decide
  pages_nodup := by
    simp [buttonShop, storedPages, Json.itemsAt, Json.field, Json.fields?, Json.items?,
      Fields.value, Fields.get?_cons]

theorem decodeText?_deepObject : Action.decodeText? Json.deepObject = .error .depth := by
  have hstrip : Text.stripChars (Json.openedInObject 100000) = Json.openedInObject 100000 :=
    Text.stripChars_eq_self rfl rfl (Json.getLast?_openedInObject 99999)
  have hhead : (Json.openedInObject 100000).head? = some '{' := rfl
  have hparse := Json.parseChars_deepObject
  rw [Json.deepObject, String.toList_ofList] at hparse
  rw [Action.decodeText?, Json.deepObject, String.toList_ofList, hstrip, if_pos hhead, hparse]

/-- Not every document that the published JSON Schema accepts is read. -/
theorem not_every_accepted_read :
    ¬ ∀ raw : Json, raw.WellFormed → publishedSchema.accepts raw = true → WellIdentified raw →
      ∃ d, ofJson raw = .ok d := by
  intro hall
  have hwf : (buttonShop Json.deepObject).WellFormed := by
    simp [buttonShop, Json.wellFormed_obj, Json.wellFormed_arr, Fields.DistinctKeys]
  have haccepted : publishedSchema.accepts (buttonShop Json.deepObject) = true := by
    decide +kernel
  obtain ⟨-, hfits⟩ := ofJson_isOk_iff.mp (hall _ hwf haccepted (buttonShop_wellIdentified _))
  exact hfits _ (.head _) _ rfl _ decodeText?_deepObject

end Document

end PageBuilder
