import PageBuilder.Proofs.ComponentIds

/-! # Laws of component edits

To put a component into a document and to find it there are the two halves of a lens: what was put
is found, to put what was found changes nothing, and the last of two under one id wins. Edits under
different ids can change places. All of this holds however often an id stands in the document and
on whichever pages, and an edit whose id the document does not have is no exception: it changes
nothing. -/

namespace PageBuilder

namespace Component

/-- What stands in the place of `old` once `c` was put into the document. -/
def inPlaceOf (c old : Component) : Component :=
  if old.id = c.id then c else old

theorem inPlaceOf_of_eq {c old : Component} (h : old.id = c.id) : c.inPlaceOf old = c :=
  if_pos h

theorem inPlaceOf_of_ne {c old : Component} (h : old.id ≠ c.id) : c.inPlaceOf old = old :=
  if_neg h

@[simp] theorem inPlaceOf_id (c old : Component) : (c.inPlaceOf old).id = old.id := by
  by_cases h : old.id = c.id
  · rw [inPlaceOf_of_eq h, h]
  · rw [inPlaceOf_of_ne h]

theorem inPlaceOf_comm {u v : Component} (h : u.id ≠ v.id) (old : Component) :
    v.inPlaceOf (u.inPlaceOf old) = u.inPlaceOf (v.inPlaceOf old) := by
  by_cases hu : old.id = u.id
  · have hv : old.id ≠ v.id := fun hv => h (hu.symm.trans hv)
    rw [inPlaceOf_of_eq hu, inPlaceOf_of_ne hv, inPlaceOf_of_eq hu, inPlaceOf_of_ne h]
  · have hother : (v.inPlaceOf old).id ≠ u.id := by rwa [inPlaceOf_id]
    rw [inPlaceOf_of_ne hu, inPlaceOf_of_ne hother]

/-- The last of two components under one id stands. -/
theorem inPlaceOf_inPlaceOf {u v : Component} (h : u.id = v.id) (old : Component) :
    v.inPlaceOf (u.inPlaceOf old) = v.inPlaceOf old := by
  by_cases hu : old.id = u.id
  · rw [inPlaceOf_of_eq hu, inPlaceOf_of_eq h, inPlaceOf_of_eq (hu.trans h)]
  · rw [inPlaceOf_of_ne hu]

/-- Nothing stands in the place of components with other ids. -/
theorem map_inPlaceOf_of_absent {c : Component} {cs : List Component}
    (h : ∀ old ∈ cs, old.id ≠ c.id) : cs.map c.inPlaceOf = cs :=
  (List.map_congr_left fun old hold => inPlaceOf_of_ne (h old hold)).trans (List.map_id' cs)

end Component

/-- No component is left out under an id that the page does not have. -/
theorem Page.filter_of_absent {p : Page} {a : String} (h : a ∉ p.componentIds) :
    (p.components.filter fun c => c.id != a) = p.components := by
  apply List.filter_eq_self.mpr
  intro c hc
  rw [bne_iff_ne]
  rintro rfl
  exact h (List.mem_map_of_mem hc)

namespace Document

variable {d : Document}

/-! ### Two edits -/

theorem mapComponents_mapComponents (d : Document) (f g : List Component → List Component) :
    (d.mapComponents f).mapComponents g = d.mapComponents fun cs => g (f cs) := by
  simp [mapComponents, Function.comp_def, Page.withComponents]

theorem mapComponents_eq_self {f : List Component → List Component}
    (h : ∀ p ∈ d.pages, f p.components = p.components) : d.mapComponents f = d := by
  have hpage : ∀ p ∈ d.pages, p.withComponents (f p.components) = p := by
    intro p hp
    rw [h p hp]
    rfl
  rw [mapComponents, (List.map_congr_left hpage).trans (List.map_id' d.pages)]

theorem updateComponent_eq (d : Document) (c : Component) :
    d.updateComponent c = d.mapComponents (List.map c.inPlaceOf) := rfl

theorem deleteComponent_eq (d : Document) (id : String) :
    d.deleteComponent id = d.mapComponents (List.filter fun c => c.id != id) := rfl

theorem updateComponent_comm {u v : Component} (h : u.id ≠ v.id) (d : Document) :
    (d.updateComponent u).updateComponent v = (d.updateComponent v).updateComponent u := by
  simp only [updateComponent_eq, mapComponents_mapComponents, List.map_map, Function.comp_def,
    Component.inPlaceOf_comm h]

theorem updateComponent_updateComponent {u v : Component} (h : u.id = v.id) (d : Document) :
    (d.updateComponent u).updateComponent v = d.updateComponent v := by
  simp only [updateComponent_eq, mapComponents_mapComponents, List.map_map, Function.comp_def,
    Component.inPlaceOf_inPlaceOf h]

theorem deleteComponent_comm (d : Document) (a b : String) :
    (d.deleteComponent a).deleteComponent b = (d.deleteComponent b).deleteComponent a := by
  simp only [deleteComponent_eq, mapComponents_mapComponents, List.filter_filter, Bool.and_comm]

theorem deleteComponent_deleteComponent (d : Document) (a : String) :
    (d.deleteComponent a).deleteComponent a = d.deleteComponent a := by
  simp only [deleteComponent_eq, mapComponents_mapComponents, List.filter_filter, Bool.and_self]

theorem filter_map_inPlaceOf (u : Component) (a : String) (cs : List Component) :
    (cs.map u.inPlaceOf).filter (fun c => c.id != a) =
      (cs.filter fun c => c.id != a).map u.inPlaceOf := by
  rw [List.filter_map]
  simp only [Function.comp_def, Component.inPlaceOf_id]

theorem map_inPlaceOf_filter (u : Component) (cs : List Component) :
    (cs.filter fun c => c.id != u.id).map u.inPlaceOf = cs.filter fun c => c.id != u.id :=
  Component.map_inPlaceOf_of_absent fun _ hc => by simpa using (List.mem_filter.mp hc).2

theorem deleteComponent_updateComponent_comm (d : Document) (u : Component) (a : String) :
    (d.updateComponent u).deleteComponent a = (d.deleteComponent a).updateComponent u := by
  simp only [updateComponent_eq, deleteComponent_eq, mapComponents_mapComponents,
    filter_map_inPlaceOf]

/-- A component that is deleted might as well never have been put into the document. -/
theorem deleteComponent_updateComponent (d : Document) (u : Component) :
    (d.updateComponent u).deleteComponent u.id = d.deleteComponent u.id := by
  simp only [updateComponent_eq, deleteComponent_eq, mapComponents_mapComponents,
    filter_map_inPlaceOf, map_inPlaceOf_filter]

/-! ### What stands where -/

theorem hasComponent_iff {id : String} : d.hasComponent id = true ↔ id ∈ d.componentIds := by
  simp [hasComponent, component?, componentIds, List.find?_isSome]

theorem hasComponent_eq_false_iff {id : String} :
    d.hasComponent id = false ↔ id ∉ d.componentIds := by
  rw [Bool.eq_false_iff, ne_eq, hasComponent_iff]

/-- The pages keep the ids of their components, in order. -/
theorem map_componentIds_updateComponent (d : Document) (u : Component) :
    (d.updateComponent u).pages.map Page.componentIds = d.pages.map Page.componentIds := by
  simp [updateComponent_eq, mapComponents, Page.componentIds, Function.comp_def]

/-- Every component under the id is the one that was put there. -/
theorem eq_of_mem_updateComponent {u c : Component} (hc : c ∈ (d.updateComponent u).components)
    (hid : c.id = u.id) : c = u := by
  simp only [components, updateComponent_eq, mapComponents, List.mem_flatMap, List.mem_map] at hc
  obtain ⟨_, ⟨p, -, rfl⟩, hc⟩ := hc
  obtain ⟨old, -, rfl⟩ := List.mem_map.mp hc
  exact Component.inPlaceOf_of_eq (by simpa using hid)

/-- What was put into the document is found there. -/
theorem component?_updateComponent {u : Component} (h : d.hasComponent u.id = true) :
    (d.updateComponent u).component? u.id = some u := by
  have hpresent : ((d.updateComponent u).component? u.id).isSome := by
    change (d.updateComponent u).hasComponent u.id = true
    rw [hasComponent_iff, componentIds_updateComponent]
    exact hasComponent_iff.mp h
  obtain ⟨c, hc⟩ := Option.isSome_iff_exists.mp hpresent
  have hid : c.id = u.id := by simpa using List.find?_some hc
  rw [hc, eq_of_mem_updateComponent (List.mem_of_find?_eq_some hc) hid]

theorem updateComponent_eq_self {u : Component}
    (h : ∀ c ∈ d.components, c.id = u.id → c = u) : d.updateComponent u = d := by
  apply mapComponents_eq_self
  intro p hp
  refine (List.map_congr_left ?_).trans (List.map_id' _)
  intro c hc
  change u.inPlaceOf c = c
  by_cases hid : c.id = u.id
  · rw [Component.inPlaceOf_of_eq hid, h c (mem_components.mpr ⟨p, hp, hc⟩) hid]
  · exact Component.inPlaceOf_of_ne hid

theorem updateComponent_of_absent {u : Component} (h : d.hasComponent u.id = false) :
    d.updateComponent u = d := by
  apply updateComponent_eq_self
  intro c hc hid
  exact absurd (hid ▸ List.mem_map_of_mem hc) (hasComponent_eq_false_iff.mp h)

theorem deleteComponent_of_absent {a : String} (h : d.hasComponent a = false) :
    d.deleteComponent a = d := by
  apply mapComponents_eq_self
  intro p hp
  apply Page.filter_of_absent
  intro hmem
  exact hasComponent_eq_false_iff.mp h (mem_componentIds_iff.mpr ⟨p, hp, hmem⟩)

/-- To put a component where it was found changes nothing if no other one has its id. -/
theorem updateComponent_found (hids : d.componentIds.Nodup) {id : String} {c : Component}
    (hc : d.component? id = some c) : d.updateComponent c = d := by
  apply updateComponent_eq_self
  intro other hother hid
  exact List.inj_on_of_nodup_map hids hother (List.mem_of_find?_eq_some hc) hid

/-! ### All laws -/

/-- The laws of putting components into a document and of deleting them. -/
structure EditsLawful (d : Document) : Prop where
  update_comm : ∀ u v : Component, u.id ≠ v.id →
    (d.updateComponent u).updateComponent v = (d.updateComponent v).updateComponent u
  delete_comm : ∀ a b : String,
    (d.deleteComponent a).deleteComponent b = (d.deleteComponent b).deleteComponent a
  update_delete_comm : ∀ (u : Component) (a : String),
    (d.updateComponent u).deleteComponent a = (d.deleteComponent a).updateComponent u
  update_update : ∀ u v : Component, u.id = v.id →
    (d.updateComponent u).updateComponent v = d.updateComponent v
  update_delete : ∀ u : Component,
    (d.updateComponent u).deleteComponent u.id = d.deleteComponent u.id
  delete_delete : ∀ a : String, (d.deleteComponent a).deleteComponent a = d.deleteComponent a
  /-- What was put into the document is found. -/
  found : ∀ u : Component, d.hasComponent u.id = true →
    (d.updateComponent u).component? u.id = some u
  /-- It stands wherever its id stands, on any page. -/
  everywhere : ∀ (u : Component), ∀ p ∈ (d.updateComponent u).pages, ∀ c ∈ p.components,
    c.id = u.id → c = u
  /-- The ids on each page stay where they are. -/
  places : ∀ u : Component,
    (d.updateComponent u).pages.map Page.componentIds = d.pages.map Page.componentIds
  remaining : ∀ a : String,
    (d.deleteComponent a).componentIds = d.componentIds.filter (· != a)
  /-- To put a component where it was found changes nothing. -/
  put_found : d.componentIds.Nodup → ∀ (id : String) (c : Component),
    d.component? id = some c → d.updateComponent c = d
  update_absent : ∀ u : Component, d.hasComponent u.id = false → d.updateComponent u = d
  delete_absent : ∀ a : String, d.hasComponent a = false → d.deleteComponent a = d

/-- The laws hold in every document, whatever mix of ids it does not have, has once, or has several
times. -/
theorem component_edits_lawful (d : Document) : d.EditsLawful where
  update_comm _ _ h := updateComponent_comm h d
  delete_comm := d.deleteComponent_comm
  update_delete_comm := d.deleteComponent_updateComponent_comm
  update_update _ _ h := updateComponent_updateComponent h d
  update_delete := d.deleteComponent_updateComponent
  delete_delete := d.deleteComponent_deleteComponent
  found _ hpresent := component?_updateComponent hpresent
  everywhere _ _ hp _ hc hid := eq_of_mem_updateComponent (mem_components.mpr ⟨_, hp, hc⟩) hid
  places := d.map_componentIds_updateComponent
  remaining := d.componentIds_deleteComponent
  put_found hids _ _ hfound := updateComponent_found hids hfound
  update_absent _ habsent := updateComponent_of_absent habsent
  delete_absent _ habsent := deleteComponent_of_absent habsent

/-- Two pages that share the id of a component. -/
def sharedNote : Document where
  id := "app"
  pages := [
    { id := "home", components := [newComponent "note" "text" 0, newComponent "title" "text" 1] },
    { id := "news", components := [newComponent "note" "image" 0] }]

/-- The shared note is replaced on both pages, whatever becomes of the title before or after. A
component that is alone with its id can be put back where it was found. -/
theorem shared_note_replaced :
    let u := newComponent "note" "button" 7
    let v := newComponent "title" "spacer" 0
    let c := newComponent "c_5" "text" 0
    u.id ≠ v.id ∧
      (sharedNote.updateComponent u).updateComponent v =
        (sharedNote.updateComponent v).updateComponent u ∧
      sharedNote.hasComponent u.id = true ∧
      (sharedNote.updateComponent u).component? u.id = some u ∧
      ((sharedNote.updateComponent u).components.map Component.type =
        ["button", "text", "button"]) ∧
      (sharedNote.deleteComponent u.id).componentIds = ["title"] ∧
      twoTexts.componentIds.Nodup ∧ twoTexts.component? "c_5" = some c ∧
      twoTexts.updateComponent c = twoTexts := by
  intro u v c
  have hne : u.id ≠ v.id := by decide
  have hpresent : sharedNote.hasComponent u.id = true := by decide
  have hids : twoTexts.componentIds.Nodup := by decide
  have hfound : twoTexts.component? "c_5" = some c := rfl
  have hshared := component_edits_lawful sharedNote
  have htexts := component_edits_lawful twoTexts
  exact ⟨hne, hshared.update_comm u v hne, hpresent, hshared.found u hpresent, by decide,
    hshared.remaining u.id, hids, hfound, htexts.put_found hids _ _ hfound⟩

end Document

end PageBuilder
