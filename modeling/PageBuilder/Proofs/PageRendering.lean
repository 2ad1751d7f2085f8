import PageBuilder.Document.Import
import PageBuilder.Proofs.AcceptedSettings
import PageBuilder.View.Page

/-! # Pages that render

A page is rendered unless a number on it cannot be used: the rows of a textarea that are `nan` or
infinite, or the whole size of a spacer that no double is near. Nothing else that a document holds
stops the rendering. -/

namespace PageBuilder

/-! ### Numbers that can be used -/

/-- A number of rows has a whole part, unless it is taken for the default. -/
def Json.RowsUsable (v : Json) : Prop :=
  v ≠ .float .nan ∧ v ≠ .float (.infinite false)

/-- A whole size is in the range of doubles. -/
def Json.SizeUsable (v : Json) : Prop :=
  ∀ n, v = .int n → n.natAbs < Binary64.overflowFrom

/-- The numbers that the kind of a component makes use of can be used. -/
def Component.NumbersUsable (c : Component) : Prop :=
  match c.kind? with
  | some .textarea => (Fields.value c.props "rows").RowsUsable
  | some .spacer => (Fields.value c.props "size").SizeUsable
  | _ => True

namespace TypedProps

/-- The kind that properties were read for. -/
def kind? : TypedProps → Option ComponentKind
  | .text .. => some .text
  | .heading .. => some .heading
  | .button .. => some .button
  | .textInput .. => some .textInput
  | .textarea .. => some .textarea
  | .datePicker .. => some .datePicker
  | .image .. => some .image
  | .spacer .. => some .spacer
  | .unknown _ => none

/-! The doubles below one are left to the default, so what is not a number and what is infinite
above zero reach the whole part. -/

theorem infinite_not_lt_one : (Binary64.infinite false).lt .one = false := by decide +kernel

theorem negative_infinite_lt_one : (Binary64.infinite true).lt .one = true := by decide +kernel

theorem exists_wholePart_finite (s : Bool) (r : Fin (2047 * Nat.pow 2 52)) :
    ∃ n, wholePart (.finite s r) = .ok n :=
  ⟨_, rfl⟩

theorem positiveOr_float (default : Int) (x : Binary64) :
    positiveOr default (.float x) = if x.lt .one then .ok default else wholePart x := rfl

theorem positiveOr_isOk_iff (default : Int) {v : Json} :
    (∃ n, positiveOr default v = .ok n) ↔ v.RowsUsable := by
  unfold Json.RowsUsable
  cases v with
  | float x =>
      rw [positiveOr_float]
      cases x with
      | nan =>
          constructor
          · rintro ⟨n, hn⟩
            cases hn
          · rintro ⟨hnan, -⟩
            exact absurd rfl hnan
      | infinite s =>
          cases s with
          | false =>
              rw [infinite_not_lt_one]
              constructor
              · rintro ⟨n, hn⟩
                cases hn
              · rintro ⟨-, hinfinite⟩
                exact absurd rfl hinfinite
          | true => simp [negative_infinite_lt_one]
      | finite s r =>
          have hwhole := exists_wholePart_finite s r
          constructor
          · intro _
            exact ⟨nofun, nofun⟩
          · intro _
            split
            · exact ⟨_, rfl⟩
            · exact hwhole
  | _ => simp [positiveOr]

theorem toDouble_isOk_iff {n : Int} :
    (∃ x, toDouble n = .ok x) ↔ n.natAbs < Binary64.overflowFrom := by
  rw [toDouble, ← Binary64.isSome_ofInt?_iff]
  generalize Binary64.ofInt? n = x
  cases x <;> simp

theorem doubleOr_isOk_iff (default : Binary64) {v : Json} :
    (∃ x, doubleOr default v = .ok x) ↔ v.SizeUsable := by
  unfold Json.SizeUsable
  cases v with
  | int n =>
      have hint : doubleOr default (.int n) = toDouble n := rfl
      rw [hint, toDouble_isOk_iff]
      simp
  | _ => simp [doubleOr]

theorem ofKind_isOk_iff {kind : ComponentKind} {props : Fields} :
    (∃ p, ofKind kind props = .ok p) ↔
      (kind = .textarea → (Fields.value props "rows").RowsUsable) ∧
        (kind = .spacer → (Fields.value props "size").SizeUsable) := by
  cases kind with
  | textarea =>
      rw [← positiveOr_isOk_iff 3]
      simp only [ofKind, bind, Except.bind]
      cases positiveOr 3 (Fields.value props "rows") <;> simp [pure, Except.pure]
  | spacer =>
      rw [← doubleOr_isOk_iff (.ofInt 16)]
      simp only [ofKind, bind, Except.bind]
      cases doubleOr (.ofInt 16) (Fields.value props "size") <;> simp [pure, Except.pure]
  | _ => simp [ofKind]

/-- Properties that are read for a kind are those of that kind. -/
theorem kind?_of_ofKind {kind : ComponentKind} {props : Fields} {p : TypedProps}
    (h : ofKind kind props = .ok p) : p.kind? = some kind := by
  cases kind with
  | textarea =>
      simp only [ofKind, bind, Except.bind] at h
      cases hrows : positiveOr 3 (Fields.value props "rows") with
      | error e => simp [hrows] at h
      | ok rows =>
          rw [hrows] at h
          cases h
          rfl
  | spacer =>
      simp only [ofKind, bind, Except.bind] at h
      cases hsize : doubleOr (.ofInt 16) (Fields.value props "size") with
      | error e => simp [hsize] at h
      | ok size =>
          rw [hsize] at h
          cases h
          rfl
  | _ =>
      cases h
      rfl

theorem kind?_of_ofType {type : String} {props : Fields} {p : TypedProps}
    (h : ofType type props = .ok p) : p.kind? = ComponentKind.ofName? type := by
  unfold ofType at h
  split at h
  · next kind hkind => rw [hkind, kind?_of_ofKind h]
  · next hkind =>
    cases h
    rw [hkind]
    rfl

end TypedProps

/-! ### Components, slots and pages -/

theorem Component.ofType_isOk_iff {c : Component} :
    (∃ p, TypedProps.ofType c.type c.props = .ok p) ↔ c.NumbersUsable := by
  unfold TypedProps.ofType NumbersUsable kind?
  cases ComponentKind.ofName? c.type with
  | none => simp
  | some kind =>
      dsimp only
      rw [TypedProps.ofKind_isOk_iff]
      cases kind <;> simp

namespace View

variable {ctx : RenderContext}

theorem component_isOk_iff (ctx : RenderContext) {c : Component} :
    (∃ n, component ctx c = .ok n) ↔ c.NumbersUsable := by
  rw [← Component.ofType_isOk_iff, component]
  cases TypedProps.ofType c.type c.props <;> simp [Except.map]

/-- A component of unknown kind is shown as a placeholder. -/
theorem component_of_unknown {c : Component} (h : c.kind? = none) :
    component ctx c = .ok (unsupported ctx c) := by
  unfold Component.kind? at h
  simp [component, TypedProps.ofType, h, Except.map, ofProps]

theorem slots_isOk_iff (ctx : RenderContext) {cs : List Component} :
    (∃ ns, slots ctx cs = .ok ns) ↔ ∀ c ∈ cs, c.NumbersUsable := by
  induction cs with
  | nil => simp [slots]
  | cons c cs ih =>
      rw [List.forall_mem_cons, ← ih, ← component_isOk_iff ctx]
      simp only [slots]
      cases component ctx c with
      | error e => simp
      | ok n => cases slots ctx cs <;> simp

/-- The node of a component in its slot. -/
structure InSlot (ctx : RenderContext) (c : Component) (n : Node) : Prop where
  kind : n.kind = .slot
  id : n.id = slotId c.id
  child : ∃ node, n.children = [node] ∧ component ctx c = .ok node

/-- Slots stand in the order of their components, so a relation that holds of each component and its
slot holds of the lists. -/
theorem slots_forall₂ {related : Component → Node → Prop} {cs : List Component}
    (hrelated : ∀ c ∈ cs, ∀ isLast n, component ctx c = .ok n →
      related c (slot ctx.config isLast c n))
    {ns : List Node} (h : slots ctx cs = .ok ns) : List.Forall₂ related cs ns := by
  induction cs generalizing ns with
  | nil =>
      cases h
      exact .nil
  | cons c cs ih =>
      rw [List.forall_mem_cons] at hrelated
      simp only [slots] at h
      split at h
      · cases h
      · next n hn =>
        split at h
        · cases h
        · next others hothers =>
          cases h
          exact .cons (hrelated.1 _ n hn) (ih hrelated.2 hothers)

theorem slots_inSlot {cs : List Component} {ns : List Node} (h : slots ctx cs = .ok ns) :
    List.Forall₂ (InSlot ctx) cs ns :=
  slots_forall₂ (fun _ _ _ n hn => ⟨rfl, rfl, n, rfl, hn⟩) h

theorem page_isOk_iff {p : Page} :
    (∃ n, page ctx p = .ok n) ↔ ∀ c ∈ p.components, c.NumbersUsable := by
  rw [← slots_isOk_iff ctx]
  simp only [page]
  cases slots ctx p.components <;> simp [Except.map]

theorem pageOf_isOk_iff {d : Document} {id : String} :
    (∃ n, pageOf ctx d id = .ok n) ↔
      ∀ p, d.page? id = some p → ∀ c ∈ p.components, c.NumbersUsable := by
  unfold pageOf
  cases d.page? id with
  | none => simp
  | some p => simpa using page_isOk_iff

/-- A page has one slot for each of its components, in order. -/
theorem page_inSlot {p : Page} {n : Node} (h : page ctx p = .ok n) :
    n.kind = .page ∧ n.id = p.id ∧ List.Forall₂ (InSlot ctx) p.components n.children := by
  simp only [page] at h
  cases hslots : slots ctx p.components with
  | error e => simp [hslots, Except.map] at h
  | ok ns =>
      rw [hslots] at h
      cases h
      exact ⟨rfl, rfl, slots_inSlot hslots⟩

end View

/-! ### Themes of accepted settings -/

namespace Config

/-- The colors of accepted settings are colors. -/
theorem colors_of_ofFields {overrides : Fields} {c : Config} (h : ofFields overrides = .ok c) :
    Text.isHexColor c.primaryColor = true ∧ Text.isHexColor c.secondaryColor = true := by
  have htakes := takes_of_ofFields h
  exact ⟨(color_eq_ok_iff.mp htakes.primaryColor).2, (color_eq_ok_iff.mp htakes.secondaryColor).2⟩

end Config

namespace Theme

/-- Every token is a color. -/
structure Colored (t : Theme) : Prop where
  primary : Text.isHexColor t.primary = true
  secondary : Text.isHexColor t.secondary = true
  accent : Text.isHexColor t.accent = true
  destructive : Text.isHexColor t.destructive = true
  background : Text.isHexColor t.background = true
  foreground : Text.isHexColor t.foreground = true
  muted : Text.isHexColor t.muted = true
  border : Text.isHexColor t.border = true
  input : Text.isHexColor t.input = true
  ring : Text.isHexColor t.ring = true

theorem default_colored : ({} : Theme).Colored := by
  constructor <;> decide +kernel

/-- A theme of colors passes its own check. -/
theorem Colored.ofAllFields_toFields {t : Theme} (h : t.Colored) :
    ofAllFields t.toFields = .ok t := by
  have htoken (key s : String) (hvalue : Fields.value t.toFields key = .str s)
      (hs : Text.isHexColor s = true) : token t.toFields key = .ok s := by
    simp only [token, hvalue, hs, if_true]
  rw [ofAllFields, htoken "primary" _ rfl h.primary, htoken "secondary" _ rfl h.secondary,
    htoken "accent" _ rfl h.accent, htoken "destructive" _ rfl h.destructive,
    htoken "background" _ rfl h.background, htoken "foreground" _ rfl h.foreground,
    htoken "muted" _ rfl h.muted, htoken "border" _ rfl h.border, htoken "input" _ rfl h.input,
    htoken "ring" _ rfl h.ring]
  rfl

/-- The theme of accepted settings is the default theme with their two colors. -/
theorem ofFields_ofConfig {overrides : Fields} {c : Config}
    (h : Config.ofFields overrides = .ok c) :
    ofFields [("primary", .str c.primaryColor), ("secondary", .str c.secondaryColor)] =
      .ok (ofConfig c) := by
  obtain ⟨hprimary, hsecondary⟩ := Config.colors_of_ofFields h
  have hcolored : (ofConfig c).Colored :=
    { default_colored with primary := hprimary, secondary := hsecondary }
  have hmerge : Fields.merge (toFields {})
      [("primary", .str c.primaryColor), ("secondary", .str c.secondaryColor)] =
      (ofConfig c).toFields := rfl
  have hknown : [("primary", Json.str c.primaryColor), ("secondary", .str c.secondaryColor)].find?
      (fun f => !Fields.has (toFields {}) f.1) = none := rfl
  simp only [ofFields, hknown, hmerge, hcolored.ofAllFields_toFields]

end Theme

/-! ### Views -/

namespace PageView

/-- A view renders exactly if the numbers on its page can be used. A missing page and a component of
unknown kind have nodes of their own, and a component is drawn with properties of its kind, in a
theme that passes its check. -/
theorem render_isOk_iff_numbersUsable (v : PageView) :
    ((∃ root, v.render = .ok root) ↔
        ∀ p, v.document.page? v.pageId = some p → ∀ c ∈ p.components, c.NumbersUsable) ∧
      (v.document.page? v.pageId = none → v.render = .ok (View.pageNotFound v.pageId)) ∧
      (∀ p root, v.document.page? v.pageId = some p → v.render = .ok root →
        root.kind = .page ∧ root.id = p.id ∧
          List.Forall₂ (View.InSlot v.context) p.components root.children) ∧
      (∀ c : Component, c.kind? = none →
        View.component v.context c = .ok (View.unsupported v.context c)) ∧
      (∀ (c : Component) (props : TypedProps), TypedProps.ofType c.type c.props = .ok props →
        props.kind? = c.kind?) ∧
      ∀ (overrides : Fields) (config : Config), Config.ofFields overrides = .ok config →
        Theme.ofFields
          [("primary", .str config.primaryColor), ("secondary", .str config.secondaryColor)] =
            .ok (.ofConfig config) := by
  refine ⟨View.pageOf_isOk_iff, ?_, ?_, ?_, ?_, ?_⟩
  · intro hmissing
    rw [render, View.pageOf, hmissing]
  · intro p root hpage hroot
    rw [render, View.pageOf, hpage] at hroot
    exact View.page_inSlot hroot
  · intro c hunknown
    exact View.component_of_unknown hunknown
  · intro c props hprops
    exact TypedProps.kind?_of_ofType hprops
  · intro overrides config haccepted
    exact Theme.ofFields_ofConfig haccepted

/-- The greatest whole number that has a double. -/
def greatestSize : Int := Binary64.overflowFrom - 1

/-- A page with a spacer of that size, a textarea whose rows are below every number, and a component
of unknown kind. -/
def boundaryPage : Page where
  id := "a"
  components := [
    { id := "gap", type := "spacer", props := [("size", .int greatestSize)] },
    { id := "note", type := "textarea", props := [("rows", .float (.infinite true))] },
    { id := "place", type := "map" }]

theorem boundary_page_renders :
    ∃ root, (start { id := "app", pages := [boundaryPage] } "a" {}).render = .ok root := by
  apply (render_isOk_iff_numbersUsable _).1.mpr
  intro p hp c hc
  cases hp
  simp only [boundaryPage, List.mem_cons, List.not_mem_nil, or_false] at hc
  rcases hc with rfl | rfl | rfl
  · intro n hn
    have hsize : n = greatestSize := (Json.int.inj hn).symm
    rw [hsize]
    decide +kernel
  · exact ⟨nofun, nofun⟩
  · trivial

/-- A size beyond the doubles. -/
def vastSize : Int := 10 ^ 400

/-- The fields of a spacer of that size. -/
def vastSpacer : Fields :=
  [("id", .str "s"), ("type", .str "spacer"), ("props", .obj [("size", .int vastSize)])]

/-- A document with the spacer on its only page. -/
def vastDocument : Json :=
  .obj [("pages", .arr [.obj [("id", .str "a"), ("components", .arr [.obj vastSpacer])]])]

/-- Not every page of an imported document renders under accepted settings. -/
theorem not_every_imported_page_renders :
    ¬ ∀ (raw : Json) (i : Imported) (page : String) (form : Form) (overrides : Fields)
        (config : Config), Document.importJson raw = .ok i →
        Config.ofFields overrides = .ok config →
        ∃ root, PageView.render { start i.document page config with form } = .ok root := by
  intro h
  have himport : ∃ i, Document.importJson vastDocument = .ok i ∧
      ∃ p, i.document.page? "a" = some p ∧ p.components = [.ofFields "s" none vastSpacer] :=
    ⟨_, rfl, _, rfl, rfl⟩
  obtain ⟨i, himport, p, hpage, hp⟩ := himport
  have hrendered := h vastDocument i "a" [] [] {} himport (by decide +kernel)
  have husable := View.pageOf_isOk_iff.mp hrendered p hpage
  rw [hp] at husable
  have hsize : vastSize.natAbs < Binary64.overflowFrom := husable _ List.mem_cons_self _ rfl
  revert hsize
  decide +kernel

end PageView

end PageBuilder
