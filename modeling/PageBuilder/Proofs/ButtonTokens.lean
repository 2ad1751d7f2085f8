import PageBuilder.Outline
import PageBuilder.Proofs.ActionMeaning
import PageBuilder.Proofs.UnnamedProps

/-! # What a button shows and what it does

A button that dispatches a token shows it. A button that dispatches none shows its property
`action`, if it has one: in the attributes of its node whatever the value is, and in the outline if
the value counts as yes. -/

namespace PageBuilder

/-! ### Tokens are not empty -/

theorem StructuredAction.token?_ne_empty {a : StructuredAction} {token : String}
    (h : a.token? = some token) : token ≠ "" := by
  have hserialize : a.serialize ≠ "" := by
    intro hempty
    have hbrace := Json.head?_compactText_obj a.toFields
    rw [show Json.compactText (.obj a.toFields) = "" from hempty] at hbrace
    cases hbrace
  unfold token? at h
  split at h
  · cases h
  · next htype =>
    split at h
    · split at h
      · cases h
        simp [ActionKind.name]
      · cases h
        decide
    · cases h
      decide
    · next kind =>
      cases h
      split
      · exact hserialize
      · exact htype
    · cases h
      exact htype

theorem Action.token?_ne_empty {a : Action} {token : String} (h : a.token? = some token) :
    token ≠ "" := by
  cases a with
  | named name =>
      simp only [token?] at h
      split at h
      · cases h
      · next hname =>
        cases h
        exact hname
  | structured a => exact StructuredAction.token?_ne_empty h
  | serialized s a => exact StructuredAction.token?_ne_empty h

/-! ### The line of a button -/

namespace Outline

/-- The line of a button up to the token. -/
def buttonHead (n : Node) : String :=
  let title := match n.children with
    | [] => ""
    | label :: _ => label.text.getD "None"
  let variant := ((Fields.get? n.attrs "variant").getD (.str "primary")).display
  "button " ++ quoted title ++ " [" ++ variant ++ "]"

/-- The line of a button that shows a token, or none. -/
def buttonLine (n : Node) (token : Option String) : String :=
  buttonHead n ++ token.elim "" (" -> " ++ ·)

/-- The text of a value that counts as yes. -/
def shownText? (v : Json) : Option String :=
  if v.truthy then some v.display else none

theorem describeButton_eq (n : Node) :
    describeButton n = buttonLine n (shownText? (Fields.value n.attrs "action")) := by
  have harrow (v : Json) : (if v.truthy then " -> " ++ v.display else "") =
      (shownText? v).elim "" (" -> " ++ ·) := by
    unfold shownText?
    split <;> rfl
  exact congrArg (buttonHead n ++ ·) (harrow _)

/-- What is shown is the token exactly if there is one or the property does not count as yes. -/
theorem shownText?_token_iff {token : Option String} (htoken : token ≠ some "")
    (property : Option Json) :
    shownText? (((token.map Json.str).or property).getD .null) = token ↔
      (token = none → (property.getD .null).truthy = false) := by
  cases token with
  | none =>
      rw [Option.map_none, Option.none_or]
      generalize property.getD .null = v
      cases hyes : v.truthy <;> simp [shownText?, hyes]
  | some token =>
      have hne : token ≠ "" := fun h => htoken (congrArg some h)
      simp [shownText?, Json.truthy, Json.display, hne]

theorem buttonLine_inj {n : Node} {a b : Option String} :
    buttonLine n a = buttonLine n b ↔ a = b := by
  unfold buttonLine
  rw [String.append_right_inj]
  cases a <;> cases b <;> simp

theorem lines_button {n : Node} (h : n.kind = .button) (style : OutlineStyle) (depth : Nat) :
    (lines style depth n).head? = some (pad style depth ++ describeButton n) := by
  obtain ⟨kind, id, text, nodeStyle, attrs, children, behaviour⟩ := n
  cases h
  rfl

end Outline

/-! ### The node of a button -/

namespace View

variable {ctx : RenderContext} {c : Component}

/-- A button is always rendered. -/
theorem component_of_button (ctx : RenderContext) (hbutton : c.kind? = some .button) :
    ∃ title variant style, component ctx c =
      .ok (button ctx c title variant style
        (Fields.without c.props (TypedProps.named .button))) := by
  unfold Component.kind? at hbutton
  rw [component, TypedProps.ofType, hbutton]
  exact ⟨_, _, _, rfl⟩

/-- The token of the action is shown, or else the property of that name. -/
theorem get?_action_button (ctx : RenderContext) (c : Component) (title variant : String)
    (style : Option Fields) {extra : Fields} (hextra : extra.DistinctKeys) :
    Fields.get? (button ctx c title variant style extra).attrs "action" =
      ((c.action.bind Action.token?).map Json.str).or (Fields.get? extra "action") := by
  unfold button
  cases c.action.bind Action.token? with
  | some token => exact Fields.get?_set_self _ _ _
  | none =>
      refine (Fields.get?_merge hextra _).trans ?_
      simp [Fields.get?_cons]

theorem clickToken?_button (hactionable : ctx.actionable = true) (title variant : String)
    (style : Option Fields) (extra : Fields) :
    (button ctx c title variant style extra).clickToken? = c.action.bind Action.token? := by
  simp only [button, Node.clickToken?, press, hactionable]
  cases c.action <;> rfl

/-- The attribute `action` of a button tells what a click dispatches, exactly if a click dispatches
a token or the button has no property `action`. Its line in an outline tells it exactly if a click
dispatches a token or the property does not count as yes. -/
theorem button_tells_token_iff (hbutton : c.kind? = some .button)
    (hactionable : ctx.actionable = true) (hkeys : c.props.DistinctKeys) :
    ∃ n, component ctx c = .ok n ∧ n.kind = .button ∧
      n.clickToken? = c.action.bind Action.token? ∧
      (Fields.get? n.attrs "action" = n.clickToken?.map .str ↔
        (n.clickToken? = none → Fields.get? c.props "action" = none)) ∧
      ∀ style depth,
        ((Outline.lines style depth n).head? =
            some (Outline.pad style depth ++ Outline.buttonLine n n.clickToken?) ↔
          (n.clickToken? = none → (Fields.value c.props "action").truthy = false)) := by
  obtain ⟨title, variant, style, hn⟩ := component_of_button ctx hbutton
  have hclick := clickToken?_button (c := c) hactionable title variant style
    (Fields.without c.props (TypedProps.named .button))
  have hattr := get?_action_button ctx c title variant style
    (hkeys.without (TypedProps.named .button))
  rw [Fields.get?_without (by decide)] at hattr
  refine ⟨_, hn, rfl, hclick, ?_, fun lineStyle depth => ?_⟩
  · rw [hattr, hclick]
    cases c.action.bind Action.token? <;> simp
  · have htoken : c.action.bind Action.token? ≠ some "" := by
      intro h
      obtain ⟨a, -, ha⟩ := Option.bind_eq_some_iff.mp h
      exact Action.token?_ne_empty ha rfl
    rw [Outline.lines_button rfl, Option.some.injEq, String.append_right_inj,
      Outline.describeButton_eq, Outline.buttonLine_inj, Fields.value, hattr, hclick]
    exact Outline.shownText?_token_iff htoken _

/-- What buttons are rendered with in the colors of the builder. -/
def builderContext : RenderContext where
  theme := .ofConfig {}
  config := {}

/-- A button with a property `action`, and perhaps an action. -/
def propertyButton (action : Option Action) : Component where
  id := "join"
  type := "button"
  props := [("action", .str "@toast")]
  action := action

theorem propertyButton_distinctKeys (action : Option Action) :
    (propertyButton action).props.DistinctKeys := by
  simp [propertyButton, Fields.DistinctKeys]

/-- The button with an action shows what it does, and without one it shows what it does not do. -/
theorem action_told_property_not :
    (∃ n, component builderContext (propertyButton (some (.named "@register"))) = .ok n ∧
      n.clickToken? = some "@register" ∧
      Fields.get? n.attrs "action" = some (.str "@register")) ∧
    ∃ n, component builderContext (propertyButton none) = .ok n ∧
      n.clickToken? = none ∧ Fields.get? n.attrs "action" ≠ none ∧
      (Outline.lines {} 0 n).head? ≠ some (Outline.pad {} 0 ++ Outline.buttonLine n none) := by
  have hactionable : builderContext.actionable = true := rfl
  constructor
  · obtain ⟨n, hn, -, hclick, hattr, -⟩ := button_tells_token_iff rfl hactionable
      (propertyButton_distinctKeys (some (.named "@register")))
    have htoken : n.clickToken? = some "@register" := hclick
    refine ⟨n, hn, htoken, ?_⟩
    rw [hattr.mpr (by simp [htoken]), htoken]
    rfl
  · obtain ⟨n, hn, -, hclick, hattr, hline⟩ := button_tells_token_iff rfl hactionable
      (propertyButton_distinctKeys none)
    have htoken : n.clickToken? = none := hclick
    rw [htoken] at hattr hline
    refine ⟨n, hn, htoken, ?_, ?_⟩
    · intro hnone
      exact absurd (hattr.mp hnone rfl) (Option.some_ne_none _)
    · intro hshown
      exact absurd ((hline {} 0).mp hshown rfl) (by decide)

/-- Not every button shows what a click on it does. -/
theorem not_every_button_tells :
    ¬ ∀ (ctx : RenderContext) (c : Component) (n : Node), c.kind? = some .button →
      ctx.actionable = true → c.props.DistinctKeys → component ctx c = .ok n →
      Fields.get? n.attrs "action" = n.clickToken?.map .str := by
  intro h
  have htold := h builderContext (propertyButton none) _ rfl rfl
    (propertyButton_distinctKeys none) rfl
  exact absurd htold (Option.some_ne_none _)

end View

end PageBuilder
