import PageBuilder.Preview.Execution
import PageBuilder.Proofs.JsonText
import PageBuilder.Proofs.ValueDisplay

/-! # What an action object means

`ActionObject.meaning` reads the effect of an action off its fields. Executing the token of the
action has that effect: what the token drops or writes out is not missed when it is taken apart. -/

namespace PageBuilder

/-! ### Reading tokens -/

theorem Text.after?_eq_some_iff {start s rest : String} :
    Text.after? start s = some rest ↔ s = start ++ rest := by
  rw [Text.after?, Option.map_eq_some_iff]
  constructor
  · rintro ⟨cs, hcs, rfl⟩
    apply String.toList_inj.mp
    rw [String.toList_append, String.toList_ofList]
    exact Text.afterChars?_eq_some_iff.mp hcs
  · rintro rfl
    exact ⟨rest.toList, Text.afterChars?_eq_some_iff.mpr (by simp), String.ofList_toList⟩

/-- The names of actions and the tokens that push a page start with the same character. -/
theorem Command.after?_pushStart_of_head {token : String} (h : token.toList.head? ≠ some '@') :
    Text.after? pushStart token = none := by
  cases hafter : Text.after? pushStart token with
  | none => rfl
  | some page =>
      rw [Text.after?_eq_some_iff.mp hafter, String.toList_append] at h
      exact absurd rfl h

theorem ActionKind.head?_name (k : ActionKind) : k.name.toList.head? = some '@' := by
  cases k <;> decide

theorem ActionKind.ofName?_eq_some_iff {s : String} {k : ActionKind} :
    ofName? s = some k ↔ s = k.name := by
  constructor
  · intro h
    have hname := List.find?_some h
    exact (beq_iff_eq.mp hname).symm
  · rintro rfl
    exact ofName?_name k

theorem Command.ofToken_bare [Json.Limits] {token : String} (hbrace : token.toList.head? ≠ some '{')
    (hpush : Text.after? pushStart token = none) : ofToken token = .ok ⟨token, []⟩ := by
  rw [ofToken, if_neg hbrace, hpush]

theorem Json.head?_compactText_obj (fs : Fields) :
    (Json.compactText (.obj fs)).toList.head? = some '{' := by
  rw [Json.compactText, String.toList_ofList]
  cases fs <;> rfl

/-- The text of an action object is taken apart into its type and parameters. -/
theorem Command.ofToken_object [Json.Limits] {token : String}
    (hbrace : token.toList.head? = some '{') {fs : Fields}
    (hparse : Json.parse token = .ok (.obj fs)) {type : String} (htype : Fields.value fs "type" = .str type) :
    ofToken token = .ok ⟨type, (Fields.value fs "params").fields?.getD []⟩ := by
  rw [ofToken, if_pos hbrace, hparse]
  simp only [htype]

namespace History

theorem follow?_eq_none {token : String} (h : ∀ k ∈ [ActionKind.pushPage, .popPage], token ≠ k.name)
    (hpush : Text.after? Command.pushStart token = none) (history : History) :
    history.follow? token = none := by
  have hpop := h .popPage (by decide)
  have hbare := h .pushPage (by decide)
  rw [follow?, if_neg hpop, hpush]
  exact if_neg hbare

/-- A token that does not move between pages is carried out as a command. -/
theorem effect_of_command [Json.Limits] {token : String} {c : Command} {history : History}
    (hfollow : history.follow? token = none) (hc : Command.ofToken token = .ok c) :
    history.effect token = .ok (c.run history) := by
  rw [effect, hfollow, hc]

/-- A text that looks like an object is none of the tokens that only move between pages. -/
theorem follow?_of_brace {token : String} (hbrace : token.toList.head? = some '{')
    (history : History) : history.follow? token = none := by
  have hhead : token.toList.head? ≠ some '@' := by
    rw [hbrace]
    decide
  have hname : ∀ k ∈ [ActionKind.pushPage, .popPage], token ≠ k.name := by
    intro k _ hk
    rw [hk] at hhead
    exact hhead k.head?_name
  exact follow?_eq_none hname (Command.after?_pushStart_of_head hhead) history

/-- The text of an action object is carried out as the object says. -/
theorem effect_of_object [Json.Limits] {token : String} (hbrace : token.toList.head? = some '{')
    {fs : Fields} (hparse : Json.parse token = .ok (.obj fs)) {type : String}
    (htype : Fields.value fs "type" = .str type) (history : History) :
    history.effect token =
      .ok ((Command.mk type ((Fields.value fs "params").fields?.getD [])).run history) :=
  effect_of_command (follow?_of_brace hbrace history) (Command.ofToken_object hbrace hparse htype)

theorem effect_push [Json.Limits] (history : History) {page : String} (hpage : page ≠ "") :
    history.effect (ActionKind.pushPage.name ++ ":" ++ page) =
      .ok (.navigated page, history.push page) := by
  have hafter : Text.after? Command.pushStart (ActionKind.pushPage.name ++ ":" ++ page) =
      some page := Text.after?_eq_some_iff.mpr rfl
  have hpop : ActionKind.pushPage.name ++ ":" ++ page ≠ ActionKind.popPage.name := by
    have hnone : Text.after? Command.pushStart ActionKind.popPage.name = none := by decide
    intro h
    rw [← h, hafter] at hnone
    cases hnone
  rw [effect, follow?, if_neg hpop, hafter]
  simp only [if_neg hpage]
  rfl

end History

/-! ### Action objects -/

namespace ActionObject

/-- The type of an action object as a text, empty if it is absent. -/
def typeText (fs : Fields) : String :=
  (Fields.value fs "type").displayOrEmpty

/-- The parameters of an action object; a value that is no object counts as none. -/
def params (fs : Fields) : Fields :=
  (Fields.value fs "params").fields?.getD []

/-- The page that an action object names: the first of `pageId` and `page_id` among the parameters
and `pageId` beside the type that counts as yes. -/
def target? (fs : Fields) : Option String :=
  ([Fields.value (params fs) "pageId", Fields.value (params fs) "page_id",
    Fields.value fs "pageId"].find? Json.truthy).map Json.display

/-- The message of a toast. -/
def toastText (fs : Fields) : String :=
  let message := Fields.value (params fs) "message"
  if message.truthy then message.display else defaultToast

/-- Going to the last of the visited pages. -/
def arrived (visited : List String) : Effect × List String :=
  (.navigated (visited.getLast?.getD ""), visited)

/-- The effect of an action object, and the visited pages after it. -/
def meaning (fs : Fields) (visited : List String) : Effect × List String :=
  match ActionKind.ofName? (typeText fs) with
  | some .pushPage => arrived (visited ++ (target? fs).toList)
  | some .popPage => arrived (if 1 < visited.length then visited.dropLast else visited)
  | some .submitForm => (.notified ⟨.success, "Form submitted successfully!"⟩, visited)
  | some .biometricAuth => (.notified ⟨.info, "Biometric authentication requested"⟩, visited)
  | some .toast => (.notified ⟨.info, toastText fs⟩, visited)
  | some .register => (.notified ⟨.info, "Registration initiated!"⟩, visited)
  | none => (.ignored, visited)

/-- The token of an action object. -/
def token? [Json.Limits] (fs : Fields) : Except Json.Overrun (Option String) :=
  (ActionForm.stored (.obj fs)).token?

theorem pushTarget?_ofFields (fs : Fields) :
    (StructuredAction.ofFields fs).pushTarget? = target? fs := by
  have hbeside : Fields.value (Fields.without fs ["type", "params"]) "pageId" =
      Fields.value fs "pageId" := Fields.value_without (by decide)
  simp only [StructuredAction.pushTarget?, StructuredAction.ofFields, hbeside]
  rfl

theorem target?_ne_empty {fs : Fields} {page : String} (h : target? fs = some page) :
    page ≠ "" :=
  Json.ne_empty_of_find?_truthy h

/-- An object without a type has no token. -/
theorem token?_eq_none [Json.Limits] {fs : Fields} (h : typeText fs = "") :
    token? fs = .ok none :=
  congrArg Except.ok (if_pos h)

theorem token?_of_name [Json.Limits] {fs : Fields} {k : ActionKind} (h : typeText fs = k.name) :
    token? fs = .ok (match k with
      | .pushPage =>
        match target? fs with
        | some page => some (ActionKind.pushPage.name ++ ":" ++ page)
        | none => some ActionKind.pushPage.name
      | .popPage => some ActionKind.popPage.name
      | kind => some (if kind.keepsParams then Json.compactText (.obj fs) else kind.name)) := by
  have htype : (StructuredAction.ofFields fs).type = k.name := h
  have hne : k.name ≠ "" := by cases k <;> decide
  change Except.ok (StructuredAction.ofFields fs).token? = _
  rw [StructuredAction.token?, htype, if_neg hne, ActionKind.ofName?_name, pushTarget?_ofFields]
  cases k <;> rfl

theorem token?_of_other [Json.Limits] {fs : Fields} (hne : typeText fs ≠ "")
    (h : ActionKind.ofName? (typeText fs) = none) : token? fs = .ok (some (typeText fs)) := by
  have htype : (StructuredAction.ofFields fs).type = typeText fs := rfl
  change Except.ok (StructuredAction.ofFields fs).token? = _
  rw [StructuredAction.token?, htype, if_neg hne, h]

/-- A type that is the name of an action was stored as a text. -/
theorem value_type_of_name {fs : Fields} {k : ActionKind} (h : typeText fs = k.name) :
    Fields.value fs "type" = .str k.name := by
  obtain ⟨cs, hcs⟩ : ∃ cs, k.name.toList = '@' :: cs := by
    cases k <;> exact ⟨_, rfl⟩
  have hne : Fields.value fs "type" ≠ .null := by
    intro hnull
    rw [typeText, hnull] at h
    rw [← h] at hcs
    cases hcs
  have hdisplay : (Fields.value fs "type").display = k.name := by
    rw [← h, typeText, Json.displayOrEmpty]
    cases hv : Fields.value fs "type" <;> first | exact absurd hv hne | rfl
  exact Json.eq_str_of_display hdisplay hcs rfl (by decide) (by decide)

/-- An action that keeps its parameters reaches the preview as the object it is. -/
theorem effect_of_serialized [Json.Limits] {fs : Fields} (hfs : (Json.obj fs).WellFormed)
    (hfits : (Json.obj fs).fits 0 = true) {k : ActionKind} (h : typeText fs = k.name)
    (history : History) :
    history.effect (Json.compactText (.obj fs)) =
      .ok ((Command.mk k.name (params fs)).run history) :=
  History.effect_of_object (Json.head?_compactText_obj fs) (Json.parse_compactText hfs hfits)
    (value_type_of_name h) history

theorem arrived_toList (next : History) :
    arrived next.toList = (.navigated next.current, next.toList) := by
  rw [arrived, next.toList_getLast?, Option.getD_some]

theorem toList_pop_eq (history : History) :
    history.pop.toList =
      if 1 < history.toList.length then history.toList.dropLast else history.toList := by
  rw [History.toList_pop, History.length_toList, History.depth]
  cases history.opened <;> simp

section

variable [Json.Limits]

/-- The token is executed, and its effect is the given meaning, history and all. -/
def Means (token : String) (history : History) (m : Effect × List String) : Prop :=
  ∃ next, history.execute token = .ok (⟨token, m.1⟩, next) ∧ next.toList = m.2

theorem Means.of_effect {token : String} {history next : History} {effect : Effect}
    (h : history.effect token = .ok (effect, next)) :
    Means token history (effect, next.toList) := by
  refine ⟨next, ?_, rfl⟩
  rw [History.execute, h]
  rfl

/-- The tokens of the known actions, by the name of the action. -/
theorem exists_token_of_name {fs : Fields} (hfs : (Json.obj fs).WellFormed)
    (hfits : (Json.obj fs).fits 0 = true) {k : ActionKind} (h : typeText fs = k.name)
    (history : History) :
    ∃ t, token? fs = .ok (some t) ∧ Means t history (meaning fs history.toList) := by
  have htoken := token?_of_name h
  have hmeaning : ActionKind.ofName? (typeText fs) = some k := by
    rw [h, ActionKind.ofName?_name]
  have hserialized := effect_of_serialized hfs hfits h history
  cases k with
  | pushPage =>
      cases htarget : target? fs with
      | some page =>
          have heffect := history.effect_push (target?_ne_empty htarget)
          refine ⟨_, by simpa only [htarget] using htoken, ?_⟩
          have hnext : history.toList ++ [page] = (history.push page).toList := by simp
          simp only [meaning, hmeaning, htarget, Option.toList_some, hnext, arrived_toList]
          exact .of_effect heffect
      | none =>
          refine ⟨_, by simpa only [htarget] using htoken, ?_⟩
          simp only [meaning, hmeaning, htarget, Option.toList_none, List.append_nil,
            arrived_toList]
          exact .of_effect rfl
  | popPage =>
      refine ⟨_, htoken, ?_⟩
      simp only [meaning, hmeaning, ← toList_pop_eq, arrived_toList]
      exact .of_effect rfl
  | submitForm | biometricAuth | toast =>
      refine ⟨_, htoken, ?_⟩
      simp only [meaning, hmeaning]
      exact .of_effect hserialized
  | register =>
      have hpush : Text.after? Command.pushStart ActionKind.register.name = none := by decide
      have heffect := History.effect_of_command
        (History.follow?_eq_none (by decide) hpush history) (Command.ofToken_bare (by decide) hpush)
      refine ⟨_, htoken, ?_⟩
      simp only [meaning, hmeaning]
      exact .of_effect heffect

theorem exists_token_of_other {fs : Fields} (hbrace : (typeText fs).toList.head? ≠ some '{')
    (hpush : Text.after? Command.pushStart (typeText fs) = none) (hne : typeText fs ≠ "")
    (h : ActionKind.ofName? (typeText fs) = none) (history : History) :
    ∃ t, token? fs = .ok (some t) ∧ Means t history (meaning fs history.toList) := by
  have hname : ∀ k ∈ [ActionKind.pushPage, .popPage], typeText fs ≠ k.name := by
    intro k _ hk
    rw [hk, ActionKind.ofName?_name] at h
    cases h
  have heffect := History.effect_of_command (History.follow?_eq_none hname hpush history)
    (Command.ofToken_bare hbrace hpush)
  have hrun : (Command.mk (typeText fs) []).run history = (.ignored, history) := by
    simp only [Command.run, Command.notification?, h]
  rw [hrun] at heffect
  refine ⟨_, token?_of_other hne h, ?_⟩
  simp only [meaning, h]
  exact .of_effect heffect

end

theorem typeText_eq_empty_iff {fs : Fields} :
    typeText fs = "" ↔ Fields.value fs "type" = .null ∨ Fields.value fs "type" = .str "" :=
  Json.displayOrEmpty_eq_empty_iff

theorem head?_ne_of_after? {c : Char} {s : String} (h : Text.after? (String.singleton c) s = none) :
    s.toList.head? ≠ some c := by
  intro hhead
  obtain ⟨cs, hcs⟩ : ∃ cs, s.toList = c :: cs := by
    cases hs : s.toList with
    | nil => simp [hs] at hhead
    | cons d ds =>
        rw [hs] at hhead
        cases hhead
        exact ⟨ds, rfl⟩
  have hstart : s = String.singleton c ++ String.ofList cs := by
    apply String.toList_inj.mp
    simp [hcs]
  rw [Text.after?_eq_some_iff.mpr hstart] at h
  cases h

/-- Executing the token of an action object within the limits of the reader means what the fields
say, unless the type itself looks like a token: an object without a type has no token, and any other
has one that means the same as the object on every history. -/
theorem token_means_object [Json.Limits] {fs : Fields} (hfs : (Json.obj fs).WellFormed)
    (hfits : (Json.obj fs).fits 0 = true) (hbrace : Text.after? "\x7b" (typeText fs) = none)
    (hpush : Text.after? "@pushPage:" (typeText fs) = none) (history : History) :
    (Fields.value fs "type" = .null ∨ Fields.value fs "type" = .str "" → token? fs = .ok none) ∧
      (¬ (Fields.value fs "type" = .null ∨ Fields.value fs "type" = .str "") →
        ∃ t, token? fs = .ok (some t) ∧ Means t history (meaning fs history.toList)) := by
  rw [← typeText_eq_empty_iff]
  constructor
  · exact token?_eq_none
  · intro hne
    cases hkind : ActionKind.ofName? (typeText fs) with
    | some k =>
        exact exists_token_of_name hfs hfits (ActionKind.ofName?_eq_some_iff.mp hkind) history
    | none => exact exists_token_of_other (head?_ne_of_after? hbrace) hpush hne hkind history

/-- A page id with a colon arrives whole, and a toast keeps its message. -/
theorem colon_and_message_arrive :
    (∃ t, token? [("type", .str "@pushPage"), ("params", .null), ("pageId", .str "a:b")] =
        .ok (some t) ∧
      Means t ⟨"home", []⟩ (.navigated "a:b", ["home", "a:b"])) ∧
    ∃ t, token? [("type", .str "@toast"), ("params", .obj [("message", .int 7)])] =
        .ok (some t) ∧
      Means t ⟨"home", []⟩ (.notified ⟨.info, "7"⟩, ["home"]) := by
  constructor
  · refine (token_means_object ?_ (by decide) (by decide) (by decide) ⟨"home", []⟩).2 ?_
    · simp [Json.wellFormed_obj, Fields.DistinctKeys]
    · simp [Fields.value, Fields.get?]
  · refine (token_means_object ?_ (by decide) (by decide) (by decide) ⟨"home", []⟩).2 ?_
    · simp [Json.wellFormed_obj, Fields.DistinctKeys]
    · simp [Fields.value, Fields.get?]

end ActionObject

end PageBuilder
