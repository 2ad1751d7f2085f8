import Mathlib.Data.List.Forall2
import Mathlib.Data.List.Infix
import PageBuilder.Preview.Executor
import PageBuilder.Proofs.ActionMeaning
import PageBuilder.Proofs.ReaderLimits

/-! # The discipline of an executor

Whatever text it is given, an executor moves by one page at most and never off the first page, and
it passes on a notification exactly if that is the outcome. A run in which pages are opened and left
like brackets ends where it started. Only a text that looks like an object and goes beyond a limit
of the reader is not executed. -/

namespace PageBuilder

/-! ### One step -/

namespace History

/-- The visited pages after a step: the same, one more, or one less if that is not the first. -/
inductive Step (visited : List String) : List String → Prop
  | stay : Step visited visited
  | push {page : String} (hpage : page ≠ "") : Step visited (visited ++ [page])
  | pop (hlong : 1 < visited.length) : Step visited visited.dropLast

theorem Step.head? {visited next : List String} (h : Step visited next) (hne : visited ≠ []) :
    next.head? = visited.head? := by
  obtain ⟨root, rest, rfl⟩ := List.exists_cons_of_ne_nil hne
  cases h with
  | stay => rfl
  | push hpage => rfl
  | pop hlong =>
      rw [List.length_cons] at hlong
      rw [List.dropLast_cons_of_ne_nil (List.ne_nil_of_length_pos (by omega))]
      rfl

theorem step_push (h : History) {page : String} (hpage : page ≠ "") :
    Step h.toList (h.push page).toList := by
  rw [toList_push]
  exact .push hpage

theorem step_pop (h : History) : Step h.toList h.pop.toList := by
  rw [ActionObject.toList_pop_eq]
  split
  · next hlong => exact .pop hlong
  · exact .stay

theorem step_follow? {h next : History} {token : String} (hnext : h.follow? token = some next) :
    Step h.toList next.toList := by
  rw [follow?] at hnext
  split at hnext
  · cases hnext
    exact h.step_pop
  · split at hnext
    · split at hnext
      · cases hnext
        exact .stay
      · next hpage =>
        cases hnext
        exact h.step_push hpage
    · split at hnext
      · cases hnext
        exact .stay
      · cases hnext

/-- What can come of a token: a move, a notification, or nothing. -/
inductive Comes (h : History) : Effect × History → Prop
  | navigated (next : History) (hstep : Step h.toList next.toList) :
      Comes h (.navigated next.current, next)
  | notified (n : Notification) : Comes h (.notified n, h)
  | ignored : Comes h (.ignored, h)

theorem comes_run (c : Command) (h : History) : h.Comes (c.run h) := by
  rw [Command.run]
  split
  · cases htarget : c.pushTarget? with
    | none => exact .navigated h .stay
    | some page => exact .navigated _ (h.step_push (Json.ne_empty_of_find?_truthy htarget))
  · exact .navigated _ h.step_pop
  · split
    · exact .notified _
    · exact .ignored

end History

/-! ### Tokens that are not executed -/

section Reading

variable [Json.Limits]

/-- The token looks like an object and goes beyond a limit of the reader. -/
structure Oversized (token : String) (limit : Json.Overrun) : Prop where
  brace : token.toList.head? = some '{'
  parse : Json.parse token = .error (.overrun limit)

theorem Command.ofToken_eq_overrun_iff {token : String} {limit : Json.Overrun} :
    ofToken token = .error (.overrun limit) ↔ Oversized token limit := by
  constructor
  · intro h
    rw [ofToken] at h
    split at h
    · next hbrace =>
      split at h
      · next halt hparse =>
        cases halt with
        | fault fault => cases h
        | overrun limit' =>
            cases h
            exact ⟨hbrace, hparse⟩
      · split at h <;> cases h
      · cases h
    · split at h <;> cases h
  · intro h
    rw [ofToken, if_pos h.brace, h.parse]
    rfl

namespace History

theorem effect_eq_error_iff {h : History} {token : String} {limit : Json.Overrun} :
    h.effect token = .error limit ↔ Oversized token limit := by
  rw [← Command.ofToken_eq_overrun_iff]
  constructor
  · intro heffect
    rw [effect] at heffect
    split at heffect
    · cases heffect
    · split at heffect
      · cases heffect
      · next htoken =>
        cases heffect
        exact htoken
      · cases heffect
  · intro htoken
    have hbrace := (Command.ofToken_eq_overrun_iff.mp htoken).brace
    rw [effect, follow?_of_brace hbrace, htoken]

theorem comes_of_effect {h : History} {token : String} {r : Effect × History}
    (heffect : h.effect token = .ok r) : h.Comes r := by
  rw [effect] at heffect
  split at heffect
  · next hnext =>
    cases heffect
    exact .navigated _ (step_follow? hnext)
  · split at heffect
    · cases heffect
      exact .notified _
    · cases heffect
    · cases heffect
      exact comes_run _ h

end History

end Reading

namespace Executor

/-- What a token does to an executor, by the effect that it reports. -/
inductive Step (x : Executor) : Effect → Executor → Prop
  | navigated (next : History) (hstep : History.Step x.history.toList next.toList) :
      Step x (.navigated next.current) { x with history := next }
  | notified (n : Notification) :
      Step x (.notified n) { x with passed := x.passed ++ if x.listening then [n] else [] }
  | ignored : Step x .ignored x

theorem Step.head? {x next : Executor} {e : Effect} (h : x.Step e next) :
    next.history.toList.head? = x.history.toList.head? := by
  cases h with
  | navigated next hstep => exact hstep.head? (List.cons_ne_nil _ _)
  | notified n => rfl
  | ignored => rfl

variable [Json.Limits]

theorem perform_of_effect {x : Executor} {token : String} {e : Effect} {next : History}
    (h : x.history.effect token = .ok (e, next)) :
    x.perform token = (.ok ⟨token, e⟩,
      (ActionOutcome.notification? ⟨token, e⟩).elim { x with history := next }
        (emit { x with history := next })) := by
  rw [perform, History.execute, h]
  rfl

theorem perform_history {x : Executor} {token : String} {e : Effect} {next : History}
    (h : x.history.effect token = .ok (e, next)) : (x.perform token).2.history = next := by
  rw [perform_of_effect h]
  cases ActionOutcome.notification? ⟨token, e⟩ <;> rfl

theorem perform_of_error {x : Executor} {token : String} {limit : Json.Overrun}
    (h : x.history.effect token = .error limit) : x.perform token = (.error limit, x) := by
  rw [perform, History.execute, h]
  rfl

/-- A token is not executed exactly if it is oversized, and then nothing happens. -/
theorem perform_eq_error_iff {x : Executor} {token : String} {limit : Json.Overrun} :
    x.perform token = (.error limit, x) ↔ Oversized token limit := by
  rw [← History.effect_eq_error_iff (h := x.history)]
  refine ⟨fun hperform => ?_, perform_of_error⟩
  cases heffect : x.history.effect token with
  | error limit' =>
      rw [perform_of_error heffect] at hperform
      cases hperform
      rfl
  | ok r =>
      rw [perform_of_effect heffect] at hperform
      cases hperform

theorem exists_step_perform {x : Executor} {token : String}
    (h : ∀ limit, ¬ Oversized token limit) :
    ∃ e next, x.perform token = (.ok ⟨token, e⟩, next) ∧ x.Step e next := by
  cases heffect : x.history.effect token with
  | error limit => exact absurd (History.effect_eq_error_iff.mp heffect) (h limit)
  | ok r =>
      obtain ⟨e, next⟩ := r
      refine ⟨e, _, perform_of_effect heffect, ?_⟩
      cases History.comes_of_effect heffect with
      | navigated next hstep => exact .navigated next hstep
      | notified n => exact .notified n
      | ignored => exact .ignored

/-- A token that only moves between pages is followed. -/
theorem perform_of_follow? {x : Executor} {token : String} {next : History}
    (h : x.history.follow? token = some next) :
    x.perform token = (.ok ⟨token, .navigated next.current⟩, { x with history := next }) := by
  have heffect : x.history.effect token = .ok (.navigated next.current, next) := by
    rw [History.effect, h]
  rw [perform_of_effect heffect]
  rfl

/-- A token that cannot be taken apart shows the general notification. -/
theorem perform_of_fault (x : Executor) {token : String} {fault : TokenFault}
    (h : Command.ofToken token = .error (.fault fault)) :
    (x.perform token).1 = .ok ⟨token, .notified ⟨.info, "Action executed!"⟩⟩ := by
  have hbrace : token.toList.head? = some '{' := by
    by_contra hbrace
    rw [Command.ofToken, if_neg hbrace] at h
    split at h <;> cases h
  have heffect : x.history.effect token =
      .ok (.notified ⟨.info, "Action executed!"⟩, x.history) := by
    rw [History.effect, History.follow?_of_brace hbrace, h]
  rw [perform_of_effect heffect]

theorem perform_head? (x : Executor) (token : String) :
    (x.perform token).2.history.toList.head? = x.history.toList.head? := by
  by_cases hover : ∃ limit, Oversized token limit
  · obtain ⟨limit, hlimit⟩ := hover
    rw [perform_eq_error_iff.mpr hlimit]
  · obtain ⟨e, next, hperform, hstep⟩ := exists_step_perform (x := x) (not_exists.mp hover)
    rw [hperform]
    exact hstep.head?

theorem run_head? (x : Executor) (tokens : List String) :
    (x.run tokens).history.toList.head? = x.history.toList.head? := by
  induction tokens generalizing x with
  | nil => rfl
  | cons token tokens ih => rw [run_cons, ih, perform_head?]

end Executor

/-! ### Runs that come back -/

/-- A page is opened or left. -/
inductive Move where
  | push
  | pop
  deriving DecidableEq, Repr

namespace Move

section Tokens

variable [Json.Limits]

/-- The text of an object that names the action. -/
structure Spells (token : String) (k : ActionKind) (fs : Fields) : Prop where
  brace : token.toList.head? = some '{'
  parse : Json.parse token = .ok (.obj fs)
  type : Fields.value fs "type" = .str k.name

/-- The tokens that carry out a move: a bare one, or the text of an action object. -/
inductive CarriedBy : Move → String → Prop
  | pushBare {page : String} (hpage : page ≠ "") : CarriedBy .push ("@pushPage:" ++ page)
  | pushObject {token : String} {fs params : Fields} (h : Spells token .pushPage fs)
      (hparams : Fields.value fs "params" = .obj params)
      (hpage : (Fields.value params "pageId").truthy ∨ (Fields.value params "page_id").truthy) :
      CarriedBy .push token
  | popBare : CarriedBy .pop "@popPage"
  | popObject {token : String} {fs : Fields} (h : Spells token .popPage fs) :
      CarriedBy .pop token

theorem Spells.effect {token : String} {k : ActionKind} {fs : Fields} (h : Spells token k fs)
    (history : History) :
    history.effect token =
      .ok ((Command.mk k.name ((Fields.value fs "params").fields?.getD [])).run history) :=
  History.effect_of_object h.brace h.parse h.type history

/-- The compact text of an action object spells it. -/
theorem Spells.compactText {fs : Fields} (hfs : (Json.obj fs).WellFormed)
    (hfits : (Json.obj fs).fits 0 = true) {k : ActionKind}
    (htype : Fields.value fs "type" = .str k.name) : Spells (Json.compactText (.obj fs)) k fs :=
  ⟨Json.head?_compactText_obj fs, Json.parse_compactText hfs hfits, htype⟩

theorem CarriedBy.push {token : String} (h : CarriedBy .push token) (history : History) :
    ∃ e page, history.effect token = .ok (e, history.push page) := by
  cases h with
  | @pushBare page hpage => exact ⟨_, page, history.effect_push hpage⟩
  | @pushObject token fs params h hparams hpage =>
      obtain ⟨v, hv⟩ : ∃ v, [Fields.value params "pageId",
          Fields.value params "page_id"].find? Json.truthy = some v := by
        rw [← Option.isSome_iff_exists, List.find?_isSome]
        simpa using hpage
      refine ⟨.navigated (history.push v.display).current, v.display, ?_⟩
      rw [h.effect, hparams, Command.run]
      simp [ActionKind.ofName?_name, Command.pushTarget?, Json.fields?, hv]

theorem CarriedBy.pop {token : String} (h : CarriedBy .pop token) (history : History) :
    ∃ e, history.effect token = .ok (e, history.pop) := by
  cases h with
  | popBare => exact ⟨_, rfl⟩
  | popObject h =>
      refine ⟨.navigated history.pop.current, ?_⟩
      rw [h.effect, Command.run, ActionKind.ofName?_name]

end Tokens

/-- With `opened` pages open at the start, no page is left that was not opened. -/
def Covered (opened : Nat) (ms : List Move) : Prop :=
  ∀ before, before <+: ms → before.count .pop ≤ opened + before.count .push

/-- As many pages are left as are opened, and at no time are more left. -/
structure Balanced (ms : List Move) : Prop where
  covered : ∀ before, before <+: ms → before.count .pop ≤ before.count .push
  settled : ms.count .pop = ms.count .push

theorem Covered.push {opened : Nat} {ms : List Move} (h : Covered opened (.push :: ms)) :
    Covered (opened + 1) ms := by
  intro before hbefore
  have hcount := h (.push :: before) ((List.prefix_cons_inj _).mpr hbefore)
  rw [List.count_cons_self, List.count_cons_of_ne (by decide)] at hcount
  omega

theorem Covered.pop {opened : Nat} {ms : List Move} (h : Covered (opened + 1) (.pop :: ms)) :
    Covered opened ms := by
  intro before hbefore
  have hcount := h (.pop :: before) ((List.prefix_cons_inj _).mpr hbefore)
  rw [List.count_cons_self, List.count_cons_of_ne (by decide)] at hcount
  omega

theorem not_covered_zero_pop (ms : List Move) : ¬ Covered 0 (.pop :: ms) := by
  intro h
  exact absurd (h [.pop] (List.prefix_append [.pop] ms)) (by decide)

theorem Balanced.covered_zero {ms : List Move} (h : Balanced ms) : Covered 0 ms := by
  intro before hbefore
  rw [Nat.zero_add]
  exact h.covered before hbefore

end Move

namespace Executor

section Runs

variable [Json.Limits]

/-- While no page is left that was not opened, the pages `below` stay, and those above them are as
many as were opened and not left. -/
theorem run_moves {ms : List Move} {tokens : List String}
    (h : List.Forall₂ Move.CarriedBy ms tokens) {x : Executor} {above below : List String}
    (hx : x.history.opened = above ++ below) (hms : Move.Covered above.length ms) :
    ∃ above', (x.run tokens).history = ⟨x.history.root, above' ++ below⟩ ∧
      above'.length + ms.count .pop = above.length + ms.count .push := by
  -- the induction is on the moves, with the pages above free: a move adds one or takes one off
  induction h generalizing x above with
  | nil => exact ⟨above, by rw [run_nil, ← hx], rfl⟩
  | @cons m token ms tokens hm hrest ih =>
      cases m with
      | push =>
          obtain ⟨e, page, heffect⟩ := hm.push x.history
          have hpush := perform_history heffect
          have hopened : (x.perform token).2.history.opened = (page :: above) ++ below := by
            rw [hpush, History.push, hx]
            rfl
          obtain ⟨above', hrun, hcount⟩ := ih hopened hms.push
          rw [hpush] at hrun
          rw [List.length_cons] at hcount
          refine ⟨above', hrun, ?_⟩
          rw [List.count_cons_self, List.count_cons_of_ne (by decide)]
          omega
      | pop =>
          obtain ⟨e, heffect⟩ := hm.pop x.history
          have hpop := perform_history heffect
          cases above with
          | nil => exact absurd hms (Move.not_covered_zero_pop ms)
          | cons page rest =>
              have hopened : (x.perform token).2.history.opened = rest ++ below := by
                rw [hpop, History.pop, hx]
                rfl
              obtain ⟨above', hrun, hcount⟩ := ih hopened hms.pop
              rw [hpop] at hrun
              refine ⟨above', hrun, ?_⟩
              rw [List.count_cons_self, List.count_cons_of_ne (by decide), List.length_cons]
              omega

/-- A balanced run ends where it started. -/
theorem run_balanced {ms : List Move} (hms : Move.Balanced ms) {tokens : List String}
    (h : List.Forall₂ Move.CarriedBy ms tokens) (x : Executor) :
    (x.run tokens).history = x.history := by
  have hopened : x.history.opened = [] ++ x.history.opened := rfl
  obtain ⟨above, hrun, hcount⟩ := run_moves h hopened hms.covered_zero
  have hnil : above = [] := by
    apply List.eq_nil_of_length_eq_zero
    rw [hms.settled, List.length_nil] at hcount
    omega
  rw [hrun, hnil]
  rfl

/-- After any run a token is refused exactly if it looks like an object and goes beyond a limit of
the reader, and then nothing happens. Whatever else it executes, an executor only ever opens a page
with a name, leaves a page that is not the first, or stays, and what it passes on are its
notifications; it keeps its first page. A token that cannot be taken apart only shows a
notification, one that only moves between pages is followed, and the tokens of a balanced run lead
back to where it started. -/
theorem run_keeps_discipline (x : Executor) :
    (∀ tokens token limit,
        (x.run tokens).perform token = (.error limit, x.run tokens) ↔ Oversized token limit) ∧
      (∀ tokens token, (∀ limit, ¬ Oversized token limit) →
        ∃ e next, (x.run tokens).perform token = (.ok ⟨token, e⟩, next) ∧
          (x.run tokens).Step e next) ∧
      (∀ tokens, (x.run tokens).history.toList ≠ [] ∧
        (x.run tokens).history.toList.head? = x.history.toList.head?) ∧
      (∀ token fault, Command.ofToken token = .error (.fault fault) →
        (x.perform token).1 = .ok ⟨token, .notified ⟨.info, "Action executed!"⟩⟩) ∧
      (∀ token next, x.history.follow? token = some next →
        x.perform token =
          (.ok ⟨token, .navigated next.current⟩, { x with history := next })) ∧
      ∀ ms tokens, Move.Balanced ms → List.Forall₂ Move.CarriedBy ms tokens →
        (x.run tokens).history = x.history := by
  refine ⟨?_, ?_, ?_, ?_, ?_, ?_⟩
  · intro tokens token limit
    exact perform_eq_error_iff
  · intro tokens token hread
    exact exists_step_perform hread
  · intro tokens
    exact ⟨List.cons_ne_nil _ _, x.run_head? tokens⟩
  · intro token fault hfault
    exact x.perform_of_fault hfault
  · intro token next hnext
    exact perform_of_follow? hnext
  · intro ms tokens hms hcarried
    exact run_balanced hms hcarried x

end Runs

/-- The second page is opened and left by the text of an object. -/
def bracketTokens : List String :=
  ["@pushPage:" ++ "a",
    Json.compactText (.obj [("type", .str "@pushPage"), ("params", .obj [("page_id", .int 7)])]),
    Json.compactText (.obj [("type", .str "@popPage")]),
    "@popPage"]

/-- Two pages are opened and left again, the outer one by bare tokens. -/
theorem two_pages_opened_and_left :
    let x : Executor := { history := ⟨"home", ["news"]⟩ }
    x.history.follow? "@pushPage:a" = some ⟨"home", ["a", "news"]⟩ ∧
      x.perform "@pushPage:a" =
        (.ok ⟨"@pushPage:a", .navigated "a"⟩, { x with history := ⟨"home", ["a", "news"]⟩ }) ∧
      Command.ofToken "\x7b" = .error (.fault (.notJson .expectingName)) ∧
      (x.perform "\x7b").1 = .ok ⟨"\x7b", .notified ⟨.info, "Action executed!"⟩⟩ ∧
      Move.Balanced [.push, .push, .pop, .pop] ∧
      List.Forall₂ Move.CarriedBy [.push, .push, .pop, .pop] bracketTokens ∧
      (x.run (bracketTokens.take 2)).history.toList = ["home", "news", "a", "7"] ∧
      (x.run bracketTokens).history = x.history := by
  intro x
  obtain ⟨-, -, -, hfault, hfollow, hbalanced⟩ := run_keeps_discipline x
  have hms : Move.Balanced [.push, .push, .pop, .pop] := by
    refine ⟨?_, rfl⟩
    intro before hbefore
    rw [← List.mem_inits] at hbefore
    revert before
    decide
  have hcarried : List.Forall₂ Move.CarriedBy [.push, .push, .pop, .pop] bracketTokens := by
    refine .cons (.pushBare (by decide)) (.cons ?_ (.cons ?_ (.cons .popBare .nil)))
    · refine .pushObject (.compactText ?_ (by decide) rfl) rfl (.inr rfl)
      simp [Json.wellFormed_obj, Fields.DistinctKeys]
    · refine .popObject (.compactText ?_ (by decide) rfl)
      simp [Json.wellFormed_obj, Fields.DistinctKeys]
  have hfollowed := hfollow "@pushPage:a" ⟨"home", ["a", "news"]⟩ (by decide)
  have hopen : Command.ofToken "\x7b" = .error (.fault (.notJson .expectingName)) := by rfl
  exact ⟨by decide, hfollowed, hopen, hfault _ _ hopen, hms, hcarried, by decide +kernel,
    hbalanced _ _ hms hcarried⟩

theorem oversized_deepObject : Oversized Json.deepObject .depth where
  brace := by
    rw [Json.deepObject, String.toList_ofList]
    rfl
  parse := Json.parseChars_deepObject

/-- Some token is not executed. -/
theorem not_every_token_executed :
    ¬ ∀ (x : Executor) (token : String), ∃ outcome, (x.perform token).1 = .ok outcome := by
  intro h
  obtain ⟨outcome, houtcome⟩ := h { history := ⟨"a", []⟩ } Json.deepObject
  rw [perform_eq_error_iff.mpr oversized_deepObject] at houtcome
  cases houtcome

end Executor

end PageBuilder
