import Utask.Models
import Utask.Notify.Notify

/-!
# Registering the notification backends (`pkg/notify/init`)

`Init` reads the notification backends of the configuration, checks and completes the
strategies of each with `validateAndNormalizeNotificationStrategy`, and registers a sender for
each.  The validator visits two Go maps, whose order of visit Go leaves open.

The main results are

* `validate_toBool_iff`: the validator accepts a configuration exactly when its strategies
  are `StrategiesAllowed`: every action is one of the three actions, every strategy one of the
  four strategies, and none under `task_validation` is `failure_only` or `failure_or_done`;
* `normalized_lookup`: an accepted configuration gets exactly the three actions, each with its
  own strategy or `always`;
* `init_allowed`: every sender `Init` registers carries allowed strategies.
-/

namespace Utask.Notify

/-- Modelled from the spec: `utask.NotificationStrategyAlways` is not under src; the spec
names the strategy `always`. -/
def notificationStrategyAlways : String := "always"

/-- Modelled from the spec: `utask.NotificationStrategySilent`, the strategy `silent`. -/
def notificationStrategySilent : String := "silent"

/-- Modelled from the spec: `utask.NotificationStrategyFailureOnly`, the strategy
`failure_only`. -/
def notificationStrategyFailureOnly : String := "failure_only"

/-- Modelled from the spec: `utask.NotificationStrategyFailureOrDone`, the strategy
`failure_or_done`. -/
def notificationStrategyFailureOrDone : String := "failure_or_done"

/-- `utask.NotifyBackend`: the configuration of one notification backend. -/
structure NotifyBackend where
  type : String
  /-- `Config`, the raw JSON the sender of the backend is built from. -/
  config : String
  defaultNotificationStrategy : AList (fun _ : String => String)
  templateNotificationStrategies : AList (fun _ : String => List TemplateNotificationStrategy)

/-- The errors `errNotAllowed` and `errUnknown`. -/
inductive StrategyError
  | errNotAllowed
  | errUnknown
deriving DecidableEq, Repr

/-- `validateStrategyForAction`; `none` is `nil`. -/
def validateStrategyForAction (action strategy : String) : Option StrategyError :=
  if strategy = notificationStrategyAlways ∨ strategy = notificationStrategySilent then none
  else if strategy = notificationStrategyFailureOnly then
    if action = taskValidationKey then some .errNotAllowed else none
  else if strategy = notificationStrategyFailureOrDone then
    if action = taskValidationKey then some .errNotAllowed else none
  else some .errUnknown

/-- `validateActionName`. -/
def validateActionName (action : String) : Bool :=
  action = taskValidationKey ∨ action = taskStateUpdateKey ∨ action = taskStepUpdateKey

/-- The errors of `validateAndNormalizeNotificationStrategy`, one for each `return` with an
error, with what its message shows. -/
inductive ValidationError
  | invalidDefaultAction (action : String)
  | defaultNotAllowed (action strategy : String)
  | defaultUnknown (defaultNotificationStrategy : AList (fun _ : String => String))
  | invalidTemplateAction (action : String)
  | templateNotAllowed (templates : List String) (action strategy : String)
  | templateUnknown (templates : List String) (strategy : String)

/-- `fmt`'s `%q` on a `map[string]string`, which prints the entries by increasing key. -/
def goQuoteMap (d : AList (fun _ : String => String)) : String :=
  "map[" ++ " ".intercalate ((d.entries.mergeSort fun a b => !(String.decLt b.1 a.1).decide).map
    fun e => goQuote e.1 ++ ":" ++ goQuote e.2) ++ "]"

/-- `fmt`'s `%#v` on a non-nil `[]string`.  Go prints a nil slice (the templates of a strategy
whose JSON has none) as `[]string(nil)`; the model does not tell a nil slice from an empty one,
and prints both as `[]string{}`, which is what Go prints for an empty non-nil slice. -/
def goSharpV (l : List String) : String :=
  "[]string\x7b" ++ ", ".intercalate (l.map goQuote) ++ "\x7d"

/-- The message of the error, as `fmt.Errorf` writes it. -/
def ValidationError.message : ValidationError → String
  | .invalidDefaultAction a =>
    "invalid action in default_notification_strategy: " ++ goQuote a ++ " is not allowed value"
  | .defaultNotAllowed a s =>
    "invalid default_notification_strategy for action " ++ goQuote a ++ ": " ++ goQuote s ++
      " is not allowed for this action"
  | .defaultUnknown d =>
    "invalid default_notification_strategy: " ++ goQuoteMap d ++ " is not a valid value"
  | .invalidTemplateAction a =>
    "invalid action name " ++ goQuote a ++ " found in notification_strategy: " ++ goQuote a ++
      " is not a valid value"
  | .templateNotAllowed ts a s =>
    "invalid notification_strategy for templates " ++ goSharpV ts ++ " and action " ++
      goQuote a ++ ": " ++ goQuote s ++ " is not allowed for this action"
  | .templateUnknown ts s =>
    "invalid notification_strategy for templates " ++ goSharpV ts ++ ": " ++ goQuote s ++
      " is not a valid value"

/-- The first loop of `validateAndNormalizeNotificationStrategy`, over the actions of the
default map. -/
def validateDefaultActions (dns : AList (fun _ : String => String)) :
    Except ValidationError Unit :=
  dns.entries.forM fun ⟨action, _⟩ =>
    if !validateActionName action then throw (.invalidDefaultAction action) else pure ()

/-- The loop over `TemplateNotificationStrategies` in the body of the outer loop. -/
def validateTemplates
    (templates : AList (fun _ : String => List TemplateNotificationStrategy)) :
    Except ValidationError Unit :=
  templates.entries.forM fun ⟨action, strats⟩ => do
    if !validateActionName action then throw (.invalidTemplateAction action)
    strats.forM fun strat =>
      match validateStrategyForAction action strat.notificationStrategy with
      | some .errNotAllowed =>
        throw (.templateNotAllowed strat.templates action strat.notificationStrategy)
      | some .errUnknown => throw (.templateUnknown strat.templates strat.notificationStrategy)
      | none => pure ()

/-- The body of the outer loop of `validateAndNormalizeNotificationStrategy`, for `action`:
the default strategy of the action, `always` when it has none (which is then written into the
map), is checked, and then every template strategy. -/
def normalizeAction (templates : AList (fun _ : String => List TemplateNotificationStrategy))
    (dns : AList (fun _ : String => String)) (action : String) :
    Except ValidationError (AList (fun _ : String => String)) := do
  let (dns, defaultStrategy) := match dns.lookup action with
    | some s => (dns, s)
    | none => (dns.insert action notificationStrategyAlways, notificationStrategyAlways)
  match validateStrategyForAction action defaultStrategy with
  | some .errNotAllowed => throw (.defaultNotAllowed action defaultStrategy)
  | some .errUnknown => throw (.defaultUnknown dns)
  | none => pure ()
  validateTemplates templates
  pure dns

/-- `validateAndNormalizeNotificationStrategy`.  A nil map is an empty `AList`, so the
`make` of a nil default map has nothing to do here.  On an error Go also returns `ncfg`, which
`Init` drops. -/
def validateAndNormalizeNotificationStrategy (ncfg : NotifyBackend) :
    Except ValidationError NotifyBackend := do
  validateDefaultActions ncfg.defaultNotificationStrategy
  let dns ← [taskValidationKey, taskStateUpdateKey, taskStepUpdateKey].foldlM
    (normalizeAction ncfg.templateNotificationStrategies) ncfg.defaultNotificationStrategy
  pure { ncfg with defaultNotificationStrategy := dns }

/-! ### The validator, step by step -/

lemma validateStrategyForAction_eq_none_iff {action strategy : String} :
    validateStrategyForAction action strategy = none ↔
      (strategy = notificationStrategyAlways ∨ strategy = notificationStrategySilent ∨
        strategy = notificationStrategyFailureOnly ∨ strategy = notificationStrategyFailureOrDone) ∧
      (action = taskValidationKey →
        strategy ≠ notificationStrategyFailureOnly ∧
          strategy ≠ notificationStrategyFailureOrDone) := by
  unfold validateStrategyForAction
  split_ifs with h
  · rcases h with rfl | rfl <;> simp [notificationStrategyAlways, notificationStrategySilent,
      notificationStrategyFailureOnly, notificationStrategyFailureOrDone]
  all_goals simp_all [notificationStrategyAlways, notificationStrategySilent,
    notificationStrategyFailureOnly, notificationStrategyFailureOrDone]

lemma validateTemplates_eq_ok_iff
    {templates : AList (fun _ : String => List TemplateNotificationStrategy)} :
    validateTemplates templates = .ok () ↔
      ∀ e ∈ templates.entries, validateActionName e.1 = true ∧
        ∀ st ∈ e.2, validateStrategyForAction e.1 st.notificationStrategy = none := by
  unfold validateTemplates
  rw [forM_eq_ok_iff]
  refine forall₂_congr fun ⟨a, strats⟩ _ => ?_
  cases hv : validateActionName a
  · simp [hv, bind, Except.bind, throw, throwThe, MonadExceptOf.throw]
  · simp only [hv, Bool.not_true, Bool.false_eq_true, ↓reduceIte, true_and]
    rw [pure_bind, forM_eq_ok_iff]
    refine forall₂_congr fun st _ => ?_
    split <;> simp_all [throw, throwThe, MonadExceptOf.throw, pure, Except.pure]

lemma validateActionName_iff {action : String} :
    validateActionName action = true ↔
      action = taskValidationKey ∨ action = taskStateUpdateKey ∨ action = taskStepUpdateKey := by
  simp [validateActionName]

/-- The default map after the outer loop has visited `action`. -/
def fillDefault (dns : AList (fun _ : String => String)) (action : String) :
    AList (fun _ : String => String) :=
  if (dns.lookup action).isSome then dns else dns.insert action notificationStrategyAlways

lemma normalizeAction_eq_ok_iff
    {templates : AList (fun _ : String => List TemplateNotificationStrategy)}
    {dns dns' : AList (fun _ : String => String)} {action : String} :
    normalizeAction templates dns action = .ok dns' ↔
      validateStrategyForAction action ((dns.lookup action).getD notificationStrategyAlways) =
        none ∧
        validateTemplates templates = .ok () ∧ fillDefault dns action = dns' := by
  unfold normalizeAction fillDefault
  cases hl : dns.lookup action <;>
  · simp only [Option.getD_none, Option.getD_some, Option.isSome_none, Option.isSome_some]
    split <;> cases h : validateTemplates templates <;>
      simp_all [bind, Except.bind, throw, throwThe, MonadExceptOf.throw, pure, Except.pure]

lemma lookup_fillDefault_self (dns : AList (fun _ : String => String)) (a : String) :
    (fillDefault dns a).lookup a = some ((dns.lookup a).getD notificationStrategyAlways) := by
  unfold fillDefault
  cases h : dns.lookup a <;> simp [h]

lemma lookup_fillDefault_ne (dns : AList (fun _ : String => String)) {a a' : String}
    (h : a' ≠ a) : (fillDefault dns a).lookup a' = dns.lookup a' := by
  unfold fillDefault
  split_ifs <;> simp [AList.lookup_insert_ne h]

lemma mem_fillDefault {dns : AList (fun _ : String => String)} {a a' : String} :
    a' ∈ fillDefault dns a ↔ a' = a ∨ a' ∈ dns := by
  unfold fillDefault
  split_ifs with h
  · constructor
    · exact Or.inr
    · rintro (rfl | h')
      · exact AList.lookup_isSome.1 h
      · exact h'
  · simp [AList.mem_insert]

/-- The default map `validateAndNormalizeNotificationStrategy` returns. -/
def normalizedDefault (dns : AList (fun _ : String => String)) : AList (fun _ : String => String) :=
  fillDefault (fillDefault (fillDefault dns taskValidationKey) taskStateUpdateKey) taskStepUpdateKey

lemma validateDefaultActions_eq_ok_iff {dns : AList (fun _ : String => String)} :
    validateDefaultActions dns = .ok () ↔ ∀ a ∈ dns, validateActionName a = true := by
  unfold validateDefaultActions
  rw [forM_eq_ok_iff]
  constructor
  · intro h a ha
    obtain ⟨b, hb⟩ := AList.mem_keys.1 ha |> List.exists_of_mem_keys
    have := h _ hb
    by_cases hv : validateActionName a <;> simp_all [throw, throwThe, MonadExceptOf.throw]
  · rintro h ⟨a, b⟩ hmem
    have := h a (AList.mem_keys.2 (List.mem_keys_of_mem hmem))
    simp [this]; rfl

/-- The outer loop over distinct actions succeeds exactly when the templates are valid (if it
runs at all) and the default strategy of each action is allowed for it; it fills the default of
each action in turn. -/
lemma foldlM_normalizeAction_eq_ok_iff
    {templates : AList (fun _ : String => List TemplateNotificationStrategy)}
    {actions : List String} (hnd : actions.Nodup) (dns dns' : AList (fun _ : String => String)) :
    actions.foldlM (normalizeAction templates) dns = .ok dns' ↔
      (actions ≠ [] → validateTemplates templates = .ok ()) ∧
      (∀ a ∈ actions,
        validateStrategyForAction a ((dns.lookup a).getD notificationStrategyAlways) = none) ∧
      actions.foldl fillDefault dns = dns' := by
  induction actions generalizing dns with
  | nil => simp [pure, Except.pure]
  | cons a rest ih =>
    rw [List.nodup_cons] at hnd
    have hlook : ∀ b ∈ rest, (fillDefault dns a).lookup b = dns.lookup b :=
      fun b hb => lookup_fillDefault_ne dns fun h => hnd.1 (h ▸ hb)
    rw [List.foldlM_cons, bind_eq_ok_iff]
    constructor
    · rintro ⟨d₁, h₁, h₂⟩
      obtain ⟨hv, ht, rfl⟩ := normalizeAction_eq_ok_iff.1 h₁
      obtain ⟨-, hrest, hfold⟩ := (ih hnd.2 _).1 h₂
      refine ⟨fun _ => ht, List.forall_mem_cons.2 ⟨hv, fun b hb => ?_⟩, hfold⟩
      rw [← hlook b hb]
      exact hrest b hb
    · rintro ⟨ht, hv, hfold⟩
      have ht' := ht (List.cons_ne_nil a rest)
      refine ⟨_, normalizeAction_eq_ok_iff.2 ⟨hv a (.head _), ht', rfl⟩,
        (ih hnd.2 _).2 ⟨fun _ => ht', fun b hb => ?_, hfold⟩⟩
      rw [hlook b hb]
      exact hv b (.tail _ hb)

lemma validate_eq_ok_iff {ncfg r : NotifyBackend} :
    validateAndNormalizeNotificationStrategy ncfg = .ok r ↔
      (∀ a ∈ ncfg.defaultNotificationStrategy, validateActionName a = true) ∧
      (∀ a, validateActionName a = true → validateStrategyForAction a
        ((ncfg.defaultNotificationStrategy.lookup a).getD notificationStrategyAlways) = none) ∧
      validateTemplates ncfg.templateNotificationStrategies = .ok () ∧
      { ncfg with
        defaultNotificationStrategy :=
          normalizedDefault ncfg.defaultNotificationStrategy } = r := by
  have hnd : [taskValidationKey, taskStateUpdateKey, taskStepUpdateKey].Nodup := by decide
  rw [← validateDefaultActions_eq_ok_iff]
  simp only [validateAndNormalizeNotificationStrategy, bind_eq_ok_iff,
    foldlM_normalizeAction_eq_ok_iff hnd, validateActionName_iff]
  simp only [pure, Except.pure, Except.ok.injEq, normalizedDefault, or_imp, forall_and,
    forall_eq, List.mem_cons, List.mem_singleton, ne_eq, reduceCtorEq, not_false_eq_true,
    forall_const, List.foldl_cons, List.foldl_nil, List.not_mem_nil, or_false]
  constructor
  · rintro ⟨⟨⟩, hd, _, ⟨ht, hv, rfl⟩, rfl⟩
    exact ⟨hd, hv, ht, rfl⟩
  · rintro ⟨hd, hv, ht, rfl⟩
    exact ⟨(), hd, _, ⟨ht, hv, rfl⟩, rfl⟩

/-- One of the actions `task_validation`, `task_state_update`, `task_step_update`. -/
def IsAction (a : String) : Prop :=
  a = taskValidationKey ∨ a = taskStateUpdateKey ∨ a = taskStepUpdateKey

/-- One of the strategies `always`, `silent`, `failure_only`, `failure_or_done`. -/
def IsStrategy (s : String) : Prop :=
  s = notificationStrategyAlways ∨ s = notificationStrategySilent ∨
    s = notificationStrategyFailureOnly ∨ s = notificationStrategyFailureOrDone

/-- The strategies of a default map and a template map are allowed: every key of both maps is
an action, every strategy is one of the four, and no strategy under `task_validation` is
`failure_only` or `failure_or_done`. -/
structure StrategiesAllowed (d : AList (fun _ : String => String))
    (t : AList (fun _ : String => List TemplateNotificationStrategy)) : Prop where
  default_action : ∀ a ∈ d, IsAction a
  template_action : ∀ a ∈ t, IsAction a
  default_strategy : ∀ a s, d.lookup a = some s → IsStrategy s
  template_strategy : ∀ a l, t.lookup a = some l → ∀ st ∈ l, IsStrategy st.notificationStrategy
  validation_default : ∀ s, d.lookup taskValidationKey = some s →
    s ≠ notificationStrategyFailureOnly ∧ s ≠ notificationStrategyFailureOrDone
  validation_template : ∀ l, t.lookup taskValidationKey = some l → ∀ st ∈ l,
    st.notificationStrategy ≠ notificationStrategyFailureOnly ∧
      st.notificationStrategy ≠ notificationStrategyFailureOrDone

/-- `StrategiesAllowed` in the terms of the two checks of the validator. -/
lemma strategiesAllowed_iff {d : AList (fun _ : String => String)}
    {t : AList (fun _ : String => List TemplateNotificationStrategy)} :
    StrategiesAllowed d t ↔
      (∀ a ∈ d, validateActionName a = true) ∧
      (∀ a s, d.lookup a = some s → validateStrategyForAction a s = none) ∧
      (∀ a ∈ t, validateActionName a = true) ∧
      (∀ a l, t.lookup a = some l → ∀ st ∈ l,
        validateStrategyForAction a st.notificationStrategy = none) := by
  simp only [validateActionName_iff, validateStrategyForAction_eq_none_iff]
  constructor
  · intro h
    refine ⟨h.default_action, fun a s hs => ⟨h.default_strategy a s hs, ?_⟩, h.template_action,
      fun a l hl st hst => ⟨h.template_strategy a l hl st hst, ?_⟩⟩
    · rintro rfl; exact h.validation_default s hs
    · rintro rfl; exact h.validation_template l hl st hst
  · rintro ⟨h₁, h₂, h₃, h₄⟩
    exact ⟨h₁, h₃, fun a s hs => (h₂ a s hs).1, fun a l hl st hst => (h₄ a l hl st hst).1,
      fun s hs => (h₂ _ s hs).2 rfl, fun l hl st hst => (h₄ _ l hl st hst).2 rfl⟩

lemma validateTemplates_eq_ok_iff'
    {t : AList (fun _ : String => List TemplateNotificationStrategy)} :
    validateTemplates t = .ok () ↔
      (∀ a ∈ t, validateActionName a = true) ∧
      (∀ a l, t.lookup a = some l → ∀ st ∈ l,
        validateStrategyForAction a st.notificationStrategy = none) := by
  rw [validateTemplates_eq_ok_iff]
  constructor
  · intro h
    refine ⟨fun a ha => ?_, fun a l hl => (h ⟨a, l⟩ (AList.mem_lookup_iff.1 hl)).2⟩
    obtain ⟨l, hl⟩ := Option.isSome_iff_exists.1 (AList.lookup_isSome.2 ha)
    exact (h ⟨a, l⟩ (AList.mem_lookup_iff.1 hl)).1
  · rintro ⟨h₁, h₂⟩ ⟨a, l⟩ hmem
    exact ⟨h₁ a (AList.mem_keys.2 (List.mem_keys_of_mem hmem)),
      h₂ a l (AList.mem_lookup_iff.2 hmem)⟩

/-- The validator accepts a configuration exactly when its strategies are allowed. -/
lemma validate_toBool_iff {ncfg : NotifyBackend} :
    (validateAndNormalizeNotificationStrategy ncfg).toBool = true ↔
      StrategiesAllowed ncfg.defaultNotificationStrategy ncfg.templateNotificationStrategies := by
  have hok : (validateAndNormalizeNotificationStrategy ncfg).toBool = true ↔
      ∃ r, validateAndNormalizeNotificationStrategy ncfg = .ok r := by
    cases validateAndNormalizeNotificationStrategy ncfg <;> simp [Except.toBool]
  simp only [hok, validate_eq_ok_iff, exists_and_left, exists_eq', and_true, strategiesAllowed_iff,
    validateTemplates_eq_ok_iff', validateActionName_iff]
  constructor
  · rintro ⟨hk, hd, ht₁, ht₂⟩
    refine ⟨hk, fun a s hs => ?_, ht₁, ht₂⟩
    have := hd a (hk a (AList.lookup_isSome.1 (by simp [hs])))
    rwa [hs] at this
  · rintro ⟨hk, hd, ht₁, ht₂⟩
    refine ⟨hk, fun a _ => ?_, ht₁, ht₂⟩
    cases hs : ncfg.defaultNotificationStrategy.lookup a
    · simp [validateStrategyForAction, notificationStrategyAlways]
    · exact hd a _ hs

/-- An accepted configuration gets exactly the three actions in its default map, each with its
own strategy or `always`; the rest of the configuration is kept. -/
lemma normalized_spec {ncfg r : NotifyBackend}
    (h : validateAndNormalizeNotificationStrategy ncfg = .ok r) :
    (∀ a, a ∈ r.defaultNotificationStrategy ↔ IsAction a) ∧
    (∀ a, IsAction a → r.defaultNotificationStrategy.lookup a =
      some ((ncfg.defaultNotificationStrategy.lookup a).getD notificationStrategyAlways)) ∧
    r.templateNotificationStrategies = ncfg.templateNotificationStrategies := by
  obtain ⟨hk, -, -, rfl⟩ := validate_eq_ok_iff.1 h
  have hne₁ : taskStateUpdateKey ≠ taskValidationKey := by decide
  have hne₂ : taskStepUpdateKey ≠ taskValidationKey := by decide
  have hne₃ : taskStepUpdateKey ≠ taskStateUpdateKey := by decide
  refine ⟨fun a => ?_, fun a ha => ?_, rfl⟩
  · simp only [normalizedDefault, mem_fillDefault, IsAction]
    constructor
    · rintro (h | h | h | h)
      · exact Or.inr (Or.inr h)
      · exact Or.inr (Or.inl h)
      · exact Or.inl h
      · exact validateActionName_iff.1 (hk a h)
    · tauto
  · rcases ha with rfl | rfl | rfl <;>
      simp [normalizedDefault, lookup_fillDefault_self, lookup_fillDefault_ne, hne₁, hne₂, hne₃,
        hne₁.symm, hne₂.symm, hne₃.symm]

lemma StrategiesAllowed.congr {d d' : AList (fun _ : String => String)}
    {t t' : AList (fun _ : String => List TemplateNotificationStrategy)}
    (hd : ∀ a, d'.lookup a = d.lookup a) (ht : ∀ a, t'.lookup a = t.lookup a)
    (h : StrategiesAllowed d t) : StrategiesAllowed d' t' where
  default_action a ha :=
    h.default_action a (AList.lookup_isSome.1 (hd a ▸ AList.lookup_isSome.2 ha))
  template_action a ha :=
    h.template_action a (AList.lookup_isSome.1 (ht a ▸ AList.lookup_isSome.2 ha))
  default_strategy a s hs := h.default_strategy a s (hd a ▸ hs)
  template_strategy a l hl := h.template_strategy a l (ht a ▸ hl)
  validation_default s hs := h.validation_default s (hd _ ▸ hs)
  validation_template l hl := h.validation_template l (ht _ ▸ hl)

/-- Whether the validator accepts does not depend on the order in which it visits the maps. -/
lemma validate_toBool_perm (ncfg : NotifyBackend) {d : AList (fun _ : String => String)}
    {t : AList (fun _ : String => List TemplateNotificationStrategy)}
    (hd : d.entries.Perm ncfg.defaultNotificationStrategy.entries)
    (ht : t.entries.Perm ncfg.templateNotificationStrategies.entries) :
    (validateAndNormalizeNotificationStrategy
        { ncfg with
          defaultNotificationStrategy := d, templateNotificationStrategies := t }).toBool =
      (validateAndNormalizeNotificationStrategy ncfg).toBool := by
  rw [Bool.eq_iff_iff, validate_toBool_iff, validate_toBool_iff]
  exact ⟨StrategiesAllowed.congr (fun _ => (AList.perm_lookup hd).symm)
      (fun _ => (AList.perm_lookup ht).symm),
    StrategiesAllowed.congr (fun _ => AList.perm_lookup hd) (fun _ => AList.perm_lookup ht)⟩

/-- An accepted configuration comes out with allowed strategies. -/
lemma strategiesAllowed_of_validate {ncfg r : NotifyBackend}
    (h : validateAndNormalizeNotificationStrategy ncfg = .ok r) :
    StrategiesAllowed r.defaultNotificationStrategy r.templateNotificationStrategies := by
  have hacc : (validateAndNormalizeNotificationStrategy ncfg).toBool = true := by
    simp [h, Except.toBool]
  have hin := strategiesAllowed_iff.1 (validate_toBool_iff.1 hacc)
  obtain ⟨hmem, hlookup, ht⟩ := normalized_spec h
  refine strategiesAllowed_iff.2 ⟨fun a ha => validateActionName_iff.2 ((hmem a).1 ha),
    fun a s hs => ?_, ht ▸ hin.2.2⟩
  have ha := (hmem a).1 (AList.lookup_isSome.1 (by simp [hs]))
  rw [hlookup a ha] at hs
  cases hd : ncfg.defaultNotificationStrategy.lookup a <;> simp only [hd, Option.getD_none,
    Option.getD_some, Option.some.injEq] at hs <;> subst hs
  · simp [validateStrategyForAction, notificationStrategyAlways]
  · exact hin.2.1 a _ hd

/-! ### `Init` -/

/-- `utask.Config`, by the fields `Init` reads. -/
structure Config (A : Type) where
  notifyConfig : AList (fun _ : String => NotifyBackend)
  notifyActions : A

/-- The types of backend `Init` builds senders for. -/
inductive BackendType
  | opsgenie
  | slack
  | webhook
deriving DecidableEq, Repr

/-- Modelled from the spec: `opsgenie.Type`, `slack.Type` and `webhook.Type` are not under src;
the spec names the backend types `opsgenie`, `slack` and `webhook`. -/
def backendType (type : String) : Option BackendType :=
  if type = "opsgenie" then some .opsgenie
  else if type = "slack" then some .slack
  else if type = "webhook" then some .webhook
  else none

/-- The global state of package `notify` that `Init` writes. -/
structure NotifyState (S A : Type) where
  senders : AList (fun _ : String => NotificationBackend S)
  actions : A

variable {S A : Type}

/-- The loop of `Init` over the configured backends: the registry it leaves and the error it
returns.  `newSender` is what the branch of the `switch` on the backend's type does before
`RegisterSender`, decoding `ncfg.Config` and building the sender; that code is outside src. -/
def initSenders (newSender : BackendType → String → NotifyBackend → Except String S) :
    List (Σ _ : String, NotifyBackend) → AList (fun _ : String => NotificationBackend S) →
      AList (fun _ : String => NotificationBackend S) × Option String
  | [], senders => (senders, none)
  | ⟨name, ncfg⟩ :: rest, senders =>
    match validateAndNormalizeNotificationStrategy ncfg with
    | .error e => (senders, some e.message)
    | .ok newncfg =>
      let ncfg := { ncfg with defaultNotificationStrategy := newncfg.defaultNotificationStrategy }
      match backendType ncfg.type with
      | none => (senders, some ("failed to identify backend type: " ++ ncfg.type))
      | some ty =>
        match newSender ty name ncfg with
        | .error e => (senders, some e)
        | .ok s => initSenders newSender rest (registerSender name s
            ncfg.defaultNotificationStrategy ncfg.templateNotificationStrategies senders)

/-- `Init`; `cfg` is what `utask.Config(store)` returns. -/
def init (newSender : BackendType → String → NotifyBackend → Except String S)
    (cfg : Except String (Config A)) (st : NotifyState S A) : NotifyState S A × Option String :=
  match cfg with
  | .error e => (st, some e)
  | .ok cfg =>
    match initSenders newSender cfg.notifyConfig.entries st.senders with
    | (senders, some e) => ({ st with senders := senders }, some e)
    | (senders, none) => ({ senders := senders, actions := cfg.notifyActions }, none)

/-- Every sender of the registry carries allowed strategies. -/
def RegistryAllowed (senders : AList (fun _ : String => NotificationBackend S)) : Prop :=
  ∀ n b, senders.lookup n = some b →
    StrategiesAllowed b.defaultNotificationStrategy b.templateNotificationStrategies

lemma RegistryAllowed.registerSender {senders : AList (fun _ : String => NotificationBackend S)}
    (h : RegistryAllowed senders) {name : String} {s : S} {d : AList (fun _ : String => String)}
    {t : AList (fun _ : String => List TemplateNotificationStrategy)}
    (hdt : StrategiesAllowed d t) : RegistryAllowed (registerSender name s d t senders) := by
  intro n b hb
  by_cases hn : n = name
  · subst hn
    simp only [Notify.registerSender, AList.lookup_insert, Option.some.injEq] at hb
    exact hb ▸ hdt
  · rw [Notify.registerSender, AList.lookup_insert_ne hn] at hb
    exact h n b hb

lemma RegistryAllowed.initSenders
    (newSender : BackendType → String → NotifyBackend → Except String S) :
    ∀ (l : List (Σ _ : String, NotifyBackend))
      {senders : AList (fun _ : String => NotificationBackend S)},
      RegistryAllowed senders → RegistryAllowed (Notify.initSenders newSender l senders).1
  | [], _, h => h
  | ⟨name, ncfg⟩ :: rest, senders, h => by
    simp only [Notify.initSenders]
    split
    · exact h
    · rename_i newncfg hv
      split
      · exact h
      · split
        · exact h
        · exact RegistryAllowed.initSenders newSender rest (h.registerSender
            (by simpa [(normalized_spec hv).2.2] using strategiesAllowed_of_validate hv))

/-- Every sender `Init` registers carries allowed strategies. -/
lemma init_allowed (newSender : BackendType → String → NotifyBackend → Except String S)
    (cfg : Except String (Config A)) {st : NotifyState S A} (h : RegistryAllowed st.senders) :
    RegistryAllowed (init newSender cfg st).1.senders := by
  unfold init
  split
  · exact h
  · rename_i cfg
    have hrun := RegistryAllowed.initSenders newSender cfg.notifyConfig.entries h
    rcases hs : initSenders newSender cfg.notifyConfig.entries st.senders with ⟨senders, _ | e⟩ <;>
      rw [hs] at hrun <;> exact hrun

/-- `validateAndNormalizeNotificationStrategy` accepts a backend configuration exactly when its
strategies are allowed, and whatever the order in which it visits the two maps; an accepted
configuration gets exactly the three actions in its default map, each with its own strategy or
`always`; and `Init` keeps every registered sender carrying allowed strategies, so that from the
empty registry every sender it registers carries them. -/
theorem validateAndNormalizeNotificationStrategy_spec (ncfg : NotifyBackend) :
    ((validateAndNormalizeNotificationStrategy ncfg).toBool = true ↔
      StrategiesAllowed ncfg.defaultNotificationStrategy ncfg.templateNotificationStrategies) ∧
    (∀ r, validateAndNormalizeNotificationStrategy ncfg = .ok r →
      (∀ a, a ∈ r.defaultNotificationStrategy ↔ IsAction a) ∧
      ∀ a, IsAction a → r.defaultNotificationStrategy.lookup a =
        some ((ncfg.defaultNotificationStrategy.lookup a).getD notificationStrategyAlways)) ∧
    (∀ (d : AList (fun _ : String => String))
      (t : AList (fun _ : String => List TemplateNotificationStrategy)),
      d.entries.Perm ncfg.defaultNotificationStrategy.entries →
      t.entries.Perm ncfg.templateNotificationStrategies.entries →
      (validateAndNormalizeNotificationStrategy
          { ncfg with
            defaultNotificationStrategy := d, templateNotificationStrategies := t }).toBool =
        (validateAndNormalizeNotificationStrategy ncfg).toBool) ∧
    (∀ {S A : Type} (newSender : BackendType → String → NotifyBackend → Except String S)
      (cfg : Except String (Config A)) (st : NotifyState S A),
      RegistryAllowed st.senders → RegistryAllowed (init newSender cfg st).1.senders) :=
  ⟨validate_toBool_iff, fun _ h => ⟨(normalized_spec h).1, (normalized_spec h).2.1⟩,
    fun _ _ hd ht => validate_toBool_perm ncfg hd ht,
    fun newSender cfg _ h => init_allowed newSender cfg h⟩

end Utask.Notify
