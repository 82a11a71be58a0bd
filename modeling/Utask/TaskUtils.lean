import Utask.Auth

/-!
# Creating a task (`pkg/taskutils`)

`CreateTask` creates a task from a template and, when the template is auto-runnable and the
caller may run it, a resolution for it at once.  The database calls it makes, and
`time.ParseDuration` and `time.Now`, are outside src; they are the fields of `Collaborators`,
and `createTask` returns what it calls with side effects besides its result.

The main result, `createTask_creates_resolution_iff`, says exactly when a resolution is
created: the task runs without validation only when the template allows it and the caller is
an admin, an allowed resolver, or the requester of a template open to every resolver.

`ShouldResumeParentTask` decides, when a subtask ends, whether its parent task is to be
resumed, from the database reads in `Loaders`.
-/

namespace Utask.TaskUtils

open Auth

variable {Input Batch : Type}

/-- What the calls of `CreateTask` to code outside src return.  Times and durations are in
nanoseconds. -/
structure Collaborators (Input Batch : Type) where
  /-- `task.Create(dbp, tt, reqUsername, reqGroups, watcherUsernames, watcherGroups,
  resolverUsernames, resolverGroups, input, tags, b, delayed)`. -/
  taskCreate : TaskTemplate → String → List String → List String → List String → List String →
    List String → Input → AList (fun _ : String => String) → Option Batch → Bool → Except Error Task
  /-- `task.CreateComment(dbp, t, reqUsername, comment)`. -/
  createComment : Task → String → String → Except Error Comment
  /-- `time.ParseDuration`, with its error message. -/
  parseDuration : String → Except String ℤ
  /-- `time.Now()`. -/
  now : ℤ
  /-- `resolution.Create(dbp, t, nil, resolverUsername, autorun, delayUntil)`. -/
  resolutionCreate : Task → String → Bool → Option ℤ → Except Error (Option Resolution)

/-- The calls of `CreateTask` with side effects besides creating the task and its comment. -/
inductive Effect
  /-- `t.NotifyValidationRequired(tt)`. -/
  | notifyValidationRequired (t : Task)
  /-- `resolution.Create(dbp, t, nil, resolverUsername, autorun, delayUntil)`. -/
  | resolutionCreate (t : Task) (resolverUsername : String) (autorun : Bool) (delayUntil : Option ℤ)

/-- `CreateTask`: the effects it has, in order, and what it returns. -/
def createTask (w : Collaborators Input Batch) (admins : Admins) (c : Context) (tt : TaskTemplate)
    (watcherUsernames watcherGroups resolverUsernames resolverGroups : List String)
    (input : Input) (b : Option Batch) (comment : String) (delay : Option String)
    (tags : AList (fun _ : String => String)) : List Effect × Except Error Task :=
  let reqUsername := getIdentity c
  let reqGroups := getGroups c
  if tt.blocked then ([], .error (.notValid "Template not available (blocked)")) else
  match w.taskCreate tt reqUsername reqGroups watcherUsernames watcherGroups resolverUsernames
      resolverGroups input tags b delay.isSome with
  | .error e => ([], .error e)
  | .ok t =>
  match (if comment ≠ "" then (w.createComment t reqUsername comment).map
      (fun com => { t with comments := [com] }) else .ok t) with
  | .error e => ([], .error e)
  | .ok t =>
  if !tt.isAutoRunnable && tt.allowAllResolverUsernames then
    ([], .error (.plain
      ("invalid tasktemplate: " ++ goQuote tt.name ++ " should be auto_runnable")))
  else if !tt.isAutoRunnable then ([.notifyValidationRequired t], .ok t) else
  let admin := (isAdmin admins c).toBool
  let requester := (isRequester c t).toBool && tt.allowAllResolverUsernames
  let resolutionManager := (isResolutionManager c (some tt) (some t) none).toBool
  if !requester && !resolutionManager && !admin then ([.notifyValidationRequired t], .ok t) else
  match (match delay with
      | none => .ok none
      | some d => (w.parseDuration d).map (fun dur => some (w.now + dur)) :
      Except String (Option ℤ)) with
  | .error e => ([], .error (.notValid ("delay: " ++ e)))
  | .ok delayUntil =>
  match w.resolutionCreate t reqUsername true delayUntil with
  | .error e => ([.resolutionCreate t reqUsername true delayUntil], .error e)
  | .ok r =>
    ([.resolutionCreate t reqUsername true delayUntil],
      .ok (match r with
        | some r => { t with resolution := some r.publicID }
        | none => t))

/-- Whether an effect is a call of `resolution.Create`. -/
def Effect.isResolutionCreate : Effect → Bool
  | .resolutionCreate .. => true
  | _ => false

/-- The caller may have a task run without validation, as `CreateTask` decides it for the
task `t` of `tt` it created: the caller is an admin (`IsAdmin`), or the requester of a template
open to every resolver (`IsRequester` and `allow_all_resolver_usernames`), or a resolution
manager (`IsResolutionManager` with no resolution): an allowed resolver of the template or a
resolver of the task, by name or by group. -/
def MayRun (admins : Admins) (c : Context) (tt : TaskTemplate) (t : Task) : Prop :=
  (getIdentity c ∈ admins.users ∨ ∃ g ∈ admins.groups, g ∈ getGroups c) ∨
  (getIdentity c = t.requesterUsername ∧ tt.allowAllResolverUsernames = true) ∨
  (getIdentity c ∈ tt.allowedResolverUsernames ∨ getIdentity c ∈ t.resolverUsernames ∨
    (∃ g ∈ tt.allowedResolverGroups, g ∈ getGroups c) ∨ ∃ g ∈ t.resolverGroups, g ∈ getGroups c)

/-- The test `!requester && !resolutionManager && !admin` of `CreateTask` fails exactly when the
caller may run the task. -/
lemma mayRun_iff {admins : Admins} {c : Context} {tt : TaskTemplate} {t : Task} :
    (!((isRequester c t).toBool && tt.allowAllResolverUsernames) &&
      !(isResolutionManager c (some tt) (some t) none).toBool && !(isAdmin admins c).toBool) =
        false ↔
      MayRun admins c tt t := by
  simp only [MayRun, ← isAdmin_eq_ok_iff, ← isResolutionManager_eq_ok_iff, ← toBool_eq_true_iff, 
    ← isRequester_eq_ok_iff]
  cases (isRequester c t).toBool <;>
    cases (isResolutionManager c (some tt) (some t) none).toBool <;>
    cases (isAdmin admins c).toBool <;> simp

/-- The comment step of `CreateTask` changes only the comments of the task, and succeeds only
when the comment, if any, was created. -/
lemma comment_step {w : Collaborators Input Batch} {t t₁ : Task} {u comment : String}
    (h : (if comment ≠ "" then (w.createComment t u comment).map
      (fun com => { t with comments := [com] }) else .ok t) = .ok t₁) :
    { t₁ with comments := t.comments } = t ∧
      (comment ≠ "" → ∃ com, w.createComment t u comment = .ok com) := by
  split_ifs at h with hc
  · cases hcc : w.createComment t u comment with
    | error e => simp [hcc, Except.map] at h
    | ok com =>
      simp only [hcc, Except.map, Except.ok.injEq] at h
      subst h
      exact ⟨rfl, fun _ => ⟨com, rfl⟩⟩
  · cases h
    exact ⟨rfl, fun h => absurd h hc⟩

lemma resolutionCreate_called_iff (w : Collaborators Input Batch) (admins : Admins) (c : Context)
    (tt : TaskTemplate) (wu wg ru rg : List String) (input : Input) (b : Option Batch)
    (comment : String) (delay : Option String) (tags : AList (fun _ : String => String)) :
    (createTask w admins c tt wu wg ru rg input b comment delay tags).1.any
        Effect.isResolutionCreate = true ↔
      tt.blocked = false ∧
      ∃ t, w.taskCreate tt (getIdentity c) (getGroups c) wu wg ru rg input tags b
          delay.isSome = .ok t ∧
        (comment ≠ "" → ∃ com, w.createComment t (getIdentity c) comment = .ok com) ∧
        tt.isAutoRunnable = true ∧ MayRun admins c tt t ∧
        ∀ d, delay = some d → ∃ dur, w.parseDuration d = .ok dur := by
  unfold createTask
  by_cases hb : tt.blocked
  · simp [hb]
  cases ht :
      w.taskCreate tt (getIdentity c) (getGroups c) wu wg ru rg input tags b delay.isSome with
  | error e => simp [hb, ht]
  | ok t =>
    simp only [hb, ht, Bool.false_eq_true, ↓reduceIte, Except.ok.injEq, exists_eq_left', true_and]
    split
    · rename_i e he
      refine iff_of_false (by simp) fun h => ?_
      split_ifs at he with hcm
      obtain ⟨com, hcom⟩ := h.1 hcm
      simp [hcom, Except.map] at he
    · rename_i t₁ ht₁
      obtain ⟨hsame, hcomm⟩ := comment_step ht₁
      have hmay : MayRun admins c tt t₁ ↔ MayRun admins c tt t := by rw [← hsame]; rfl
      rw [and_iff_right hcomm, ← hmay]
      by_cases hauto : tt.isAutoRunnable = true
      · by_cases hrun : MayRun admins c tt t₁
        · rw [if_neg (by simp [hauto]), if_neg (by simp [hauto]),
            if_neg (by rw [mayRun_iff.2 hrun]; exact Bool.false_ne_true)]
          cases delay with
          | none =>
            dsimp only
            split <;> simp [Effect.isResolutionCreate, hauto, hrun]
          | some d =>
            cases hp : w.parseDuration d with
            | error e => simp [hp, Except.map]
            | ok dur =>
              simp only [hp, Except.map]
              split <;> simp [Effect.isResolutionCreate, hauto, hrun, hp]
        · rw [if_neg (by simp [hauto]), if_neg (by simp [hauto]),
            if_pos (eq_true_of_ne_false (mt mayRun_iff.1 hrun))]
          simp [Effect.isResolutionCreate, hrun]
      · cases hA : tt.allowAllResolverUsernames <;> simp [hauto, hA, Effect.isResolutionCreate]

/-- A successful `CreateTask` that creates no resolution asks for validation and returns the
task as `task.Create` made it, with its comment. -/
lemma createTask_ok_without_resolution (w : Collaborators Input Batch) (admins : Admins)
    (c : Context) (tt : TaskTemplate) (wu wg ru rg : List String) (input : Input)
    (b : Option Batch) (comment : String) (delay : Option String)
    (tags : AList (fun _ : String => String)) {t' : Task}
    (hok : (createTask w admins c tt wu wg ru rg input b comment delay tags).2 = .ok t')
    (hno : (createTask w admins c tt wu wg ru rg input b comment delay tags).1.any
      Effect.isResolutionCreate = false) :
    (createTask w admins c tt wu wg ru rg input b comment delay tags).1 =
        [.notifyValidationRequired t'] ∧
      ∃ t, w.taskCreate tt (getIdentity c) (getGroups c) wu wg ru rg input tags b
          delay.isSome = .ok t ∧ t'.resolution = t.resolution := by
  unfold createTask at hok hno ⊢
  by_cases hb : tt.blocked
  · simp [hb] at hok
  cases ht :
      w.taskCreate tt (getIdentity c) (getGroups c) wu wg ru rg input tags b delay.isSome with
  | error e => simp [hb, ht] at hok
  | ok t =>
    simp only [hb, ht, Bool.false_eq_true, ↓reduceIte, Except.ok.injEq, exists_eq_left']
      at hok hno ⊢
    split at hok
    · simp at hok
    · rename_i t₁ ht₁
      have hres : t₁.resolution = t.resolution := by rw [← (comment_step ht₁).1]
      simp only [ht₁] at hno ⊢
      split_ifs at hok hno ⊢
      · simp_all
      · simp_all
      · split at hok
        · simp at hok
        · split at hok <;> simp_all [Effect.isResolutionCreate]

/-- `CreateTask` calls `resolution.Create` exactly when the template is not blocked, the task
(and its comment, if any) was created, the template is auto-runnable, the caller may run the
task, and the delay, if any, parses.  Every other successful return asks for validation and
leaves the task without a resolution of its own. -/
theorem createTask_creates_resolution_iff (w : Collaborators Input Batch) (admins : Admins)
    (c : Context) (tt : TaskTemplate) (wu wg ru rg : List String) (input : Input)
    (b : Option Batch) (comment : String) (delay : Option String)
    (tags : AList (fun _ : String => String)) :
    ((createTask w admins c tt wu wg ru rg input b comment delay tags).1.any
        Effect.isResolutionCreate = true ↔
      tt.blocked = false ∧
      ∃ t, w.taskCreate tt (getIdentity c) (getGroups c) wu wg ru rg input tags b
          delay.isSome = .ok t ∧
        (comment ≠ "" → ∃ com, w.createComment t (getIdentity c) comment = .ok com) ∧
        tt.isAutoRunnable = true ∧ MayRun admins c tt t ∧
        ∀ d, delay = some d → ∃ dur, w.parseDuration d = .ok dur) ∧
    ∀ t', (createTask w admins c tt wu wg ru rg input b comment delay tags).2 = .ok t' →
      (createTask w admins c tt wu wg ru rg input b comment delay tags).1.any
        Effect.isResolutionCreate = false →
      (createTask w admins c tt wu wg ru rg input b comment delay tags).1 =
          [.notifyValidationRequired t'] ∧
        ∃ t, w.taskCreate tt (getIdentity c) (getGroups c) wu wg ru rg input tags b
            delay.isSome = .ok t ∧ t'.resolution = t.resolution :=
  ⟨resolutionCreate_called_iff w admins c tt wu wg ru rg input b comment delay tags,
    fun _ hok hno => createTask_ok_without_resolution w admins c tt wu wg ru rg input b comment
      delay tags hok hno⟩

/-! ### Resuming a parent task -/

/-- The database reads of `ShouldResumeParentTask`, which are outside src. -/
structure Loaders where
  /-- `batchutils.RunningTasks(dbp, batchID)`. -/
  runningTasks : String → Except Error ℕ
  /-- `task.LoadFromPublicID(dbp, publicID)`. -/
  loadTask : String → Except Error Task
  /-- `resolution.LoadFromPublicID(dbp, publicID)`. -/
  loadResolution : String → Except Error Resolution

/-- `ShouldResumeParentTask`: the parent task to resume once the task `t` has ended, if any.
`subtaskTagParentTaskID` is `constants.SubtaskTagParentTaskID`, outside src. -/
def shouldResumeParentTask (db : Loaders) (subtaskTagParentTaskID : String) (t : Task) :
    Except Error (Option Task) :=
  if t.state ∈ [.done, .wontfix, .cancelled] then
    match t.tags.lookup subtaskTagParentTaskID with
    | none => .ok none
    | some parentTaskID => do
      -- a task outside a batch has no sibling to wait for
      let running ← (match t.batchID with
        | some batchID => db.runningTasks batchID
        | none => pure 0 : Except Error ℕ)
      if running ≠ 0 then pure none else
      let parentTask ← db.loadTask parentTaskID
      if parentTask.state ∈ [.blocked, .running, .waiting] then
        match parentTask.resolution with
        | none => pure none
        | some resolutionID =>
          let r ← db.loadResolution resolutionID
          if r.state ∈ [.crashed, .paused] then pure none else pure (some parentTask)
      else pure none
  else .ok none

end Utask.TaskUtils
