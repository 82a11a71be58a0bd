import Mathlib.Data.List.AList

/-!
# The records the modelled code reads

The packages `models/task`, `models/tasktemplate` and `models/resolution` are not under src;
what is kept of their types here is the fields that `pkg/auth`, `pkg/taskutils` and the API
read or write, with the names the spec gives them (§3, §6).  Errors are kept by the kind
`github.com/juju/errors` gives them and their message.
-/

namespace Utask

/-- An error value of the modelled code: its `juju/errors` kind and its message. -/
inductive Error
  /-- `errors.Forbiddenf`. -/
  | forbidden (msg : String)
  /-- `errors.NewNotValid`. -/
  | notValid (msg : String)
  /-- `errors.BadRequestf`. -/
  | badRequest (msg : String)
  /-- `errors.NewNotImplemented`. -/
  | notImplemented (msg : String)
  /-- `errors.New`, `errors.Errorf`, or an error a collaborator returns. -/
  | plain (msg : String)
deriving DecidableEq, Repr

/-- `fmt`'s `%q` on a string without characters to escape. -/
def goQuote (s : String) : String := "\"" ++ s ++ "\""

/-- The states of a task (spec §3). -/
inductive TaskState
  | todo
  | blocked
  | running
  | waiting
  | done
  | cancelled
  | wontfix
deriving DecidableEq, Repr

/-- The states of a resolution (spec §3). -/
inductive ResolutionState
  | todo
  | running
  | waiting
  | paused
  | cancelled
  | crashed
  | done
  | error
  | blockedBadRequest
  | blockedFatal
  | blockedMaxRetries
  | toAutorun
  | retryNow
deriving DecidableEq, Repr

/-- A task template, by the fields the modelled code reads. -/
structure TaskTemplate where
  name : String
  blocked : Bool
  /-- `auto_runnable`. -/
  autoRunnable : Bool
  /-- `allow_all_resolver_usernames`. -/
  allowAllResolverUsernames : Bool
  allowedResolverUsernames : List String
  allowedResolverGroups : List String
deriving DecidableEq, Repr

/-- Modelled from the spec: `TaskTemplate.IsAutoRunnable` is not under src; the spec's
template carries the boolean `auto_runnable`. -/
def TaskTemplate.isAutoRunnable (tt : TaskTemplate) : Bool := tt.autoRunnable

/-- A comment on a task. -/
structure Comment where
  username : String
  content : String
deriving DecidableEq, Repr

/-- A task, by the fields the modelled code reads or writes. -/
structure Task where
  publicID : String
  requesterUsername : String
  watcherUsernames : List String
  watcherGroups : List String
  resolverUsernames : List String
  resolverGroups : List String
  state : TaskState
  tags : AList (fun _ : String => String)
  batchID : Option String
  comments : List Comment
  /-- The public id of the task's resolution, `t.Resolution`. -/
  resolution : Option String

/-- A resolution, by the fields the modelled code reads. -/
structure Resolution where
  publicID : String
  resolverUsername : String
  state : ResolutionState
deriving DecidableEq, Repr

/-- A Go call whose error is returned at once: it succeeds, and so does the rest. -/
lemma bind_eq_ok_iff {ε α β : Type} {x : Except ε α} {f : α → Except ε β} {b : β} :
    x >>= f = .ok b ↔ ∃ a, x = .ok a ∧ f a = .ok b := by
  cases x <;> simp [bind, Except.bind]

/-- The same call, failing: it fails, or it succeeds and the rest fails. -/
lemma bind_eq_error_iff {ε α β : Type} {x : Except ε α} {f : α → Except ε β} {e : ε} :
    x >>= f = .error e ↔ x = .error e ∨ ∃ a, x = .ok a ∧ f a = .error e := by
  cases x <;> simp [bind, Except.bind]

/-- A wrapped error (`fmt.Errorf("...: %s", err)`) leaves success as it is. -/
@[simp] lemma mapError_eq_ok_iff {ε ε' α : Type} {x : Except ε α} {f : ε → ε'} {a : α} :
    x.mapError f = .ok a ↔ x = .ok a := by
  cases x <;> simp [Except.mapError]

lemma mapError_eq_error_iff {ε ε' α : Type} {x : Except ε α} {f : ε → ε'} {e' : ε'} :
    x.mapError f = .error e' ↔ ∃ e, x = .error e ∧ f e = e' := by
  cases x <;> simp [Except.mapError]

/-- A Go `for ... range` loop whose body may `return` an error succeeds exactly when every
iteration does. -/
lemma forM_eq_ok_iff {ε α : Type} (l : List α) (f : α → Except ε PUnit) :
    l.forM f = .ok ⟨⟩ ↔ ∀ x ∈ l, f x = .ok ⟨⟩ := by
  induction l with
  | nil => simp only [List.forM_nil, List.not_mem_nil, false_implies, implies_true, iff_true]; rfl
  | cons x l ih =>
    simp only [List.forM_cons, List.mem_cons, forall_eq_or_imp]
    cases h : f x with
    | error e => simp [h, bind, Except.bind]
    | ok u => simp [h, bind, Except.bind, ih]

/-- Such a loop followed by a `return` of a value returns it exactly when every iteration
succeeds. -/
lemma forM_bind_eq_ok_iff {ε α β : Type} (l : List α) (f : α → Except ε PUnit) (x y : β) :
    (l.forM f >>= fun _ => pure x) = .ok y ↔ (∀ a ∈ l, f a = .ok ⟨⟩) ∧ x = y := by
  rw [← forM_eq_ok_iff]
  cases l.forM f <;> simp [bind, Except.bind, pure, Except.pure]

/-! ### Lists split on a separator

`strings.Split` and the loop of `path.Clean` cut a string into the pieces between the
occurrences of a separator (`List.splitOn`) and join pieces back with it (`List.intercalate`).
-/

/-- The pieces of a split hold no separator. -/
lemma not_mem_of_mem_splitOn {sep : Char} {l piece : List Char} (h : piece ∈ l.splitOn sep) :
    sep ∉ piece := by
  induction l generalizing piece with
  | nil => simp_all
  | cons c l ih =>
    simp only [List.splitOn, List.splitOnP_cons] at h ih
    split_ifs at h with hc
    · rcases List.mem_cons.1 h with rfl | h
      · simp
      · exact ih h
    · obtain ⟨hd, tl, hs⟩ := List.exists_cons_of_ne_nil (List.splitOnP_ne_nil _ l)
      rw [hs] at h ih
      simp only [List.modifyHead, List.mem_cons] at h ih
      rcases h with rfl | h
      · simp only [beq_iff_eq] at hc
        simpa [Ne.symm hc] using ih (.inl rfl)
      · exact ih (.inr h)

/-- The first piece of a split is the prefix before the first separator, and the others are
those of the rest. -/
lemma splitOn_eq_takeWhile_cons {α : Type} [DecidableEq α] (sep : α) (l : List α) :
    l.splitOn sep = l.takeWhile (· != sep) :: ((l.dropWhile (· != sep)).splitOn sep).tail := by
  induction l with
  | nil => rfl
  | cons c l ih =>
    by_cases hc : c = sep
    · subst hc
      simp [List.splitOn, List.splitOnP_cons]
    · rw [List.splitOn, List.splitOnP_cons, ← List.splitOn, ih]
      simp [hc]

lemma intercalate_cons_cons {α : Type} (sep a b : List α) (l : List (List α)) :
    sep.intercalate (a :: b :: l) = a ++ sep ++ sep.intercalate (b :: l) := by
  simp [List.intercalate, List.intersperse_cons_cons]

lemma intercalate_append_singleton {α : Type} (sep e : List α) {l : List (List α)}
    (hl : l ≠ []) : sep.intercalate (l ++ [e]) = sep.intercalate l ++ sep ++ e := by
  induction l with
  | nil => exact absurd rfl hl
  | cons a l ih =>
    cases l with
    | nil => simp [intercalate_cons_cons, List.intercalate]
    | cons b l =>
      have ih := ih (List.cons_ne_nil _ _)
      rw [List.cons_append] at ih
      rw [List.cons_append, List.cons_append, intercalate_cons_cons, ih, intercalate_cons_cons]
      simp

lemma intercalate_eq_nil_iff {α : Type} {sep : List α} {l : List (List α)}
    (h : ∀ e ∈ l, e ≠ []) : sep.intercalate l = [] ↔ l = [] := by
  cases l with
  | nil => simp [List.intercalate]
  | cons a l =>
    cases l with
    | nil => simpa [List.intercalate] using h a (by simp)
    | cons b l => simp [intercalate_cons_cons, h a (by simp)]

end Utask
