import Utask.Models

/-!
# Authorization checks (`pkg/auth`)

Each check returns `nil` (`.ok ()`) when the identity and groups stored in the request context
are allowed, and an error otherwise.  `IsAdmin`, `IsWatcher` and `IsTemplateOwner` are one check,
`isMember`, applied to their own lists and message; `IsRequester` and `IsResolutionManager` keep
bodies of their own.  The lemmas at the end say, for each check, exactly when it admits.
-/

namespace Utask.Auth

/-- The identity and the groups stored in a request context by `WithIdentity` and
`WithGroups`, `none` when nothing was stored. -/
structure Context where
  identity : Option String
  groups : Option (List String)
deriving DecidableEq, Repr

/-- `adminUsers` and `adminGroups`, set by `auth.Init` from the configuration. -/
structure Admins where
  users : List String
  groups : List String
deriving DecidableEq, Repr

/-- `WithIdentity`. -/
def withIdentity (ctx : Context) (id : String) : Context := { ctx with identity := some id }

/-- `WithGroups`. -/
def withGroups (ctx : Context) (groups : List String) : Context := { ctx with groups := some groups }

/-- `GetIdentity`. -/
def getIdentity (ctx : Context) : String := ctx.identity.getD ""

/-- `GetGroups`. -/
def getGroups (ctx : Context) : List String := ctx.groups.getD []

/-- Modelled from the spec: `utils.ListContainsString` is not under src; it is the membership
test of the spec's authorization model (an identity among a list of usernames). -/
def listContainsString (list : List String) (item : String) : Bool := list.contains item

/-- Modelled from the spec: `utils.HasIntersection` is not under src; it tells whether two lists
of groups share a group. -/
def hasIntersection (a b : List String) : Bool := a.any (fun g => b.contains g)

/-- The check `IsAdmin`, `IsWatcher` and `IsTemplateOwner` share: the identity is one of
`usernames`, or one of the groups is one of `groups`; otherwise `errors.Forbiddenf(msg)`. -/
def isMember (usernames groups : List String) (msg : String) (ctx : Context) :
    Except Error Unit :=
  if listContainsString usernames (getIdentity ctx) then .ok ()
  else if hasIntersection groups (getGroups ctx) then .ok ()
  else .error (.forbidden msg)

/-- `IsAdmin`. -/
def isAdmin (admins : Admins) (ctx : Context) : Except Error Unit :=
  isMember admins.users admins.groups "Not an admin user" ctx

/-- `IsRequester`. -/
def isRequester (ctx : Context) (t : Task) : Except Error Unit :=
  if t.requesterUsername ≠ getIdentity ctx then
    .error (.forbidden "User is not requester of this task")
  else .ok ()

/-- `IsWatcher`. -/
def isWatcher (ctx : Context) (t : Task) : Except Error Unit :=
  isMember t.watcherUsernames t.watcherGroups "User is not watcher of this task" ctx

/-- `IsTemplateOwner`; `none` is a nil template. -/
def isTemplateOwner (ctx : Context) (tt : Option TaskTemplate) : Except Error Unit :=
  match tt with
  | none => .error (.plain "nil tasktemplate")
  | some tt =>
    isMember tt.allowedResolverUsernames tt.allowedResolverGroups
      "User not authorized on this resolution" ctx

/-- `IsResolutionManager`; `none` is a nil pointer. -/
def isResolutionManager (ctx : Context) (tt : Option TaskTemplate) (t : Option Task)
    (r : Option Resolution) : Except Error Unit :=
  let id := getIdentity ctx
  match t with
  | none => .error (.plain "nil task")
  | some t =>
    if (isTemplateOwner ctx tt).toBool then .ok ()
    else if listContainsString t.resolverUsernames id then .ok ()
    else if r.any (fun r => r.resolverUsername = id) then .ok ()
    else if hasIntersection t.resolverGroups (getGroups ctx) then .ok ()
    else .error (.forbidden "User not authorized on this resolution")

/-- The fields of `utask.Config` that `Init` reads. -/
structure Config where
  adminUsernames : List String
  adminGroups : List String
deriving DecidableEq, Repr

/-- `adminUsers` and `adminGroups` before `Init` sets them: nil. -/
def initialAdmins : Admins := ⟨[], []⟩

/-- `Init`, on what `utask.Config(store)` returns: its error, and the administrators it leaves
in place of `admins`. -/
def init (config : Except Error Config) (admins : Admins) : Except Error Unit × Admins :=
  match config with
  | .error err => (.error err, admins)
  | .ok cfg =>
    if cfg.adminUsernames.length < 1 ∧ cfg.adminGroups.length < 1 then
      (.error (.plain "Admin user list can't be empty"), admins)
    else (.ok (), ⟨cfg.adminUsernames, cfg.adminGroups⟩)

/-! ### When each check admits -/

/-- A Go `err == nil` test. -/
lemma toBool_eq_true_iff {x : Except Error Unit} : x.toBool = true ↔ x = .ok () := by
  cases x <;> simp [Except.toBool]

@[simp] lemma listContainsString_iff {list : List String} {item : String} :
    listContainsString list item = true ↔ item ∈ list := by
  simp [listContainsString]

@[simp] lemma hasIntersection_iff {a b : List String} :
    hasIntersection a b = true ↔ ∃ g ∈ a, g ∈ b := by
  simp [hasIntersection]

lemma isMember_eq_ok_iff {usernames groups : List String} {msg : String} {ctx : Context} :
    isMember usernames groups msg ctx = .ok () ↔
      getIdentity ctx ∈ usernames ∨ ∃ g ∈ groups, g ∈ getGroups ctx := by
  unfold isMember
  split_ifs with h₁ h₂ <;> simp_all

/-- A member check that fails fails with its own message. -/
lemma isMember_eq_error {usernames groups : List String} {msg : String} {ctx : Context}
    {e : Error} (h : isMember usernames groups msg ctx = .error e) : e = .forbidden msg := by
  unfold isMember at h
  split_ifs at h
  simp_all

lemma isAdmin_eq_ok_iff {admins : Admins} {ctx : Context} :
    isAdmin admins ctx = .ok () ↔
      getIdentity ctx ∈ admins.users ∨ ∃ g ∈ admins.groups, g ∈ getGroups ctx :=
  isMember_eq_ok_iff

@[simp] lemma getIdentity_withIdentity (ctx : Context) (id : String) :
    getIdentity (withIdentity ctx id) = id := rfl

@[simp] lemma getGroups_withGroups (ctx : Context) (groups : List String) :
    getGroups (withGroups ctx groups) = groups := rfl

/-- Some caller is an admin exactly when the lists of administrators are not both empty. -/
lemma exists_isAdmin_iff {admins : Admins} :
    (∃ ctx, isAdmin admins ctx = .ok ()) ↔ admins.users ≠ [] ∨ admins.groups ≠ [] := by
  simp only [isAdmin_eq_ok_iff]
  constructor
  · rintro ⟨ctx, h | ⟨g, hg, -⟩⟩
    · exact .inl (List.ne_nil_of_mem h)
    · exact .inr (List.ne_nil_of_mem hg)
  · rintro (h | h)
    · obtain ⟨u, hu⟩ := List.exists_mem_of_ne_nil _ h
      exact ⟨withIdentity ⟨none, none⟩ u, .inl (by simpa using hu)⟩
    · obtain ⟨g, hg⟩ := List.exists_mem_of_ne_nil _ h
      exact ⟨withGroups ⟨none, none⟩ [g], .inr ⟨g, hg, by simp⟩⟩

/-- What one call of `Init` can do: fail and leave the administrators as they were, or succeed
and install a configuration that names an administrator. -/
lemma init_cases (config : Except Error Config) (admins : Admins) :
    ((init config admins).1 ≠ .ok () ∧ (init config admins).2 = admins) ∨
      ((init config admins).1 = .ok () ∧ ∃ cfg, config = .ok cfg ∧
        (cfg.adminUsernames ≠ [] ∨ cfg.adminGroups ≠ []) ∧
        (init config admins).2 = ⟨cfg.adminUsernames, cfg.adminGroups⟩) := by
  unfold init
  split
  · exact .inl ⟨nofun, rfl⟩
  · rename_i cfg
    split_ifs with h
    · exact .inl ⟨nofun, rfl⟩
    · simp only [Nat.lt_one_iff, List.length_eq_zero, not_and_or] at h
      exact .inr ⟨rfl, cfg, rfl, h, rfl⟩

/-- After `Init` from the start, some caller is an admin exactly when `Init` returned nil. -/
lemma exists_isAdmin_init_iff (config : Except Error Config) :
    (∃ ctx, isAdmin (init config initialAdmins).2 ctx = .ok ()) ↔
      (init config initialAdmins).1 = .ok () := by
  rw [exists_isAdmin_iff]
  rcases init_cases config initialAdmins with ⟨hr, hs⟩ | ⟨hr, cfg, -, hne, hs⟩
  · rw [hs]
    exact iff_of_false (by simp [initialAdmins]) hr
  · simpa [hs, hr] using hne

lemma isRequester_eq_ok_iff {ctx : Context} {t : Task} :
    isRequester ctx t = .ok () ↔ getIdentity ctx = t.requesterUsername := by
  unfold isRequester
  split_ifs with h <;> simp_all [eq_comm]

lemma isTemplateOwner_eq_ok_iff {ctx : Context} {tt : TaskTemplate} :
    isTemplateOwner ctx (some tt) = .ok () ↔
      getIdentity ctx ∈ tt.allowedResolverUsernames ∨
        ∃ g ∈ tt.allowedResolverGroups, g ∈ getGroups ctx :=
  isMember_eq_ok_iff

/-- `IsResolutionManager` for a task, a template and no resolution, as `CreateTask` calls it:
the identity is an allowed resolver of the template or a resolver of the task, or a group is
an allowed group of the template or a resolver group of the task. -/
lemma isResolutionManager_eq_ok_iff {ctx : Context} {tt : TaskTemplate} {t : Task} :
    isResolutionManager ctx (some tt) (some t) none = .ok () ↔
      getIdentity ctx ∈ tt.allowedResolverUsernames ∨ getIdentity ctx ∈ t.resolverUsernames ∨
        (∃ g ∈ tt.allowedResolverGroups, g ∈ getGroups ctx) ∨
          ∃ g ∈ t.resolverGroups, g ∈ getGroups ctx := by
  have howner : isTemplateOwner ctx (some tt) = .ok () ↔ _ := isTemplateOwner_eq_ok_iff
  unfold isResolutionManager
  cases h : isTemplateOwner ctx (some tt) with
  | error e =>
    rw [h] at howner
    simp only [Except.toBool, Bool.false_eq_true, ↓reduceIte, Option.any_none]
    split_ifs <;> simp_all
  | ok u =>
    rw [h] at howner
    simp only [Except.toBool, ↓reduceIte, true_iff]
    rcases howner.1 rfl with h' | h'
    · exact Or.inl h'
    · exact Or.inr (Or.inr (Or.inl h'))

end Utask.Auth
