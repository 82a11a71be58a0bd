import Utask.Go.Path

/-!
# The paths the dashboard is served with (`api`)

`build` serves the files of the dashboard with placeholders replaced: the base href by
`generateBaseHref(s.dashboardPathPrefix, "/ui/dashboard")` and the base URL of the API by
`generatePathPrefixAPI(s.dashboardAPIPathPrefix)`.  Both go through `path.Join`
(`Utask.Go.Path.join`).  The main results are

* `generatePathPrefixAPI_eq`: for every prefix, the base URL of the API ends with exactly one
  slash, after the cleaned prefix;
* `generatePathPrefixAPI_generatePathPrefixAPI`: the base URL, given back as the prefix, is
  unchanged;
* `generateBaseHref_dashboard`: the base href, for every prefix.
-/

namespace Utask.Api

open Go.Path

/-- `strings.HasSuffix`. -/
def hasSuffix (s suffix : String) : Bool := decide (suffix.data <:+ s.data)

/-- `generateBaseHref`: the UI wants a slash at the end. -/
def generateBaseHref (pathPrefix uri : String) : String := join [pathPrefix, uri] ++ "/"

/-- `generatePathPrefixAPI`. -/
def generatePathPrefixAPI (pathPrefix : String) : String :=
  let p := join [pathPrefix, "/"]
  if p = "." then "/"
  else if !hasSuffix p "/" then p ++ "/"
  else p

/-! ### The base URL of the API -/

/-- A cleaned path ends with a slash only when it is the root. -/
lemma hasSuffix_clean_eq_false {p : String} (h : clean p ≠ "/") :
    hasSuffix (clean p) "/" = false := by
  rwa [hasSuffix, decide_eq_false_iff_not, suffix_slash_iff, getLast?_clean]

/-- The base URL is the root when the prefix cleans to `.` or `/`, and else the cleaned prefix
with a slash after it. -/
lemma generatePathPrefixAPI_eq_ite (p : String) :
    generatePathPrefixAPI p = if clean p = "." ∨ clean p = "/" then "/" else clean p ++ "/" := by
  unfold generatePathPrefixAPI
  rw [join_slash]
  by_cases hp : p = ""
  · subst hp
    rfl
  rw [if_neg hp]
  by_cases h1 : clean p = "."
  · simp [h1]
  by_cases h2 : clean p = "/"
  · simp only [h2]
    rfl
  · simp [h1, h2, hasSuffix_clean_eq_false h2]

/-- For every prefix, the base URL of the API the dashboard is given ends with exactly one
slash: it is `/`, or the cleaned prefix, which does not end with a slash, and one slash. -/
theorem generatePathPrefixAPI_eq (pathPrefix : String) :
    ((clean pathPrefix = "." ∨ clean pathPrefix = "/") ∧ generatePathPrefixAPI pathPrefix = "/") ∨
      (clean pathPrefix ≠ "." ∧ hasSuffix (clean pathPrefix) "/" = false ∧
        generatePathPrefixAPI pathPrefix = clean pathPrefix ++ "/") := by
  rw [generatePathPrefixAPI_eq_ite]
  split_ifs with h
  · exact .inl ⟨h, rfl⟩
  · rw [not_or] at h
    exact .inr ⟨h.1, hasSuffix_clean_eq_false h.2, rfl⟩

example : generatePathPrefixAPI "api/../v1//" = "v1/" := by decide

/-- The base URL ends with a slash that is not preceded by another. -/
lemma generatePathPrefixAPI_one_slash (p : String) :
    ∃ q, generatePathPrefixAPI p = q ++ "/" ∧ hasSuffix q "/" = false := by
  rw [generatePathPrefixAPI_eq_ite]
  split_ifs with h
  · exact ⟨"", rfl, by decide⟩
  · exact ⟨clean p, rfl, hasSuffix_clean_eq_false (not_or.1 h).2⟩

/-- The base URL, given back as the prefix, is unchanged. -/
theorem generatePathPrefixAPI_generatePathPrefixAPI (pathPrefix : String) :
    generatePathPrefixAPI (generatePathPrefixAPI pathPrefix) = generatePathPrefixAPI pathPrefix := by
  rw [generatePathPrefixAPI_eq_ite pathPrefix]
  split_ifs with h
  · rfl
  · rw [generatePathPrefixAPI_eq_ite, clean_append_slash (clean_ne_empty _), clean_clean, if_neg h]

/-! ### The base href of the dashboard -/

lemma keepAll_uiDashboard (rooted : Bool) (s : Kept) :
    keepAll rooted s "/ui/dashboard".data = ⟨s.up, "dashboard".data :: "ui".data :: s.elems⟩ := rfl

/-- The base href `build` gives the dashboard, for every prefix: under the cleaned prefix, and
relative when a prefix that is not empty cleans to `.`. -/
theorem generateBaseHref_dashboard (pathPrefix : String) :
    generateBaseHref pathPrefix "/ui/dashboard" =
      if pathPrefix = "" ∨ clean pathPrefix = "/" then "/ui/dashboard/"
      else if clean pathPrefix = "." then "ui/dashboard/"
      else clean pathPrefix ++ "/ui/dashboard/" := by
  unfold generateBaseHref
  by_cases hp : pathPrefix = ""
  · subst hp
    rfl
  rw [join_pair _ hp, clean_eq_cleanSpec, cleanSpec_append _ hp, clean_eq_toPath hp]
  generalize (pathPrefix.data.head? == some '/') = r
  have hok := keepAll_ok (Kept.ok_start r) pathPrefix.data
  generalize keepAll r ⟨0, []⟩ pathPrefix.data = s at hok ⊢
  have hrender : render r ⟨s.up, "dashboard".data :: "ui".data :: s.elems⟩ =
      render r s ++ (if s.path = [] then [] else ['/']) ++ "ui/dashboard".data := by
    rw [render_cons r ⟨s.up, "ui".data :: s.elems⟩, render_cons r s]
    simp [Kept.path]
  have hne : render r ⟨s.up, "dashboard".data :: "ui".data :: s.elems⟩ ≠ [] := by
    rw [hrender]
    simp
  rw [keepAll_uiDashboard, Kept.toPath, if_neg hne, hrender]
  simp only [toPath_eq_root_iff hok, toPath_eq_dot_iff hok, hp, false_or]
  by_cases hpath : s.path = []
  · cases r <;> simp [hpath, render, List.intercalate]
  · have hr : render r s ≠ [] := fun h' => hpath ((render_eq_nil_iff hok).1 h').2
    simp only [hpath, and_false, ↓reduceIte, Kept.toPath, if_neg hr]
    apply String.ext
    simp

example : generateBaseHref "." "/ui/dashboard" = "ui/dashboard/" := by decide

end Utask.Api
