import Utask.Models

/-!
# The task-state gauges (`api`)

`collectMetrics` keeps the gauge vector `utask_task_state` up to date: at start and then every
five seconds, `updateMetrics` loads the count of tasks by resolver group, template and state, and
sets the gauge of each such triple to its count.  The loads are the environment of a run: a run
is the list of what `task.LoadStateCountResolverGroup` returned at each tick.

The main result, `lookup_collectMetrics`, says what a gauge holds after any run: the count of
the last load that had one for its labels, and otherwise its value from before.  A gauge is set
and never reset: the count of a state that later loads no longer list stays on the gauge.
-/

namespace Utask.Api

variable {V : Type}

/-- What `task.LoadStateCountResolverGroup` returns: for each resolver group, each template and
each state, the count of tasks (a `float64`, of type `V` here). -/
abbrev StateCounts (V : Type) :=
  AList (fun _ : String => AList (fun _ : String => AList (fun _ : String => V)))

/-- The gauge vector `utask_task_state`, by its label values `status`, `template`, `group`. -/
abbrev Gauges (V : Type) := AList (fun _ : String × String × String => V)

/-- `updateMetrics`: sets the gauge of each state, template and group to its count.  When the
counts cannot be loaded the error is only logged, and the loops run over no entry. -/
def updateMetrics (load : Except Error (StateCounts V)) (metrics : Gauges V) : Gauges V :=
  let stats : StateCounts V := match load with
    | .ok stats => stats
    | .error _ => ∅
  stats.entries.foldl (fun metrics groupEntry =>
    groupEntry.2.entries.foldl (fun metrics templateEntry =>
      templateEntry.2.entries.foldl (fun metrics stateEntry =>
        metrics.insert (stateEntry.1, templateEntry.1, groupEntry.1) stateEntry.2)
        metrics) metrics) metrics

/-- `collectMetrics`: the first update and one at each tick of its ticker, with the counts
loaded each time, until the context is done; nothing when the database provider cannot be
created. -/
def collectMetrics (newDBProvider : Except Error Unit)
    (loads : List (Except Error (StateCounts V)))
    (metrics : Gauges V) : Gauges V :=
  match newDBProvider with
  | .error _ => metrics
  | .ok () => loads.foldl (fun metrics load => updateMetrics load metrics) metrics

/-- The count a load gives for a state, a template and a group. -/
def StateCounts.count (load : Except Error (StateCounts V)) (state template group : String) :
    Option V :=
  match load with
  | .ok stats => ((stats.lookup group).bind (·.lookup template)).bind (·.lookup state)
  | .error _ => none

/-! ### Loops that change one gauge -/

section Frame

variable {α K β : Type} [DecidableEq K]

/-- A loop over the entries of a map that changes the gauge `k` only at the entry `a₀`, to the
value `f b` at that entry when it has one. -/
lemma lookup_foldl_of_frame [DecidableEq α] {l : List (Σ _ : α, β)} (hl : l.NodupKeys) {k : K}
    (a₀ : α)
    (F : α → β → AList (fun _ : K => V) → AList (fun _ : K => V)) (f : β → Option V)
    (hother : ∀ a b m, a ≠ a₀ → (F a b m).lookup k = m.lookup k)
    (hself : ∀ b m, (F a₀ b m).lookup k = (f b).or (m.lookup k)) (m0 : AList (fun _ : K => V)) :
    (l.foldl (fun m e => F e.1 e.2 m) m0).lookup k = ((l.dlookup a₀).bind f).or (m0.lookup k) := by
  induction l generalizing m0 with
  | nil => rfl
  | cons e l ih =>
    obtain ⟨a, b⟩ := e
    rw [List.foldl_cons, ih (List.nodupKeys_of_nodupKeys_cons hl)]
    by_cases ha : a = a₀
    · subst ha
      rw [List.dlookup_eq_none.2 (List.not_mem_keys_of_nodupKeys_cons hl), List.dlookup_cons_eq,
        hself]
      rfl
    · rw [List.dlookup_cons_ne l ⟨a, b⟩ (Ne.symm ha), hother a b m0 ha]

/-- A loop whose every step leaves the gauge `k` alone leaves it alone. -/
lemma lookup_foldl_of_untouched {l : List (Σ _ : α, β)} {k : K}
    (F : α → β → AList (fun _ : K => V) → AList (fun _ : K => V))
    (h : ∀ a b m, (F a b m).lookup k = m.lookup k) (m0 : AList (fun _ : K => V)) :
    (l.foldl (fun m e => F e.1 e.2 m) m0).lookup k = m0.lookup k := by
  induction l generalizing m0 with
  | nil => rfl
  | cons e l ih => rw [List.foldl_cons, ih, h]

end Frame

/-! ### An update, and a run -/

section Update

variable (state template group : String)

/-- The innermost loop of `updateMetrics`, over the states of one template of one group. -/
lemma lookup_foldl_states (t g : String) (ts : AList (fun _ : String => V)) (m : Gauges V) :
    (ts.entries.foldl (fun m e => m.insert (e.1, t, g) e.2) m).lookup (state, template, group) =
      if (t, g) = (template, group) then (ts.lookup state).or (m.lookup (state, template, group))
      else m.lookup (state, template, group) := by
  split_ifs with htg
  · obtain ⟨rfl, rfl⟩ := Prod.mk.inj_iff.1 htg
    rw [lookup_foldl_of_frame ts.nodupKeys state (fun s c m => m.insert (s, t, g) c) some
      (fun a b m ha => AList.lookup_insert_ne (by simp [Ne.symm ha]))
      (fun b m => AList.lookup_insert m) m, Option.bind_some]
    rfl
  · exact lookup_foldl_of_untouched (fun s c m => m.insert (s, t, g) c)
      (fun a b m => AList.lookup_insert_ne fun h => htg (by cases h; rfl)) m

/-- The middle loop of `updateMetrics`, over the templates of one group. -/
lemma lookup_foldl_templates (g : String)
    (gs : AList (fun _ : String => AList (fun _ : String => V))) (m : Gauges V) :
    (gs.entries.foldl (fun m e => e.2.entries.foldl (fun m e' => m.insert (e'.1, e.1, g) e'.2) m)
        m).lookup (state, template, group) =
      if g = group then ((gs.lookup template).bind (·.lookup state)).or
        (m.lookup (state, template, group))
      else m.lookup (state, template, group) := by
  split_ifs with hg
  · subst g
    exact lookup_foldl_of_frame gs.nodupKeys template
      (fun t ts m => ts.entries.foldl (fun m e' => m.insert (e'.1, t, group) e'.2) m) (·.lookup state)
      (fun t ts m ht => by rw [lookup_foldl_states state template group, if_neg (by simp [ht])])
      (fun ts m => by rw [lookup_foldl_states state template group, if_pos rfl]) m
  · exact lookup_foldl_of_untouched
      (fun (t : String) (ts : AList (fun _ : String => V)) (m : Gauges V) =>
        ts.entries.foldl (fun m e' => m.insert (e'.1, t, g) e'.2) m)
      (fun t ts m => by rw [lookup_foldl_states state template group, if_neg (by simp [hg])]) m

/-- After an update, the gauge of a state, a template and a group holds the loaded count when
the counts have one, and its value before otherwise. -/
lemma lookup_updateMetrics (load : Except Error (StateCounts V)) (metrics : Gauges V) :
    (updateMetrics load metrics).lookup (state, template, group) =
      (StateCounts.count load state template group).or
        (metrics.lookup (state, template, group)) := by
  unfold updateMetrics
  cases load with
  | error e => rfl
  | ok stats =>
    rw [lookup_foldl_of_frame stats.nodupKeys group
      (fun g gs m => gs.entries.foldl
        (fun m e => e.2.entries.foldl (fun m e' => m.insert (e'.1, e.1, g) e'.2) m) m)
      (fun gs => (gs.lookup template).bind (·.lookup state))
      (fun g gs m hg => by rw [lookup_foldl_templates state template group, if_neg hg])
      (fun gs m => by rw [lookup_foldl_templates state template group, if_pos rfl]) metrics,
      StateCounts.count, Option.bind_assoc]
    rfl

end Update

/-- Over a run of `collectMetrics`, each gauge holds the count of the last load that had one for
its labels, and otherwise keeps its value from before the run. -/
theorem lookup_collectMetrics (loads : List (Except Error (StateCounts V))) (metrics : Gauges V)
    (state template group : String) :
    (collectMetrics (.ok ()) loads metrics).lookup (state, template, group) =
      (loads.reverse.findSome? fun load => StateCounts.count load state template group).or
        (metrics.lookup (state, template, group)) := by
  induction loads generalizing metrics with
  | nil => rfl
  | cons load loads ih =>
    rw [collectMetrics, List.foldl_cons, ← collectMetrics, ih, lookup_updateMetrics,
      List.reverse_cons, List.findSome?_append, Option.or_assoc, List.findSome?_cons,
      List.findSome?_nil]
    cases StateCounts.count load state template group <;> rfl

/-- A gauge keeps the count of a state that later loads no longer have. -/
example : (collectMetrics (.ok ()) [.ok ((∅ : StateCounts ℕ).insert "g" ((∅ : AList _).insert "t"
    ((∅ : AList _).insert "todo" 3))), .ok ∅] ∅).lookup ("todo", "t", "g") = some 3 := by
  decide

end Utask.Api
