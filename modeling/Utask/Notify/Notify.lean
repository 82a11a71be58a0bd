import Mathlib.Data.List.AList

/-!
# Sending notifications (`pkg/notify`)

Senders are registered under a name in the map `senders`, with the strategies of their backend.
`Send` starts one goroutine `s.sender.Send(m, name)` for each delivery; `send` returns these
deliveries, in the order `Send` starts them.  `checkIfDeliverMessage`, which applies the
backend's strategies to the message, is not under src and is a parameter of `send`.

A Go map is an `AList` here: its entries are in the order a `range` over it visits them, which
Go leaves open, so a statement over every `AList` is one over every order of visit.  The main
result, `send_deliveries`, counts the deliveries to each name: one when `NotifyBackends` is
empty, and otherwise one for each time the name occurs in `NotifyBackends`.
-/

namespace Utask.Notify

/-- `TaskStateUpdateKey`. -/
def taskStateUpdateKey : String := "task_state_update"

/-- `TaskStepUpdateKey`. -/
def taskStepUpdateKey : String := "task_step_update"

/-- `TaskValidationKey`. -/
def taskValidationKey : String := "task_validation"

/-- `utask.TemplateNotificationStrategy`: the strategy for the templates listed. -/
structure TemplateNotificationStrategy where
  templates : List String
  notificationStrategy : String
deriving DecidableEq, Repr

/-- `notificationBackend`: a sender with the strategies of its backend. -/
structure NotificationBackend (S : Type) where
  sender : S
  defaultNotificationStrategy : AList (fun _ : String => String)
  templateNotificationStrategies : AList (fun _ : String => List TemplateNotificationStrategy)

/-- `utask.NotifyActionsParameters`, by the fields `Send` reads. -/
structure NotifyActionsParameters where
  disabled : Bool
  notifyBackends : List String
deriving DecidableEq, Repr

variable {S M : Type}

/-- `RegisterSender`: `senders[name] = notificationBackend{...}`. -/
def registerSender (name : String) (s : S)
    (defaultNotificationStrategy : AList (fun _ : String => String))
    (templateNotificationStrategies : AList (fun _ : String => List TemplateNotificationStrategy))
    (senders : AList (fun _ : String => NotificationBackend S)) :
    AList (fun _ : String => NotificationBackend S) :=
  senders.insert name ⟨s, defaultNotificationStrategy, templateNotificationStrategies⟩

/-- `ListSendersNames`. -/
def listSendersNames (senders : AList (fun _ : String => NotificationBackend S)) : List String :=
  senders.entries.map Sigma.fst

/-- `Send`: the deliveries `go s.sender.Send(m, name)` it starts, as pairs of the sender and
the name passed to it. -/
def send (checkIfDeliverMessage : M → NotificationBackend S → Bool)
    (senders : AList (fun _ : String => NotificationBackend S)) (m : M)
    (params : NotifyActionsParameters) : List (S × String) :=
  if params.disabled then [] else
  if params.notifyBackends.length = 0 then
    senders.entries.filterMap fun ⟨name, s⟩ =>
      if checkIfDeliverMessage m s then some (s.sender, name) else none
  else
    params.notifyBackends.flatMap fun n =>
      senders.entries.filterMap fun ⟨nsname, ns⟩ =>
        if n = nsname ∧ checkIfDeliverMessage m ns then some (ns.sender, nsname) else none

/-! ### Counting deliveries -/

section Deliveries

variable (check : M → NotificationBackend S → Bool) (m : M)

/-- The deliveries of the loop over all senders, for the senders of a list of entries. -/
def deliveries (l : List (Σ _ : String, NotificationBackend S)) : List (S × String) :=
  l.filterMap fun ⟨name, s⟩ => if check m s then some (s.sender, name) else none

variable {check m}

lemma mem_deliveries {l : List (Σ _ : String, NotificationBackend S)} {x : S × String} :
    x ∈ deliveries check m l ↔ ∃ b, ⟨x.2, b⟩ ∈ l ∧ check m b = true ∧ x.1 = b.sender := by
  obtain ⟨s, n⟩ := x
  simp only [deliveries, List.mem_filterMap]
  constructor
  · rintro ⟨⟨n', b⟩, hmem, h⟩
    split_ifs at h with hc
    cases h
    exact ⟨b, hmem, hc, rfl⟩
  · rintro ⟨b, hmem, hc, rfl⟩
    exact ⟨⟨n, b⟩, hmem, by simp [hc]⟩

/-- The loop over `NotifyBackends` delivers, for the name `n`, the deliveries to `n` of the
loop over all senders. -/
lemma filterMap_named (l : List (Σ _ : String, NotificationBackend S)) (n : String) :
    (l.filterMap fun ⟨nsname, ns⟩ =>
        if n = nsname ∧ check m ns then some (ns.sender, nsname) else none) =
      (deliveries check m l).filter (fun x => n = x.2) := by
  induction l with
  | nil => rfl
  | cons e l ih =>
    obtain ⟨k, b⟩ := e
    by_cases hc : check m b <;> by_cases hk : n = k <;> simp_all [deliveries, List.filterMap_cons]

lemma deliveries_cons (k : String) (b : NotificationBackend S)
    (l : List (Σ _ : String, NotificationBackend S)) :
    deliveries check m (⟨k, b⟩ :: l) =
      if check m b then (b.sender, k) :: deliveries check m l else deliveries check m l := by
  by_cases hc : check m b <;> simp [deliveries, List.filterMap_cons, hc]

/-- A list of entries with distinct keys has one delivery for a deliverable name, none else. -/
lemma length_filter_deliveries {l : List (Σ _ : String, NotificationBackend S)}
    (hl : l.NodupKeys) (n : String) :
    ((deliveries check m l).filter (fun x => x.2 = n)).length =
      if (l.dlookup n).any (check m) then 1 else 0 := by
  induction l with
  | nil => simp [deliveries]
  | cons e l ih =>
    obtain ⟨k, b⟩ := e
    have hk : k ∉ l.keys := List.not_mem_keys_of_nodupKeys_cons hl
    specialize ih (List.nodupKeys_of_nodupKeys_cons hl)
    rw [deliveries_cons]
    by_cases hkn : k = n
    · subst hkn
      rw [List.dlookup_eq_none.2 hk] at ih
      rw [List.dlookup_cons_eq]
      by_cases hc : check m b <;> simpa [List.filter_cons, hc] using ih
    · rw [List.dlookup_cons_ne l ⟨k, b⟩ (Ne.symm hkn)]
      by_cases hc : check m b <;> simp [List.filter_cons, hc, hkn, ih]

/-- `Send` as the loop over all senders, filtered by name when `NotifyBackends` is given. -/
lemma send_eq (senders : AList (fun _ : String => NotificationBackend S))
    (p : NotifyActionsParameters) :
    send check senders m p =
      if p.disabled then [] else
      if p.notifyBackends = [] then deliveries check m senders.entries
      else p.notifyBackends.flatMap fun n => (deliveries check m senders.entries).filter
        (fun x => n = x.2) := by
  simp only [send, List.length_eq_zero, filterMap_named]
  rfl

/-- Every delivery of `Send` goes to a registered sender, with the name it is registered
under. -/
lemma send_registered {senders : AList (fun _ : String => NotificationBackend S)}
    {p : NotifyActionsParameters} {x : S × String} (hx : x ∈ send check senders m p) :
    ∃ b, senders.lookup x.2 = some b ∧ x.1 = b.sender := by
  rw [send_eq] at hx
  have hd : x ∈ deliveries check m senders.entries := by
    split_ifs at hx
    · simp at hx
    · exact hx
    · obtain ⟨n, -, hn⟩ := List.mem_flatMap.1 hx
      exact (List.mem_filter.1 hn).1
  obtain ⟨b, hmem, -, hs⟩ := mem_deliveries.1 hd
  exact ⟨b, AList.mem_lookup_iff.2 hmem, hs⟩

end Deliveries

/-- Filtering by name the loop over `NotifyBackends` counts the occurrences of the name. -/
lemma length_filter_flatMap (l : List (S × String)) (backends : List String) (n : String) :
    ((backends.flatMap fun n' => l.filter (fun x => n' = x.2)).filter (fun x => x.2 = n)).length =
      backends.count n * (l.filter (fun x => x.2 = n)).length := by
  induction backends with
  | nil => simp
  | cons n' backends ih =>
    rw [List.flatMap_cons, List.filter_append, List.length_append, ih, List.count_cons,
      List.filter_filter]
    by_cases h : n' = n
    · subst h
      have : (l.filter fun x => decide (x.2 = n') && decide (n' = x.2)) =
          l.filter fun x => decide (x.2 = n') :=
        List.filter_congr fun x _ => by by_cases hx : x.2 = n' <;> simp [hx, eq_comm]
      simp [this, Nat.succ_mul, Nat.add_comm]
    · have : (l.filter fun x => decide (x.2 = n) && decide (n' = x.2)) = [] :=
        List.filter_eq_nil_iff.2 fun x _ => by by_cases hx : x.2 = n <;> simp [hx, h]
      simp [this, h]


/-- The deliveries of `Send`: none when the parameters disable it; otherwise each goes to a
registered sender with the name it is registered under, and the sender registered under `n`
gets, when `checkIfDeliverMessage` accepts the message for it, one delivery if
`NotifyBackends` is empty and one for each occurrence of `n` in `NotifyBackends` otherwise.
Names in `NotifyBackends` with no sender get none. -/
theorem send_deliveries (check : M → NotificationBackend S → Bool)
    (senders : AList (fun _ : String => NotificationBackend S)) (m : M)
    (p : NotifyActionsParameters) :
    (p.disabled = true → send check senders m p = []) ∧
    (∀ x ∈ send check senders m p, ∃ b, senders.lookup x.2 = some b ∧ x.1 = b.sender) ∧
    (p.disabled = false → ∀ n, ((send check senders m p).filter (fun x => x.2 = n)).length =
      if (senders.lookup n).any (check m) then
        (if p.notifyBackends = [] then 1 else p.notifyBackends.count n)
      else 0) := by
  refine ⟨fun h => by simp [send, h], fun _ => send_registered, fun h n => ?_⟩
  have hone : ((deliveries check m senders.entries).filter (fun x => x.2 = n)).length =
      if (senders.lookup n).any (check m) then 1 else 0 :=
    length_filter_deliveries senders.nodupKeys n
  rw [send_eq, if_neg (by simp [h])]
  split_ifs with hb hd hd
  · rw [hone, if_pos hd]
  · rw [hone, if_neg hd]
  · rw [length_filter_flatMap, hone, if_pos hd, Nat.mul_one]
  · rw [length_filter_flatMap, hone, if_neg hd, Nat.mul_zero]

/-- A name listed twice in `NotifyBackends` gets two deliveries. -/
theorem send_repeated_backend :
    send (fun (_ : Unit) (_ : NotificationBackend Unit) => true)
        (registerSender "slack" () ∅ ∅ ∅) () ⟨false, ["slack", "slack"]⟩ =
      [((), "slack"), ((), "slack")] := by
  decide

end Utask.Notify
