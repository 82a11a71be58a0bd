import Mathlib.Data.List.Basic

/-!
# The handler chain of a gin request

A request that matches a route is served by the route's chain of handlers: the middlewares of
its group followed by the handlers given when the route was registered.  gin's `Context.Next`
runs `handlers[index]` for increasing `index` while `index < len(handlers)`, and
`Context.Abort` sets `index` to `abortIndex`, which is past the end of every chain gin accepts
(`combineHandlers` refuses a chain of `abortIndex` handlers or more).  A handler that returns
without calling `Next` therefore does not stop the chain: the loop of the `Next` that called it
goes on with the following handler.  Only `Abort` stops it.

A handler body is described here by what it does to the chain and to the response (`Op`), and
`runChain` is the loop of `Next`.  The main result is

* `mem_enter_serve_iff`: the handler at position `j` runs exactly when `j < reached hs`, and
  `lt_reached_iff`: that is, when every handler before it `passes`, i.e. calls `Next` or
  returns before any `Abort`.
-/

namespace Utask.Gin

/-- gin's `abortIndex` (`math.MaxInt8 >> 1`). -/
def abortIndex : ℕ := 63

/-- What a handler body does, in order, as far as the chain and the response see it. -/
inductive Op
  /-- `c.Next()`: the rest of the chain runs before the handler goes on. -/
  | next
  /-- `c.Abort()`. -/
  | abort
  /-- A response with this status is written (`c.JSON`, `c.String`, `c.Redirect`, ...). -/
  | write (code : ℕ)
  /-- The handler's own work: for a tonic handler, the API operation it wraps. -/
  | work
deriving DecidableEq, Repr

/-- What can be observed of a request while it is served. -/
inductive Event
  /-- gin calls `handlers[i]`. -/
  | enter (i : ℕ)
  /-- `handlers[i]` writes a response with status `code`. -/
  | write (i code : ℕ)
  /-- `handlers[i]` does its own work. -/
  | work (i : ℕ)
deriving DecidableEq, Repr

/-- The part of gin's `Context` that serving a chain reads and changes.  gin keeps `index` in
an `int8` that starts at `-1`; here it starts at `0`, where the first `Next` moves it. -/
structure Context where
  /-- The position of the handler running, `c.index`. -/
  index : ℕ
  /-- What happened so far, oldest first. -/
  events : List Event
deriving DecidableEq, Repr

namespace Context

/-- Records an event. -/
def log (c : Context) (e : Event) : Context := { c with events := c.events ++ [e] }

/-- `c.index++`. -/
def succ (c : Context) : Context := { c with index := c.index + 1 }

/-- `c.Abort()`. -/
def abort (c : Context) : Context := { c with index := abortIndex }

@[simp] lemma log_index (c : Context) (e : Event) : (c.log e).index = c.index := rfl
@[simp] lemma log_events (c : Context) (e : Event) : (c.log e).events = c.events ++ [e] := rfl
@[simp] lemma succ_index (c : Context) : c.succ.index = c.index + 1 := rfl
@[simp] lemma succ_events (c : Context) : c.succ.events = c.events := rfl
@[simp] lemma abort_index (c : Context) : c.abort.index = abortIndex := rfl
@[simp] lemma abort_events (c : Context) : c.abort.events = c.events := rfl

end Context

/-- Runs the body `ops` of the handler at position `i`; `next` is what `c.Next()` does there. -/
def runOps (next : Context → Context) (i : ℕ) : List Op → Context → Context
  | [], c => c
  | .next :: ops, c => runOps next i ops (next c)
  | .abort :: ops, c => runOps next i ops c.abort
  | .write code :: ops, c => runOps next i ops (c.log (.write i code))
  | .work :: ops, c => runOps next i ops (c.log (.work i))

/-- The loop of `Next`, `for c.index < len { handlers[c.index](c); c.index++ }`, on a chain of
`len` handlers.  `hs` are the bodies from the current position on, `handlers[c.index:]`, so
that `handlers[c.index]` is the head of `hs`; the `Next` of that handler runs the tail. -/
def runChain (len : ℕ) : List (List Op) → Context → Context
  | [], c => c
  | ops :: hs, c =>
    if c.index < len then
      runChain len hs
        (runOps (fun c => runChain len hs c.succ) c.index ops (c.log (.enter c.index))).succ
    else c

/-- Serving a request with the chain `hs`: gin resets the index and calls `Next`. -/
def serve (hs : List (List Op)) : Context := runChain hs.length hs ⟨0, []⟩

/-! ### How a handler leaves the chain -/

/-- How a handler body leaves the chain: by its first `Next`, by its first `Abort`, or by
returning without either. -/
inductive Exit
  | next
  | abort
  | ret
deriving DecidableEq, Repr

/-- The way `ops` leaves the chain. -/
def exitOf : List Op → Exit
  | [] => .ret
  | .next :: _ => .next
  | .abort :: _ => .abort
  | .write _ :: ops => exitOf ops
  | .work :: ops => exitOf ops

/-- A handler lets the chain go on past it unless it aborts before calling `Next`. -/
def passes (ops : List Op) : Bool := exitOf ops != .abort

/-- How many handlers of the chain `hs` run: up to and including the first that does not pass. -/
def reached : List (List Op) → ℕ
  | [] => 0
  | ops :: hs => (if passes ops then reached hs else 0) + 1

lemma lt_reached_iff {hs : List (List Op)} {j : ℕ} :
    j < reached hs ↔ j < hs.length ∧ ∀ ops ∈ hs.take j, passes ops = true := by
  induction hs generalizing j with
  | nil => simp [reached]
  | cons ops hs ih =>
    cases j with
    | zero => simp [reached]
    | succ j =>
      by_cases h : passes ops <;> simp [reached, h, ih]

/-! ### Running a chain -/

/-- Nothing runs once the index is past the chain. -/
lemma runChain_of_le {len : ℕ} {hs : List (List Op)} {c : Context} (h : len ≤ c.index) :
    runChain len hs c = c := by
  cases hs with
  | nil => rfl
  | cons ops hs => simp [runChain, Nat.not_lt.2 h]

section Body

variable {len : ℕ} {next : Context → Context} {i : ℕ}

/-- A body run past the end of the chain, where `Next` runs nothing, starts no handler. -/
lemma runOps_past (hlen : len ≤ abortIndex)
    (hnext : ∀ c, len ≤ c.index →
      len ≤ (next c).index ∧ ∀ j, Event.enter j ∈ (next c).events ↔ Event.enter j ∈ c.events) :
    ∀ (ops : List Op) (c : Context), len ≤ c.index →
      len ≤ (runOps next i ops c).index ∧
        ∀ j, Event.enter j ∈ (runOps next i ops c).events ↔ Event.enter j ∈ c.events
  | [], c, hc => ⟨hc, fun _ => Iff.rfl⟩
  | .next :: ops, c, hc => by
    obtain ⟨h₁, h₂⟩ := runOps_past hlen hnext ops (next c) (hnext c hc).1
    exact ⟨h₁, fun j => (h₂ j).trans ((hnext c hc).2 j)⟩
  | .abort :: ops, c, _ => runOps_past hlen hnext ops c.abort hlen
  | .write code :: ops, c, hc => by
    simpa [runOps] using runOps_past hlen hnext ops (c.log (.write i code)) hc
  | .work :: ops, c, hc => by
    simpa [runOps] using runOps_past hlen hnext ops (c.log (.work i)) hc

/-- A body run at its own position `k`, where `Next` starts the handlers `P` and moves the index
past the chain: the body starts them if it calls `Next` before any `Abort`, and it leaves the
index at `k` exactly when it calls neither. -/
lemma runOps_at (hlen : len ≤ abortIndex) {k : ℕ} (P : ℕ → Prop)
    (hnext : ∀ c, c.index = k →
      len ≤ (next c).index ∧ ∀ j, Event.enter j ∈ (next c).events ↔ Event.enter j ∈ c.events ∨ P j)
    (hpast : ∀ c, len ≤ c.index →
      len ≤ (next c).index ∧ ∀ j, Event.enter j ∈ (next c).events ↔ Event.enter j ∈ c.events) :
    ∀ (ops : List Op) (c : Context), c.index = k →
      (exitOf ops = .ret → (runOps next i ops c).index = k) ∧
      (exitOf ops ≠ .ret → len ≤ (runOps next i ops c).index) ∧
      ∀ j, Event.enter j ∈ (runOps next i ops c).events ↔
        Event.enter j ∈ c.events ∨ (exitOf ops = .next ∧ P j)
  | [], c, hc => by simp [runOps, exitOf, hc]
  | .next :: ops, c, hc => by
    obtain ⟨h₁, h₂⟩ := runOps_past hlen hpast ops (next c) (hnext c hc).1
    exact ⟨by simp [exitOf], fun _ => h₁, fun j => by simp [exitOf, runOps, h₂, (hnext c hc).2]⟩
  | .abort :: ops, c, _ => by
    obtain ⟨h₁, h₂⟩ := runOps_past hlen hpast ops c.abort hlen
    exact ⟨by simp [exitOf], fun _ => h₁, fun j => by simp [exitOf, runOps, h₂]⟩
  | .write code :: ops, c, hc => by
    obtain ⟨h₁, h₂, h₃⟩ := runOps_at hlen P hnext hpast ops (c.log _) hc
    exact ⟨h₁, h₂, fun j => by simp [exitOf, runOps, h₃]⟩
  | .work :: ops, c, hc => by
    obtain ⟨h₁, h₂, h₃⟩ := runOps_at hlen P hnext hpast ops (c.log _) hc
    exact ⟨h₁, h₂, fun j => by simp [exitOf, runOps, h₃]⟩

end Body

/-- The loop run from the position `c.index` of the head of `hs` starts the next
`reached hs` handlers and leaves the index past the chain. -/
lemma runChain_spec {len : ℕ} (hlen : len ≤ abortIndex) :
    ∀ (hs : List (List Op)) (c : Context), c.index + hs.length = len →
      len ≤ (runChain len hs c).index ∧
        ∀ j, Event.enter j ∈ (runChain len hs c).events ↔
          Event.enter j ∈ c.events ∨ (c.index ≤ j ∧ j < c.index + reached hs)
  | [], c, hc => by simp [runChain, reached, ← hc]
  | ops :: hs, c, hc => by
    have hk : c.index < len := by simp at hc; omega
    have ih := runChain_spec hlen hs
    set k := c.index
    have hnext : ∀ c' : Context, c'.index = k →
        len ≤ (runChain len hs c'.succ).index ∧
          ∀ j, Event.enter j ∈ (runChain len hs c'.succ).events ↔
          Event.enter j ∈ c'.events ∨ (k + 1 ≤ j ∧ j < k + 1 + reached hs) := by
      intro c' hc'
      simpa [hc'] using ih c'.succ (by simp at hc ⊢; omega)
    have hpast : ∀ c' : Context, len ≤ c'.index →
        len ≤ (runChain len hs c'.succ).index ∧
          ∀ j, Event.enter j ∈ (runChain len hs c'.succ).events ↔
          Event.enter j ∈ c'.events := by
      intro c' hc'
      rw [runChain_of_le (by simp; omega)]
      exact ⟨by simp; omega, fun _ => Iff.rfl⟩
    obtain ⟨hret, hleave, henter⟩ :=
      runOps_at hlen _ hnext hpast ops (c.log (.enter k)) rfl
    simp only [runChain, if_pos hk]
    set c₁ := runOps (fun c => runChain len hs c.succ) k ops (c.log (.enter k))
    cases hx : exitOf ops with
    | ret =>
      obtain ⟨h₁, h₂⟩ := hnext c₁ (hret hx)
      refine ⟨h₁, fun j => ?_⟩
      by_cases hm : Event.enter j ∈ c.events <;> simp [h₂, henter, hx, reached, passes, hm]
      omega
    | next | abort =>
      obtain ⟨h₁, h₂⟩ := hpast c₁ (hleave (by simp [hx]))
      refine ⟨h₁, fun j => ?_⟩
      by_cases hm : Event.enter j ∈ c.events <;> simp [h₂, henter, hx, reached, passes, hm]
      omega

/-- The handler at position `j` of a chain gin accepts runs exactly when `j < reached hs`. -/
theorem mem_enter_serve_iff {hs : List (List Op)} (hlen : hs.length ≤ abortIndex) (j : ℕ) :
    Event.enter j ∈ (serve hs).events ↔ j < reached hs := by
  simpa using (runChain_spec hlen hs ⟨0, []⟩ (by simp)).2 j

end Utask.Gin
