import Utask.Models

/-!
# Go's `path.Clean` and `path.Join`

The API server gives the dashboard its base href and the base URL of the API through
`path.Join`, which cleans its result with `path.Clean`.  `clean` is the loop of `path.Clean`
on its buffer `out`, with the index `dotdot` below which a `..` cannot backtrack.  `cleanSpec`
says what the loop computes, on the elements of the path between its slashes: an empty element
and `.` are dropped, `..` drops the element before it (at the start of a relative path it is
kept, at the root it is dropped), and the elements left are joined by `/`, after a `/` if the
path is rooted.

Both work on characters: `/` and `.` are one byte in UTF-8 and no byte of another character is
either, so this is the loop Go runs on the bytes.  The main results are

* `clean_eq_cleanSpec`: the loop computes the elementwise cleaning, on every path;
* `clean_clean`: cleaning a cleaned path changes nothing.
-/

namespace Utask.Go.Path

/-! ### The loop of `path.Clean` -/

/-- Whether the path from `r` on starts with the end of an element: `r == n || path[r] == '/'`. -/
def atEnd : List Char → Bool
  | [] => true
  | c :: _ => c == '/'

/-- The loop of a `..` that can backtrack, from `out.w = w + 1`: `out.w--`, then `out.w--`
while `out.w > dotdot && out.index(out.w) != '/'`. -/
def backtrack (out : List Char) (dotdot : ℕ) : ℕ → ℕ
  | 0 => 0
  | w + 1 => if dotdot < w ∧ out[w]? ≠ some '/' then backtrack out dotdot w else w

/-- A `..` element, on the bytes `out` written so far and `dotdot`: backtrack when
`out.w > dotdot`, or else append `..` to a path that is not rooted. -/
def dotdotElement (rooted : Bool) (out : List Char) (dotdot : ℕ) : List Char × ℕ :=
  if dotdot < out.length then (out.take (backtrack out dotdot out.length), dotdot)
  else if !rooted then
    let out := (if 0 < out.length then out ++ ['/'] else out) ++ ['.', '.']
    (out, out.length)
  else (out, dotdot)

/-- The loop `for r < n` of `Clean` on the path from `r` on, with the bytes `out` written so
far; `fuel` bounds its iterations, each of which reads one byte at least. -/
def cleanLoop (rooted : Bool) : ℕ → List Char → List Char → ℕ → List Char
  | _, [], out, _ => out
  | 0, _ :: _, out, _ => out
  | fuel + 1, c :: rest, out, dotdot =>
    if c = '/' then cleanLoop rooted fuel rest out dotdot
    else if c = '.' ∧ atEnd rest then cleanLoop rooted fuel rest out dotdot
    else if c = '.' ∧ rest.head? = some '.' ∧ atEnd rest.tail then
      cleanLoop rooted fuel rest.tail (dotdotElement rooted out dotdot).1
        (dotdotElement rooted out dotdot).2
    else
      let out := if rooted && out.length != 1 || !rooted && out.length != 0 then out ++ ['/']
        else out
      cleanLoop rooted fuel (rest.dropWhile (· != '/')) (out ++ c :: rest.takeWhile (· != '/'))
        dotdot

/-- `path.Clean`. -/
def clean (path : String) : String :=
  if path = "" then "." else
  let rooted := path.data.head? == some '/'
  let out := cleanLoop rooted path.length (if rooted then path.data.tail else path.data)
    (if rooted then ['/'] else []) (if rooted then 1 else 0)
  if out.length = 0 then "." else String.mk out

/-- `path.Join`: the elements from the first one that is not empty, joined by `/` and cleaned;
`""` when all are empty. -/
def join (elem : List String) : String :=
  match elem.dropWhile (· == "") with
  | [] => ""
  | elem => clean ("/".intercalate elem)

/-! ### What the loop computes -/

/-- What `Clean` keeps of the elements it has read: the `..` that climb above the start of a
relative path, and the other elements, the last first. -/
structure Kept where
  up : ℕ
  elems : List (List Char)
deriving DecidableEq, Repr

/-- One element: an empty element and `.` are dropped; `..` drops the element before it, and
with none is kept by a relative path and dropped at the root; any other element is kept. -/
def keep (rooted : Bool) (s : Kept) (e : List Char) : Kept :=
  if e = [] ∨ e = ['.'] then s
  else if e = ['.', '.'] then
    match s.elems with
    | _ :: elems => { s with elems := elems }
    | [] => if rooted then s else { s with up := s.up + 1 }
  else { s with elems := e :: s.elems }

/-- The elements kept, in the order of the path. -/
def Kept.path (s : Kept) : List (List Char) := List.replicate s.up ['.', '.'] ++ s.elems.reverse

/-- The kept elements joined by `/`, after a `/` if the path is rooted. -/
def render (rooted : Bool) (s : Kept) : List Char :=
  (if rooted then ['/'] else []) ++ ['/'].intercalate s.path

/-- Reading the elements of `path` from what is kept in `s`. -/
def keepAll (rooted : Bool) (s : Kept) (path : List Char) : Kept :=
  (path.splitOn '/').foldl (keep rooted) s

/-- The path `Clean` returns for the elements it kept: `.` when there are none. -/
def Kept.toPath (rooted : Bool) (s : Kept) : String :=
  if render rooted s = [] then "." else String.mk (render rooted s)

/-- What `path.Clean` computes, element by element. -/
def cleanSpec (path : String) : String :=
  if path = "" then "." else
  (keepAll (path.data.head? == some '/') ⟨0, []⟩ path.data).toPath (path.data.head? == some '/')

/-! ### Cutting a path at its slashes -/

lemma takeWhile_eq_nil_iff (l : List Char) : l.takeWhile (· != '/') = [] ↔ atEnd l = true := by
  cases l with
  | nil => simp [atEnd]
  | cons c l => by_cases hc : c = '/' <;> simp [atEnd, List.takeWhile_cons, hc]

lemma dropWhile_of_atEnd {l : List Char} (h : atEnd l = true) : l.dropWhile (· != '/') = l := by
  cases l with
  | nil => rfl
  | cons c l => simp_all [atEnd, List.dropWhile_cons]

lemma atEnd_dropWhile (l : List Char) : atEnd (l.dropWhile (· != '/')) = true := by
  induction l with
  | nil => rfl
  | cons c l ih => by_cases hc : c = '/' <;> simp_all [atEnd, List.dropWhile_cons]

lemma splitOn_slash_cons (l : List Char) : ('/' :: l).splitOn '/' = [] :: l.splitOn '/' := by
  simp [List.splitOn, List.splitOnP_cons]

lemma splitOn_cons_of_ne {c : Char} (hc : c ≠ '/') (rest : List Char) :
    (c :: rest).splitOn '/' =
      (c :: rest.takeWhile (· != '/')) :: ((rest.dropWhile (· != '/')).splitOn '/').tail := by
  rw [splitOn_eq_takeWhile_cons]
  simp [List.takeWhile_cons, List.dropWhile_cons, hc]

/-- At the end of an element, the next element is empty. -/
lemma splitOn_of_atEnd {l : List Char} (h : atEnd l = true) :
    l.splitOn '/' = [] :: (l.splitOn '/').tail := by
  conv_lhs => rw [splitOn_eq_takeWhile_cons, (takeWhile_eq_nil_iff l).2 h, dropWhile_of_atEnd h]

lemma splitOn_append_slash (a b : List Char) :
    (a ++ '/' :: b).splitOn '/' = a.splitOn '/' ++ b.splitOn '/' := by
  induction a with
  | nil => exact splitOn_slash_cons b
  | cons c a ih =>
    by_cases hc : c = '/'
    · subst hc
      rw [List.cons_append, splitOn_slash_cons, splitOn_slash_cons, ih]
      rfl
    · have hcons : ∀ l : List Char, (c :: l).splitOn '/' = (l.splitOn '/').modifyHead (c :: ·) := by
        intro l
        simp [List.splitOn, List.splitOnP_cons, hc]
      rw [List.cons_append, hcons, hcons, ih]
      obtain ⟨x, xs, hx⟩ := List.exists_cons_of_ne_nil (List.splitOnP_ne_nil (· == '/') a)
      simp only [List.splitOn] at hx ⊢
      rw [hx]
      rfl

/-! ### The elements kept -/

@[simp] lemma keep_nil (rooted : Bool) (s : Kept) : keep rooted s [] = s := by simp [keep]

@[simp] lemma keep_dot (rooted : Bool) (s : Kept) : keep rooted s ['.'] = s := by simp [keep]

/-- Reading the rest of a path from the end of an element. -/
lemma keepAll_of_atEnd {rooted : Bool} {s : Kept} {l : List Char} (h : atEnd l = true) :
    keepAll rooted s l = (l.splitOn '/').tail.foldl (keep rooted) s := by
  conv_lhs => rw [keepAll, splitOn_of_atEnd h, List.foldl_cons, keep_nil]

/-- Reading `a/b` is reading `a`, then `b`. -/
lemma keepAll_append_slash (rooted : Bool) (s : Kept) (a b : List Char) :
    keepAll rooted s (a ++ '/' :: b) = keepAll rooted (keepAll rooted s a) b := by
  rw [keepAll, splitOn_append_slash, List.foldl_append]
  rfl

/-- An element that `Clean` keeps as it is. -/
def Real (e : List Char) : Prop := e ≠ [] ∧ e ≠ ['.'] ∧ e ≠ ['.', '.'] ∧ '/' ∉ e

/-- What is kept is well formed: elements kept as they are, and no `..` at the root. -/
structure Kept.Ok (rooted : Bool) (s : Kept) : Prop where
  real : ∀ e ∈ s.elems, Real e
  up : rooted = true → s.up = 0

lemma Kept.ok_start (rooted : Bool) : Kept.Ok rooted ⟨0, []⟩ := ⟨nofun, fun _ => rfl⟩

lemma Kept.Ok.path_ne_nil {rooted : Bool} {s : Kept} (h : s.Ok rooted) :
    ∀ e ∈ s.path, e ≠ [] := by
  intro e he
  rcases List.mem_append.1 he with he | he
  · rw [List.eq_of_mem_replicate he]; simp
  · exact (h.real e (List.mem_reverse.1 he)).1

lemma Kept.Ok.not_mem_path {rooted : Bool} {s : Kept} (h : s.Ok rooted) :
    ∀ e ∈ s.path, '/' ∉ e := by
  intro e he
  rcases List.mem_append.1 he with he | he
  · rw [List.eq_of_mem_replicate he]; decide
  · exact (h.real e (List.mem_reverse.1 he)).2.2.2

lemma keep_real {rooted : Bool} {s : Kept} {e : List Char} (he : Real e) :
    keep rooted s e = ⟨s.up, e :: s.elems⟩ := by
  simp [keep, he.1, he.2.1, he.2.2.1]

lemma keep_ok {rooted : Bool} {s : Kept} (h : s.Ok rooted) {e : List Char} (he : '/' ∉ e) :
    (keep rooted s e).Ok rooted := by
  unfold keep
  by_cases h1 : e = [] ∨ e = ['.']
  · rwa [if_pos h1]
  rw [if_neg h1]
  by_cases h2 : e = ['.', '.']
  · rw [if_pos h2]
    split
    · next elems hs => exact ⟨fun x hx => h.real x (by simp [hs, hx]), h.up⟩
    · cases rooted
      · exact ⟨h.real, nofun⟩
      · exact h
  · rw [if_neg h2]
    refine ⟨fun x hx => ?_, h.up⟩
    rcases List.mem_cons.1 hx with rfl | hx
    · exact ⟨fun h' => h1 (.inl h'), fun h' => h1 (.inr h'), h2, he⟩
    · exact h.real x hx

lemma foldl_keep_ok {rooted : Bool} :
    ∀ (l : List (List Char)) {s : Kept}, (∀ e ∈ l, '/' ∉ e) → s.Ok rooted →
      (l.foldl (keep rooted) s).Ok rooted
  | [], _, _, h => h
  | e :: l, _, hl, h =>
    foldl_keep_ok l (fun x hx => hl x (.tail _ hx)) (keep_ok h (hl e (.head _)))

lemma keepAll_ok {rooted : Bool} {s : Kept} (h : s.Ok rooted) (l : List Char) :
    (keepAll rooted s l).Ok rooted :=
  foldl_keep_ok _ (fun _ he => not_mem_of_mem_splitOn he) h

lemma render_cons (rooted : Bool) (s : Kept) (e : List Char) :
    render rooted ⟨s.up, e :: s.elems⟩ =
      render rooted s ++ (if s.path = [] then [] else ['/']) ++ e := by
  have hp : Kept.path ⟨s.up, e :: s.elems⟩ = s.path ++ [e] := by
    simp [Kept.path]
  rw [render, render, hp]
  by_cases he : s.path = []
  · simp [he, List.intercalate]
  · rw [if_neg he, intercalate_append_singleton _ _ he]
    simp

lemma length_render_le (rooted : Bool) (up : ℕ) (elems : List (List Char)) :
    (render rooted ⟨up, []⟩).length ≤ (render rooted ⟨up, elems⟩).length := by
  induction elems with
  | nil => exact le_rfl
  | cons e elems ih =>
    rw [render_cons rooted ⟨up, elems⟩ e, List.length_append, List.length_append]
    omega

/-! ### The loop holds what is kept -/

/-- The state of the loop: `out` holds the kept elements, and `dotdot` is where their leading
`..`, or the root, end. -/
structure Inv (rooted : Bool) (s : Kept) (out : List Char) (dotdot : ℕ) : Prop where
  ok : s.Ok rooted
  out : out = render rooted s
  dotdot : dotdot = (render rooted ⟨s.up, []⟩).length

/-- Backtracking stops at the first `m` below its start that is `dotdot` or holds a slash. -/
lemma backtrack_eq {out : List Char} {dotdot m : ℕ} (hd : dotdot ≤ m)
    (hm : dotdot = m ∨ out[m]? = some '/') :
    ∀ k, m < k → (∀ j, m < j → j < k → out[j]? ≠ some '/') → backtrack out dotdot k = m
  | 0, h, _ => absurd h (Nat.not_lt_zero _)
  | k + 1, h, hj => by
    rw [backtrack]
    by_cases hk : k = m
    · subst hk
      rw [if_neg]
      rintro ⟨h1, h2⟩
      rcases hm with hm | hm
      · omega
      · exact h2 hm
    · have hmk : m < k := by omega
      rw [if_pos ⟨by omega, hj k hmk (by omega)⟩]
      exact backtrack_eq hd hm k hmk fun j h1 h2 => hj j h1 (by omega)

/-- Past the end of `pre` and the byte after it, `pre ++ y` holds no slash. -/
lemma getElem?_append_ne_slash {pre y : List Char} (hy : '/' ∉ y.tail) {j : ℕ}
    (hj : pre.length < j) : (pre ++ y)[j]? ≠ some '/' := by
  rw [List.getElem?_append_right (by omega)]
  obtain ⟨i, hi⟩ : ∃ i, j - pre.length = i + 1 := ⟨j - pre.length - 1, by omega⟩
  rw [hi]
  cases y with
  | nil => simp
  | cons c y =>
    rw [List.getElem?_cons_succ]
    intro h'
    obtain ⟨hlt, he⟩ := List.getElem?_eq_some_iff.1 h'
    exact hy (he ▸ List.getElem_mem hlt)

/-- A `..` after a kept element backtracks over it and the slash before it. -/
lemma dotdotElement_backtrack {rooted : Bool} {up : ℕ} {x : List Char} {elems : List (List Char)}
    {out : List Char} {dotdot : ℕ} (h : Inv rooted ⟨up, x :: elems⟩ out dotdot) :
    Inv rooted ⟨up, elems⟩ (dotdotElement rooted out dotdot).1
      (dotdotElement rooted out dotdot).2 := by
  have hx : Real x := h.ok.real x (.head _)
  have hout := h.out
  rw [render_cons rooted ⟨up, elems⟩ x, List.append_assoc] at hout
  have hle := h.dotdot ▸ length_render_le rooted up elems
  have hlen : (render rooted ⟨up, elems⟩).length < out.length := by
    rw [hout, List.length_append, List.length_append]
    have := List.length_pos.2 hx.1
    omega
  have hback : backtrack out dotdot out.length = (render rooted ⟨up, elems⟩).length := by
    refine backtrack_eq hle ?_ _ hlen fun j hj _ => hout ▸ getElem?_append_ne_slash ?_ hj
    · by_cases hp : Kept.path ⟨up, elems⟩ = []
      · left
        obtain ⟨rfl, rfl⟩ : up = 0 ∧ elems = [] := by simpa [Kept.path] using hp
        exact h.dotdot
      · right
        rw [hout, if_neg hp, List.getElem?_append_right le_rfl]
        simp
    · split_ifs
      · exact fun h' => hx.2.2.2 (List.mem_of_mem_tail h')
      · exact hx.2.2.2
  rw [dotdotElement, if_pos (by omega), hback]
  refine ⟨⟨fun e he => h.ok.real e (List.mem_cons_of_mem _ he), h.ok.up⟩, ?_, h.dotdot⟩
  show out.take _ = _
  rw [hout, List.take_left]

/-- A relative path with nothing to drop keeps one more `..`. -/
lemma render_up_succ (up : ℕ) :
    render false ⟨up + 1, []⟩ = (if 0 < (render false ⟨up, []⟩).length
      then render false ⟨up, []⟩ ++ ['/'] else render false ⟨up, []⟩) ++ ['.', '.'] := by
  simp only [render, Kept.path, List.reverse_nil, List.append_nil, List.replicate_succ']
  cases up with
  | zero => simp [List.intercalate]
  | succ up =>
    have hne : ['/'].intercalate (List.replicate (up + 1) ['.', '.']) ≠ [] := by
      rw [Ne, intercalate_eq_nil_iff (by simp)]
      simp
    rw [intercalate_append_singleton _ _ (by simp)]
    simp [List.length_pos.2 hne]

/-- A `..` element of the loop drops the last element kept, or keeps a `..`. -/
lemma dotdotElement_inv {rooted : Bool} {s : Kept} {out : List Char} {dotdot : ℕ}
    (h : Inv rooted s out dotdot) :
    Inv rooted (keep rooted s ['.', '.']) (dotdotElement rooted out dotdot).1
      (dotdotElement rooted out dotdot).2 := by
  obtain ⟨up, elems⟩ := s
  cases elems with
  | cons x elems => exact dotdotElement_backtrack h
  | nil =>
    have hlen : out.length = dotdot := by rw [h.out, h.dotdot]
    cases rooted with
    | true => rwa [dotdotElement, if_neg (by omega)]
    | false =>
      have hout := h.out ▸ (render_up_succ up).symm
      rw [show keep false ⟨up, []⟩ ['.', '.'] = ⟨up + 1, []⟩ from rfl, dotdotElement,
        if_neg (by omega)]
      simp only [Bool.not_false, ↓reduceIte]
      exact ⟨⟨nofun, nofun⟩, hout, by rw [hout]⟩

/-- The separator the loop writes before an element is the one `render` puts there. -/
lemma sep_eq {rooted : Bool} {s : Kept} {out : List Char} {dotdot : ℕ}
    (h : Inv rooted s out dotdot) :
    (if (rooted && out.length != 1 || !rooted && out.length != 0) = true then out ++ ['/']
      else out) = render rooted s ++ (if s.path = [] then [] else ['/']) := by
  rw [h.out, render]
  by_cases hp : s.path = []
  · cases rooted <;> simp [hp, List.intercalate]
  · have hne : ['/'].intercalate s.path ≠ [] := (intercalate_eq_nil_iff h.ok.path_ne_nil).not.2 hp
    cases rooted <;> simp [hp, hne]

/-- The element the loop copies in its last case is kept as it is. -/
lemma real_of_copy {c : Char} {rest : List Char} (h1 : c ≠ '/') (h2 : ¬(c = '.' ∧ atEnd rest))
    (h3 : ¬(c = '.' ∧ rest.head? = some '.' ∧ atEnd rest.tail)) :
    Real (c :: rest.takeWhile (· != '/')) := by
  refine ⟨List.cons_ne_nil _ _, fun he => h2 ?_, fun he => h3 ?_, ?_⟩
  · simp only [List.cons.injEq] at he
    exact ⟨he.1, (takeWhile_eq_nil_iff rest).1 he.2⟩
  · simp only [List.cons.injEq] at he
    obtain ⟨rfl, he⟩ := he
    cases rest with
    | nil => simp at he
    | cons d r =>
      by_cases hd : d = '/'
      · simp [List.takeWhile_cons, hd] at he
      · simp only [List.takeWhile_cons, show (d != '/') = true by simpa using hd, ↓reduceIte,
          List.cons.injEq] at he
        exact ⟨rfl, by rw [he.1]; rfl, (takeWhile_eq_nil_iff r).1 he.2⟩
  · intro h
    rcases List.mem_cons.1 h with h | h
    · exact h1 h.symm
    · simpa using List.mem_takeWhile_imp h

/-- From a state that holds what is kept, the loop computes the elementwise cleaning of the
rest of the path. -/
lemma cleanLoop_eq {rooted : Bool} :
    ∀ (fuel : ℕ) (rest out : List Char) (dotdot : ℕ) (s : Kept), rest.length ≤ fuel →
      Inv rooted s out dotdot →
      cleanLoop rooted fuel rest out dotdot = render rooted (keepAll rooted s rest)
  | _, [], out, _, s, _, h => by simp [cleanLoop, keepAll, h.out]
  | 0, _ :: _, _, _, _, hlen, _ => absurd hlen (by simp)
  | fuel + 1, c :: rest, out, dotdot, s, hlen, h => by
    have hlen' : rest.length ≤ fuel := by simpa using hlen
    rw [cleanLoop]
    by_cases h1 : c = '/'
    · subst h1
      rw [if_pos rfl, cleanLoop_eq fuel rest out dotdot s hlen' h, keepAll, keepAll,
        splitOn_slash_cons]
      simp
    rw [if_neg h1, keepAll, splitOn_cons_of_ne h1]
    by_cases h2 : c = '.' ∧ atEnd rest
    · obtain ⟨rfl, h2⟩ := h2
      rw [if_pos ⟨rfl, h2⟩, cleanLoop_eq fuel rest out dotdot s hlen' h, keepAll_of_atEnd h2,
        (takeWhile_eq_nil_iff rest).2 h2, dropWhile_of_atEnd h2]
      simp
    rw [if_neg h2]
    by_cases h3 : c = '.' ∧ rest.head? = some '.' ∧ atEnd rest.tail
    · obtain ⟨rfl, h3, h4⟩ := h3
      obtain ⟨r, rfl⟩ : ∃ r, rest = '.' :: r := by
        cases rest with
        | nil => simp at h3
        | cons d r => simp only [List.head?_cons, Option.some.injEq] at h3; exact ⟨r, by rw [h3]⟩
      simp only [List.tail_cons] at h4
      rw [if_pos ⟨rfl, h3, h4⟩, List.tail_cons, cleanLoop_eq fuel r _ _ _
        (by simp at hlen'; omega) (dotdotElement_inv h), keepAll_of_atEnd h4]
      simp [List.takeWhile_cons, List.dropWhile_cons, (takeWhile_eq_nil_iff r).2 h4,
        dropWhile_of_atEnd h4]
    rw [if_neg h3]
    have he := real_of_copy h1 h2 h3
    have hinv : Inv rooted ⟨s.up, (c :: rest.takeWhile (· != '/')) :: s.elems⟩
        ((if (rooted && out.length != 1 || !rooted && out.length != 0) = true then out ++ ['/']
          else out) ++ c :: rest.takeWhile (· != '/')) dotdot :=
      ⟨keep_real he ▸ keep_ok h.ok he.2.2.2, by rw [sep_eq h, render_cons], h.dotdot⟩
    rw [cleanLoop_eq fuel _ _ _ _ ((List.dropWhile_sublist _).length_le.trans hlen') hinv,
      keepAll_of_atEnd (atEnd_dropWhile rest), List.foldl_cons, keep_real he]

lemma inv_start (rooted : Bool) :
    Inv rooted ⟨0, []⟩ (if rooted then ['/'] else []) (if rooted then 1 else 0) := by
  cases rooted <;> exact ⟨Kept.ok_start _, rfl, rfl⟩

/-- The loop of `path.Clean` computes the elementwise cleaning, on every path. -/
theorem clean_eq_cleanSpec (path : String) : clean path = cleanSpec path := by
  obtain ⟨data⟩ := path
  by_cases h0 : (⟨data⟩ : String) = ""
  · rw [clean, cleanSpec, if_pos h0, if_pos h0]
  rw [clean, cleanSpec, if_neg h0, if_neg h0, Kept.toPath]
  simp only [List.length_eq_zero]
  suffices hloop : cleanLoop (data.head? == some '/') data.length
      (if (data.head? == some '/') = true then data.tail else data)
      (if (data.head? == some '/') = true then ['/'] else [])
      (if (data.head? == some '/') = true then 1 else 0) =
      render (data.head? == some '/') (keepAll (data.head? == some '/') ⟨0, []⟩ data) by
    rw [String.length, hloop]
  cases data with
  | nil => exact absurd rfl h0
  | cons c l =>
    by_cases hc : c = '/'
    · subst hc
      simp only [List.head?_cons, beq_self_eq_true, ↓reduceIte, List.tail_cons]
      rw [cleanLoop_eq _ _ _ _ _ (by simp) (show Inv true ⟨0, []⟩ ['/'] 1 from inv_start true),
        keepAll, keepAll, splitOn_slash_cons]
      simp
    · have hr : (some c == some '/') = false := by simpa using hc
      simp only [List.head?_cons, hr, Bool.false_eq_true, ↓reduceIte]
      exact cleanLoop_eq _ _ _ _ _ le_rfl (show Inv false ⟨0, []⟩ [] 0 from inv_start false)

example : clean "/../a/b/../././/c" = "/a/c" := by decide

example : clean "a/../../b/./" = "../b" := by decide

/-! ### Cleaning a cleaned path -/

lemma foldl_keep_replicate {rooted : Bool} (k n : ℕ) (h : rooted = true → n = 0) :
    (List.replicate n ['.', '.']).foldl (keep rooted) ⟨k, []⟩ = ⟨k + n, []⟩ := by
  induction n generalizing k with
  | zero => rfl
  | succ n ih =>
    obtain rfl : rooted = false := by
      cases rooted
      · rfl
      · exact absurd (h rfl) (Nat.succ_ne_zero n)
    rw [List.replicate_succ, List.foldl_cons,
      show keep false ⟨k, []⟩ ['.', '.'] = ⟨k + 1, []⟩ from rfl, ih (k + 1) nofun,
      Nat.add_right_comm, Nat.add_assoc]

lemma foldl_keep_reverse {rooted : Bool} (up : ℕ) {elems : List (List Char)}
    (h : ∀ e ∈ elems, Real e) : elems.reverse.foldl (keep rooted) ⟨up, []⟩ = ⟨up, elems⟩ := by
  induction elems with
  | nil => rfl
  | cons x elems ih =>
    rw [List.reverse_cons, List.foldl_append, ih fun e he => h e (.tail _ he)]
    simp [keep_real (h x (.head _))]

/-- Reading the kept elements again keeps them all. -/
lemma foldl_keep_path {rooted : Bool} {s : Kept} (h : s.Ok rooted) :
    s.path.foldl (keep rooted) ⟨0, []⟩ = s := by
  rw [Kept.path, List.foldl_append, foldl_keep_replicate 0 s.up h.up, Nat.zero_add,
    foldl_keep_reverse _ h.real]

lemma head?_intercalate {e : List Char} {l : List (List Char)} (he : e ≠ []) :
    (['/'].intercalate (e :: l)).head? = e.head? := by
  cases l with
  | nil => simp [List.intercalate]
  | cons b l => rw [intercalate_cons_cons, List.append_assoc, List.head?_append_of_ne_nil _ he]

/-- A cleaned path is rooted exactly when the path was. -/
lemma rooted_render {rooted : Bool} {s : Kept} (h : s.Ok rooted) (hne : render rooted s ≠ []) :
    ((render rooted s).head? == some '/') = rooted := by
  cases rooted with
  | true => simp [render]
  | false =>
    obtain ⟨e, l, hp⟩ := List.exists_cons_of_ne_nil fun hp : s.path = [] =>
      hne (by simp [render, hp, List.intercalate])
    have he : e ∈ s.path := hp ▸ List.mem_cons_self e l
    have hslash : e.head? ≠ some '/' := by
      rcases List.mem_append.1 he with he | he
      · rw [List.eq_of_mem_replicate he]; decide
      · exact fun h' => (h.real e (List.mem_reverse.1 he)).2.2.2 (List.mem_of_mem_head? h')
    simp [render, hp, head?_intercalate (h.path_ne_nil e he), hslash]

/-- Reading a cleaned path gives back the elements it keeps. -/
lemma keepAll_render {rooted : Bool} {s : Kept} (h : s.Ok rooted) (hne : render rooted s ≠ []) :
    keepAll rooted ⟨0, []⟩ (render rooted s) = s := by
  by_cases hp : s.path = []
  · obtain ⟨hu, he⟩ : s.up = 0 ∧ s.elems = [] := by simpa [Kept.path] using hp
    cases rooted
    · exact absurd (by simp [render, hp, List.intercalate]) hne
    · obtain ⟨up, elems⟩ := s
      simp only at hu he
      subst hu he
      rfl
  · have hsplit : (['/'].intercalate s.path).splitOn '/' = s.path :=
      List.splitOn_intercalate _ '/' h.not_mem_path hp
    cases rooted
    · simpa [keepAll, render, hsplit] using foldl_keep_path h
    · simpa [keepAll, render, splitOn_slash_cons, hsplit] using foldl_keep_path h

lemma cleanSpec_toPath {rooted : Bool} {s : Kept} (h : s.Ok rooted) :
    cleanSpec (s.toPath rooted) = s.toPath rooted := by
  unfold Kept.toPath
  split_ifs with hne
  · rfl
  · have h0 : String.mk (render rooted s) ≠ "" := fun h' => hne (congrArg String.data h')
    rw [cleanSpec, if_neg h0]
    simp only [rooted_render h hne, keepAll_render h hne]
    rw [Kept.toPath, if_neg hne]

/-- Cleaning a cleaned path changes nothing. -/
theorem cleanSpec_cleanSpec (path : String) : cleanSpec (cleanSpec path) = cleanSpec path := by
  by_cases h0 : path = ""
  · subst h0
    rfl
  have hc : cleanSpec path = (keepAll (path.data.head? == some '/') ⟨0, []⟩ path.data).toPath
      (path.data.head? == some '/') := by
    rw [cleanSpec, if_neg h0]
  rw [hc]
  exact cleanSpec_toPath (keepAll_ok (Kept.ok_start _) _)

theorem clean_clean (path : String) : clean (clean path) = clean path := by
  rw [clean_eq_cleanSpec, clean_eq_cleanSpec, cleanSpec_cleanSpec]

/-! ### Joining a path to another -/

lemma join_pair {p : String} (q : String) (hp : p ≠ "") : join [p, q] = clean (p ++ "/" ++ q) := by
  simp [join, List.dropWhile_cons, hp]
  rfl

/-- Cleaning `p/q`: the elements of `q` are read after those of `p`. -/
lemma cleanSpec_append {p : String} (q : String) (hp : p ≠ "") :
    cleanSpec (p ++ "/" ++ q) =
      (keepAll (p.data.head? == some '/') (keepAll (p.data.head? == some '/') ⟨0, []⟩ p.data)
        q.data).toPath (p.data.head? == some '/') := by
  have hd : p.data ≠ [] := fun h' => hp (String.ext h')
  have hdata : (p ++ "/" ++ q).data = p.data ++ '/' :: q.data := by simp
  have h0 : p ++ "/" ++ q ≠ "" := fun h' => by simpa [hdata] using congrArg String.data h'
  rw [cleanSpec, if_neg h0, hdata, List.head?_append_of_ne_nil _ hd, keepAll_append_slash]

/-- A trailing slash is an empty element. -/
lemma clean_append_slash {p : String} (hp : p ≠ "") : clean (p ++ "/") = clean p := by
  rw [← String.append_empty (p ++ "/"), clean_eq_cleanSpec, clean_eq_cleanSpec,
    cleanSpec_append _ hp, cleanSpec, if_neg hp]
  rfl

/-- `path.Join(p, "/")` cleans `p`, and is the root for an empty `p`. -/
lemma join_slash (p : String) : join [p, "/"] = if p = "" then "/" else clean p := by
  split_ifs with hp
  · subst hp
    rfl
  · rw [join_pair _ hp, clean_eq_cleanSpec, clean_eq_cleanSpec, cleanSpec_append _ hp, cleanSpec,
      if_neg hp]
    rfl

/-- A cleaned path ends with a slash only when it is the root. -/
lemma getLast?_render {rooted : Bool} {s : Kept} (h : s.Ok rooted) (hp : s.path ≠ []) :
    (render rooted s).getLast? ≠ some '/' := by
  obtain ⟨init, e, he⟩ := List.eq_nil_or_concat s.path |>.resolve_left hp
  rw [List.concat_eq_append] at he
  have hmem : e ∈ s.path := he ▸ List.mem_append_right _ (List.mem_singleton_self e)
  have hne : e ≠ [] := h.path_ne_nil e hmem
  have hlast : e.getLast? ≠ some '/' := by
    rcases List.mem_append.1 hmem with hm | hm
    · rw [List.eq_of_mem_replicate hm]; decide
    · exact fun h' => (h.real e (List.mem_reverse.1 hm)).2.2.2 (List.mem_of_getLast?_eq_some h')
  have hlast' : ∀ x : List Char, (x ++ e).getLast? = e.getLast? := fun x => by
    simp [List.getLast?_eq_getLast e hne]
  rw [render, he]
  by_cases hi : init = []
  · subst hi
    simpa [List.intercalate, hlast'] using hlast
  · rw [intercalate_append_singleton _ _ hi, ← List.append_assoc, hlast']
    exact hlast

lemma suffix_slash_iff (l : List Char) : ['/'] <:+ l ↔ l.getLast? = some '/' := by
  rw [List.getLast?_eq_some_iff]
  exact exists_congr fun _ => eq_comm

lemma render_eq_nil_iff {rooted : Bool} {s : Kept} (h : s.Ok rooted) :
    render rooted s = [] ↔ rooted = false ∧ s.path = [] := by
  cases rooted <;> simp [render, intercalate_eq_nil_iff h.path_ne_nil]

lemma render_ne_dot {rooted : Bool} {s : Kept} (h : s.Ok rooted) : render rooted s ≠ ['.'] := by
  intro hd
  cases rooted with
  | true => simp [render] at hd
  | false =>
    simp only [render, Bool.false_eq_true, ↓reduceIte, List.nil_append] at hd
    match hp : s.path with
    | [] => simp [hp, List.intercalate] at hd
    | [e] =>
      have he : e ∈ s.path := by simp [hp]
      simp only [hp, List.intercalate, List.intersperse_singleton, List.flatten_cons,
        List.flatten_nil, List.append_nil] at hd
      subst hd
      rcases List.mem_append.1 he with he | he
      · exact absurd (List.eq_of_mem_replicate he) (by decide)
      · exact (h.real _ (List.mem_reverse.1 he)).2.1 rfl
    | e :: b :: l =>
      have hne : e ≠ [] := h.path_ne_nil e (by simp [hp])
      have hlen := congrArg List.length hd
      rw [hp, intercalate_cons_cons] at hlen
      simp only [List.length_append, List.length_singleton] at hlen
      have := List.length_pos.2 hne
      omega

/-- `Clean` returns `.` exactly when a relative path keeps nothing. -/
lemma toPath_eq_dot_iff {rooted : Bool} {s : Kept} (h : s.Ok rooted) :
    s.toPath rooted = "." ↔ rooted = false ∧ s.path = [] := by
  rw [Kept.toPath, ← render_eq_nil_iff h]
  split_ifs with hr
  · exact iff_of_true rfl hr
  · exact iff_of_false (fun h' => render_ne_dot h (congrArg String.data h')) hr

/-- `Clean` returns `/` exactly when a rooted path keeps nothing. -/
lemma toPath_eq_root_iff {rooted : Bool} {s : Kept} (h : s.Ok rooted) :
    s.toPath rooted = "/" ↔ rooted = true ∧ s.path = [] := by
  by_cases hp : s.path = []
  · cases rooted <;> simp [Kept.toPath, render, hp, List.intercalate]
  · have hr : render rooted s ≠ [] := fun h' => hp ((render_eq_nil_iff h).1 h').2
    rw [Kept.toPath, if_neg hr]
    refine iff_of_false (fun h' => getLast?_render h hp ?_) (fun h' => hp h'.2)
    rw [show render rooted s = ['/'] from congrArg String.data h']
    rfl

/-- `Clean` of a path that is not empty returns what it keeps of the path's elements. -/
lemma clean_eq_toPath {p : String} (hp : p ≠ "") :
    clean p = (keepAll (p.data.head? == some '/') ⟨0, []⟩ p.data).toPath
      (p.data.head? == some '/') := by
  rw [clean_eq_cleanSpec, cleanSpec, if_neg hp]

lemma clean_ne_empty (p : String) : clean p ≠ "" := by
  by_cases hp : p = ""
  · subst hp
    decide
  rw [clean_eq_toPath hp, Kept.toPath]
  split_ifs with hr
  · decide
  · exact fun h' => hr (congrArg String.data h')

/-- A cleaned path ends with a slash only when it is the root. -/
lemma getLast?_clean (p : String) : (clean p).data.getLast? = some '/' ↔ clean p = "/" := by
  by_cases hp : p = ""
  · subst hp
    decide
  rw [clean_eq_toPath hp]
  have hok := keepAll_ok (Kept.ok_start (p.data.head? == some '/')) p.data
  generalize keepAll _ _ _ = s at hok ⊢
  by_cases hpath : s.path = []
  · cases hr : (p.data.head? == some '/') <;> simp [Kept.toPath, render, hpath, List.intercalate]
  · have hr : render (p.data.head? == some '/') s ≠ [] := fun h' =>
      hpath ((render_eq_nil_iff hok).1 h').2
    rw [toPath_eq_root_iff hok, Kept.toPath, if_neg hr]
    exact iff_of_false (getLast?_render hok hpath) fun h' => hpath h'.2

end Utask.Go.Path
