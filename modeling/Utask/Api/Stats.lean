import Utask.Models

/-!
# The tags of a statistics request (`api`)

`Stats` answers `GET /unsecured/stats` with the count of tasks by state, for the tasks that
carry the tags of the query, each written `key=value`.  Its loop over `in.Tags` splits each tag
on `=`, refuses with a bad request a tag that is not a non-empty key and a non-empty value, and
records the others in a map, a later tag overriding an earlier one with the same key.
`strings.Split` is taken on the characters of the tag: `=` is one byte in UTF-8, so this is the
split Go makes on the bytes.

The main results are

* `stats_eq_ok_iff`: which lists of tags `Stats` accepts, and the map it counts with;
* `lookup_insertAll`: each key is mapped to the value of its last tag;
* `foldlM_addTag_eq_error_iff`: a refused list is refused with the first bad tag;
* `parseTags_formatTags`: a map is read back from its `key=value` tags.
-/

namespace Utask.Api

/-- `strings.Split(s, sep)` for a separator of one character: the pieces between its
occurrences. -/
def split (s : String) (sep : Char) : List String := (s.data.splitOn sep).map String.mk

/-- One iteration of the loop of `Stats` over `in.Tags`. -/
def addTag (tags : AList (fun _ : String => String)) (t : String) :
    Except Error (AList (fun _ : String => String)) :=
  match split t '=' with
  | [k, v] =>
    if k = "" ∨ v = "" then .error (.badRequest ("invalid tag " ++ t)) else .ok (tags.insert k v)
  | _ => .error (.badRequest ("invalid tag " ++ t))

/-- The map of tags `Stats` builds from `in.Tags`. -/
def parseTags (ts : List String) : Except Error (AList (fun _ : String => String)) :=
  ts.foldlM addTag ∅

/-- `Stats`: the count of tasks by state, for the tasks carrying the tags of `in.Tags`.
`zesty.NewDBProvider` and `task.LoadStateCount` are outside src. -/
def stats {Out : Type} (newDBProvider : Except Error Unit)
    (loadStateCount : AList (fun _ : String => String) → Except Error Out) (inTags : List String) :
    Except Error Out := do
  newDBProvider
  let tags ← parseTags inTags
  loadStateCount tags

/-! ### The tags the loop accepts -/

/-- A key and a value a tag can carry: not empty, and without `=`. -/
def TagOk (k v : String) : Prop := k ≠ "" ∧ v ≠ "" ∧ '=' ∉ k.data ∧ '=' ∉ v.data

/-- A tag the loop of `Stats` accepts: a key and a value joined by `=`. -/
def Accepted (t : String) : Prop := ∃ k v, t = k ++ "=" ++ v ∧ TagOk k v

/-- The tags `key=value` of a list of pairs. -/
def formatTags (kvs : List (String × String)) : List String := kvs.map fun p => p.1 ++ "=" ++ p.2

/-- The map the loop builds from the pairs of its tags, from the map `m0` it starts with. -/
def insertAll (kvs : List (String × String)) (m0 : AList (fun _ : String => String)) :
    AList (fun _ : String => String) :=
  kvs.foldl (fun m p => m.insert p.1 p.2) m0

/-- A string splits on `=` into two pieces exactly when it is they, joined by its only `=`. -/
lemma split_eq_pair_iff {t k v : String} :
    split t '=' = [k, v] ↔ t = k ++ "=" ++ v ∧ '=' ∉ k.data ∧ '=' ∉ v.data := by
  have hpair : ∀ a b : List Char, ['='].intercalate [a, b] = a ++ '=' :: b := by
    simp [List.intercalate]
  constructor
  · intro h
    have hs : t.data.splitOn '=' = [k.data, v.data] := by
      have hmk : (String.data ∘ String.mk) = id := rfl
      simpa [split, List.map_map, hmk] using congrArg (List.map String.data) h
    refine ⟨String.ext ?_, not_mem_of_mem_splitOn (show k.data ∈ t.data.splitOn '=' by simp [hs]),
      not_mem_of_mem_splitOn (show v.data ∈ t.data.splitOn '=' by simp [hs])⟩
    rw [← List.intercalate_splitOn t.data '=', hs, hpair]
    simp
  · rintro ⟨rfl, hk, hv⟩
    have hs : (k ++ "=" ++ v).data.splitOn '=' = [k.data, v.data] := by
      rw [show (k ++ "=" ++ v).data = ['='].intercalate [k.data, v.data] by simp [hpair]]
      exact List.splitOn_intercalate [k.data, v.data] '=' (by simp [hk, hv]) (by simp)
    rw [split, hs]
    rfl

/-- One iteration accepts exactly a key and a value joined by `=`, and records the value under
the key. -/
lemma addTag_eq_ok_iff {tags tags' : AList (fun _ : String => String)} {t : String} :
    addTag tags t = .ok tags' ↔ ∃ k v, t = k ++ "=" ++ v ∧ TagOk k v ∧ tags' = tags.insert k v := by
  unfold addTag
  split
  · rename_i k v hs
    obtain ⟨rfl, hk, hv⟩ := split_eq_pair_iff.1 hs
    constructor
    · intro h
      split_ifs at h with hkv
      cases h
      exact ⟨k, v, rfl, ⟨fun h => hkv (.inl h), fun h => hkv (.inr h), hk, hv⟩, rfl⟩
    · rintro ⟨k', v', ht, ⟨hk'0, hv'0, hk', hv'⟩, rfl⟩
      have := hs.symm.trans (split_eq_pair_iff.2 ⟨ht, hk', hv'⟩)
      simp only [List.cons.injEq, and_true] at this
      obtain ⟨rfl, rfl⟩ := this
      simp [hk'0, hv'0]
  · rename_i hs
    refine iff_of_false (by simp) ?_
    rintro ⟨k, v, ht, ⟨-, -, hk, hv⟩, -⟩
    exact hs k v (split_eq_pair_iff.2 ⟨ht, hk, hv⟩)

/-- One iteration refuses exactly a tag it does not accept, with a bad request naming it. -/
lemma addTag_eq_error_iff {tags : AList (fun _ : String => String)} {t : String} {e : Error} :
    addTag tags t = .error e ↔ ¬Accepted t ∧ e = .badRequest ("invalid tag " ++ t) := by
  have hmsg : ∀ e, addTag tags t = .error e → e = .badRequest ("invalid tag " ++ t) := by
    intro e h
    unfold addTag at h
    split at h
    · split_ifs at h
      cases h
      rfl
    · cases h
      rfl
  constructor
  · intro h
    refine ⟨fun ⟨k, v, ht, hkv⟩ => ?_, hmsg e h⟩
    have hok : addTag tags t = .ok (tags.insert k v) := addTag_eq_ok_iff.2 ⟨k, v, ht, hkv, rfl⟩
    rw [hok] at h
    cases h
  · rintro ⟨hacc, rfl⟩
    cases h : addTag tags t with
    | error e' => rw [hmsg e' h]
    | ok m =>
      obtain ⟨k, v, ht, hkv, -⟩ := addTag_eq_ok_iff.1 h
      exact absurd ⟨k, v, ht, hkv⟩ hacc

/-! ### The whole loop -/

/-- The loop accepts exactly the tags of pairs it accepts, and builds the map of these pairs. -/
lemma foldlM_addTag_eq_ok_iff (ts : List String) (m0 m : AList (fun _ : String => String)) :
    ts.foldlM addTag m0 = .ok m ↔
      ∃ kvs, ts = formatTags kvs ∧ (∀ p ∈ kvs, TagOk p.1 p.2) ∧ m = insertAll kvs m0 := by
  induction ts generalizing m0 with
  | nil =>
    simp only [List.foldlM_nil, formatTags]
    constructor
    · rintro ⟨⟩
      exact ⟨[], rfl, by simp, rfl⟩
    · rintro ⟨kvs, hkvs, -, rfl⟩
      rw [List.eq_nil_of_map_eq_nil hkvs.symm]
      rfl
  | cons t ts ih =>
    rw [List.foldlM_cons, bind_eq_ok_iff]
    constructor
    · rintro ⟨m1, h1, hm⟩
      obtain ⟨k, v, rfl, hkv, rfl⟩ := addTag_eq_ok_iff.1 h1
      obtain ⟨kvs, rfl, hok, rfl⟩ := (ih _).1 hm
      exact ⟨(k, v) :: kvs, rfl, List.forall_mem_cons.2 ⟨hkv, hok⟩, rfl⟩
    · rintro ⟨_ | ⟨⟨k, v⟩, kvs⟩, hts, hok, rfl⟩
      · cases hts
      simp only [formatTags, List.map_cons, List.cons.injEq] at hts
      obtain ⟨rfl, rfl⟩ := hts
      exact ⟨_, addTag_eq_ok_iff.2 ⟨k, v, rfl, hok _ (.head _), rfl⟩,
        (ih _).2 ⟨kvs, rfl, fun p hp => hok p (.tail _ hp), rfl⟩⟩

/-- The loop refuses a list of tags exactly when a tag is not accepted, with the bad request
naming the first of them. -/
lemma foldlM_addTag_eq_error_iff (ts : List String) (m0 : AList (fun _ : String => String))
    (e : Error) :
    ts.foldlM addTag m0 = .error e ↔ ∃ pre t post, ts = pre ++ t :: post ∧
      (∀ t' ∈ pre, Accepted t') ∧ ¬Accepted t ∧ e = .badRequest ("invalid tag " ++ t) := by
  induction ts generalizing m0 with
  | nil => simp [pure, Except.pure]
  | cons t ts ih =>
    rw [List.foldlM_cons]
    cases h : addTag m0 t with
    | error e' =>
      obtain ⟨hacc, rfl⟩ := addTag_eq_error_iff.1 h
      simp only [bind, Except.bind, Except.error.injEq]
      constructor
      · rintro rfl
        exact ⟨[], t, ts, rfl, by simp, hacc, rfl⟩
      · rintro ⟨_ | ⟨t', pre⟩, t'', post, hts, hpre, hacc', rfl⟩
        · cases hts
          rfl
        · cases hts
          exact absurd (hpre _ (.head _)) hacc
    | ok m1 =>
      obtain ⟨k, v, ht, hkv, -⟩ := addTag_eq_ok_iff.1 h
      simp only [bind, Except.bind, ih]
      constructor
      · rintro ⟨pre, t', post, rfl, hpre, hacc, rfl⟩
        exact ⟨t :: pre, t', post, rfl, List.forall_mem_cons.2 ⟨⟨k, v, ht, hkv⟩, hpre⟩, hacc, rfl⟩
      · rintro ⟨_ | ⟨t₀, pre⟩, t', post, hts, hpre, hacc, rfl⟩
        · cases hts
          exact absurd ⟨k, v, ht, hkv⟩ hacc
        · simp only [List.cons_append, List.cons.injEq] at hts
          exact ⟨pre, t', post, hts.2, fun t'' h'' => hpre t'' (.tail _ h''), hacc, rfl⟩

/-- A key is mapped to the value of its last tag, and otherwise keeps its value in `m0`. -/
lemma lookup_insertAll (kvs : List (String × String)) (m0 : AList (fun _ : String => String))
    (k : String) :
    (insertAll kvs m0).lookup k = ((kvs.reverse.find? (·.1 = k)).map (·.2)).or (m0.lookup k) := by
  induction kvs generalizing m0 with
  | nil => simp [insertAll]
  | cons p kvs ih =>
    rw [insertAll, List.foldl_cons, ← insertAll, ih, List.reverse_cons, List.find?_append]
    cases (kvs.reverse.find? (·.1 = k)) with
    | some q => rfl
    | none =>
      by_cases hk : p.1 = k
      · simp [hk, AList.lookup_insert]
      · simp [hk, AList.lookup_insert_ne (Ne.symm hk)]

/-- Inserting pairs of distinct keys, none in `m0`, puts them before its entries, last first. -/
lemma insertAll_entries {kvs : List (String × String)} {m0 : AList (fun _ : String => String)}
    (hd : (kvs.map (·.1)).Nodup) (hm0 : ∀ p ∈ kvs, p.1 ∉ m0) :
    (insertAll kvs m0).entries = (kvs.map fun p => (⟨p.1, p.2⟩ : Σ _ : String, String)).reverse ++
      m0.entries := by
  induction kvs generalizing m0 with
  | nil => rfl
  | cons p kvs ih =>
    simp only [List.map_cons, List.nodup_cons, List.mem_map] at hd
    rw [insertAll, List.foldl_cons, ← insertAll, ih hd.2,
      AList.insert_entries_of_neg (hm0 p (.head _))]
    · simp
    · intro q hq hmem
      rw [AList.mem_insert] at hmem
      rcases hmem with h | h
      · exact hd.1 ⟨q, hq, h⟩
      · exact hm0 q (.tail _ hq) h

/-- `Stats` counts the tasks exactly when the database is reached and every tag is a key and a
value, neither empty nor holding `=`, joined by `=`; it counts with the map of these pairs. -/
theorem stats_eq_ok_iff {Out : Type} (newDBProvider : Except Error Unit)
    (loadStateCount : AList (fun _ : String => String) → Except Error Out) (inTags : List String)
    (out : Out) :
    stats newDBProvider loadStateCount inTags = .ok out ↔
      newDBProvider = .ok () ∧ ∃ kvs, inTags = formatTags kvs ∧ (∀ p ∈ kvs, TagOk p.1 p.2) ∧
        loadStateCount (insertAll kvs ∅) = .ok out := by
  simp only [stats, bind_eq_ok_iff, parseTags, foldlM_addTag_eq_ok_iff]
  constructor
  · rintro ⟨⟨⟩, hdb, tags, ⟨kvs, rfl, hok, rfl⟩, hout⟩
    exact ⟨hdb, kvs, rfl, hok, hout⟩
  · rintro ⟨hdb, kvs, rfl, hok, hout⟩
    exact ⟨⟨⟩, hdb, _, ⟨kvs, rfl, hok, rfl⟩, hout⟩

/-- A map whose keys and values are neither empty nor hold `=` is read back from its
`key=value` tags: the map built has its entries, last first, and so the same lookups. -/
theorem parseTags_formatTags (m : AList (fun _ : String => String))
    (hm : ∀ e ∈ m.entries, TagOk e.1 e.2) :
    ∃ m', parseTags (formatTags (m.entries.map fun e => (e.1, e.2))) = .ok m' ∧
      m'.entries = m.entries.reverse ∧ ∀ k, m'.lookup k = m.lookup k := by
  have hok : ∀ p ∈ m.entries.map (fun e => (e.1, e.2)), TagOk p.1 p.2 := fun p hp => by
    obtain ⟨e, he, rfl⟩ := List.mem_map.1 hp
    exact hm e he
  have hd : ((m.entries.map fun e => (e.1, e.2)).map (·.1)).Nodup := by
    simpa [List.map_map, Function.comp_def] using m.nodupKeys
  have hentries :
      (insertAll (m.entries.map fun e => (e.1, e.2)) ∅).entries = m.entries.reverse := by
    rw [insertAll_entries hd (by simp)]
    simp [List.map_map, Function.comp_def]
  refine ⟨_, (foldlM_addTag_eq_ok_iff _ _ _).2 ⟨_, rfl, hok, rfl⟩, hentries, fun k => ?_⟩
  exact AList.perm_lookup (hentries ▸ List.reverse_perm _)

/-- The tag `env=prod` is read back as the map of `env` to `prod`. -/
theorem parseTags_formatTags_env :
    ∃ m', parseTags ["env=prod"] = .ok m' ∧ m'.entries = [⟨"env", "prod"⟩] ∧
      ∀ k, m'.lookup k = ((∅ : AList (fun _ : String => String)).insert "env" "prod").lookup k :=
  parseTags_formatTags ((∅ : AList (fun _ : String => String)).insert "env" "prod")
    (by simp [TagOk])

end Utask.Api
