import Mathlib
set_option autoImplicit false
/-!
# Keyed maps

A map seen as its entries, with the invariant that no key occurs twice.  For a
hash map the entry order stands for an iteration order that callers may not rely
on, and `least` selects by a linear order on the entries instead.  A map built
with `upsert` alone keeps its keys in the order of their first insertion.
-/

namespace AquaAuth.Support

/-- Entries with pairwise distinct keys. -/
structure KeyedMap (κ ν : Type) where
  entries : List (κ × ν)
  nodup : (entries.map Prod.fst).Nodup
  deriving DecidableEq, Repr

namespace KeyedMap

variable {κ ν : Type}

theorem ext {m m' : KeyedMap κ ν} (h : m.entries = m'.entries) : m = m' := by
  cases m
  cases m'
  cases h
  rfl

def empty : KeyedMap κ ν := ⟨[], List.nodup_nil⟩

/-- Number of entries. -/
def len (m : KeyedMap κ ν) : Nat := m.entries.length

/-- Keep the entries that satisfy a test. -/
def retain (p : κ → ν → Bool) (m : KeyedMap κ ν) : KeyedMap κ ν :=
  ⟨m.entries.filter fun e => p e.1 e.2,
    m.nodup.sublist (List.filter_sublist.map Prod.fst)⟩

@[simp] theorem len_empty : (empty : KeyedMap κ ν).len = 0 := rfl

theorem len_retain_le (p : κ → ν → Bool) (m : KeyedMap κ ν) : (m.retain p).len ≤ m.len :=
  List.length_filter_le _ _

/-- The entry that comes first in a linear order of the entries. -/
def least {β : Type} [LinearOrder β] (rank : κ × ν → β) (m : KeyedMap κ ν) : Option (κ × ν) :=
  m.entries.minOn? rank

theorem least_eq_none {β : Type} [LinearOrder β] {rank : κ × ν → β} {m : KeyedMap κ ν} :
    m.least rank = none ↔ m.len = 0 := by
  rw [← Option.not_isSome_iff_eq_none, least, List.isSome_minOn?_iff]
  simp [len]

/-! ## Operations on one key -/

variable [DecidableEq κ]

def get (m : KeyedMap κ ν) (k : κ) : Option ν :=
  (m.entries.find? fun e => e.1 = k).map Prod.snd

def containsKey (m : KeyedMap κ ν) (k : κ) : Bool := (m.get k).isSome

/-- Drop the entry of one key. -/
def remove (m : KeyedMap κ ν) (k : κ) : KeyedMap κ ν := m.retain fun k' _ => k' ≠ k

/-- Insert or overwrite. -/
def insert (m : KeyedMap κ ν) (k : κ) (v : ν) : KeyedMap κ ν :=
  ⟨(k, v) :: (m.remove k).entries, by
    have hk : k ∉ (m.remove k).entries.map Prod.fst := by
      simp [remove, retain]
    simpa using ⟨by simpa using hk, (m.remove k).nodup⟩⟩

/-- Overwrite in place, or append when the key is new. -/
def upsert (m : KeyedMap κ ν) (k : κ) (v : ν) : KeyedMap κ ν :=
  if h : k ∈ m.entries.map Prod.fst then
    ⟨m.entries.map fun e => if e.1 = k then (k, v) else e, by
      have hkeys : (m.entries.map fun e => if e.1 = k then (k, v) else e).map Prod.fst =
          m.entries.map Prod.fst := by
        rw [List.map_map]
        refine List.map_congr_left fun e _ => ?_
        by_cases he : e.1 = k <;> simp [he]
      rw [hkeys]
      exact m.nodup⟩
  else
    ⟨m.entries ++ [(k, v)], by
      rw [List.map_append, List.nodup_append]
      refine ⟨m.nodup, by simp, ?_⟩
      rintro a ha b hb rfl
      simp only [List.map_cons, List.map_nil, List.mem_singleton] at hb
      exact h (hb ▸ ha)⟩

theorem upsert_entries_of_absent {m : KeyedMap κ ν} {k : κ} (v : ν)
    (h : k ∉ m.entries.map Prod.fst) : (m.upsert k v).entries = m.entries ++ [(k, v)] := by
  rw [upsert, dif_neg h]

/-- A map with one entry. -/
def single (k : κ) (v : ν) : KeyedMap κ ν := ⟨[(k, v)], by simp⟩

/-! ## Lookup -/

/-- Lookup finds exactly the entries. -/
theorem get_eq_some {m : KeyedMap κ ν} {k : κ} {v : ν} :
    m.get k = some v ↔ (k, v) ∈ m.entries := by
  obtain ⟨entries, hnodup⟩ := m
  simp only [get]
  induction entries with
  | nil => simp
  | cons e entries ih =>
      obtain ⟨k', v'⟩ := e
      simp only [List.map_cons, List.nodup_cons] at hnodup
      by_cases hk : k' = k
      · subst hk
        have habsent : (k', v) ∉ entries := fun h =>
          hnodup.1 (List.mem_map.mpr ⟨(k', v), h, rfl⟩)
        simp [habsent, eq_comm]
      · simp [hk, Ne.symm hk, ih hnodup.2]

theorem get_eq_none {m : KeyedMap κ ν} {k : κ} :
    m.get k = none ↔ ∀ v, (k, v) ∉ m.entries := by
  rw [Option.eq_none_iff_forall_ne_some]
  simp only [ne_eq, get_eq_some]

theorem containsKey_iff {m : KeyedMap κ ν} {k : κ} :
    m.containsKey k = true ↔ ∃ v, m.get k = some v := by
  rw [containsKey, Option.isSome_iff_exists]

theorem containsKey_eq_false {m : KeyedMap κ ν} {k : κ} :
    m.containsKey k = false ↔ m.get k = none := by
  simp [containsKey]

@[simp] theorem get_single_self (k : κ) (v : ν) : (single k v).get k = some v := by
  simp [get, single]

@[simp] theorem get_empty (k : κ) : (empty : KeyedMap κ ν).get k = none := rfl

@[simp] theorem get_retain (p : κ → ν → Bool) (m : KeyedMap κ ν) (k : κ) :
    (m.retain p).get k = (m.get k).filter (p k) := by
  apply Option.ext
  intro v
  rw [Option.filter_eq_some_iff, get_eq_some, get_eq_some]
  simp [retain]

theorem get_remove (m : KeyedMap κ ν) (k k' : κ) :
    (m.remove k).get k' = if k' = k then none else m.get k' := by
  rw [remove, get_retain]
  by_cases hk : k' = k
  · simp [hk]
  · cases h : m.get k' <;> simp [hk]

theorem get_insert (m : KeyedMap κ ν) (k : κ) (v : ν) (k' : κ) :
    (m.insert k v).get k' = if k' = k then some v else m.get k' := by
  by_cases hk : k' = k
  · simp [get, insert, hk]
  · rw [if_neg hk]
    have hremove : (m.remove k).get k' = m.get k' := by rw [get_remove, if_neg hk]
    rw [← hremove]
    simp [get, insert, Ne.symm hk]

@[simp] theorem get_remove_self (m : KeyedMap κ ν) (k : κ) : (m.remove k).get k = none := by
  rw [get_remove, if_pos rfl]

@[simp] theorem get_insert_self (m : KeyedMap κ ν) (k : κ) (v : ν) :
    (m.insert k v).get k = some v := by
  rw [get_insert, if_pos rfl]

/-! ## Size -/

omit [DecidableEq κ] in
/-- A purge that drops nothing was over entries that all pass the test. -/
theorem retain_eq_self_of_len_le {p : κ → ν → Bool} {m : KeyedMap κ ν}
    (h : m.len ≤ (m.retain p).len) : m.retain p = m :=
  ext (List.filter_sublist.eq_of_length_le h)

theorem all_of_retain_eq_self {p : κ → ν → Bool} {m : KeyedMap κ ν}
    (h : m.retain p = m) {k : κ} {v : ν} (hget : m.get k = some v) : p k v = true := by
  rw [← h, get_retain, Option.filter_eq_some_iff] at hget
  exact hget.2

theorem len_remove_le (m : KeyedMap κ ν) (k : κ) : (m.remove k).len ≤ m.len :=
  len_retain_le _ m

theorem remove_eq_self_of_absent {m : KeyedMap κ ν} {k : κ} (h : m.get k = none) :
    m.remove k = m := by
  obtain ⟨entries, hnodup⟩ := m
  simp only [remove, retain, mk.injEq, List.filter_eq_self, decide_eq_true_eq]
  rintro ⟨k', v⟩ hmem rfl
  exact get_eq_none.mp h v hmem

theorem len_insert_of_absent {m : KeyedMap κ ν} {k : κ} (v : ν) (h : m.get k = none) :
    (m.insert k v).len = m.len + 1 := by
  simp [len, insert, remove_eq_self_of_absent h]

theorem len_insert_le (m : KeyedMap κ ν) (k : κ) (v : ν) : (m.insert k v).len ≤ m.len + 1 := by
  have := len_remove_le m k
  simp only [len, insert, List.length_cons] at this ⊢
  omega

theorem len_remove_of_present {m : KeyedMap κ ν} {k : κ} {v : ν} (h : m.get k = some v) :
    (m.remove k).len + 1 = m.len := by
  have hmem := get_eq_some.mp h
  have hcount : m.entries.countP (fun e => !decide (e.1 ≠ k)) = 1 := by
    have hkeys : (m.entries.map Prod.fst).count k = 1 :=
      List.count_eq_one_of_mem m.nodup (List.mem_map.mpr ⟨(k, v), hmem, rfl⟩)
    rw [List.count_eq_countP, List.countP_map] at hkeys
    rw [← hkeys]
    apply List.countP_congr
    simp
  have hsplit := List.length_eq_countP_add_countP (fun e : κ × ν => decide (e.1 ≠ k))
    (l := m.entries)
  rw [len, len, remove, retain, ← List.countP_eq_length_filter, hsplit]
  simp only [ne_eq, decide_not, Bool.not_not] at hcount ⊢
  simpa using hcount.symm

/-! ## Two maps -/

def keys (m : KeyedMap κ ν) : List κ := m.entries.map Prod.fst

/-- The keys that another map lacks. -/
def missingFrom (m m' : KeyedMap κ ν) : List κ := m.keys.filter fun k => !m'.containsKey k

omit [DecidableEq κ] in
@[simp] theorem length_keys (m : KeyedMap κ ν) : m.keys.length = m.len := List.length_map _

@[simp] theorem mem_keys {m : KeyedMap κ ν} {k : κ} :
    k ∈ m.keys ↔ m.containsKey k = true := by
  simp [keys, containsKey_iff, get_eq_some]

theorem mem_missingFrom {m m' : KeyedMap κ ν} {k : κ} :
    k ∈ m.missingFrom m' ↔ m.containsKey k = true ∧ m'.containsKey k = false := by
  simp [missingFrom]

theorem missingFrom_eq_nil {m m' : KeyedMap κ ν}
    (h : ∀ k, m.containsKey k = true → m'.containsKey k = true) : m.missingFrom m' = [] := by
  apply List.eq_nil_iff_forall_not_mem.mpr
  intro k hk
  obtain ⟨hmem, hmissing⟩ := mem_missingFrom.mp hk
  rw [h k hmem] at hmissing
  cases hmissing

/-- What one map has and the other lacks accounts for the difference of their sizes. -/
theorem len_add_missingFrom (m m' : KeyedMap κ ν) :
    m'.len + (m.missingFrom m').length = m.len + (m'.missingFrom m).length := by
  have hsplit : ∀ m m' : KeyedMap κ ν, m.len =
      (m.keys.filter fun k => m'.containsKey k).length + (m.missingFrom m').length := by
    intro m m'
    have hcount := List.length_eq_countP_add_countP (fun k => m'.containsKey k) (l := m.keys)
    rw [length_keys, List.countP_eq_length_filter, List.countP_eq_length_filter] at hcount
    simpa [missingFrom] using hcount
  have hcommon : (m.keys.filter fun k => m'.containsKey k).Perm
      (m'.keys.filter fun k => m.containsKey k) := by
    have hnodup : ∀ m m' : KeyedMap κ ν, (m.keys.filter fun k => m'.containsKey k).Nodup :=
      fun m m' => m.nodup.filter _
    apply (List.perm_ext_iff_of_nodup (hnodup m m') (hnodup m' m)).mpr
    intro k
    simp [and_comm]
  have hlen := hcommon.length_eq
  have hm := hsplit m m'
  have hm' := hsplit m' m
  omega

/-! ## Keeping entries -/

omit [DecidableEq κ] in
theorem retain_retain (p q : κ → ν → Bool) (m : KeyedMap κ ν) :
    (m.retain p).retain q = m.retain fun k v => p k v && q k v :=
  ext (by simp [retain, List.filter_filter, Bool.and_comm])

omit [DecidableEq κ] in
theorem retain_congr {p q : κ → ν → Bool} {m : KeyedMap κ ν}
    (h : ∀ e ∈ m.entries, p e.1 e.2 = q e.1 e.2) : m.retain p = m.retain q :=
  ext (List.filter_congr h)

theorem retain_remove (p : κ → ν → Bool) (m : KeyedMap κ ν) (k : κ) :
    (m.remove k).retain p = (m.retain p).remove k := by
  rw [remove, remove, retain_retain, retain_retain]
  exact retain_congr fun _ _ => Bool.and_comm _ _

theorem retain_insert (p : κ → ν → Bool) (m : KeyedMap κ ν) (k : κ) (v : ν) :
    (m.insert k v).retain p =
      if p k v then (m.retain p).insert k v else (m.retain p).remove k := by
  have hrest := congrArg entries (retain_remove p m k)
  apply ext
  split_ifs with hp
  · simpa [retain, insert, hp] using hrest
  · simpa [retain, insert, hp] using hrest

/-! ## Selection -/

variable {β : Type} [LinearOrder β]

theorem least_get {rank : κ × ν → β} {m : KeyedMap κ ν} {e : κ × ν}
    (h : m.least rank = some e) : m.get e.1 = some e.2 :=
  get_eq_some.mpr (List.minOn?_mem h)

theorem least_le {rank : κ × ν → β} {m : KeyedMap κ ν} {e : κ × ν}
    (h : m.least rank = some e) {k : κ} {v : ν} (hget : m.get k = some v) :
    rank e ≤ rank (k, v) := by
  have hmem := get_eq_some.mp hget
  have hle := List.apply_get_minOn?_le_of_mem (f := rank) hmem
  rw [least] at h
  simpa [h] using hle

/-! ## Making room -/

/-- Drop the first entry of an order. -/
def removeLeast (rank : κ × ν → β) (m : KeyedMap κ ν) : KeyedMap κ ν :=
  ((m.least rank).map Prod.fst).elim m m.remove

/-- Room for one more entry: purge a map that is full, and drop its first entry when that is not
enough. -/
def makeRoom (capacity : Nat) (live : κ → ν → Bool) (rank : κ × ν → β) (m : KeyedMap κ ν) :
    KeyedMap κ ν :=
  if capacity ≤ m.len then
    if capacity ≤ (m.retain live).len then (m.retain live).removeLeast rank else m.retain live
  else m

theorem retain_removeLeast {p : κ → ν → Bool} (rank : κ × ν → β) {m : KeyedMap κ ν}
    (h : m.retain p = m) : (m.removeLeast rank).retain p = m.removeLeast rank := by
  unfold removeLeast
  cases (m.least rank).map Prod.fst with
  | none => exact h
  | some k =>
      show (m.remove k).retain p = m.remove k
      rw [retain_remove, h]

/-- Making room adds and changes nothing. -/
theorem get_of_get_makeRoom {capacity : Nat} {live : κ → ν → Bool} {rank : κ × ν → β}
    {m : KeyedMap κ ν} {k : κ} {v : ν} (h : (m.makeRoom capacity live rank).get k = some v) :
    m.get k = some v := by
  have hpurged : ∀ {k v}, (m.retain live).get k = some v → m.get k = some v := by
    intro k v h
    rw [get_retain, Option.filter_eq_some_iff] at h
    exact h.1
  unfold makeRoom at h
  split_ifs at h
  · unfold removeLeast at h
    cases hleast : ((m.retain live).least rank).map Prod.fst with
    | none =>
        rw [hleast] at h
        exact hpurged h
    | some k' =>
        rw [hleast] at h
        have hremoved : ((m.retain live).remove k').get k = some v := h
        rw [get_remove] at hremoved
        split_ifs at hremoved
        exact hpurged hremoved
  · exact hpurged h
  · exact h

theorem len_removeLeast {rank : κ × ν → β} {m : KeyedMap κ ν} (h : 0 < m.len) :
    (m.removeLeast rank).len + 1 = m.len := by
  unfold removeLeast
  cases hleast : m.least rank with
  | none =>
      rw [least_eq_none] at hleast
      omega
  | some e => exact len_remove_of_present (least_get hleast)

/-- Only a map without entries has none to drop. -/
theorem removeLeast_same_iff {rank : κ × ν → β} {m : KeyedMap κ ν} :
    (∀ e, e ∈ (m.removeLeast rank).entries ↔ e ∈ m.entries) ↔ m.len = 0 := by
  unfold removeLeast
  cases hleast : m.least rank with
  | none => simpa using least_eq_none.mp hleast
  | some e =>
      have hmem : e ∈ m.entries := get_eq_some.mp (least_get hleast)
      refine iff_of_false (fun hsame => ?_) (Nat.ne_of_gt (List.length_pos_of_mem hmem))
      have hkept : (m.remove e.1).get e.1 = some e.2 := get_eq_some.mpr ((hsame e).mpr hmem)
      rw [get_remove_self] at hkept
      cases hkept

/-- One more entry fits, unless more entries than fit survive the purge. -/
theorem len_makeRoom {capacity : Nat} {live : κ → ν → Bool} {rank : κ × ν → β}
    {m : KeyedMap κ ν} (h : 0 < capacity) :
    (m.makeRoom capacity live rank).len + 1 ≤ max capacity (m.retain live).len ∧
      (m.retain live).len ≤ (m.makeRoom capacity live rank).len + 1 := by
  have hle : (m.retain live).len ≤ m.len := len_retain_le live m
  unfold makeRoom
  split_ifs with hfull hstill
  · have hremoved : ((m.retain live).removeLeast rank).len + 1 = (m.retain live).len :=
      len_removeLeast (by omega)
    omega
  · omega
  · omega

/-- The room made depends on what the purge leaves. -/
theorem retain_makeRoom (capacity : Nat) (live : κ → ν → Bool) (rank : κ × ν → β)
    (m : KeyedMap κ ν) :
    (m.makeRoom capacity live rank).retain live =
      (m.retain live).makeRoom capacity live rank := by
  have hidem : (m.retain live).retain live = m.retain live := by
    rw [retain_retain]
    exact retain_congr fun _ _ => Bool.and_self _
  have hle : (m.retain live).len ≤ m.len := len_retain_le live m
  by_cases hstill : capacity ≤ (m.retain live).len
  · simp only [makeRoom, hidem, if_pos hstill, if_pos (hstill.trans hle)]
    exact retain_removeLeast rank hidem
  · by_cases hfull : capacity ≤ m.len
    · simp only [makeRoom, hidem, if_neg hstill, if_pos hfull]
    · simp only [makeRoom, if_neg hstill, if_neg hfull]

end KeyedMap

end AquaAuth.Support
