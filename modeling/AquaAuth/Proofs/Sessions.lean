import AquaAuth.Model.Session
set_option autoImplicit false
/-!
# What the session calls do

A sweep at `c` leaves the sessions that are valid after `c`, and is the view through which
two states of a store are compared.  Every call commutes with it: eviction does because a
store holds no more than its quota of each DID, and because with one time to live the order
of creation is the order of expiry.
-/

namespace AquaAuth

open Support

/-! ## The backend -/

namespace InMemoryBackend

variable {backend : InMemoryBackend} {token : Str} {session : Session} {c : Nat}

theorem ext {b b' : InMemoryBackend} (h : b.sessions = b'.sessions) : b = b' := by
  cases b
  cases b'
  cases h
  rfl

theorem mem_all : session ∈ backend.all ↔ backend.get session.token = some session := by
  simp only [all, List.mem_map, get, KeyedMap.get_eq_some]
  constructor
  · rintro ⟨e, he, rfl⟩
    rw [backend.keyed e he]
    exact he
  · intro h
    exact ⟨_, h, rfl⟩

theorem token_of_get (h : backend.get token = some session) : session.token = token :=
  backend.keyed _ (KeyedMap.get_eq_some.mp h)

theorem mem_all_of_get (h : backend.get token = some session) : session ∈ backend.all := by
  rw [mem_all, token_of_get h]
  exact h

theorem mem_sessionsForDid {did : Str} :
    session ∈ backend.sessionsForDid did ↔
      backend.get session.token = some session ∧ session.did = did := by
  simp [sessionsForDid, mem_all]

@[simp] theorem all_retain (p : Session → Bool) :
    (backend.retain p).all = backend.all.filter p := by
  simp [all, retain, KeyedMap.retain, List.filter_map, Function.comp_def]

@[simp] theorem length_all : backend.all.length = backend.len := by
  simp [all, len, KeyedMap.len]

theorem sessionsForDid_retain (p : Session → Bool) (did : Str) :
    (backend.retain p).sessionsForDid did = (backend.sessionsForDid did).filter p := by
  simp [sessionsForDid, List.filter_filter, Bool.and_comm]

theorem get_retain (p : Session → Bool) :
    (backend.retain p).get token = (backend.get token).filter p := by
  simp [get, retain]

theorem get_erase (token' : Str) :
    (backend.erase token).get token' = if token' = token then none else backend.get token' :=
  KeyedMap.get_remove _ _ _

theorem get_insert (token' : Str) :
    (backend.insert session).get token' =
      if token' = session.token then some session else backend.get token' :=
  KeyedMap.get_insert _ _ _ _

theorem retain_retain (p q : Session → Bool) :
    (backend.retain p).retain q = backend.retain fun s => p s && q s :=
  ext (KeyedMap.retain_retain (fun _ s => p s) (fun _ s => q s) backend.sessions)

theorem retain_erase (p : Session → Bool) :
    (backend.erase token).retain p = (backend.retain p).erase token :=
  ext (KeyedMap.retain_remove (fun _ s => p s) backend.sessions token)

theorem retain_insert (p : Session → Bool) :
    (backend.insert session).retain p =
      if p session then (backend.retain p).insert session
      else (backend.retain p).erase session.token := by
  have h := KeyedMap.retain_insert (fun _ s => p s) backend.sessions session.token session
  split_ifs with hp
  · rw [if_pos hp] at h
    exact ext h
  · rw [if_neg hp] at h
    exact ext h

theorem erase_of_absent (h : backend.get token = none) : backend.erase token = backend :=
  ext (KeyedMap.remove_eq_self_of_absent h)

theorem retain_congr {p q : Session → Bool} (h : ∀ s ∈ backend.all, p s = q s) :
    backend.retain p = backend.retain q := by
  have hentries : ∀ e ∈ backend.sessions.entries, p e.2 = q e.2 := fun e he =>
    h e.2 (List.mem_map.mpr ⟨e, he, rfl⟩)
  exact ext (KeyedMap.retain_congr (p := fun _ s => p s) (q := fun _ s => q s) hentries)

theorem erase_eq_retain : backend.erase token = backend.retain fun s => s.token ≠ token := by
  have hentries : ∀ e ∈ backend.sessions.entries,
      decide (e.1 ≠ token) = decide (e.2.token ≠ token) := fun e he => by
    rw [backend.keyed e he]
  exact ext (KeyedMap.retain_congr (p := fun k _ => decide (k ≠ token))
    (q := fun _ (s : Session) => decide (s.token ≠ token)) hentries)

theorem sessionsForDid_erase {did : Str} :
    (backend.erase token).sessionsForDid did =
      (backend.sessionsForDid did).filter fun s => s.token ≠ token := by
  rw [erase_eq_retain, sessionsForDid_retain]

theorem all_insert :
    (backend.insert session).all = session :: (backend.erase session.token).all := rfl

theorem sessionsForDid_insert {did : Str} :
    (backend.insert session).sessionsForDid did =
      if session.did = did then session :: (backend.erase session.token).sessionsForDid did
      else (backend.erase session.token).sessionsForDid did := by
  simp only [sessionsForDid, all_insert, List.filter_cons, decide_eq_true_eq]

theorem length_sessionsForDid_erase_le (did : Str) :
    ((backend.erase token).sessionsForDid did).length ≤ (backend.sessionsForDid did).length := by
  rw [sessionsForDid_erase]
  exact List.length_filter_le _ _

theorem len_retain_le (p : Session → Bool) : (backend.retain p).len ≤ backend.len :=
  KeyedMap.len_retain_le _ _

theorem len_insert_le : (backend.insert session).len ≤ backend.len + 1 :=
  KeyedMap.len_insert_le _ _ _

/-- Erasing a list of tokens. -/
theorem foldl_erase (tokens : List Str) :
    tokens.foldl erase backend = backend.retain fun s => s.token ∉ tokens := by
  induction tokens generalizing backend with
  | nil =>
      refine (ext ?_).symm
      exact KeyedMap.ext (by simp [retain, KeyedMap.retain])
  | cons token tokens ih =>
      rw [List.foldl_cons, ih, erase_eq_retain, retain_retain]
      congr 1
      funext s
      simp

/-- Removing the sessions of a DID leaves the others. -/
theorem removeAllForDid_snd (did : Str) :
    (backend.removeAllForDid did).2 = backend.retain fun s => s.did ≠ did := by
  refine (foldl_erase _).trans (retain_congr fun s hs => ?_)
  have hiff : s.token ∈ (backend.sessionsForDid did).map Session.token ↔ s.did = did := by
    simp only [List.mem_map, mem_sessionsForDid]
    constructor
    · rintro ⟨s', ⟨hs', hdid⟩, htoken⟩
      rw [htoken, mem_all.mp hs] at hs'
      rw [Option.some.inj hs']
      exact hdid
    · intro hdid
      exact ⟨s, ⟨mem_all.mp hs, hdid⟩, rfl⟩
  simp [hiff]

theorem purgeExpired_snd : (backend.purgeExpired c).2 = backend.retainLive c := rfl

end InMemoryBackend

/-! ## The store -/

namespace SessionStore

variable {store : SessionStore} {did token : Str} {session : Session} {c c' : Nat}

@[simp] theorem isFull_iff : store.isFull = true ↔ store.maxSessions ≤ store.backend.len := by
  simp [isFull]

@[simp] theorem ttlSecs_cleanupExpired : (store.cleanupExpired c).ttlSecs = store.ttlSecs := rfl

@[simp] theorem maxSessions_cleanupExpired :
    (store.cleanupExpired c).maxSessions = store.maxSessions := rfl

@[simp] theorem maxSessionsPerDid_cleanupExpired :
    (store.cleanupExpired c).maxSessionsPerDid = store.maxSessionsPerDid := rfl

theorem backend_cleanupExpired :
    (store.cleanupExpired c).backend = store.backend.retain fun s => c < s.validUntil := rfl

@[simp] theorem ttlSecs_evict (oldest : Option Session) :
    (store.evict oldest).ttlSecs = store.ttlSecs := by
  cases oldest <;> rfl

@[simp] theorem maxSessions_evict (oldest : Option Session) :
    (store.evict oldest).maxSessions = store.maxSessions := by
  cases oldest <;> rfl

@[simp] theorem maxSessionsPerDid_evict (oldest : Option Session) :
    (store.evict oldest).maxSessionsPerDid = store.maxSessionsPerDid := by
  cases oldest <;> rfl

/-- A later sweep makes an earlier one redundant. -/
theorem cleanupExpired_cleanupExpired (h : c ≤ c') :
    (store.cleanupExpired c).cleanupExpired c' = store.cleanupExpired c' := by
  simp only [cleanupExpired, InMemoryBackend.purgeExpired_snd, InMemoryBackend.retainLive,
    InMemoryBackend.retain_retain]
  congr 2
  funext s
  by_cases hs : c' < s.validUntil
  · simp [hs, lt_of_le_of_lt h hs]
  · simp [hs]

theorem get_cleanupExpired :
    (store.cleanupExpired c).backend.get token =
      (store.backend.get token).filter fun s => c < s.validUntil := by
  rw [backend_cleanupExpired, InMemoryBackend.get_retain]

theorem sessionsForDid_cleanupExpired :
    (store.cleanupExpired c).backend.sessionsForDid did =
      (store.backend.sessionsForDid did).filter fun s => c < s.validUntil := by
  rw [backend_cleanupExpired, InMemoryBackend.sessionsForDid_retain]

/-! ## Regular stores -/

/-- A store holds no more than its quota of each DID. -/
def WithinQuota (store : SessionStore) : Prop :=
  ∀ did, (store.backend.sessionsForDid did).length ≤ max 1 store.maxSessionsPerDid

/-- One time to live gave every session its expiry. -/
def SharedTtl (store : SessionStore) : Prop :=
  ∀ session ∈ store.backend.all, session.validUntil = session.createdAt + store.ttlSecs

structure Regular (store : SessionStore) : Prop where
  quota : store.WithinQuota
  sharedTtl : store.SharedTtl

/-- A store with some of its sessions. -/
def keep (store : SessionStore) (p : Session → Bool) : SessionStore :=
  { store with backend := store.backend.retain p }

theorem WithinQuota.keep (h : store.WithinQuota) (p : Session → Bool) :
    (store.keep p).WithinQuota := fun did => by
  rw [SessionStore.keep, InMemoryBackend.sessionsForDid_retain]
  exact (List.length_filter_le _ _).trans (h did)

theorem SharedTtl.keep (h : store.SharedTtl) (p : Session → Bool) :
    (store.keep p).SharedTtl := fun session hsession => by
  rw [SessionStore.keep, InMemoryBackend.all_retain] at hsession
  exact h session (List.mem_of_mem_filter hsession)

theorem keep_true : store.keep (fun _ => true) = store := by
  simp [keep, InMemoryBackend.retain, KeyedMap.retain]

theorem cleanupExpired_eq_keep :
    store.cleanupExpired c = store.keep fun s => c < s.validUntil := rfl

/-- The session eviction takes from a DID at or over its quota. -/
theorem overQuota_eq_some {sessions : List Session} {oldest : Session}
    (h : store.overQuota sessions = some oldest) :
    store.maxSessionsPerDid ≤ sessions.length ∧ oldest ∈ sessions ∧
      ∀ s ∈ sessions, evictionRank oldest ≤ evictionRank s := by
  unfold overQuota at h
  split_ifs at h with hlt
  refine ⟨Nat.not_lt.mp hlt, List.minOn?_mem h, fun s hs => ?_⟩
  have hle := List.apply_get_minOn?_le_of_mem (f := evictionRank) hs
  simpa [h] using hle

theorem overQuota_eq_none {sessions : List Session} (h : store.overQuota sessions = none) :
    sessions.length < store.maxSessionsPerDid ∨ sessions = [] := by
  unfold overQuota at h
  split_ifs at h with hlt
  · exact .inl hlt
  · refine .inr ?_
    rw [← Option.not_isSome_iff_eq_none, List.isSome_minOn?_iff] at h
    simpa using h

theorem createdAt_le_of_rank {s s' : Session} (h : evictionRank s ≤ evictionRank s') :
    s.createdAt ≤ s'.createdAt := by
  rcases Prod.Lex.toLex_le_toLex.mp h with hlt | ⟨heq, _⟩
  · exact hlt.le
  · exact heq.le

/-- A sweep before or after eviction: the same sessions stay. -/
theorem enforcePerDidCap_cleanupExpired (h : store.Regular) (did : Str) :
    (store.enforcePerDidCap did).cleanupExpired c =
      (store.cleanupExpired c).enforcePerDidCap did := by
  have hquota := h.quota did
  rw [enforcePerDidCap, enforcePerDidCap, sessionsForDid_cleanupExpired]
  have hcap : ∀ sessions, (store.cleanupExpired c).overQuota sessions = store.overQuota sessions :=
    fun _ => rfl
  rw [hcap]
  cases hover : store.overQuota (store.backend.sessionsForDid did) with
  | none =>
      have hnone : store.overQuota
          ((store.backend.sessionsForDid did).filter fun s => c < s.validUntil) = none := by
        rcases overQuota_eq_none hover with hlt | hnil
        · have hle := List.length_filter_le (fun s : Session => decide (c < s.validUntil))
            (store.backend.sessionsForDid did)
          exact if_pos (by omega)
        · rw [hnil] at hover ⊢
          exact hover
      rw [hnone]
      rfl
  | some oldest =>
      obtain ⟨hfull, hmem, hleast⟩ := overQuota_eq_some hover
      obtain ⟨hget, _⟩ := InMemoryBackend.mem_sessionsForDid.mp hmem
      have hexpiry : ∀ s ∈ store.backend.sessionsForDid did, oldest.validUntil ≤ s.validUntil := by
        intro s hs
        have hcreated := createdAt_le_of_rank (hleast s hs)
        rw [h.sharedTtl s (List.mem_of_mem_filter hs),
          h.sharedTtl oldest (List.mem_of_mem_filter hmem)]
        omega
      by_cases hlive : c < oldest.validUntil
      · -- Nothing of this DID has expired, so the sweep changes nothing here.
        have hall : (store.backend.sessionsForDid did).filter (fun s => c < s.validUntil) =
            store.backend.sessionsForDid did := by
          refine List.filter_eq_self.mpr fun s hs => ?_
          simpa using hlive.trans_le (hexpiry s hs)
        rw [hall, hover]
        simp only [evict, cleanupExpired, InMemoryBackend.remove,
          InMemoryBackend.purgeExpired_snd, InMemoryBackend.retainLive,
          InMemoryBackend.retain_erase]
      · -- An expired session is evicted, and what is left is under the quota.
        have hfewer : ((store.backend.sessionsForDid did).filter
            fun s => c < s.validUntil).length < (store.backend.sessionsForDid did).length := by
          refine List.length_filter_lt_length_iff_exists.mpr ⟨oldest, hmem, ?_⟩
          simpa using hlive
        have hnone : store.overQuota
            ((store.backend.sessionsForDid did).filter fun s => c < s.validUntil) = none := by
          by_cases hlt : ((store.backend.sessionsForDid did).filter
              fun s => c < s.validUntil).length < store.maxSessionsPerDid
          · exact if_pos hlt
          · have hnil : (store.backend.sessionsForDid did).filter
                (fun s => c < s.validUntil) = [] := by
              rw [← List.length_eq_zero_iff]
              omega
            rw [hnil]
            simp [overQuota]
        have habsent : (store.backend.retain fun s => c < s.validUntil).get oldest.token =
            none := by
          rw [InMemoryBackend.get_retain, hget]
          simpa using hlive
        rw [hnone]
        simp only [evict, cleanupExpired, InMemoryBackend.remove,
          InMemoryBackend.purgeExpired_snd, InMemoryBackend.retainLive,
          InMemoryBackend.retain_erase, InMemoryBackend.erase_of_absent habsent]

/-! ## Creating a session -/

theorem issue_eq {overflowChecks : Bool} {tokenBytes : ByteArr 32} {now : Nat}
    (h : now + store.ttlSecs < 2 ^ 64) :
    store.issue overflowChecks did tokenBytes now =
      (some (.ok ⟨did, tokenOf tokenBytes, now + store.ttlSecs, now⟩),
        { store with backend :=
            store.backend.insert ⟨did, tokenOf tokenBytes, now + store.ttlSecs, now⟩ }) := by
  rw [issue, addU64, if_pos h]

/-- What the insertion does: nothing, or one session more under the drawn token. -/
theorem issue_cases (overflowChecks : Bool) (store : SessionStore) (did : Str)
    (tokenBytes : ByteArr 32) (now : Nat) :
    (store.issue overflowChecks did tokenBytes now = (none, store) ∧
      ¬ now + store.ttlSecs < 2 ^ 64) ∨
    ∃ validUntil, store.issue overflowChecks did tokenBytes now =
        (some (.ok ⟨did, tokenOf tokenBytes, validUntil, now⟩),
          { store with backend :=
              store.backend.insert ⟨did, tokenOf tokenBytes, validUntil, now⟩ }) ∧
      (overflowChecks = true ∨ now + store.ttlSecs < 2 ^ 64 →
        validUntil = now + store.ttlSecs) := by
  unfold issue addU64
  split_ifs with hsum hchecks
  · exact .inr ⟨_, rfl, fun _ => rfl⟩
  · exact .inl ⟨rfl, hsum⟩
  · exact .inr ⟨_, rfl, fun h => (h.elim hchecks hsum).elim⟩

variable {draws : SessionDraws} {overflowChecks : Bool}

/-- The store `create` admits a DID to: it is purged first when it is full. -/
def room (store : SessionStore) (purgeAt : Nat) : SessionStore :=
  if store.isFull then store.cleanupExpired purgeAt else store

theorem room_cases (store : SessionStore) (purgeAt : Nat) :
    store.room purgeAt = store ∨ store.room purgeAt = store.cleanupExpired purgeAt := by
  unfold room
  split_ifs
  · exact .inr rfl
  · exact .inl rfl

/-- What `create` does: it rejects a store that is full after a purge, or admits the DID. -/
inductive Creates (overflowChecks : Bool) (store : SessionStore) (did : Str)
    (draws : SessionDraws) : Option (Except AuthError Session) × SessionStore → Prop
  | rejected (hfull : store.maxSessions ≤ (store.cleanupExpired draws.purgeAt).backend.len) :
      Creates overflowChecks store did draws
        (some (.error (.sessionStoreFull store.maxSessions)), store.cleanupExpired draws.purgeAt)
  | admitted (hlen : (store.room draws.purgeAt).backend.len < store.maxSessions) :
      Creates overflowChecks store did draws
        ((store.room draws.purgeAt).admitDid overflowChecks did draws)

theorem creates_create (overflowChecks : Bool) (store : SessionStore) (did : Str)
    (draws : SessionDraws) :
    Creates overflowChecks store did draws (store.create overflowChecks did draws) := by
  unfold create
  by_cases hfull : store.isFull
  · have hroom : store.room draws.purgeAt = store.cleanupExpired draws.purgeAt := if_pos hfull
    rw [if_pos hfull]
    by_cases hstill : (store.cleanupExpired draws.purgeAt).isFull
    · rw [if_pos hstill]
      exact .rejected (isFull_iff.mp hstill)
    · rw [if_neg hstill, ← hroom]
      rw [isFull_iff, Nat.not_le] at hstill
      exact .admitted (hroom ▸ hstill)
  · have hroom : store.room draws.purgeAt = store := if_neg hfull
    rw [if_neg hfull]
    rw [isFull_iff, Nat.not_le] at hfull
    have hadmitted : Creates overflowChecks store did draws
        ((store.room draws.purgeAt).admitDid overflowChecks did draws) :=
      .admitted (hroom.symm ▸ hfull)
    rwa [hroom] at hadmitted

theorem len_cleanupExpired_le : (store.cleanupExpired c).backend.len ≤ store.backend.len :=
  InMemoryBackend.len_retain_le _

theorem issue_ne_full {tokenBytes : ByteArr 32} {now : Nat} (store : SessionStore) (n : Nat) :
    (store.issue overflowChecks did tokenBytes now).1 ≠ some (.error (.sessionStoreFull n)) := by
  rcases issue_cases overflowChecks store did tokenBytes now with ⟨h, _⟩ | ⟨_, h, _⟩ <;>
    simp [h]

/-- A store is full for `create` when the sessions that survive the purge fill it. -/
theorem create_full_iff :
    (store.create overflowChecks did draws).1 =
        some (.error (.sessionStoreFull store.maxSessions)) ↔
      store.maxSessions ≤ (store.cleanupExpired draws.purgeAt).backend.len := by
  have hcreates := creates_create overflowChecks store did draws
  generalize store.create overflowChecks did draws = outcome at hcreates
  cases hcreates with
  | rejected hfull => exact iff_of_true rfl hfull
  | admitted hlen =>
      refine iff_of_false (issue_ne_full _ _) (Nat.not_le.mpr ?_)
      rcases room_cases store draws.purgeAt with hroom | hroom
      · rw [hroom] at hlen
        exact len_cleanupExpired_le.trans_lt hlen
      · rw [hroom] at hlen
        exact hlen

/-- The store that `create` admits a DID to looks like the one it was called on, after the purge. -/
theorem cleanupExpired_room (hc : draws.purgeAt ≤ c) :
    (store.room draws.purgeAt).cleanupExpired c = store.cleanupExpired c := by
  rcases room_cases store draws.purgeAt with hroom | hroom
  · rw [hroom]
  · rw [hroom, cleanupExpired_cleanupExpired hc]

theorem evict_eq_keep (oldest : Option Session) :
    store.evict oldest = store.keep fun s => ∀ s' ∈ oldest, s.token ≠ s'.token := by
  cases oldest with
  | none =>
      have hall : store = store.keep fun _ => true := keep_true.symm
      change store = _
      simpa using hall
  | some s' =>
      simp only [evict, keep, InMemoryBackend.remove, InMemoryBackend.erase_eq_retain]
      congr 2
      funext s
      simp

/-! ## Stores stay regular -/

/-- What a call does to the sessions: it keeps some of them, or admits a DID. -/
inductive Calls (overflowChecks : Bool) (store : SessionStore) : SessionOp → SessionStore → Prop
  | kept (op : SessionOp) (p : Session → Bool) : Calls overflowChecks store op (store.keep p)
  | admitted {did : Str} {draws : SessionDraws}
      (hlen : (store.room draws.purgeAt).backend.len < store.maxSessions) :
      Calls overflowChecks store (.create did draws)
        ((store.room draws.purgeAt).admitDid overflowChecks did draws).2

private theorem kept_self (op : SessionOp) : Calls overflowChecks store op store := by
  have h : Calls overflowChecks store op (store.keep fun _ => true) := .kept op _
  rwa [keep_true] at h

private theorem kept_erase (op : SessionOp) (token : Str) : Calls overflowChecks store op
    { store with backend := store.backend.erase token } := by
  rw [InMemoryBackend.erase_eq_retain]
  exact .kept op _

theorem calls_call (overflowChecks : Bool) (store : SessionStore) (op : SessionOp) :
    Calls overflowChecks store op (store.call overflowChecks op).2 := by
  cases op with
  | create did draws =>
      have hcreates := creates_create overflowChecks store did draws
      change Calls overflowChecks store _ (store.create overflowChecks did draws).2
      generalize store.create overflowChecks did draws = outcome at hcreates
      cases hcreates with
      | rejected _ => exact .kept _ _
      | admitted hlen => exact .admitted hlen
  | validate token now =>
      change Calls overflowChecks store _ (store.validate token now).2
      unfold SessionStore.validate
      cases store.backend.get token with
      | none => exact kept_self _
      | some session =>
          dsimp only
          split_ifs
          · exact kept_erase _ token
          · exact kept_self _
  | revoke token => exact kept_erase _ token
  | revokeAllForDid did =>
      change Calls overflowChecks store _
        { store with backend := (store.backend.removeAllForDid did).2 }
      rw [InMemoryBackend.removeAllForDid_snd]
      exact .kept _ _
  | listSessions now => exact kept_self _
  | cleanupExpired now => exact .kept _ _

@[simp] theorem ttlSecs_room (purgeAt : Nat) : (store.room purgeAt).ttlSecs = store.ttlSecs := by
  unfold room
  split_ifs <;> rfl

@[simp] theorem maxSessions_room (purgeAt : Nat) :
    (store.room purgeAt).maxSessions = store.maxSessions := by
  unfold room
  split_ifs <;> rfl

@[simp] theorem maxSessionsPerDid_room (purgeAt : Nat) :
    (store.room purgeAt).maxSessionsPerDid = store.maxSessionsPerDid := by
  unfold room
  split_ifs <;> rfl

theorem WithinQuota.room (h : store.WithinQuota) (purgeAt : Nat) :
    (store.room purgeAt).WithinQuota := by
  rcases room_cases store purgeAt with hroom | hroom <;> rw [hroom]
  · exact h
  · exact h.keep _

theorem SharedTtl.room (h : store.SharedTtl) (purgeAt : Nat) :
    (store.room purgeAt).SharedTtl := by
  rcases room_cases store purgeAt with hroom | hroom <;> rw [hroom]
  · exact h
  · exact h.keep _

theorem Regular.room (h : store.Regular) (purgeAt : Nat) : (store.room purgeAt).Regular :=
  ⟨h.quota.room purgeAt, h.sharedTtl.room purgeAt⟩

theorem admitDid_eq_keep_or_insert (overflowChecks : Bool) (store : SessionStore) (did : Str)
    (draws : SessionDraws) :
    (store.admitDid overflowChecks did draws).2 = store.enforcePerDidCap did ∨
    ∃ validUntil, (store.admitDid overflowChecks did draws).2 =
        { store.enforcePerDidCap did with
          backend := (store.enforcePerDidCap did).backend.insert
            ⟨did, tokenOf draws.tokenBytes, validUntil, draws.now⟩ } ∧
      (overflowChecks = true ∨ draws.now + store.ttlSecs < 2 ^ 64 →
        validUntil = draws.now + store.ttlSecs) := by
  have httl : (store.enforcePerDidCap did).ttlSecs = store.ttlSecs := ttlSecs_evict _
  rw [admitDid, ← httl]
  rcases issue_cases overflowChecks (store.enforcePerDidCap did) did draws.tokenBytes draws.now
    with ⟨h, _⟩ | ⟨validUntil, h, hvalid⟩
  · exact .inl (by rw [h])
  · exact .inr ⟨validUntil, by rw [h], hvalid⟩

/-- Eviction leaves a DID one session short of its quota. -/
theorem WithinQuota.length_enforcePerDidCap (h : store.WithinQuota) (did : Str) :
    ((store.enforcePerDidCap did).backend.sessionsForDid did).length + 1 ≤
      max 1 store.maxSessionsPerDid := by
  have hquota := h did
  unfold enforcePerDidCap
  cases hover : store.overQuota (store.backend.sessionsForDid did) with
  | none =>
      change (store.backend.sessionsForDid did).length + 1 ≤ _
      rcases overQuota_eq_none hover with hlt | hnil
      · omega
      · rw [hnil, List.length_nil]
        omega
  | some oldest =>
      obtain ⟨_, hmem, _⟩ := overQuota_eq_some hover
      have hfewer : ((store.backend.erase oldest.token).sessionsForDid did).length <
          (store.backend.sessionsForDid did).length := by
        rw [InMemoryBackend.sessionsForDid_erase]
        exact List.length_filter_lt_length_iff_exists.mpr ⟨oldest, hmem, by simp⟩
      change ((store.backend.erase oldest.token).sessionsForDid did).length + 1 ≤ _
      omega

theorem WithinQuota.admitDid (h : store.WithinQuota) (did : Str) (draws : SessionDraws) :
    (store.admitDid overflowChecks did draws).2.WithinQuota := by
  have hroom : (store.enforcePerDidCap did).WithinQuota := by
    rw [enforcePerDidCap, evict_eq_keep]
    exact h.keep _
  have hshort := h.length_enforcePerDidCap did
  rcases admitDid_eq_keep_or_insert overflowChecks store did draws with
      hadmitted | ⟨_, hadmitted, _⟩
  · rw [hadmitted]
    exact hroom
  · rw [hadmitted]
    intro did'
    have herase : ∀ did', (((store.enforcePerDidCap did).backend.erase
        (tokenOf draws.tokenBytes)).sessionsForDid did').length ≤
          ((store.enforcePerDidCap did).backend.sessionsForDid did').length :=
      InMemoryBackend.length_sessionsForDid_erase_le
    have hsame : (store.enforcePerDidCap did).maxSessionsPerDid = store.maxSessionsPerDid :=
      maxSessionsPerDid_evict _
    simp only [InMemoryBackend.sessionsForDid_insert, hsame]
    split_ifs with hdid
    · have hle := herase did
      subst hdid
      rw [List.length_cons]
      omega
    · exact (herase did').trans (hsame ▸ hroom did')

theorem WithinQuota.call (h : store.WithinQuota) (op : SessionOp) :
    (store.call overflowChecks op).2.WithinQuota := by
  have hcalls := calls_call overflowChecks store op
  generalize (store.call overflowChecks op).2 = store' at hcalls
  cases hcalls with
  | kept op p => exact h.keep p
  | admitted _ => exact (h.room _).admitDid _ _

/-- A call whose additions are exact. -/
def Exact (overflowChecks : Bool) (ttlSecs : Nat) : SessionOp → Prop
  | .create _ draws => overflowChecks = true ∨ draws.now + ttlSecs < 2 ^ 64
  | _ => True

theorem SharedTtl.admitDid (h : store.SharedTtl) (did : Str) {draws : SessionDraws}
    (hsum : overflowChecks = true ∨ draws.now + store.ttlSecs < 2 ^ 64) :
    (store.admitDid overflowChecks did draws).2.SharedTtl := by
  have hroom : (store.enforcePerDidCap did).SharedTtl := by
    rw [enforcePerDidCap, evict_eq_keep]
    exact h.keep _
  have httl : (store.enforcePerDidCap did).ttlSecs = store.ttlSecs := ttlSecs_evict _
  rcases admitDid_eq_keep_or_insert overflowChecks store did draws with
      hadmitted | ⟨_, hadmitted, hvalid⟩
  · rw [hadmitted]
    exact hroom
  · rw [hadmitted]
    intro session hsession
    simp only [InMemoryBackend.all_insert, List.mem_cons] at hsession
    rcases hsession with rfl | hsession
    · simpa [httl] using hvalid hsum
    · rw [InMemoryBackend.erase_eq_retain, InMemoryBackend.all_retain] at hsession
      exact hroom session (List.mem_of_mem_filter hsession)

theorem SharedTtl.call (h : store.SharedTtl) (op : SessionOp)
    (hexact : Exact overflowChecks store.ttlSecs op) :
    (store.call overflowChecks op).2.SharedTtl := by
  have hcalls := calls_call overflowChecks store op
  generalize (store.call overflowChecks op).2 = store' at hcalls
  cases hcalls with
  | kept op p => exact h.keep p
  | admitted _ =>
      refine (h.room _).admitDid _ ?_
      rw [ttlSecs_room]
      exact hexact

theorem Regular.call (h : store.Regular) (op : SessionOp)
    (hexact : Exact overflowChecks store.ttlSecs op) :
    (store.call overflowChecks op).2.Regular :=
  ⟨h.quota.call op, h.sharedTtl.call op hexact⟩

/-- A call changes the sessions and nothing else. -/
theorem call_limits (overflowChecks : Bool) (store : SessionStore) (op : SessionOp) :
    (store.call overflowChecks op).2.ttlSecs = store.ttlSecs ∧
      (store.call overflowChecks op).2.maxSessions = store.maxSessions ∧
      (store.call overflowChecks op).2.maxSessionsPerDid = store.maxSessionsPerDid := by
  have hcalls := calls_call overflowChecks store op
  generalize (store.call overflowChecks op).2 = store' at hcalls
  cases hcalls with
  | kept op p => exact ⟨rfl, rfl, rfl⟩
  | @admitted did draws _ =>
      rcases admitDid_eq_keep_or_insert overflowChecks (store.room draws.purgeAt) did draws
        with h | ⟨_, h, _⟩ <;> simp [h, enforcePerDidCap]

end SessionStore

end AquaAuth
