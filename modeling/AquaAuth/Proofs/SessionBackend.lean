import AquaAuth.Model.SessionBackend
import AquaAuth.Proofs.Sessions
set_option autoImplicit false
/-!
# The session store over a lawful backend

The in-memory backend is lawful, and over it the store is `SessionStore`.  Over a backend whose
insertion can fail, `create` makes room in a DID's quota first: when the insertion then fails, the
evicted session is gone and nothing has taken its place.
-/

namespace AquaAuth

open Support

/-! ## Backends -/

namespace SessionBackend

variable {σ : Type} {backend : SessionBackend σ} {contents : σ}

theorem get_removeCounting (h : backend.Lawful) (tokens : List Str) (token : Str) :
    backend.get (removeCounting backend.remove contents tokens).2 token =
      if token ∈ tokens then none else backend.get contents token := by
  induction tokens generalizing contents with
  | nil => rfl
  | cons first tokens ih =>
      show backend.get (removeCounting backend.remove (backend.remove contents first).2 tokens).2
        token = _
      rw [ih, h.get_remove]
      by_cases hfirst : token = first
      · simp [hfirst]
      · simp [hfirst]

/-- The body the trait gives `purge_expired` does what the trait documents. -/
theorem purges_default (h : backend.Lawful) (contents : σ) (nowSecs : Nat) :
    backend.Purges contents nowSecs
      (defaultPurgeExpired backend.remove backend.all contents nowSecs).2 := by
  intro token session
  unfold defaultPurgeExpired
  rw [get_removeCounting h]
  constructor
  · intro hget
    split_ifs at hget
    exact hget
  · intro hget hlive
    have hkept : token ∉ ((backend.all contents).filter
        fun s => s.validUntil ≤ nowSecs).map Session.token := by
      intro hmem
      obtain ⟨s, hs, rfl⟩ := List.mem_map.mp hmem
      obtain ⟨hall, hexpired⟩ := List.mem_filter.mp hs
      have hstored := (h.mem_all contents s).mp hall
      obtain rfl : s = session := Option.some.inj (hstored.symm.trans hget)
      exact absurd hlive (Nat.not_lt.mpr (of_decide_eq_true hexpired))
    rw [if_neg hkept, hget]

end SessionBackend

theorem lawful_inMemoryBackend : inMemoryBackend.Lawful where
  token_of_get _ _ _ := InMemoryBackend.token_of_get
  get_insert _ _ _ token := InMemoryBackend.get_insert token
  get_insert_error _ _ _ h := by cases h
  get_remove _ _ token' := InMemoryBackend.get_erase token'
  remove_fst _ _ := rfl
  mem_sessionsForDid _ _ _ := InMemoryBackend.mem_sessionsForDid
  get_removeAllForDid backend did token := by
    show (backend.removeAllForDid did).2.get token = _
    rw [InMemoryBackend.removeAllForDid_snd, InMemoryBackend.get_retain]
    rfl
  purges backend nowSecs := by
    intro token session
    show ((backend.purgeExpired nowSecs).2.get token = some session → _) ∧ (_ → _ →
      (backend.purgeExpired nowSecs).2.get token = some session)
    rw [InMemoryBackend.purgeExpired_snd, InMemoryBackend.retainLive, InMemoryBackend.get_retain,
      Option.filter_eq_some_iff]
    exact ⟨fun h => h.1, fun hget hlive => ⟨hget, by simpa using hlive⟩⟩
  mem_all _ _ := InMemoryBackend.mem_all
  length_all _ := InMemoryBackend.length_all

namespace BackedSessionStore

variable {σ : Type} {backend : SessionBackend σ} {store : BackedSessionStore σ} {did token : Str}
  {draws : SessionDraws} {overflowChecks : Bool} {c : Nat} {session : Session}

/-! ## The in-memory store -/

/-- The store over the in-memory backend. -/
def inMemory (store : BackedSessionStore InMemoryBackend) : SessionStore :=
  ⟨store.contents, store.ttlSecs, store.maxSessions, store.maxSessionsPerDid⟩

theorem inMemory_enforcePerDidCap (store : BackedSessionStore InMemoryBackend) (did : Str) :
    (store.enforcePerDidCap inMemoryBackend did).inMemory =
      store.inMemory.enforcePerDidCap did := by
  unfold enforcePerDidCap SessionStore.enforcePerDidCap
  have hover : store.overQuota inMemoryBackend did =
      store.inMemory.overQuota (store.inMemory.backend.sessionsForDid did) := rfl
  rw [hover]
  cases store.inMemory.overQuota (store.inMemory.backend.sessionsForDid did) <;> rfl

theorem inMemory_admitDid (overflowChecks : Bool)
    (store : BackedSessionStore InMemoryBackend) (did : Str) (draws : SessionDraws) :
    ((store.admitDid inMemoryBackend overflowChecks did draws).1,
      (store.admitDid inMemoryBackend overflowChecks did draws).2.inMemory) =
    store.inMemory.admitDid overflowChecks did draws := by
  have hcap := inMemory_enforcePerDidCap store did
  unfold admitDid SessionStore.admitDid issue SessionStore.issue
  rw [← hcap]
  have httl : (store.enforcePerDidCap inMemoryBackend did).inMemory.ttlSecs =
      (store.enforcePerDidCap inMemoryBackend did).ttlSecs := rfl
  rw [httl]
  cases addU64 overflowChecks draws.now (store.enforcePerDidCap inMemoryBackend did).ttlSecs <;> rfl

/-- Over the in-memory backend every call is the one of `SessionStore`. -/
theorem call_inMemory (store : BackedSessionStore InMemoryBackend) (op : SessionOp) :
    ((store.call inMemoryBackend overflowChecks op).1,
      (store.call inMemoryBackend overflowChecks op).2.inMemory) =
    store.inMemory.call overflowChecks op := by
  cases op with
  | create did draws =>
      have hadmit := inMemory_admitDid overflowChecks store did draws
      have hpurged := inMemory_admitDid overflowChecks
        (store.cleanupExpired inMemoryBackend draws.purgeAt) did draws
      have hcreate : ((store.create inMemoryBackend overflowChecks did draws).1,
          (store.create inMemoryBackend overflowChecks did draws).2.inMemory) =
          store.inMemory.create overflowChecks did draws := by
        unfold create SessionStore.create
        have hfull : store.inMemory.isFull = store.isFull inMemoryBackend := rfl
        have hstill : (store.inMemory.cleanupExpired draws.purgeAt).isFull =
            (store.cleanupExpired inMemoryBackend draws.purgeAt).isFull inMemoryBackend := rfl
        dsimp only
        rw [hfull, hstill]
        split_ifs
        · rfl
        · exact hpurged
        · exact hadmit
      show (SessionAnswer.created _, _) = (SessionAnswer.created _, _)
      rw [← hcreate]
      rfl
  | validate token now =>
      show (SessionAnswer.validated (store.validate inMemoryBackend token now).1,
          (store.validate inMemoryBackend token now).2.inMemory) =
        (SessionAnswer.validated (store.inMemory.validate token now).1,
          (store.inMemory.validate token now).2)
      unfold validate SessionStore.validate
      have hget : store.inMemory.backend.get token = inMemoryBackend.get store.contents token := rfl
      rw [hget]
      cases inMemoryBackend.get store.contents token with
      | none => rfl
      | some session =>
          dsimp only
          split_ifs <;> rfl
  | revoke token => rfl
  | revokeAllForDid did => rfl
  | listSessions now => rfl
  | cleanupExpired now => rfl

/-! ## What `create` returns -/

/-- The store `create` admits a DID to: it is purged first when it is full. -/
def room (backend : SessionBackend σ) (store : BackedSessionStore σ) (purgeAt : Nat) :
    BackedSessionStore σ :=
  if store.isFull backend then store.cleanupExpired backend purgeAt else store

theorem create_eq (backend : SessionBackend σ) (overflowChecks : Bool)
    (store : BackedSessionStore σ) (did : Str) (draws : SessionDraws) :
    store.create backend overflowChecks did draws =
      if (store.room backend draws.purgeAt).isFull backend then
        (some (.error (.sessionStoreFull store.maxSessions)), store.room backend draws.purgeAt)
      else (store.room backend draws.purgeAt).admitDid backend overflowChecks did draws := by
  unfold create room
  by_cases hfull : store.isFull backend
  · simp only [hfull, if_true]
    rfl
  · simp only [hfull, if_false, Bool.false_eq_true]

theorem validate_eq_ok :
    (store.validate backend token c).1 = .ok did ↔
      ∃ session, backend.get store.contents token = some session ∧ c < session.validUntil ∧
        session.did = did := by
  unfold validate
  cases hget : backend.get store.contents token with
  | none => simp
  | some session =>
      by_cases hexpired : session.validUntil ≤ c
      · simp [hexpired]
      · simp [hexpired, Nat.not_le.mp hexpired]

theorem get_room (h : backend.Lawful) (hc : draws.purgeAt ≤ c) (hlive : c < session.validUntil) :
    backend.get (store.room backend draws.purgeAt).contents token = some session ↔
      backend.get store.contents token = some session := by
  unfold room
  split_ifs
  · have hpurges := h.purges store.contents draws.purgeAt token session
    exact ⟨hpurges.1, fun hget => hpurges.2 hget (hc.trans_lt hlive)⟩
  · rfl

theorem overQuota_eq_some {oldest : Session} (h : store.overQuota backend did = some oldest) :
    oldest ∈ backend.sessionsForDid store.contents did := by
  unfold overQuota at h
  dsimp only at h
  split_ifs at h
  exact List.minOn?_mem h

/-! ## Errors -/

/-- A `create` that returns an error leaves the sessions that validate. -/
def AtomicOnError (backend : SessionBackend σ) (overflowChecks : Bool)
    (store : BackedSessionStore σ) (did : Str) (draws : SessionDraws) (c : Nat) : Prop :=
  ∀ e, (store.create backend overflowChecks did draws).1 = some (.error e) →
    ∀ token owner, (store.validate backend token c).1 = .ok owner →
      ((store.create backend overflowChecks did draws).2.validate backend token c).1 = .ok owner

/-- The backend refuses the session `create` makes for a DID. -/
def Refuses (backend : SessionBackend σ) (overflowChecks : Bool) (store : BackedSessionStore σ)
    (did : Str) (draws : SessionDraws) : Prop :=
  ∃ validUntil e, addU64 overflowChecks draws.now store.ttlSecs = some validUntil ∧
    (backend.insert store.contents ⟨did, tokenOf draws.tokenBytes, validUntil, draws.now⟩).1 =
      .error e

/-- A store with room for a session, where the DID is at its quota and its oldest session is valid
at `c`, over a backend that refuses the new session in its place. -/
def ReplacesInVain (backend : SessionBackend σ) (overflowChecks : Bool)
    (store : BackedSessionStore σ) (did : Str) (draws : SessionDraws) (c : Nat) : Prop :=
  (store.room backend draws.purgeAt).isFull backend = false ∧
  (∃ oldest, (store.room backend draws.purgeAt).overQuota backend did = some oldest ∧
    c < oldest.validUntil) ∧
  ((store.room backend draws.purgeAt).enforcePerDidCap backend did).Refuses backend overflowChecks
    did draws

theorem admitDid_error_iff :
    (∃ e, (store.admitDid backend overflowChecks did draws).1 = some (.error e)) ↔
      (store.enforcePerDidCap backend did).Refuses backend overflowChecks did draws := by
  unfold admitDid issue Refuses
  cases addU64 overflowChecks draws.now (store.enforcePerDidCap backend did).ttlSecs with
  | none => simp
  | some validUntil =>
      dsimp only
      cases hinsert : (backend.insert (store.enforcePerDidCap backend did).contents
        ⟨did, tokenOf draws.tokenBytes, validUntil, draws.now⟩).1 with
      | ok _ => simp [Except.map, hinsert]
      | error e => simp [Except.map, hinsert]

/-- A refused session leaves the sessions that eviction left. -/
theorem get_admitDid_of_error (h : backend.Lawful) {e : AuthError}
    (herror : (store.admitDid backend overflowChecks did draws).1 = some (.error e)) :
    backend.get (store.admitDid backend overflowChecks did draws).2.contents token =
      backend.get (store.enforcePerDidCap backend did).contents token := by
  unfold admitDid issue at herror ⊢
  cases hsum : addU64 overflowChecks draws.now (store.enforcePerDidCap backend did).ttlSecs with
  | none => simp [hsum] at herror
  | some validUntil =>
      simp only [hsum] at herror ⊢
      cases hinsert : (backend.insert (store.enforcePerDidCap backend did).contents
        ⟨did, tokenOf draws.tokenBytes, validUntil, draws.now⟩).1 with
      | ok _ => simp [Except.map, hinsert] at herror
      | error e' => exact h.get_insert_error _ _ e' hinsert token

/-- Eviction takes the oldest session of a DID at its quota, and no other one. -/
theorem get_enforcePerDidCap (h : backend.Lawful)
    (hget : backend.get store.contents token = some session) :
    backend.get (store.enforcePerDidCap backend did).contents token =
      if store.overQuota backend did = some session then none else some session := by
  unfold enforcePerDidCap
  cases hover : store.overQuota backend did with
  | none => simp [hget]
  | some oldest =>
      obtain ⟨hstored, _⟩ := (h.mem_sessionsForDid _ _ _).mp (overQuota_eq_some hover)
      dsimp only
      rw [h.get_remove]
      by_cases htoken : token = oldest.token
      · rw [htoken, hstored] at hget
        simp [htoken, hget]
      · have hother : oldest ≠ session := by
          intro heq
          subst heq
          exact htoken (h.token_of_get _ _ _ hget).symm
        rw [if_neg htoken, if_neg (by simpa using hother), hget]

/-- An error leaves the sessions that validate, except the oldest one of a DID at its quota when
the backend refuses the session that replaces it. -/
theorem create_keepsOnError_iff (backend : SessionBackend σ) (h : backend.Lawful)
    (overflowChecks : Bool) (store : BackedSessionStore σ) (did : Str) (draws : SessionDraws)
    (c : Nat) (hc : draws.purgeAt ≤ c) :
    AtomicOnError backend overflowChecks store did draws c ↔
      ¬ ReplacesInVain backend overflowChecks store did draws c := by
  constructor
  · rintro hatomic ⟨hroom, ⟨oldest, hover, hlive⟩, hrefused⟩
    obtain ⟨e, he⟩ := admitDid_error_iff.mpr hrefused
    have hcreate : store.create backend overflowChecks did draws =
        (store.room backend draws.purgeAt).admitDid backend overflowChecks did draws := by
      rw [create_eq, hroom]
      rfl
    obtain ⟨hstored, _⟩ := (h.mem_sessionsForDid _ _ _).mp (overQuota_eq_some hover)
    have hbefore : (store.validate backend oldest.token c).1 = .ok oldest.did :=
      validate_eq_ok.mpr ⟨oldest, (get_room h hc hlive).mp hstored, hlive, rfl⟩
    have hafter := hatomic e (hcreate ▸ he) _ _ hbefore
    rw [hcreate] at hafter
    obtain ⟨session, hget, _, _⟩ := validate_eq_ok.mp hafter
    rw [get_admitDid_of_error h he, get_enforcePerDidCap h hstored, if_pos hover] at hget
    cases hget
  · intro hnot e he token owner hvalid
    obtain ⟨session, hget, hlive, hdid⟩ := validate_eq_ok.mp hvalid
    have hroom : backend.get (store.room backend draws.purgeAt).contents token = some session :=
      (get_room h hc hlive).mpr hget
    apply validate_eq_ok.mpr
    refine ⟨session, ?_, hlive, hdid⟩
    rw [create_eq] at he ⊢
    cases hfull : (store.room backend draws.purgeAt).isFull backend with
    | true => simpa [hfull] using hroom
    | false =>
        simp only [hfull, Bool.false_eq_true, if_false] at he ⊢
        rw [get_admitDid_of_error h he, get_enforcePerDidCap h hroom]
        have hspared : (store.room backend draws.purgeAt).overQuota backend did ≠ some session :=
          fun hover => hnot ⟨hfull, ⟨session, hover, hlive⟩, admitDid_error_iff.mp ⟨e, he⟩⟩
        rw [if_neg hspared]

/-! ### A login while the backend is down -/

/-- The in-memory backend behind a connection that is down for writing. -/
def unwritableBackend : SessionBackend InMemoryBackend :=
  { inMemoryBackend with
    insert := fun contents _ =>
      (.error (.backendUnavailable (text "connection refused")), contents) }

theorem lawful_unwritableBackend : unwritableBackend.Lawful :=
  { lawful_inMemoryBackend with
    get_insert := fun _ _ h => by cases h
    get_insert_error := fun _ _ _ _ _ => rfl }

/-- One session, which is the quota of its DID. -/
def loggedIn : BackedSessionStore InMemoryBackend :=
  ⟨InMemoryBackend.new.insert
      ⟨text "did:pkh:eip155:1:0xabc", text "token", 1700003600, 1700000000⟩, 3600, 8192, 1⟩

def secondLogin : SessionDraws :=
  ⟨1700000060, ⟨List.replicate 32 9, length_replicate32 9⟩, 1700000060⟩

/-- The second login fails, and the session of the first is gone. -/
theorem create_keepsOnError_fails :
    ¬ ∀ (σ : Type) (backend : SessionBackend σ), backend.Lawful → ∀ overflowChecks store did
      draws c, draws.purgeAt ≤ c → AtomicOnError backend overflowChecks store did draws c := by
  intro hclaim
  have hatomic := hclaim InMemoryBackend unwritableBackend lawful_unwritableBackend true loggedIn
    (text "did:pkh:eip155:1:0xabc") secondLogin 1700000060 (le_refl _)
  have hbefore : (loggedIn.validate unwritableBackend (text "token") 1700000060).1 =
      .ok (text "did:pkh:eip155:1:0xabc") := by decide +kernel
  have hafter :=
    hatomic (.backendUnavailable (text "connection refused")) (by decide +kernel) _ _ hbefore
  have hlost : ((loggedIn.create unwritableBackend true (text "did:pkh:eip155:1:0xabc")
      secondLogin).2.validate unwritableBackend (text "token") 1700000060).1 =
        .error .sessionNotFound := by decide +kernel
  rw [hlost] at hafter
  cases hafter

/-- A second DID logs in without harm to the first while the backend is down. -/
theorem create_keepsOnError_other :
    ¬ ReplacesInVain unwritableBackend true loggedIn (text "did:pkh:eip155:1:0xdef") secondLogin
        1700000060 ∧
      AtomicOnError unwritableBackend true loggedIn (text "did:pkh:eip155:1:0xdef") secondLogin
        1700000060 := by
  have hunder : (loggedIn.room unwritableBackend secondLogin.purgeAt).overQuota unwritableBackend
      (text "did:pkh:eip155:1:0xdef") = none := by decide +kernel
  have hspared : ¬ ReplacesInVain unwritableBackend true loggedIn (text "did:pkh:eip155:1:0xdef")
      secondLogin 1700000060 := by
    rintro ⟨_, ⟨oldest, hover, _⟩, _⟩
    rw [hunder] at hover
    cases hover
  exact ⟨hspared, (create_keepsOnError_iff unwritableBackend lawful_unwritableBackend true loggedIn
    _ secondLogin 1700000060 (le_refl _)).mpr hspared⟩

end BackedSessionStore

end AquaAuth
