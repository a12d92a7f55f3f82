import AquaAuth.Proofs.SessionCaps
set_option autoImplicit false
/-!
# The lifetime of a session

A token is valid from the `create` that issued it until its time to live is over, unless it
is revoked, its DID is revoked, or a later `create` of its DID evicts it: one that runs while
the DID holds its quota of live sessions and the token is the oldest of them.
-/

namespace AquaAuth

open Support

/-- The token a call draws. -/
def SessionOp.drawn : SessionOp → Option Str
  | .create _ draws => some (tokenOf draws.tokenBytes)
  | _ => none

/-- No token is drawn twice. -/
def FreshTokens (ops : List SessionOp) : Prop := (ops.filterMap SessionOp.drawn).Nodup

instance (ops : List SessionOp) : Decidable (FreshTokens ops) :=
  inferInstanceAs (Decidable (List.Nodup _))

/-- The addition of the time to live does not overflow. -/
def SessionOp.Representable (ttlSecs : Nat) : SessionOp → Prop
  | .create _ draws => draws.now + ttlSecs < 2 ^ 64
  | _ => True

/-- A call names a token or its DID. -/
def SessionOp.Names (token did : Str) : SessionOp → Prop
  | .create did' _ => did' = did
  | .validate token' _ => token' = token
  | .revoke token' => token' = token
  | .revokeAllForDid did' => did' = did
  | .listSessions _ => False
  | .cleanupExpired _ => False

namespace SessionStore

variable {store : SessionStore} {did token : Str} {c now : Nat} {overflowChecks : Bool}

/-- `validate` returns a DID for a token. -/
def Valid (store : SessionStore) (token : Str) (c : Nat) (did : Str) : Prop :=
  (store.validate token c).1 = .ok did

instance (store : SessionStore) (token : Str) (c : Nat) (did : Str) :
    Decidable (store.Valid token c did) :=
  inferInstanceAs (Decidable (_ = _))

/-- The live sessions of a DID. -/
def liveSessions (store : SessionStore) (did : Str) (now : Nat) : List Session :=
  (store.backend.sessionsForDid did).filter fun s => now < s.validUntil

/-- The DID holds its quota of live sessions, and the token is the oldest of them. -/
def OldestOverQuota (store : SessionStore) (did token : Str) (now : Nat) : Prop :=
  store.maxSessionsPerDid ≤ (store.liveSessions did now).length ∧
    ∃ s ∈ store.liveSessions did now, s.token = token ∧
      ∀ s' ∈ store.liveSessions did now, evictionRank s ≤ evictionRank s'

/-- A call that ends the validity of a token of a DID. -/
def Invalidates (overflowChecks : Bool) (token did : Str) (store : SessionStore) :
    SessionOp → Prop
  | .create did' draws =>
      did' = did ∧ Succeeds overflowChecks store did draws ∧
        store.OldestOverQuota did token draws.now
  | .revoke token' => token' = token
  | .revokeAllForDid did' => did' = did
  | _ => False

/-- A run of calls none of which ends the validity of a token of a DID. -/
def Survives (overflowChecks : Bool) (token did : Str) (store : SessionStore)
    (ops : List SessionOp) : Prop :=
  (sessionService overflowChecks).Meets (fun store op => ¬ Invalidates overflowChecks token did
    store op) store ops

/-! ## Validity -/

theorem valid_iff :
    store.Valid token c did ↔
      ∃ s, store.backend.get token = some s ∧ s.did = did ∧ c < s.validUntil := by
  unfold Valid validate
  cases store.backend.get token with
  | none => simp
  | some s =>
      by_cases hexpired : s.validUntil ≤ c
      · simp [hexpired]
      · simp [hexpired, Nat.not_le.mp hexpired]

/-- What a call keeps stays valid. -/
theorem valid_keep {p : Session → Bool} :
    (store.keep p).Valid token c did ↔
      ∃ s, store.backend.get token = some s ∧ p s = true ∧ s.did = did ∧ c < s.validUntil := by
  simp only [valid_iff, keep, InMemoryBackend.get_retain, Option.filter_eq_some_iff]
  constructor
  · rintro ⟨s, ⟨hget, hp⟩, hrest⟩
    exact ⟨s, hget, hp, hrest⟩
  · rintro ⟨s, hget, hp, hrest⟩
    exact ⟨s, ⟨hget, hp⟩, hrest⟩

/-- A sweep is not noticed later. -/
theorem valid_cleanupExpired (h : now ≤ c) :
    (store.cleanupExpired now).Valid token c did ↔ store.Valid token c did := by
  rw [cleanupExpired_eq_keep, valid_keep, valid_iff]
  constructor
  · rintro ⟨s, hget, _, hrest⟩
    exact ⟨s, hget, hrest⟩
  · rintro ⟨s, hget, hdid, hlive⟩
    exact ⟨s, hget, by simpa using h.trans_lt hlive, hdid, hlive⟩

/-- Eviction from a DID ends the validity of the session it picks. -/
theorem valid_enforcePerDidCap {did' : Str} :
    (store.enforcePerDidCap did').Valid token c did ↔
      store.Valid token c did ∧
        ∀ s ∈ store.overQuota (store.backend.sessionsForDid did'), s.token ≠ token := by
  rw [enforcePerDidCap, evict_eq_keep, valid_keep, valid_iff]
  constructor
  · rintro ⟨s, hget, hp, hrest⟩
    refine ⟨⟨s, hget, hrest⟩, fun s' hs' htoken => ?_⟩
    have hne : ∀ s' ∈ store.overQuota (store.backend.sessionsForDid did'), s.token ≠ s'.token := by
      simpa using hp
    exact hne s' hs' ((InMemoryBackend.token_of_get hget).trans htoken.symm)
  · rintro ⟨⟨s, hget, hrest⟩, hne⟩
    refine ⟨s, hget, ?_, hrest⟩
    have htoken := InMemoryBackend.token_of_get hget
    simpa [htoken] using fun s' hs' => (hne s' hs').symm

theorem token_eq_of_rank {s s' : Session} (h : evictionRank s ≤ evictionRank s')
    (h' : evictionRank s' ≤ evictionRank s) : s.token = s'.token :=
  congrArg (fun rank => (ofLex rank).2) (le_antisymm h h')

/-- The session eviction picks from the live ones of a DID. -/
theorem overQuota_liveSessions :
    (∃ s ∈ store.overQuota (store.liveSessions did now), s.token = token) ↔
      store.OldestOverQuota did token now := by
  constructor
  · rintro ⟨s, hs, htoken⟩
    obtain ⟨hfull, hmem, hleast⟩ := overQuota_eq_some hs
    exact ⟨hfull, s, hmem, htoken, hleast⟩
  · rintro ⟨hfull, s, hmem, htoken, hleast⟩
    cases hover : store.overQuota (store.liveSessions did now) with
    | none =>
        rcases overQuota_eq_none hover with hlt | hnil
        · omega
        · rw [hnil] at hmem
          cases hmem
    | some oldest =>
        obtain ⟨_, hmem', hleast'⟩ := overQuota_eq_some hover
        refine ⟨oldest, rfl, ?_⟩
        rw [token_eq_of_rank (hleast' s hmem) (hleast oldest hmem'), htoken]

/-! ## One call -/

variable {draws : SessionDraws} {did' : Str}

/-- A DID is admitted with a session under the drawn token. -/
theorem admitDid_eq (overflowChecks : Bool) (did : Str)
    (hsum : draws.now + store.ttlSecs < 2 ^ 64) :
    store.admitDid overflowChecks did draws =
      (some (.ok ⟨did, tokenOf draws.tokenBytes, draws.now + store.ttlSecs, draws.now⟩),
        { store.enforcePerDidCap did with
          backend := (store.enforcePerDidCap did).backend.insert
            ⟨did, tokenOf draws.tokenBytes, draws.now + store.ttlSecs, draws.now⟩ }) := by
  have httl : (store.enforcePerDidCap did).ttlSecs = store.ttlSecs := ttlSecs_evict _
  simp only [← httl] at hsum ⊢
  exact issue_eq hsum

/-- The session eviction picks from a DID is one of that DID. -/
theorem did_of_overQuota {s : Session}
    (hs : s ∈ store.overQuota (store.liveSessions did' now)) (htoken : s.token = token)
    (hvalid : store.Valid token c did) : did' = did := by
  obtain ⟨s', hget, hdid, _⟩ := valid_iff.mp hvalid
  have hmem := List.mem_of_mem_filter (overQuota_eq_some hs).2.1
  obtain ⟨hget', hdid'⟩ := InMemoryBackend.mem_sessionsForDid.mp hmem
  rw [htoken, hget] at hget'
  rw [← hdid', ← hdid, Option.some.inj hget']

/-- The validity of another token after a `create`. -/
theorem valid_create_other (h : store.Regular) (hpurge : draws.purgeAt ≤ draws.now)
    (hc : draws.now ≤ c) (hsum : draws.now + store.ttlSecs < 2 ^ 64)
    (hother : token ≠ tokenOf draws.tokenBytes) :
    (store.create overflowChecks did' draws).2.Valid token c did ↔
      store.Valid token c did ∧
        ¬ Invalidates overflowChecks token did store (.create did' draws) := by
  unfold Invalidates Succeeds
  have hcreates := creates_create overflowChecks store did' draws
  generalize hcreate : store.create overflowChecks did' draws = outcome at hcreates
  cases hcreates with
  | rejected _ =>
      rw [valid_cleanupExpired (hpurge.trans hc)]
      refine (and_iff_left ?_).symm
      rintro ⟨rfl, ⟨session, hsucceeds⟩, _⟩
      simp [hcreate] at hsucceeds
  | admitted hlen =>
      have hregular := h.room draws.purgeAt
      rw [← ttlSecs_room draws.purgeAt] at hsum
      have hadmitted := admitDid_eq overflowChecks did' hsum
      -- The insertion is under another token, and eviction is seen through a sweep.
      have hinsert : ((store.room draws.purgeAt).admitDid overflowChecks did' draws).2.Valid
          token c did ↔ ((store.room draws.purgeAt).enforcePerDidCap did').Valid token c did := by
        simp only [hadmitted, valid_iff, InMemoryBackend.get_insert, if_neg hother]
      have hrows : (store.cleanupExpired draws.now).backend.sessionsForDid did' =
          store.liveSessions did' draws.now := sessionsForDid_cleanupExpired
      rw [hinsert, ← valid_cleanupExpired hc, enforcePerDidCap_cleanupExpired hregular,
        cleanupExpired_room hpurge, valid_enforcePerDidCap, valid_cleanupExpired hc, hrows]
      refine and_congr_right fun hvalid => ?_
      have hover : (∃ s ∈ store.overQuota (store.liveSessions did' draws.now), s.token = token) ↔
          store.OldestOverQuota did' token draws.now := overQuota_liveSessions
      constructor
      · rintro hnone ⟨rfl, _, holdest⟩
        obtain ⟨s, hs, htoken⟩ := hover.mpr holdest
        exact hnone s hs htoken
      · intro hkeeps s hs htoken
        obtain rfl := did_of_overQuota hs htoken hvalid
        exact hkeeps ⟨rfl, ⟨_, by rw [hcreate, hadmitted]⟩, hover.mp ⟨s, hs, htoken⟩⟩

/-- The drawn token after a `create`. -/
theorem valid_create_drawn (hsum : draws.now + store.ttlSecs < 2 ^ 64)
    (hfresh : store.backend.get (tokenOf draws.tokenBytes) = none) :
    (store.create overflowChecks did' draws).2.Valid (tokenOf draws.tokenBytes) c did ↔
      Succeeds overflowChecks store did' draws ∧ did' = did ∧
        c < draws.now + store.ttlSecs := by
  unfold Succeeds
  have hcreates := creates_create overflowChecks store did' draws
  generalize hcreate : store.create overflowChecks did' draws = outcome at hcreates
  cases hcreates with
  | rejected _ =>
      refine iff_of_false ?_ ?_
      · rw [valid_iff, get_cleanupExpired, hfresh]
        simp
      · rintro ⟨⟨session, hsucceeds⟩, _⟩
        simp at hsucceeds
  | admitted hlen =>
      rw [← ttlSecs_room draws.purgeAt] at hsum
      have hadmitted := admitDid_eq overflowChecks did' hsum
      simp [hadmitted, valid_iff, InMemoryBackend.get_insert]

/-- The validity of a token after a call that does not draw it. -/
theorem valid_call {clock : Nat} {op : SessionOp} (h : store.Regular)
    (htimely : (sessionService overflowChecks).Timely clock op)
    (hc : (sessionService overflowChecks).clock clock op ≤ c)
    (hsum : op.Representable store.ttlSecs) (hother : op.drawn ≠ some token) :
    (store.call overflowChecks op).2.Valid token c did ↔
      store.Valid token c did ∧ ¬ Invalidates overflowChecks token did store op := by
  cases op with
  | create did' draws =>
      have hpurge : draws.purgeAt ≤ draws.now := by
        have hpairs : ([clock, draws.purgeAt, draws.now] : List Nat).Pairwise (· ≤ ·) := htimely
        simp only [List.pairwise_cons, List.mem_cons] at hpairs
        exact hpairs.2.1 draws.now (.inl rfl)
      exact valid_create_other h hpurge hc hsum fun htoken => hother (congrArg some htoken.symm)
  | validate token' now =>
      have hnow : now ≤ c := hc
      change (store.validate token' now).2.Valid token c did ↔ _ ∧ ¬ False
      rw [not_false_eq_true, and_true]
      unfold SessionStore.validate
      cases hget : store.backend.get token' with
      | none => exact Iff.rfl
      | some session =>
          dsimp only
          split_ifs with hexpired
          · -- What is removed had expired.
            simp only [valid_iff, InMemoryBackend.remove, InMemoryBackend.get_erase]
            by_cases htoken : token = token'
            · subst htoken
              simp only [if_pos, hget]
              refine iff_of_false (by simp) ?_
              rintro ⟨s, hs, _, hlive⟩
              obtain rfl := Option.some.inj hs
              omega
            · simp only [if_neg htoken]
          · exact Iff.rfl
  | revoke token' =>
      change (SessionStore.revoke store token').2.Valid token c did ↔ _ ∧ ¬ token' = token
      simp only [SessionStore.revoke, valid_iff, InMemoryBackend.remove, InMemoryBackend.get_erase]
      by_cases htoken : token = token'
      · simp [htoken]
      · simp [htoken, Ne.symm htoken]
  | revokeAllForDid did' =>
      change (SessionStore.revokeAllForDid store did').2.Valid token c did ↔ _ ∧ ¬ did' = did
      rw [SessionStore.revokeAllForDid, InMemoryBackend.removeAllForDid_snd]
      change (store.keep fun s => s.did ≠ did').Valid token c did ↔ _
      rw [valid_keep, valid_iff]
      constructor
      · rintro ⟨s, hget, hkept, hdid, hlive⟩
        refine ⟨⟨s, hget, hdid, hlive⟩, fun heq => ?_⟩
        rw [heq, hdid] at hkept
        simp at hkept
      · rintro ⟨⟨s, hget, hdid, hlive⟩, hne⟩
        exact ⟨s, hget, by simpa [hdid] using Ne.symm hne, hdid, hlive⟩
  | listSessions now => exact (and_iff_left id).symm
  | cleanupExpired now => exact (valid_cleanupExpired hc).trans (and_iff_left id).symm

/-! ## Runs -/

variable {ops : List SessionOp}

/-- What a run needs for its sessions to live as long as they should. -/
structure Ordinary (overflowChecks : Bool) (ttlSecs clock c : Nat) (ops : List SessionOp) :
    Prop where
  chronological : (sessionService overflowChecks).Chronological clock ops
  fresh : FreshTokens ops
  representable : ∀ op ∈ ops, op.Representable ttlSecs
  before : (sessionService overflowChecks).clockAfter clock ops ≤ c

theorem exact_of_representable {ttlSecs : Nat} {op : SessionOp} (h : op.Representable ttlSecs) :
    Exact overflowChecks ttlSecs op := by
  cases op with
  | create did draws => exact .inr h
  | _ => trivial

theorem Ordinary.tail {ttlSecs clock : Nat} {op : SessionOp}
    (h : Ordinary overflowChecks ttlSecs clock c (op :: ops)) :
    Ordinary overflowChecks ttlSecs ((sessionService overflowChecks).clock clock op) c ops where
  chronological := h.chronological.2
  fresh := by
    have hnodup := h.fresh
    unfold FreshTokens at hnodup ⊢
    cases hdrawn : op.drawn with
    | none => rwa [List.filterMap_cons_none hdrawn] at hnodup
    | some drawn =>
        rw [List.filterMap_cons_some hdrawn] at hnodup
        exact hnodup.of_cons
  representable op' hop' := h.representable op' (List.mem_cons_of_mem op hop')
  before := h.before

/-- A first call and the calls after it. -/
theorem Ordinary.first {ttlSecs clock : Nat} {op : SessionOp}
    (h : Ordinary overflowChecks ttlSecs clock c (op :: ops)) :
    (sessionService overflowChecks).Timely clock op ∧
      (sessionService overflowChecks).clock clock op ≤ c ∧ op.Representable ttlSecs :=
  ⟨h.chronological.1, (Service.le_clockAfter h.chronological.2).trans h.before,
    h.representable op List.mem_cons_self⟩

theorem Ordinary.not_drawn {ttlSecs clock : Nat} {op : SessionOp}
    (h : Ordinary overflowChecks ttlSecs clock c (op :: ops)) (htoken : op.drawn = some token) :
    ∀ op' ∈ ops, op'.drawn ≠ some token := by
  have hnodup := h.fresh
  unfold FreshTokens at hnodup
  rw [List.filterMap_cons_some htoken] at hnodup
  intro op' hop' hdrawn
  exact (List.nodup_cons.mp hnodup).1 (List.mem_filterMap.mpr ⟨op', hop', hdrawn⟩)

/-- A token that a run does not draw is valid after it if it was before and nothing ended its
validity. -/
theorem valid_after {clock : Nat} (h : store.Regular)
    (hordinary : Ordinary overflowChecks store.ttlSecs clock c ops)
    (hother : ∀ op ∈ ops, op.drawn ≠ some token) :
    ((sessionService overflowChecks).after store ops).Valid token c did ↔
      store.Valid token c did ∧ Survives overflowChecks token did store ops := by
  induction ops generalizing store clock with
  | nil => exact (and_iff_left trivial).symm
  | cons op ops ih =>
      obtain ⟨htimely, hc, hsum⟩ := hordinary.first
      have hstep : (store.call overflowChecks op).2.Valid token c did ↔
          store.Valid token c did ∧ ¬ Invalidates overflowChecks token did store op :=
        valid_call h htimely hc hsum (hother op List.mem_cons_self)
      have htail := hordinary.tail
      rw [← (call_limits overflowChecks store op).1] at htail
      have hrest := ih (h.call op (exact_of_representable hsum)) htail
        fun op' hop' => hother op' (List.mem_cons_of_mem op hop')
      calc ((sessionService overflowChecks).after store (op :: ops)).Valid token c did
          ↔ (store.call overflowChecks op).2.Valid token c did ∧
              Survives overflowChecks token did (store.call overflowChecks op).2 ops := hrest
        _ ↔ _ := by rw [hstep, and_assoc]; rfl

/-- A call stores no session but one under the token it draws. -/
theorem get_call_eq_none {op : SessionOp} (habsent : store.backend.get token = none)
    (hother : op.drawn ≠ some token) :
    (store.call overflowChecks op).2.backend.get token = none := by
  have hkeep : ∀ store : SessionStore, store.backend.get token = none →
      ∀ p, (store.keep p).backend.get token = none := fun store h p => by
    rw [keep, InMemoryBackend.get_retain, h]
    rfl
  have hcalls := calls_call overflowChecks store op
  generalize (store.call overflowChecks op).2 = store' at hcalls
  cases hcalls with
  | kept op p => exact hkeep store habsent p
  | @admitted did draws _ =>
      have hroom : (store.room draws.purgeAt).backend.get token = none := by
        rcases room_cases store draws.purgeAt with h | h <;> rw [h]
        · exact habsent
        · exact hkeep store habsent _
      have hcap : ((store.room draws.purgeAt).enforcePerDidCap did).backend.get token = none := by
        rw [enforcePerDidCap, evict_eq_keep]
        exact hkeep _ hroom _
      rcases admitDid_eq_keep_or_insert overflowChecks (store.room draws.purgeAt) did draws
        with h | ⟨_, h, _⟩ <;> rw [h]
      · exact hcap
      · rw [InMemoryBackend.get_insert, if_neg fun htoken => hother (congrArg some htoken.symm)]
        exact hcap

/-- A session of a DID under a token was returned and nothing ended its validity since. -/
def Lives (overflowChecks : Bool) (store : SessionStore) (token : Str) (c : Nat) (did : Str)
    (ops : List SessionOp) : Prop :=
  ∃ before draws rest session, ops = before ++ .create did draws :: rest ∧
    (((sessionService overflowChecks).after store before).create overflowChecks did draws).1 =
      some (.ok session) ∧
    session.token = token ∧ c < session.createdAt + store.ttlSecs ∧
    Survives overflowChecks token did
      ((sessionService overflowChecks).after store (before ++ [.create did draws])) rest

/-- The session `create` returns carries the DID, the drawn token and the readings. -/
theorem session_of_create {session : Session}
    (hsum : draws.now + store.ttlSecs < 2 ^ 64)
    (h : (store.create overflowChecks did draws).1 = some (.ok session)) :
    session = ⟨did, tokenOf draws.tokenBytes, draws.now + store.ttlSecs, draws.now⟩ := by
  have hcreates := creates_create overflowChecks store did draws
  generalize store.create overflowChecks did draws = outcome at hcreates h
  cases hcreates with
  | rejected _ => simp at h
  | admitted _ =>
      rw [← ttlSecs_room draws.purgeAt] at hsum ⊢
      rw [admitDid_eq overflowChecks did hsum] at h
      simpa using h.symm

theorem lives_cons {op : SessionOp} :
    Lives overflowChecks store token c did (op :: ops) ↔
      (∃ draws session, op = .create did draws ∧
        (store.create overflowChecks did draws).1 = some (.ok session) ∧
        session.token = token ∧ c < session.createdAt + store.ttlSecs ∧
        Survives overflowChecks token did (store.call overflowChecks op).2 ops) ∨
      Lives overflowChecks (store.call overflowChecks op).2 token c did ops := by
  have httl := (call_limits overflowChecks store op).1
  constructor
  · rintro ⟨before, draws, rest, session, hops, hcreate, htoken, hlive, hsurvives⟩
    cases before with
    | nil =>
        obtain ⟨rfl, rfl⟩ := List.cons.inj hops
        exact .inl ⟨draws, session, rfl, hcreate, htoken, hlive, hsurvives⟩
    | cons first before =>
        obtain ⟨rfl, rfl⟩ := List.cons.inj hops
        exact .inr ⟨before, draws, rest, session, rfl, hcreate, htoken, httl.symm ▸ hlive,
          hsurvives⟩
  · rintro (⟨draws, session, rfl, hcreate, htoken, hlive, hsurvives⟩ |
      ⟨before, draws, rest, session, rfl, hcreate, htoken, hlive, hsurvives⟩)
    · exact ⟨[], draws, ops, session, rfl, hcreate, htoken, hlive, hsurvives⟩
    · exact ⟨op :: before, draws, rest, session, rfl, hcreate, htoken, httl ▸ hlive, hsurvives⟩

/-- A token that lives was drawn. -/
theorem Lives.drawn (hsum : ∀ op ∈ ops, op.Representable store.ttlSecs)
    (h : Lives overflowChecks store token c did ops) : ∃ op ∈ ops, op.drawn = some token := by
  induction ops generalizing store with
  | nil =>
      obtain ⟨before, draws, rest, _, hops, _⟩ := h
      simp at hops
  | cons op ops ih =>
      rcases lives_cons.mp h with ⟨draws, session, rfl, hcreate, htoken, _⟩ | hrest
      · have hsession := session_of_create (hsum _ List.mem_cons_self) hcreate
        rw [hsession] at htoken
        exact ⟨_, List.mem_cons_self, congrArg some htoken⟩
      · rw [← (call_limits overflowChecks store op).1] at hsum
        obtain ⟨op', hop', hdrawn⟩ :=
          ih (fun op' hop' => hsum op' (List.mem_cons_of_mem op hop')) hrest
        exact ⟨op', List.mem_cons_of_mem op hop', hdrawn⟩

/-- The tokens valid after a run from a store that does not know them. -/
theorem valid_iff_lives {clock : Nat} (h : store.Regular)
    (hordinary : Ordinary overflowChecks store.ttlSecs clock c ops)
    (habsent : store.backend.get token = none) :
    ((sessionService overflowChecks).after store ops).Valid token c did ↔
      Lives overflowChecks store token c did ops := by
  induction ops generalizing store clock with
  | nil =>
      refine iff_of_false ?_ ?_
      · rw [valid_iff]
        change ¬ ∃ s, store.backend.get token = some s ∧ _
        simp [habsent]
      · rintro ⟨before, draws, rest, _, hops, _⟩
        simp at hops
  | cons op ops ih =>
      obtain ⟨htimely, hc, hsum⟩ := hordinary.first
      have hregular : (store.call overflowChecks op).2.Regular :=
        h.call op (exact_of_representable hsum)
      have htail := hordinary.tail
      rw [← (call_limits overflowChecks store op).1] at htail
      rw [lives_cons]
      by_cases hdrawn : op.drawn = some token
      · -- This call draws the token and no later one does.
        cases op with
        | create did' draws =>
            obtain rfl := Option.some.inj hdrawn
            have hnever := hordinary.not_drawn hdrawn
            have hdead : ¬ Lives overflowChecks
                (store.call overflowChecks (.create did' draws)).2 (tokenOf draws.tokenBytes) c did
                ops := fun hlives => by
              obtain ⟨op', hop', hdrawn'⟩ := hlives.drawn htail.representable
              exact hnever op' hop' hdrawn'
            have hcreated : (store.call overflowChecks (.create did' draws)).2.Valid
                (tokenOf draws.tokenBytes) c did ↔
                  Succeeds overflowChecks store did' draws ∧ did' = did ∧
                    c < draws.now + store.ttlSecs := valid_create_drawn hsum habsent
            refine ((valid_after hregular htail hnever).trans (and_congr_left' hcreated)).trans ?_
            rw [or_iff_left hdead]
            constructor
            · rintro ⟨⟨⟨session, hcreate⟩, rfl, hlive⟩, hsurvives⟩
              have hsession := session_of_create hsum hcreate
              exact ⟨draws, session, rfl, hcreate, hsession ▸ rfl, hsession ▸ hlive, hsurvives⟩
            · rintro ⟨draws', session, hop, hcreate, _, hlive, hsurvives⟩
              obtain ⟨rfl, rfl⟩ := SessionOp.create.inj hop
              have hsession := session_of_create hsum hcreate
              rw [hsession] at hlive
              exact ⟨⟨⟨session, hcreate⟩, rfl, hlive⟩, hsurvives⟩
        | _ => cases hdrawn
      · have hdead : ¬ ∃ draws session, op = .create did draws ∧
            (store.create overflowChecks did draws).1 = some (.ok session) ∧
            session.token = token ∧ c < session.createdAt + store.ttlSecs ∧
            Survives overflowChecks token did (store.call overflowChecks op).2 ops := by
          rintro ⟨draws, session, rfl, hcreate, htoken, _⟩
          have hsession := session_of_create hsum hcreate
          rw [hsession] at htoken
          exact hdrawn (congrArg some htoken)
        rw [or_iff_right hdead]
        exact ih hregular htail (get_call_eq_none habsent hdrawn)

/-! ## Isolation -/

theorem Ordinary.append {ttlSecs clock : Nat} {ops' : List SessionOp}
    (h : Ordinary overflowChecks ttlSecs clock c (ops ++ ops')) :
    Ordinary overflowChecks ttlSecs clock c ops ∧
      Ordinary overflowChecks ttlSecs ((sessionService overflowChecks).clockAfter clock ops) c
        ops' := by
  induction ops generalizing clock with
  | nil =>
      refine ⟨⟨trivial, List.nodup_nil, fun op hop => (List.not_mem_nil hop).elim, ?_⟩, h⟩
      exact (Service.le_clockAfter h.chronological).trans h.before
  | cons op ops ih =>
      obtain ⟨hops, hops'⟩ := ih h.tail
      refine ⟨⟨⟨h.chronological.1, hops.chronological⟩, ?_, fun op' hop' => ?_, hops.before⟩, hops'⟩
      · have hnodup := h.fresh
        unfold FreshTokens at hnodup ⊢
        rw [List.cons_append, ← List.cons_append, List.filterMap_append] at hnodup
        exact (List.nodup_append.mp hnodup).1
      · exact h.representable op' (List.mem_append_left ops' hop')

theorem names_of_invalidates {op : SessionOp}
    (h : Invalidates overflowChecks token did store op) : op.Names token did := by
  cases op with
  | create did' draws => exact h.1
  | revoke token' => exact h
  | revokeAllForDid did' => exact h
  | _ => exact h.elim

/-- A token stays valid across a call that names neither it nor its DID. -/
theorem valid_of_not_names {clock : Nat} {op : SessionOp} (h : store.Regular)
    (hordinary : Ordinary overflowChecks store.ttlSecs clock c (ops ++ [op]))
    (habsent : store.backend.get token = none) (hnames : ¬ op.Names token did)
    (hvalid : ((sessionService overflowChecks).after store ops).Valid token c did) :
    ((sessionService overflowChecks).after store (ops ++ [op])).Valid token c did := by
  obtain ⟨hops, hop⟩ := hordinary.append
  obtain ⟨htimely, hc, hsum⟩ := hop.first
  obtain ⟨drawing, hdrawing, hdrawn⟩ :=
    ((valid_iff_lives h hops habsent).mp hvalid).drawn hops.representable
  have hother : op.drawn ≠ some token := fun hagain => by
    have hnodup := hordinary.fresh
    unfold FreshTokens at hnodup
    rw [List.filterMap_append] at hnodup
    exact (List.nodup_append.mp hnodup).2.2 token
      (List.mem_filterMap.mpr ⟨drawing, hdrawing, hdrawn⟩) token
      (List.mem_filterMap.mpr ⟨op, List.mem_singleton_self op, hagain⟩) rfl
  have hafter : ((sessionService overflowChecks).after store ops).Regular ∧
      ((sessionService overflowChecks).after store ops).ttlSecs = store.ttlSecs :=
    Service.after_of_forall (S := sessionService overflowChecks)
      (P := fun store' => store'.Regular ∧ store'.ttlSecs = store.ttlSecs)
      (fun store' op' h' hop' => ⟨h'.1.call op' (h'.2.symm ▸ hop'),
        (call_limits overflowChecks store' op').1.trans h'.2⟩)
      (fun op' hop' => exact_of_representable (hops.representable op' hop')) ⟨h, rfl⟩
  rw [← hafter.2] at hsum
  rw [Service.after_append]
  exact (valid_call hafter.1 htimely hc hsum hother).mpr
    ⟨hvalid, fun hends => hnames (names_of_invalidates hends)⟩

/-! ## Listing -/

/-- The session a call returned. -/
def created : SessionOp × SessionAnswer → Option Session
  | (_, .created (some (.ok session))) => some session
  | _ => none

/-- The sessions a run returned. -/
def issued (overflowChecks : Bool) (store : SessionStore) (ops : List SessionOp) : List Session :=
  ((sessionService overflowChecks).answers store ops).filterMap created

def infoOf (session : Session) : SessionInfo := ⟨session.did, session.createdAt, session.validUntil⟩

theorem mem_keep {session : Session} {p : Session → Bool}
    (h : session ∈ (store.keep p).backend.all) : session ∈ store.backend.all := by
  rw [keep, InMemoryBackend.all_retain] at h
  exact List.mem_of_mem_filter h

theorem issued_cons {op : SessionOp} :
    issued overflowChecks store (op :: ops) =
      (created (op, (store.call overflowChecks op).1)).toList ++
        issued overflowChecks (store.call overflowChecks op).2 ops := by
  unfold issued
  rw [Service.answers, List.filterMap_cons]
  cases h : created (op, ((sessionService overflowChecks).call store op).1) <;>
    simp [sessionService] at h ⊢ <;> simp [h]

theorem created_eq_some {session : Session}
    (h : created (.create did draws, (store.call overflowChecks (.create did draws)).1) =
      some session) : (store.create overflowChecks did draws).1 = some (.ok session) := by
  change created (_, .created (store.create overflowChecks did draws).1) = _ at h
  cases hresult : (store.create overflowChecks did draws).1 with
  | none => simp [hresult, created] at h
  | some result =>
      cases result with
      | error e => simp [hresult, created] at h
      | ok session' => simpa [hresult, created] using h

theorem mem_of_kept {session : Session} {op : SessionOp} {store' : SessionStore}
    (hcalls : Calls overflowChecks store op store') (hop : ∀ did draws, op ≠ .create did draws)
    (h : session ∈ store'.backend.all) : session ∈ store.backend.all := by
  cases hcalls with
  | kept op p => exact mem_keep h
  | admitted _ => exact absurd rfl (hop _ _)

/-- A call stores no session but the one it returns. -/
theorem mem_call {session : Session} {op : SessionOp} (hsum : op.Representable store.ttlSecs)
    (h : session ∈ (store.call overflowChecks op).2.backend.all) :
    session ∈ store.backend.all ∨
      created (op, (store.call overflowChecks op).1) = some session := by
  cases op with
  | create did draws =>
      have hcreates := creates_create overflowChecks store did draws
      change session ∈ (store.create overflowChecks did draws).2.backend.all at h
      change _ ∨ created (_, .created (store.create overflowChecks did draws).1) = _
      generalize store.create overflowChecks did draws = outcome at hcreates h
      cases hcreates with
      | rejected _ => exact .inl (mem_keep h)
      | admitted _ =>
          have hroom : ∀ s ∈ (store.room draws.purgeAt).backend.all, s ∈ store.backend.all := by
            intro s hs
            rcases room_cases store draws.purgeAt with hroom | hroom <;> rw [hroom] at hs
            · exact hs
            · exact mem_keep hs
          change draws.now + store.ttlSecs < 2 ^ 64 at hsum
          rw [← ttlSecs_room draws.purgeAt] at hsum
          rw [admitDid_eq overflowChecks did hsum] at h ⊢
          simp only [InMemoryBackend.all_insert, List.mem_cons] at h
          rcases h with rfl | hold
          · exact .inr rfl
          · rw [InMemoryBackend.erase_eq_retain, InMemoryBackend.all_retain] at hold
            have hcap := List.mem_of_mem_filter hold
            rw [enforcePerDidCap, evict_eq_keep] at hcap
            exact .inl (hroom session (mem_keep hcap))
  | _ => exact .inl (mem_of_kept (calls_call overflowChecks store _) (by simp) h)

theorem mem_after {clock : Nat} {session : Session}
    (hordinary : Ordinary overflowChecks store.ttlSecs clock c ops)
    (h : session ∈ ((sessionService overflowChecks).after store ops).backend.all) :
    session ∈ store.backend.all ∨ session ∈ issued overflowChecks store ops := by
  induction ops generalizing store clock with
  | nil => exact .inl h
  | cons op ops ih =>
      have htail := hordinary.tail
      rw [← (call_limits overflowChecks store op).1] at htail
      rw [issued_cons, List.mem_append, Option.mem_toList]
      rcases ih htail h with hcall | hrest
      · exact (mem_call hordinary.first.2.2 hcall).imp_right .inl
      · exact .inr (.inr hrest)

/-- The tokens of the sessions a run returns are among those it draws. -/
theorem issued_sublist_drawn (hsum : ∀ op ∈ ops, op.Representable store.ttlSecs) :
    ((issued overflowChecks store ops).map Session.token).Sublist
      (ops.filterMap SessionOp.drawn) := by
  induction ops generalizing store with
  | nil => exact List.Sublist.refl _
  | cons op ops ih =>
      have hop := hsum op List.mem_cons_self
      rw [← (call_limits overflowChecks store op).1] at hsum
      have hrest := ih fun op' hop' => hsum op' (List.mem_cons_of_mem op hop')
      rw [issued_cons, List.map_append]
      cases op with
      | create did draws =>
          have hdrawn : (SessionOp.create did draws :: ops).filterMap SessionOp.drawn =
              tokenOf draws.tokenBytes :: ops.filterMap SessionOp.drawn := rfl
          rw [hdrawn]
          cases hcreated : created (SessionOp.create did draws,
              (store.call overflowChecks (.create did draws)).1) with
          | none => exact hrest.cons _
          | some session =>
              have hsession := session_of_create hop (created_eq_some hcreated)
              rw [hsession]
              exact hrest.cons_cons _
      | _ => exact hrest

theorem nodup_all : store.backend.all.Nodup := by
  have hkeys : store.backend.all.map Session.token =
      store.backend.sessions.entries.map Prod.fst := by
    rw [InMemoryBackend.all, List.map_map]
    exact List.map_congr_left fun e he => store.backend.keyed e he
  exact List.Nodup.of_map Session.token (hkeys ▸ store.backend.sessions.nodup)

/-- A listing reports the sessions the run returned that are still valid. -/
theorem listSessions_perm {clock : Nat}
    (hordinary : Ordinary overflowChecks store.ttlSecs clock c ops)
    (hempty : store.backend.all = []) :
    (((sessionService overflowChecks).after store ops).listSessions c).Perm
      (((issued overflowChecks store ops).filter fun s =>
        ((sessionService overflowChecks).after store ops).Valid s.token c s.did).map infoOf) := by
  have htokens : ((issued overflowChecks store ops).map Session.token).Nodup :=
    (issued_sublist_drawn hordinary.representable).nodup hordinary.fresh
  have hissued : ∀ s ∈ ((sessionService overflowChecks).after store ops).backend.all,
      s ∈ issued overflowChecks store ops := fun s hs =>
    (mem_after hordinary hs).resolve_left (by simp [hempty])
  refine List.Perm.map infoOf ?_
  refine (List.perm_ext_iff_of_nodup (nodup_all.filter _)
    ((List.Nodup.of_map _ htokens).filter _)).mpr fun s => ?_
  simp only [List.mem_filter, decide_eq_true_eq]
  constructor
  · rintro ⟨hs, hlive⟩
    exact ⟨hissued s hs, valid_iff.mpr ⟨s, InMemoryBackend.mem_all.mp hs, rfl, hlive⟩⟩
  · rintro ⟨hs, hvalid⟩
    obtain ⟨s', hget, _, hlive⟩ := valid_iff.mp hvalid
    have hmem := InMemoryBackend.mem_all_of_get hget
    obtain rfl : s' = s := List.inj_on_of_nodup_map htokens (hissued s' hmem) hs
      (InMemoryBackend.token_of_get hget)
    exact ⟨hmem, hlive⟩

/-- After a run from an empty store a token is valid for a DID exactly when a `create` returned
it to that DID within the time to live and nothing ended its validity since; a call that names
neither the token nor its DID leaves it valid; and a listing reports the valid sessions. -/
theorem sessions_live_isolated (overflowChecks : Bool)
    (ttlSecs maxSessions maxSessionsPerDid : Nat) (ops : List SessionOp) (c : Nat)
    (h : Ordinary overflowChecks ttlSecs 0 c ops) :
    (∀ token did,
      (reached overflowChecks ttlSecs maxSessions maxSessionsPerDid ops).Valid token c did ↔
        Lives overflowChecks (withCapacity ttlSecs maxSessions maxSessionsPerDid) token c did
          ops) ∧
    (∀ op token did, Ordinary overflowChecks ttlSecs 0 c (ops ++ [op]) → ¬ op.Names token did →
      (reached overflowChecks ttlSecs maxSessions maxSessionsPerDid ops).Valid token c did →
      (reached overflowChecks ttlSecs maxSessions maxSessionsPerDid (ops ++ [op])).Valid
        token c did) ∧
    ((reached overflowChecks ttlSecs maxSessions maxSessionsPerDid ops).listSessions c).Perm
      (((issued overflowChecks (withCapacity ttlSecs maxSessions maxSessionsPerDid) ops).filter
        fun s => (reached overflowChecks ttlSecs maxSessions maxSessionsPerDid ops).Valid
          s.token c s.did).map infoOf) := by
  have hregular := regular_withCapacity ttlSecs maxSessions maxSessionsPerDid
  refine ⟨fun token did => ?_, fun op token did hordinary hnames hvalid => ?_, ?_⟩
  · exact valid_iff_lives hregular h rfl
  · exact valid_of_not_names hregular hordinary rfl hnames hvalid
  · exact listSessions_perm h rfl

/-- A login, a sweep and a login of the same DID: the first session is valid with a quota of
two. -/
theorem sessions_live_isolated_logins :
    (reached false 3600 8 2 [login 1 1700000000, .cleanupExpired 1700000001,
      login 2 1700000002]).Valid (tokenOf (sampleTokenBytes 1)) 1700000003
        (text "did:pkh:eip155:1:0xabc") ∧
    Lives false (withCapacity 3600 8 2) (tokenOf (sampleTokenBytes 1)) 1700000003
      (text "did:pkh:eip155:1:0xabc")
      [login 1 1700000000, .cleanupExpired 1700000001, login 2 1700000002] := by
  have hordinary : Ordinary false 3600 0 1700000003
      [login 1 1700000000, .cleanupExpired 1700000001, login 2 1700000002] :=
    ⟨by decide, by decide +kernel, by simp [login, SessionOp.Representable], by decide⟩
  have hvalid : (reached false 3600 8 2 [login 1 1700000000, .cleanupExpired 1700000001,
      login 2 1700000002]).Valid (tokenOf (sampleTokenBytes 1)) 1700000003
        (text "did:pkh:eip155:1:0xabc") := by decide +kernel
  exact ⟨hvalid, ((sessions_live_isolated false 3600 8 2 _ 1700000003 hordinary).1 _ _).mp hvalid⟩

end SessionStore

end AquaAuth
