import AquaAuth.Proofs.Admission
import AquaAuth.Proofs.Challenges
set_option autoImplicit false
/-!
# Errors that leave a store as it was

`create` makes room before its last fallible step.  When that step fails at capacity, a live
entry has been evicted for one that is never stored.
-/

namespace AquaAuth

open Support Support.Result

/-! ## The challenge store -/

namespace ChallengeStore

variable {B : Build} {store : ChallengeStore} {did : Str} {draws : ChallengeDraws}

/-- The challenges that are not expired at a clock value, with their nonces. -/
def pending (store : ChallengeStore) (now : Nat) : List (Str × Challenge) :=
  store.challenges.entries.filter fun entry => now < entry.2.expiresAt

/-- A `create` that returns an error leaves the pending challenges as they were. -/
def AtomicOnError (B : Build) (store : ChallengeStore) (did : Str) (draws : ChallengeDraws) :
    Prop :=
  ∀ e, (store.create B did draws).1 = some (.error e) → ∀ now, draws.purgeAt.secs ≤ now →
    ∀ entry, entry ∈ (store.create B did draws).2.pending now ↔ entry ∈ store.pending now

/-- At capacity, also after the purge, and with something to evict. -/
def Crowded (store : ChallengeStore) (now : Nat) : Prop :=
  store.maxChallenges ≤ (store.pending now).length ∧ 0 < (store.pending now).length

theorem pending_eq (now : Nat) :
    store.pending now = (store.cleanupExpired now).challenges.entries := rfl

/-- Making room takes a pending challenge exactly when the store is crowded. -/
theorem pending_makeRoom_iff (c : Nat) :
    (∀ entry, entry ∈ (store.makeRoom c).pending c ↔ entry ∈ store.pending c) ↔
      ¬ store.Crowded c := by
  have hidem : (store.cleanupExpired c).challenges.retain
      (fun _ challenge => decide (c < challenge.expiresAt)) =
        (store.cleanupExpired c).challenges := by
    exact congrArg ChallengeStore.challenges (cleanupExpired_cleanupExpired (le_refl c))
  rw [pending_eq, cleanupExpired_makeRoom, pending_eq, makeRoom_eq]
  simp only [KeyedMap.makeRoom, hidem]
  have hlen : (store.pending c).length = (store.cleanupExpired c).challenges.len := rfl
  have hmax : (store.cleanupExpired c).maxChallenges = store.maxChallenges := rfl
  rw [Crowded, hlen, hmax]
  by_cases hfull : store.maxChallenges ≤ (store.cleanupExpired c).challenges.len
  · simp only [hfull, if_true, true_and, Nat.not_lt, Nat.le_zero]
    exact KeyedMap.removeLeast_same_iff
  · simp [hfull]

/-- Where `create` returns an error. -/
theorem create_error_cases {e : AuthError} {store' : ChallengeStore}
    (h : store.create B did draws = (some (.error e), store')) :
    (validateDidWellFormed B did ≠ .ok () ∧ store' = store) ∨
      (validateDidWellFormed B did = .ok () ∧ (store.expiry draws.now).isSome ∧
        store' = store.makeRoom draws.purgeAt.secs) := by
  unfold create at h
  cases hvalid : validateDidWellFormed B did with
  | error e' =>
      simp only [hvalid, Prod.mk.injEq] at h
      exact .inl ⟨by simp, h.2.symm⟩
  | ok _ =>
      simp only [hvalid, issue, expiry_makeRoom] at h
      cases hexpiry : store.expiry draws.now with
      | none => simp [hexpiry] at h
      | some expires =>
          simp only [hexpiry] at h
          cases hbuild : challengeFor B (store.makeRoom draws.purgeAt.secs) did draws.nonceBytes
              draws.now expires with
          | ok challenge => simp [hbuild] at h
          | error e' =>
              simp only [hbuild, Prod.mk.injEq] at h
              exact .inr ⟨rfl, rfl, h.2.symm⟩

theorem create_some_of_expiry (hexpiry : (store.expiry draws.now).isSome) :
    ∃ result, (store.create B did draws).1 = some result := by
  obtain ⟨expires, hexpires⟩ := Option.isSome_iff_exists.mp hexpiry
  unfold create
  cases validateDidWellFormed B did with
  | error e => exact ⟨_, rfl⟩
  | ok _ =>
      simp only [issue, expiry_makeRoom, hexpires]
      cases challengeFor B (store.makeRoom draws.purgeAt.secs) did draws.nonceBytes draws.now
          expires <;> exact ⟨_, rfl⟩

/-- A DID the gate lets past is refused later exactly when it names no chain. -/
theorem create_refuses_iff (hvalid : validateDidWellFormed B did = .ok ())
    (hexpiry : (store.expiry draws.now).isSome) :
    (∃ e, (store.create B did draws).1 = some (.error e)) ↔ NamesNoChain did := by
  obtain ⟨m, hm⟩ := findDidMethod_of_wellFormed hvalid
  have hsome : ∃ result, (store.create B did draws).1 = some result :=
    create_some_of_expiry hexpiry
  obtain ⟨result, hresult⟩ := hsome
  have hok := create_isOk_iff hm hvalid hexpiry
  rw [accessors_iff hm hvalid, hresult] at hok
  rw [hresult]
  cases result with
  | ok challenge =>
      have hchain : ¬ NamesNoChain did := hok.mp ⟨challenge, rfl⟩
      exact iff_of_false (by simp) hchain
  | error e =>
      have hchain : NamesNoChain did := by
        by_contra hnot
        obtain ⟨challenge, hchallenge⟩ := hok.mpr hnot
        cases hchallenge
      exact iff_of_true ⟨e, rfl⟩ hchain

/-- An error leaves the pending challenges as they were, except that of an `eip155` DID without
a chain at a store that is at capacity with challenges pending. -/
theorem create_atomicOnError_iff (B : Build) (store : ChallengeStore) (did : Str)
    (draws : ChallengeDraws) :
    AtomicOnError B store did draws ↔
      ¬ (validateDidWellFormed B did = .ok () ∧ NamesNoChain did ∧
        (store.expiry draws.now).isSome ∧ store.Crowded draws.purgeAt.secs) := by
  constructor
  · rintro hatomic ⟨hvalid, hchain, hexpiry, hcrowded⟩
    obtain ⟨e, he⟩ := (create_refuses_iff hvalid hexpiry).mpr hchain
    have hsame := hatomic e he draws.purgeAt.secs (le_refl _)
    have houtcome : store.create B did draws = (some (.error e), (store.create B did draws).2) :=
      Prod.ext he rfl
    rcases create_error_cases houtcome with ⟨hinvalid, _⟩ | ⟨_, _, hroom⟩
    · exact hinvalid hvalid
    · rw [hroom] at hsame
      exact (pending_makeRoom_iff _).mp hsame hcrowded
  · intro hnot e he now hnow entry
    have houtcome : store.create B did draws = (some (.error e), (store.create B did draws).2) :=
      Prod.ext he rfl
    rcases create_error_cases houtcome with ⟨_, hsame⟩ | ⟨hvalid, hexpiry, hroom⟩
    · rw [hsame]
    · have hchain := (create_refuses_iff hvalid hexpiry).mp ⟨e, he⟩
      have hroomy : ¬ store.Crowded draws.purgeAt.secs := fun hcrowded =>
        hnot ⟨hvalid, hchain, hexpiry, hcrowded⟩
      have hkept := (pending_makeRoom_iff _).mpr hroomy entry
      rw [hroom]
      have hlater : ∀ store : ChallengeStore, entry ∈ store.pending now ↔
          entry ∈ store.pending draws.purgeAt.secs ∧ now < entry.2.expiresAt := by
        intro store
        simp only [pending, List.mem_filter, decide_eq_true_eq]
        constructor
        · rintro ⟨hmem, hlive⟩
          exact ⟨⟨hmem, hnow.trans_lt hlive⟩, hlive⟩
        · rintro ⟨⟨hmem, _⟩, hlive⟩
          exact ⟨hmem, hlive⟩
      rw [hlater, hlater, hkept]

/-! ### A challenge that makes room for nothing -/

/-- A store of one challenge, which is pending. -/
def crowdedStore : ChallengeStore :=
  ((ChallengeStore.withCapacity 300 Duration.fiveMinutes_lt (text "aqua-node")
    (text "http://127.0.0.1:3000") 1).create keylessBuild mainnetDid sampleDraws).2

/-- The pending challenge is evicted for a DID that gets an error. -/
theorem create_atomicOnError_fails :
    ¬ ∀ (B : Build) (store : ChallengeStore) (did : Str) (draws : ChallengeDraws),
      AtomicOnError B store did draws := by
  intro h
  have hrefused : (crowdedStore.create keylessBuild chainlessDid sampleDraws).1 =
      some (.error (.crypto (.invalidDid
        (text "missing address in eip155 remainder: 0x" ++ addressHex)))) := by decide +kernel
  have hsame := h keylessBuild crowdedStore chainlessDid sampleDraws _ hrefused
    sampleDraws.purgeAt.secs (le_refl _)
  have hbefore : crowdedStore.pending sampleDraws.purgeAt.secs ≠ [] := by decide +kernel
  have hafter : (crowdedStore.create keylessBuild chainlessDid sampleDraws).2.pending
      sampleDraws.purgeAt.secs = [] := by decide +kernel
  obtain ⟨entry, hentry⟩ := List.exists_mem_of_ne_nil _ hbefore
  have hgone := (hsame entry).mpr hentry
  rw [hafter] at hgone
  cases hgone

end ChallengeStore

end AquaAuth
