import AquaAuth.Proofs.Replay
set_option autoImplicit false
/-!
# Nonces of other principals

Two sequences of verifications that differ in the requests of other DIDs, before
one request.  The guard knows nonces and not who used them, so below its capacity
it refuses the request exactly when some request with its nonce has passed.
-/

namespace AquaAuth.HttpSig

open Support Support.Result NonceReplayGuard

variable {B : Build} {S : Sfv} {guard : NonceReplayGuard} {nonce did : Str}

/-- A call of `verify_request_at`, less the guard. -/
structure VerifyCall where
  request : SignedRequest
  opts : VerifyOptions
  now : Int
  deriving DecidableEq

def VerifyCall.event (call : VerifyCall) : GuardEvent := .verify call.request call.opts call.now

/-- The guard after a sequence of calls. -/
def NonceReplayGuard.afterCalls (B : Build) (S : Sfv) (guard : NonceReplayGuard)
    (calls : List VerifyCall) : NonceReplayGuard :=
  guard.afterAll B S (calls.map VerifyCall.event)

/-- What a call returns after a sequence of calls on a new guard. -/
def outcomeAfter (B : Build) (S : Sfv) (capacity : Nat) (calls : List VerifyCall)
    (call : VerifyCall) : Except HttpSigError (Principal B) :=
  (verifyRequestAt B S call.request call.opts
    (some ((withCapacity capacity).afterCalls B S calls)) call.now).1

/-- The headers of the call name a DID other than this one. -/
def namesOther (S : Sfv) (did : Str) (call : VerifyCall) : Bool :=
  match parseSignatureInput S call.request.signatureInput with
  | .ok (_, params) => params.keyid ≠ did
  | .error _ => false

/-- The call passes the checks in front of the guard, for a nonce. -/
def Genuine (B : Build) (S : Sfv) (nonce : Str) (call : VerifyCall) : Prop :=
  ∃ params principal, checkRequest B S call.request call.opts call.now = .ok (params, principal) ∧
    params.nonce = nonce

/-- Another DID's request, validly signed, carries the nonce. -/
def Burned (B : Build) (S : Sfv) (did nonce : Str) (calls : List VerifyCall) : Prop :=
  ∃ call ∈ calls, namesOther S did call = true ∧ Genuine B S nonce call

/-- The guard has room before every call and after the last. -/
def BelowCapacity (B : Build) (S : Sfv) (guard : NonceReplayGuard) (calls : List VerifyCall) :
    Prop :=
  ∀ before after, calls = before ++ after →
    (guard.afterCalls B S before).seen.len < (guard.afterCalls B S before).capacity

/-! ## Below capacity the guard forgets nothing -/

theorem makeRoom_of_lt {now : Int} (h : guard.seen.len < guard.capacity) :
    guard.makeRoom now = guard := by
  rw [makeRoom, if_neg (by simpa using h)]

theorem known_after_iff (hlt : guard.seen.len < guard.capacity) (call : VerifyCall) :
    (guard.after B S call.event).seen.get nonce ≠ none ↔
      guard.seen.get nonce ≠ none ∨ Genuine B S nonce call := by
  rw [VerifyCall.event, after_verify]
  cases hcheck : checkRequest B S call.request call.opts call.now with
  | error e => simp [Genuine, hcheck]
  | ok result =>
      obtain ⟨params, principal⟩ := result
      have hgenuine : Genuine B S nonce call ↔ params.nonce = nonce := by
        simp [Genuine, hcheck]
      dsimp only
      rw [hgenuine]
      cases hget : guard.seen.get params.nonce with
      | some known =>
          rw [checkAndRecordAt_known hget]
          constructor
          · exact .inl
          · rintro (h | rfl)
            · exact h
            · simp [hget]
      | none =>
          rw [checkAndRecordAt_new hget, makeRoom_of_lt hlt]
          by_cases hnonce : nonce = params.nonce
          · simp [hnonce]
          · simp [KeyedMap.get_insert, hnonce, Ne.symm hnonce]

/-- The nonces the guard knows after a run are those of the requests that passed. -/
theorem known_afterCalls_iff {calls : List VerifyCall} (hbelow : BelowCapacity B S guard calls) :
    (guard.afterCalls B S calls).seen.get nonce ≠ none ↔
      guard.seen.get nonce ≠ none ∨ ∃ call ∈ calls, Genuine B S nonce call := by
  induction calls generalizing guard with
  | nil => simp [afterCalls, afterAll]
  | cons call calls ih =>
      have hhead : (guard.after B S call.event).seen.get nonce ≠ none ↔
          guard.seen.get nonce ≠ none ∨ Genuine B S nonce call :=
        known_after_iff (hbelow [] (call :: calls) rfl) call
      have htail : BelowCapacity B S (guard.after B S call.event) calls :=
        fun before after heq => hbelow (call :: before) after (by rw [heq, List.cons_append])
      have hrest := ih htail
      rw [show guard.afterCalls B S (call :: calls) =
        (guard.after B S call.event).afterCalls B S calls from rfl, hrest, hhead]
      simp [or_assoc]

/-! ## Two runs -/

/-- Two sequences of calls in front of a request of one DID: equal up to the calls
that name other DIDs, both below capacity, and without an earlier use of the
request's nonce by that DID. -/
structure TwoRuns (B : Build) (S : Sfv) (capacity : Nat) (did : Str)
    (calls calls' : List VerifyCall)
    (call : VerifyCall) (params : SignatureParams) : Prop where
  below : BelowCapacity B S (withCapacity capacity) calls
  below' : BelowCapacity B S (withCapacity capacity) calls'
  same : calls.filter (fun c => !namesOther S did c) = calls'.filter (fun c => !namesOther S did c)
  genuine : ∃ principal,
    checkRequest B S call.request call.opts call.now = .ok (params, principal)
  signer : params.keyid = did
  unused : ∀ c ∈ calls, namesOther S did c = false → ¬ Genuine B S params.nonce c

/-- The outcome of a request that passes the checks depends on its nonce alone. -/
theorem outcomeAfter_eq {capacity : Nat} {calls : List VerifyCall} {call : VerifyCall}
    {params : SignatureParams} {principal : Principal B}
    (h : checkRequest B S call.request call.opts call.now = .ok (params, principal)) :
    outcomeAfter B S capacity calls call =
      if ((withCapacity capacity).afterCalls B S calls).seen.get params.nonce = none then
        .ok principal
      else .error .nonceReplayed := by
  rw [outcomeAfter, verifyRequestAt, h]
  dsimp only
  cases hget : ((withCapacity capacity).afterCalls B S calls).seen.get params.nonce with
  | none => rw [checkAndRecordAt_new hget]; rfl
  | some known => rw [checkAndRecordAt_known hget]; rfl

/-- On a new guard below its capacity, a nonce its DID has not used is known exactly
when another DID burned it. -/
theorem known_iff_burned {capacity : Nat} {calls : List VerifyCall}
    (hbelow : BelowCapacity B S (withCapacity capacity) calls)
    (hunused : ∀ c ∈ calls, namesOther S did c = false → ¬ Genuine B S nonce c) :
    ((withCapacity capacity).afterCalls B S calls).seen.get nonce ≠ none ↔
      Burned B S did nonce calls := by
  have hnew : (withCapacity capacity).seen.get nonce = none := rfl
  rw [known_afterCalls_iff hbelow, hnew]
  constructor
  · rintro (h | ⟨c, hc, hgenuine⟩)
    · exact absurd rfl h
    · refine ⟨c, hc, ?_, hgenuine⟩
      by_contra hnames
      exact hunused c hc (by simpa using hnames) hgenuine
  · rintro ⟨c, hc, _, hgenuine⟩
    exact .inr ⟨c, hc, hgenuine⟩

/-- The calls of other DIDs leave the outcome of a request alone exactly when they
burn its nonce in both sequences or in neither. -/
theorem outcomeAfter_eq_iff {capacity : Nat} {calls calls' : List VerifyCall} {call : VerifyCall}
    {params : SignatureParams} (h : TwoRuns B S capacity did calls calls' call params) :
    outcomeAfter B S capacity calls call = outcomeAfter B S capacity calls' call ↔
      (Burned B S did params.nonce calls ↔ Burned B S did params.nonce calls') := by
  obtain ⟨principal, hcheck⟩ := h.genuine
  have hunused' : ∀ c ∈ calls', namesOther S did c = false → ¬ Genuine B S params.nonce c := by
    intro c hc hnames
    have hmem : c ∈ calls'.filter (fun c => !namesOther S did c) :=
      List.mem_filter.mpr ⟨hc, by simp [hnames]⟩
    rw [← h.same] at hmem
    exact h.unused c (List.mem_filter.mp hmem).1 hnames
  rw [← known_iff_burned h.below h.unused, ← known_iff_burned h.below' hunused',
    outcomeAfter_eq hcheck, outcomeAfter_eq hcheck]
  split_ifs with h1 h2 h2 <;> simp [h1, h2]

/-! ## A nonce burned by another signer -/

def keyCall : VerifyCall := ⟨keyRequest, .aquaInternal, 1700000000⟩

/-- Another signer's request, with the same nonce. -/
def otherCall : VerifyCall where
  request :=
    { parts := keyParts
      signatureInput := text "sig1=" ++ keyList otherKeyDid (text "n1")
      signature :=
        text "sig1=:vGCX3EADD9ByaT6UoUC3n78JHA48cpOg6h/nmgeRWQ9j" ++
          text "6iX17UEI9nzvUh7rfOvnaFgk59LGQns2kMnrANejAw==:" }
  opts := .aquaInternal
  now := 1700000000

private theorem parseSignatureInput_otherCall :
    parseSignatureInput .reference otherCall.request.signatureInput =
      .ok (signatureLabel, { keyParams with keyid := otherKeyDid }) := by
  decide +kernel

private theorem genuine_otherCall : Genuine keyBuild .reference (text "n1") otherCall := by
  have hok : (checkRequest keyBuild .reference otherCall.request .aquaInternal 1700000000).isOk =
      true := by decide +kernel
  obtain ⟨principal, hcheck⟩ := checkRequest_of_isOk hok parseSignatureInput_otherCall
  exact ⟨_, principal, hcheck, rfl⟩

private theorem namesOther_otherCall : namesOther .reference keyDid otherCall = true := by
  rw [namesOther, parseSignatureInput_otherCall]
  decide

/-- The same DID's request with another nonce. -/
def zeroCall : VerifyCall where
  request :=
    { parts := keyParts
      signatureInput := text "sig1=" ++ keyList keyDid zeroNonce
      signature :=
        text "sig1=:KDSmz9CdvHxxIoR2uaskaI6kJNPS96mge7VmONoRPAvC" ++
          text "IaJ2UlBmprJSkJv4/goLcCG25D5xdRG8J8YcWVPrAw==:" }
  opts := .aquaInternal
  now := 1700000000

private theorem checkRequest_zeroCall : ∃ principal,
    checkRequest keyBuild .reference zeroCall.request zeroCall.opts zeroCall.now =
      .ok ({ keyParams with nonce := zeroNonce }, principal) := by
  have hparse : parseSignatureInput .reference zeroCall.request.signatureInput =
      .ok (signatureLabel, { keyParams with nonce := zeroNonce }) := by
    decide +kernel
  exact checkRequest_of_isOk (by decide +kernel) hparse

/-- The two runs in front of a request: nothing, and the other signer's request. -/
theorem twoRuns_key {call : VerifyCall} {params : SignatureParams}
    (hgenuine : ∃ principal, checkRequest keyBuild .reference call.request call.opts call.now =
      .ok (params, principal)) (hsigner : params.keyid = keyDid) :
    TwoRuns keyBuild .reference maxSeenNonces keyDid [] [otherCall] call params where
  below := by
    intro before after heq
    obtain ⟨rfl, rfl⟩ := List.append_eq_nil_iff.mp heq.symm
    decide
  below' := by
    intro before after heq
    cases before with
    | nil => decide
    | cons c before =>
        obtain ⟨rfl, rfl⟩ : otherCall = c ∧ before = [] := by
          simp only [List.cons_append, List.cons.injEq, List.nil_eq, List.append_eq_nil_iff] at heq
          exact ⟨heq.1, heq.2.1⟩
        obtain ⟨params, principal, hcheck, _⟩ := genuine_otherCall
        have hlt : (withCapacity maxSeenNonces).seen.len <
            (withCapacity maxSeenNonces).capacity := by
          decide
        have hafter : (withCapacity maxSeenNonces).afterCalls keyBuild .reference [otherCall] =
            ((withCapacity maxSeenNonces).checkAndRecordAt params.nonce params.expires
              otherCall.now).2 := by
          simp only [afterCalls, afterAll, List.map_cons, List.map_nil, List.foldl_cons,
            List.foldl_nil, VerifyCall.event, after_verify, hcheck]
        rw [hafter, checkAndRecordAt_new rfl, makeRoom_of_lt hlt]
        have hlen := KeyedMap.len_insert_le (withCapacity maxSeenNonces).seen params.nonce
          params.expires
        have hroom : (withCapacity maxSeenNonces).seen.len + 1 <
            (withCapacity maxSeenNonces).capacity := by
          decide
        exact lt_of_le_of_lt hlen hroom
  same := by simp [namesOther_otherCall]
  genuine := hgenuine
  signer := hsigner
  unused := by simp

/-- Another signer's request changes the outcome. -/
theorem outcomeAfter_burned_fails :
    ¬ ∀ capacity did calls calls' call params,
      TwoRuns keyBuild .reference capacity did calls calls' call params →
      outcomeAfter keyBuild .reference capacity calls call =
        outcomeAfter keyBuild .reference capacity calls' call := by
  intro hneutral
  have hruns : TwoRuns keyBuild .reference maxSeenNonces keyDid [] [otherCall] keyCall keyParams :=
    twoRuns_key checkRequest_keyRequest rfl
  have heq := hneutral _ _ _ _ _ _ hruns
  obtain ⟨principal, hcheck⟩ := checkRequest_keyRequest
  have hknown : ((withCapacity maxSeenNonces).afterCalls keyBuild .reference
      [otherCall]).seen.get keyParams.nonce ≠ none :=
    (known_afterCalls_iff hruns.below').mpr
      (.inr ⟨otherCall, List.mem_singleton.mpr rfl, genuine_otherCall⟩)
  have hnew : ((withCapacity maxSeenNonces).afterCalls keyBuild .reference []).seen.get
      keyParams.nonce = none := rfl
  change checkRequest keyBuild .reference keyCall.request keyCall.opts keyCall.now = _ at hcheck
  rw [outcomeAfter_eq hcheck, outcomeAfter_eq hcheck, if_pos hnew, if_neg hknown] at heq
  cases heq

private theorem not_burned_nil {nonce : Str} : ¬ Burned keyBuild .reference keyDid nonce [] := by
  rintro ⟨call, hcall, _⟩
  cases hcall

private theorem burned_otherCall {nonce : Str} :
    Burned keyBuild .reference keyDid nonce [otherCall] ↔ nonce = text "n1" := by
  obtain ⟨params, principal, hcheck, hnonce⟩ := genuine_otherCall
  constructor
  · rintro ⟨call, hcall, _, params', principal', hcheck', rfl⟩
    obtain rfl := List.mem_singleton.mp hcall
    obtain ⟨rfl, _⟩ := Prod.mk.inj (Except.ok.inj (hcheck.symm.trans hcheck'))
    exact hnonce
  · rintro rfl
    exact ⟨otherCall, List.mem_singleton_self _, namesOther_otherCall, params, principal, hcheck,
      hnonce⟩

/-- The other signer's request burns its own nonce, and leaves a request with another one alone. -/
theorem outcomeAfter_eq_iff_key :
    outcomeAfter keyBuild .reference maxSeenNonces [] zeroCall =
        outcomeAfter keyBuild .reference maxSeenNonces [otherCall] zeroCall ∧
      outcomeAfter keyBuild .reference maxSeenNonces [] keyCall ≠
        outcomeAfter keyBuild .reference maxSeenNonces [otherCall] keyCall := by
  have hruns : TwoRuns keyBuild .reference maxSeenNonces keyDid [] [otherCall] keyCall keyParams :=
    twoRuns_key checkRequest_keyRequest rfl
  have hzero := outcomeAfter_eq_iff (twoRuns_key checkRequest_zeroCall rfl)
  have hkey := outcomeAfter_eq_iff hruns
  have hfresh : zeroNonce ≠ text "n1" := by decide
  refine ⟨hzero.mpr (iff_of_false not_burned_nil ?_), fun heq => ?_⟩
  · exact fun hburned => hfresh (burned_otherCall.mp hburned)
  · exact not_burned_nil ((hkey.mp heq).mpr (burned_otherCall.mpr rfl))

end AquaAuth.HttpSig
