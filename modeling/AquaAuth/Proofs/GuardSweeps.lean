import AquaAuth.Proofs.Guard
set_option autoImplicit false
/-!
# Sweeps of the replay guard

The guard refuses a nonce it holds without looking at the expiry, so a record that has expired
and was not swept yet refuses a presentation that it should let past.  Sweeps are unseen
exactly when no presentation meets an expired record of its own nonce.
-/

namespace AquaAuth.HttpSig

open Support

def GuardOp.isSweep : GuardOp → Bool
  | .present _ => false
  | .cleanup _ => true

/-- The presentations of a run, with sweeps at any points and a clock that does not go back. -/
structure Placement (calls : List GuardCall) (ops : List GuardOp) : Prop where
  presents : ops.filter (fun op => !op.isSweep) = calls.map .present
  chronological : (ops.map GuardOp.reading).Pairwise (· ≤ ·)

theorem Placement.unswept {calls : List GuardCall} {ops : List GuardOp}
    (h : Placement calls ops) : Placement calls (calls.map .present) := by
  refine ⟨?_, ?_⟩
  · rw [List.filter_eq_self]
    intro op hop
    obtain ⟨call, _, rfl⟩ := List.mem_map.mp hop
    rfl
  · rw [← h.presents]
    exact h.chronological.sublist (List.filter_sublist.map _)

/-- One sweep more, at the reading of the call behind it. -/
theorem Placement.sweep {calls : List GuardCall} {before rest : List GuardOp} {call : GuardCall}
    (h : Placement calls (before ++ .present call :: rest)) :
    Placement calls (before ++ .cleanup call.now :: .present call :: rest) := by
  refine ⟨?_, ?_⟩
  · rw [← h.presents]
    simp [GuardOp.isSweep]
  · have hreadings := h.chronological
    simp only [List.map_append, List.map_cons, List.pairwise_append, List.pairwise_cons,
      GuardOp.reading] at hreadings ⊢
    obtain ⟨hbefore, ⟨hcall, hrest⟩, hacross⟩ := hreadings
    refine ⟨hbefore, ⟨?_, hcall, hrest⟩, ?_⟩
    · intro reading hmem
      rcases List.mem_cons.mp hmem with rfl | hmem
      · exact le_refl _
      · exact hcall reading hmem
    · intro earlier hearlier later hlater
      rcases List.mem_cons.mp hlater with rfl | hlater
      · exact hacross earlier hearlier _ List.mem_cons_self
      · exact hacross earlier hearlier later hlater

namespace NonceReplayGuard

variable {guard guard' : NonceReplayGuard} {c c' now : Int} {nonce : Str}

/-! ## What a sweep leaves -/

theorem cleanupExpiredAt_cleanupExpiredAt (h : c ≤ c') :
    (guard.cleanupExpiredAt c).cleanupExpiredAt c' = guard.cleanupExpiredAt c' := by
  simp only [cleanupExpiredAt, KeyedMap.retain_retain]
  congr 2
  funext nonce expiresAt
  by_cases hlive : c' < expiresAt
  · simp [hlive, h.trans_lt hlive]
  · simp [hlive]

theorem makeRoom_eq (guard : NonceReplayGuard) (c : Int) :
    guard.makeRoom c = { guard with
      seen := guard.seen.makeRoom guard.capacity (fun _ expiresAt => c < expiresAt)
        evictionRank } := by
  have hvictim : ∀ guard : NonceReplayGuard, guard.evictSoonestExpiring = { guard with
      seen := guard.seen.removeLeast evictionRank } := by
    intro guard
    unfold evictSoonestExpiring victim KeyedMap.removeLeast
    cases (guard.seen.least evictionRank).map Prod.fst <;> rfl
  simp only [makeRoom, KeyedMap.makeRoom, isFull, cleanupExpiredAt, hvictim]
  by_cases hfull : guard.capacity ≤ guard.seen.len
  · by_cases hstill : guard.capacity ≤ (guard.seen.retain fun _ expiresAt => c < expiresAt).len
    · simp only [hfull, hstill, decide_true, if_true]
    · simp only [hfull, hstill, decide_true, decide_false, if_true, if_false, Bool.false_eq_true]
  · simp only [hfull, decide_false, if_false, Bool.false_eq_true]

theorem cleanupExpiredAt_makeRoom (guard : NonceReplayGuard) (c : Int) :
    (guard.makeRoom c).cleanupExpiredAt c = (guard.cleanupExpiredAt c).makeRoom c := by
  rw [makeRoom_eq, makeRoom_eq]
  simp only [cleanupExpiredAt, KeyedMap.retain_makeRoom]

/-- Two guards that a sweep at `c` makes equal. -/
def SameLive (c : Int) (guard guard' : NonceReplayGuard) : Prop :=
  guard.cleanupExpiredAt c = guard'.cleanupExpiredAt c

theorem SameLive.mono (hle : c ≤ c') (h : SameLive c guard guard') : SameLive c' guard guard' :=
  calc guard.cleanupExpiredAt c'
      = (guard.cleanupExpiredAt c).cleanupExpiredAt c' :=
        (cleanupExpiredAt_cleanupExpiredAt hle).symm
    _ = (guard'.cleanupExpiredAt c).cleanupExpiredAt c' :=
        congrArg (fun g => cleanupExpiredAt g c') h
    _ = guard'.cleanupExpiredAt c' := cleanupExpiredAt_cleanupExpiredAt hle

/-- A call meets no expired record of its own nonce. -/
def Unexpired (guard : NonceReplayGuard) : GuardOp → Prop
  | .present call => ∀ known, guard.seen.get call.nonce = some known → call.now < known
  | .cleanup _ => True

theorem SameLive.get_of_get (h : SameLive now guard guard') {known : Int}
    (hget : guard.seen.get nonce = some known) (hlive : now < known) :
    guard'.seen.get nonce = some known := by
  have hkept := get_cleanupExpiredAt_of_live hget hlive
  rw [show guard.cleanupExpiredAt now = guard'.cleanupExpiredAt now from h, get_cleanupExpiredAt,
    Option.filter_eq_some_iff] at hkept
  exact hkept.1

/-- A presentation made on both sides. -/
theorem SameLive.present {call : GuardCall} (h : SameLive call.now guard guard')
    (hlive : guard.Unexpired (.present call)) (hlive' : guard'.Unexpired (.present call)) :
    (guard.checkAndRecordAt call.nonce call.expiresAt call.now).1 =
        (guard'.checkAndRecordAt call.nonce call.expiresAt call.now).1 ∧
      SameLive call.now (guard.checkAndRecordAt call.nonce call.expiresAt call.now).2
        (guard'.checkAndRecordAt call.nonce call.expiresAt call.now).2 := by
  cases hget : guard.seen.get call.nonce with
  | some known =>
      have hget' := h.get_of_get hget (hlive known hget)
      rw [checkAndRecordAt_known hget, checkAndRecordAt_known hget']
      exact ⟨rfl, h⟩
  | none =>
      have hget' : guard'.seen.get call.nonce = none := by
        cases hget' : guard'.seen.get call.nonce with
        | none => rfl
        | some known =>
            have hback : SameLive call.now guard' guard := Eq.symm h
            rw [hback.get_of_get hget' (hlive' known hget')] at hget
            cases hget
      rw [checkAndRecordAt_new hget, checkAndRecordAt_new hget']
      refine ⟨rfl, ?_⟩
      have hroom : (guard.makeRoom call.now).cleanupExpiredAt call.now =
          (guard'.makeRoom call.now).cleanupExpiredAt call.now := by
        rw [cleanupExpiredAt_makeRoom, cleanupExpiredAt_makeRoom,
          show guard.cleanupExpiredAt call.now = guard'.cleanupExpiredAt call.now from h]
      simp only [SameLive, cleanupExpiredAt, mk.injEq] at hroom ⊢
      refine ⟨?_, hroom.2⟩
      rw [KeyedMap.retain_insert, KeyedMap.retain_insert, hroom.1]

/-! ## Two runs -/

theorem chronological_of_pairwise {ops : List GuardOp}
    (h : (c :: ops.map GuardOp.reading).Pairwise (· ≤ ·)) : guardService.Chronological c ops := by
  induction ops generalizing c with
  | nil => exact trivial
  | cons op ops ih =>
      have hrest : (op.reading :: ops.map GuardOp.reading).Pairwise (· ≤ ·) :=
        (List.pairwise_cons.mp h).2
      refine ⟨?_, ih hrest⟩
      show ([c, op.reading] : List Int).Pairwise (· ≤ ·)
      have hle := (List.pairwise_cons.mp h).1 op.reading List.mem_cons_self
      simpa using hle

theorem exists_chronological {ops : List GuardOp}
    (h : (ops.map GuardOp.reading).Pairwise (· ≤ ·)) : ∃ c, guardService.Chronological c ops := by
  cases ops with
  | nil => exact ⟨0, trivial⟩
  | cons op ops =>
      refine ⟨op.reading, chronological_of_pairwise (List.pairwise_cons.mpr ⟨?_, h⟩)⟩
      intro reading hmem
      rcases List.mem_cons.mp hmem with rfl | hmem
      · exact le_refl _
      · exact (List.pairwise_cons.mp h).1 reading hmem

/-- The answers of the presentations of a run, in their order. -/
def results (guard : NonceReplayGuard) (ops : List GuardOp) :
    List (Option (Except HttpSigError Unit)) :=
  (guardService.audible GuardOp.isSweep guard ops).map Prod.snd

/-- Two placements in which no presentation meets an expired record of its nonce. -/
theorem results_eq {calls : List GuardCall} {ops ops' : List GuardOp}
    (hops : Placement calls ops) (hops' : Placement calls ops')
    (hlive : guardService.Meets Unexpired guard ops)
    (hlive' : guardService.Meets Unexpired guard ops') :
    guard.results ops = guard.results ops' := by
  obtain ⟨c, hc⟩ := exists_chronological hops.chronological
  obtain ⟨c', hc'⟩ := exists_chronological hops'.chronological
  have hsame : ops.filter (fun op => !op.isSweep) = ops'.filter fun op => !op.isSweep :=
    hops.presents.trans hops'.presents.symm
  have hrelated : List.Forall₂ (fun a b => a.1 = b.1 ∧ a.2 = b.2)
      (guardService.audible GuardOp.isSweep guard ops)
      (guardService.audible GuardOp.isSweep guard ops') := by
    apply Service.audible_related (R := SameLive) (E := fun _ a b => a = b)
      ?symm ?sweep ?both ?mono hsame hc hc' hlive hlive' rfl
    case symm => exact fun _ _ _ h => Eq.symm h
    case mono => exact fun _ _ _ _ hle h => h.mono hle
    case sweep =>
      intro c guard guard' op h hsweep
      cases op with
      | present call => cases hsweep
      | cleanup now =>
          show (guard.cleanupExpiredAt now).cleanupExpiredAt (max c now) =
            guard'.cleanupExpiredAt (max c now)
          rw [cleanupExpiredAt_cleanupExpiredAt (le_max_right c now)]
          exact h.mono (le_max_left c now)
    case both =>
      intro c guard guard' op h hsweep htimely hlive hlive'
      cases op with
      | cleanup now => cases hsweep
      | present call =>
          have hle : c ≤ call.now := Service.le_clock htimely
          obtain ⟨hresult, hafter⟩ := (h.mono hle).present hlive hlive'
          exact ⟨congrArg some hresult, hafter⟩
  have hpairs : List.Forall₂ (· = ·) (guardService.audible GuardOp.isSweep guard ops)
      (guardService.audible GuardOp.isSweep guard ops') :=
    hrelated.imp fun a b h => Prod.ext h.1 h.2
  rw [List.forall₂_eq_eq_eq] at hpairs
  exact congrArg (List.map Prod.snd) hpairs

/-- A sweep in front of a call that meets an expired record changes the answer of the call. -/
theorem results_ne_of_expired {before rest : List GuardOp} {call : GuardCall} {known : Int}
    (hget : (guardService.after guard before).seen.get call.nonce = some known)
    (hexpired : known ≤ call.now) :
    guard.results (before ++ .present call :: rest) ≠
      guard.results (before ++ .cleanup call.now :: .present call :: rest) := by
  intro heq
  have hgone : ((guardService.after guard before).cleanupExpiredAt call.now).seen.get call.nonce =
      none := by
    rw [get_cleanupExpiredAt, hget, Option.filter_some, if_neg (by simpa using hexpired)]
  have hleft : ((guardService.after guard before).call (.present call)).1 =
      some (.error .nonceReplayed) := by
    simp only [NonceReplayGuard.call, checkAndRecordAt_known hget]
  have hright : (((guardService.after guard before).cleanupExpiredAt call.now).call
      (.present call)).1 = some (.ok ()) := by
    simp only [NonceReplayGuard.call, checkAndRecordAt_new hgone]
  simp only [results, Service.audible_append, List.map_append] at heq
  have htail := List.append_cancel_left heq
  have hhead : ((guardService.after guard before).call (.present call)).1 =
      (((guardService.after guard before).cleanupExpiredAt call.now).call (.present call)).1 := by
    exact (List.cons.inj htail).1
  rw [hleft, hright] at hhead
  cases hhead

/-! ## The records -/

/-- The expiry an accepted presentation of a nonce carries. -/
def acceptedExpiry (nonce : Str) :
    GuardOp × Option (Except HttpSigError Unit) → Option Int
  | (.present call, some (.ok ())) => if call.nonce = nonce then some call.expiresAt else none
  | _ => none

/-- The expiry of the last accepted presentation of a nonce. -/
def lastAccepted (guard : NonceReplayGuard) (ops : List GuardOp) (nonce : Str) : Option Int :=
  ((guardService.answers guard ops).filterMap (acceptedExpiry nonce)).getLast?

/-- A record is the one a call wrote, or it was there before. -/
theorem record_of_call {op : GuardOp} {known : Int}
    (h : (guard.call op).2.seen.get nonce = some known) :
    acceptedExpiry nonce (op, (guard.call op).1) = some known ∨
      acceptedExpiry nonce (op, (guard.call op).1) = none ∧
        guard.seen.get nonce = some known := by
  cases op with
  | cleanup now =>
      have hkept : (guard.cleanupExpiredAt now).seen.get nonce = some known := h
      rw [get_cleanupExpiredAt, Option.filter_eq_some_iff] at hkept
      exact .inr ⟨rfl, hkept.1⟩
  | present call =>
      simp only [NonceReplayGuard.call] at h ⊢
      cases hget : guard.seen.get call.nonce with
      | some old =>
          rw [checkAndRecordAt_known hget] at h ⊢
          exact .inr ⟨rfl, h⟩
      | none =>
          rw [checkAndRecordAt_new hget] at h ⊢
          simp only [KeyedMap.get_insert] at h
          simp only [acceptedExpiry]
          by_cases hnonce : call.nonce = nonce
          · rw [if_pos hnonce.symm] at h
            exact .inl ((if_pos hnonce).trans h)
          · rw [if_neg (Ne.symm hnonce), makeRoom_eq] at h
            exact .inr ⟨if_neg hnonce, KeyedMap.get_of_get_makeRoom h⟩

theorem lastAccepted_cons (op : GuardOp) (ops : List GuardOp) :
    guard.lastAccepted (op :: ops) nonce =
      ((guardService.call guard op).2.lastAccepted ops nonce).or
        (acceptedExpiry nonce (op, (guardService.call guard op).1)) := by
  unfold lastAccepted
  rw [Service.answers]
  cases haccepted : acceptedExpiry nonce (op, (guardService.call guard op).1) with
  | none => rw [List.filterMap_cons_none haccepted, Option.or_none]
  | some known =>
      rw [List.filterMap_cons_some haccepted, List.getLast?_cons]
      generalize (List.filterMap (acceptedExpiry nonce) _).getLast? = last
      cases last <;> rfl

/-- What the guard holds of a nonce after a run is its last accepted presentation. -/
theorem lastAccepted_of_get {ops : List GuardOp} {known : Int}
    (h : (guardService.after guard ops).seen.get nonce = some known) :
    guard.lastAccepted ops nonce = some known ∨
      guard.lastAccepted ops nonce = none ∧ guard.seen.get nonce = some known := by
  induction ops generalizing guard with
  | nil => exact .inr ⟨rfl, h⟩
  | cons op ops ih =>
      rw [lastAccepted_cons]
      rcases ih h with hlast | ⟨hlast, hget⟩
      · exact .inl (by rw [hlast, Option.some_or])
      · rw [hlast, Option.none_or]
        exact record_of_call hget

/-! ## The guard's answers -/

/-- Sweeps at any points of a run change no answer. -/
def SweepsUnseen (capacity : Nat) (calls : List GuardCall) : Prop :=
  ∀ ops, Placement calls ops →
    (withCapacity capacity).results ops = (withCapacity capacity).results (calls.map .present)

/-- Every refusal is due to an accepted presentation of the nonce that has not expired. -/
def RefusalsJustified (capacity : Nat) (calls : List GuardCall) : Prop :=
  ∀ ops, Placement calls ops → ∀ before call rest, ops = before ++ .present call :: rest →
    ((guardService.after (withCapacity capacity) before).checkAndRecordAt call.nonce
      call.expiresAt call.now).1 = .error .nonceReplayed →
    ∃ known, (withCapacity capacity).lastAccepted before call.nonce = some known ∧
      call.now < known

/-- Wherever the sweeps are, no presentation meets an expired record of its own nonce. -/
def NeverExpired (capacity : Nat) (calls : List GuardCall) : Prop :=
  ∀ ops, Placement calls ops → guardService.Meets Unexpired (withCapacity capacity) ops

theorem meets_unexpired {ops : List GuardOp} (h : ∀ before call rest known,
      ops = before ++ .present call :: rest →
      (guardService.after guard before).seen.get call.nonce = some known → call.now < known) :
    guardService.Meets Unexpired guard ops := by
  rw [Service.meets_iff]
  intro before op rest hops
  cases op with
  | cleanup now => exact trivial
  | present call => exact fun known hget => h before call rest known hops hget

/-- Sweeps are unseen, and refusals justified, exactly when no presentation meets an expired
record of its own nonce. -/
theorem sweepsUnseen_iff (capacity : Nat) (calls : List GuardCall) :
    (SweepsUnseen capacity calls ↔ NeverExpired capacity calls) ∧
      (RefusalsJustified capacity calls ↔ NeverExpired capacity calls) := by
  refine ⟨⟨?_, ?_⟩, ⟨?_, ?_⟩⟩
  · intro hunseen ops hops
    apply meets_unexpired
    intro before call rest known hsplit hget
    by_contra hexpired
    rw [hsplit] at hops
    have hne : (withCapacity capacity).results (before ++ .present call :: rest) ≠
        (withCapacity capacity).results (before ++ .cleanup call.now :: .present call :: rest) :=
      results_ne_of_expired hget (not_lt.mp hexpired)
    exact hne (by rw [hunseen _ hops, hunseen _ hops.sweep])
  · intro hnever ops hops
    exact results_eq hops hops.unswept (hnever ops hops) (hnever _ hops.unswept)
  · intro hjustified ops hops
    apply meets_unexpired
    intro before call rest known hsplit hget
    obtain ⟨last, hlast, hlive⟩ := hjustified ops hops before call rest hsplit
      (by rw [checkAndRecordAt_known hget])
    rcases lastAccepted_of_get hget with hrecord | ⟨_, hempty⟩
    · rw [hrecord] at hlast
      rwa [Option.some.inj hlast]
    · cases hempty
  · intro hnever ops hops before call rest hsplit hrefused
    have hlive := Service.meets_iff.mp (hnever ops hops) before _ rest hsplit
    cases hget : (guardService.after (withCapacity capacity) before).seen.get call.nonce with
    | none =>
        rw [checkAndRecordAt_new hget] at hrefused
        cases hrefused
    | some known =>
        rcases lastAccepted_of_get hget with hrecord | ⟨_, hempty⟩
        · exact ⟨known, hrecord, hlive known hget⟩
        · cases hempty

/-! ## A record that outlives its signature -/

/-- In every run with presentations before their expiry, sweeps are unseen and refusals
justified. -/
def SweepsNeverMatter (capacity : Nat) : Prop :=
  ∀ calls : List GuardCall, (calls.map GuardCall.now).Pairwise (· ≤ ·) →
    (∀ call ∈ calls, call.now < call.expiresAt) →
    SweepsUnseen capacity calls ∧ RefusalsJustified capacity calls

/-- A nonce presented again a second after its expiry. -/
def presentedAgain : List GuardCall :=
  [⟨text "n1", 1700000300, 1700000000⟩, ⟨text "n1", 1700000601, 1700000301⟩]

/-- The second presentation is refused without a sweep and accepted behind one. -/
theorem sweepsNeverMatter_again_fails : ¬ SweepsNeverMatter maxSeenNonces := by
  intro h
  have hunseen := (h presentedAgain (by decide) (by decide)).1
    [.present ⟨text "n1", 1700000300, 1700000000⟩, .cleanup 1700000301,
      .present ⟨text "n1", 1700000601, 1700000301⟩] ⟨rfl, by decide⟩
  exact absurd hunseen (by decide)

end NonceReplayGuard

end AquaAuth.HttpSig
