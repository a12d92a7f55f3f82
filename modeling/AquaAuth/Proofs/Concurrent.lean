import AquaAuth.Proofs.Guard
set_option autoImplicit false
/-!
# Concurrent calls of the guard

Of two calls that carry one nonce and overlap, the second to reach its entry access
finds the nonce, unless a purge or an eviction drops it after the first recorded it.
-/

namespace AquaAuth.HttpSig

open Support Support.Interleaving NonceReplayGuard

variable {guard guard' : NonceReplayGuard} {t t' : GuardThread} {nonce : Str}

namespace GuardThread

/-- The call has not returned. -/
def running (t : GuardThread) : Bool :=
  match t.stage with
  | .returned _ => false
  | _ => true

/-- The call has returned `Ok`. -/
def accepted (t : GuardThread) : Bool := t.stage = .returned (.ok ())

/-- The next access of the call drops the entry of a nonce. -/
def drops (guard : NonceReplayGuard) (t : GuardThread) (nonce : Str) : Bool :=
  match t.stage with
  | .cleanup => (guard.seen.get nonce).any fun expiresAt => expiresAt ≤ t.call.now
  | .remove victim => victim = some nonce && guard.seen.containsKey nonce
  | _ => false

/-! ## One access -/

/-- What one access does to the call and to the guard. -/
structure StepSpec (guard guard' : NonceReplayGuard) (t t' : GuardThread) : Prop where
  call : t'.call = t.call
  running : t.running = true
  /-- A call is accepted by the access that records its nonce. -/
  records : t'.accepted = true →
    guard.seen.get t.call.nonce = none ∧ guard'.seen.get t.call.nonce ≠ none
  /-- An access keeps every nonce it does not drop. -/
  keeps : ∀ nonce, t.drops guard nonce = false → guard.seen.get nonce ≠ none →
    guard'.seen.get nonce ≠ none

theorem keeps_removeVictim {victim : Option Str} (h : victim ≠ some nonce)
    (hget : guard.seen.get nonce ≠ none) : (guard.removeVictim victim).seen.get nonce ≠ none := by
  cases victim with
  | none => exact hget
  | some v =>
      change (guard.seen.remove v).get nonce ≠ none
      rw [KeyedMap.get_remove, if_neg (by rintro rfl; exact h rfl)]
      exact hget

theorem keeps_record {expiresAt : Int} {nonce' : Str} (hget : guard.seen.get nonce ≠ none) :
    (guard.record nonce' expiresAt).2.seen.get nonce ≠ none := by
  unfold record
  split_ifs
  · exact hget
  · change (guard.seen.insert nonce' expiresAt).get nonce ≠ none
    rw [KeyedMap.get_insert]
    split_ifs
    · simp
    · exact hget

theorem step_spec (h : t.step guard = some (guard', t')) : StepSpec guard guard' t t' := by
  obtain ⟨call, stage⟩ := t
  cases stage with
  | containsKey =>
      simp only [step] at h
      split_ifs at h <;> obtain ⟨rfl, rfl⟩ := Prod.mk.inj (Option.some.inj h)
      · exact ⟨rfl, rfl, by simp [accepted, goto], fun _ _ hget => hget⟩
      · exact ⟨rfl, rfl, by simp [accepted, goto], fun _ _ hget => hget⟩
  | len =>
      obtain ⟨rfl, rfl⟩ := Prod.mk.inj (Option.some.inj h)
      exact ⟨rfl, rfl, by simp only [accepted, goto]; split_ifs <;> simp, fun _ _ hget => hget⟩
  | cleanup =>
      obtain ⟨rfl, rfl⟩ := Prod.mk.inj (Option.some.inj h)
      refine ⟨rfl, rfl, by simp [accepted, goto], fun nonce hdrops hget => ?_⟩
      obtain ⟨expiresAt, hsome⟩ := Option.ne_none_iff_exists'.mp hget
      simp only [drops, hsome, Option.any_some, decide_eq_false_iff_not, not_le] at hdrops
      simp [get_cleanupExpiredAt_of_live hsome hdrops]
  | lenAgain =>
      obtain ⟨rfl, rfl⟩ := Prod.mk.inj (Option.some.inj h)
      exact ⟨rfl, rfl, by simp only [accepted, goto]; split_ifs <;> simp, fun _ _ hget => hget⟩
  | scan =>
      obtain ⟨rfl, rfl⟩ := Prod.mk.inj (Option.some.inj h)
      exact ⟨rfl, rfl, by simp [accepted, goto], fun _ _ hget => hget⟩
  | remove victim =>
      obtain ⟨rfl, rfl⟩ := Prod.mk.inj (Option.some.inj h)
      refine ⟨rfl, rfl, by simp [accepted, goto], fun nonce hdrops hget => ?_⟩
      refine keeps_removeVictim ?_ hget
      rintro rfl
      have hknown : guard.seen.containsKey nonce = true :=
        KeyedMap.containsKey_iff.mpr (Option.ne_none_iff_exists'.mp hget)
      simp [drops, hknown] at hdrops
  | entry =>
      obtain ⟨rfl, rfl⟩ := Prod.mk.inj (Option.some.inj h)
      refine ⟨rfl, rfl, fun haccepted => ?_, fun _ _ hget => keeps_record hget⟩
      simp only [accepted, goto, decide_eq_true_eq, GuardStage.returned.injEq, record]
        at haccepted
      split_ifs at haccepted with hknown
      rw [Bool.not_eq_true, KeyedMap.containsKey_eq_false] at hknown
      refine ⟨hknown, ?_⟩
      simp [record, KeyedMap.containsKey_eq_false.mpr hknown]
  | returned result => cases h

/-! ## A call alone -/

/-- With no other call in progress, the accesses of a call come to `check_and_record_at`. -/
theorem alone_eq_checkAndRecordAt (guard : NonceReplayGuard) (call : GuardCall) (i : Nat) :
    ∃ accesses, guardSystem.alone i guard (start call) (List.replicate accesses ()) =
      some ((guard.checkAndRecordAt call.nonce call.expiresAt call.now).2,
        ⟨call, .returned (guard.checkAndRecordAt call.nonce call.expiresAt call.now).1⟩) := by
  obtain ⟨nonce, expiresAt, now⟩ := call
  by_cases hknown : guard.seen.containsKey nonce
  · exact ⟨1, by simp [System.alone, guardSystem, step, start, goto, checkAndRecordAt, hknown]⟩
  by_cases hfull : guard.isFull
  · by_cases hstill : (guard.cleanupExpiredAt now).isFull
    · exact ⟨7, by simp [System.alone, guardSystem, step, start, goto, checkAndRecordAt,
        makeRoom, evictSoonestExpiring, hknown, hfull, hstill, -isFull_iff]⟩
    · exact ⟨5, by simp [System.alone, guardSystem, step, start, goto, checkAndRecordAt,
        makeRoom, hknown, hfull, hstill, -isFull_iff]⟩
  · exact ⟨3, by simp [System.alone, guardSystem, step, start, goto, checkAndRecordAt,
      makeRoom, hknown, hfull, -isFull_iff]⟩

/-! ## Two calls with one nonce -/

/-- One of two calls has recorded and the other has not returned. -/
def pending (t u : GuardThread) : Bool := (t.accepted && u.running) || (u.accepted && t.running)

theorem pending_comm (t u : GuardThread) : pending t u = pending u t := Bool.or_comm _ _

theorem not_accepted_of_running (h : t.running = true) : t.accepted = false := by
  obtain ⟨call, stage⟩ := t
  cases stage <;> simp_all [running, accepted]

/-- Not both of two calls were accepted, and while one of them can still be, the nonce that the
other recorded is in the guard. -/
def AtMostOne (guard : NonceReplayGuard) (nonce : Str) (t u : GuardThread) : Prop :=
  ¬ (t.accepted = true ∧ u.accepted = true) ∧
    (pending t u = true → guard.seen.get nonce ≠ none)

theorem AtMostOne.symm {u : GuardThread} (h : AtMostOne guard nonce t u) :
    AtMostOne guard nonce u t :=
  ⟨fun hboth => h.1 hboth.symm, fun hpending => h.2 (pending_comm t u ▸ hpending)⟩

/-- An access of one of the two calls. -/
theorem AtMostOne.step {u : GuardThread} (h : AtMostOne guard nonce t u)
    (hstep : StepSpec guard guard' t t') (hnonce : t.call.nonce = nonce)
    (hdrops : pending t u = true → t.drops guard nonce = false) :
    AtMostOne guard' nonce t' u := by
  have hrecords := hstep.records
  rw [hnonce] at hrecords
  -- While `u` is accepted, the mover was still running, so the nonce was there to be found.
  have hknown : u.accepted = true → guard.seen.get nonce ≠ none := fun hu =>
    h.2 (by simp [pending, hu, hstep.running])
  refine ⟨fun ⟨ht', hu⟩ => hknown hu (hrecords ht').1, fun hpending => ?_⟩
  rcases Bool.or_eq_true_iff.mp hpending with hmover | hother
  · exact (hrecords (Bool.and_eq_true_iff.mp hmover).1).2
  · have hu := (Bool.and_eq_true_iff.mp hother).1
    exact hstep.keeps nonce (hdrops (by simp [pending, hu, hstep.running])) (hknown hu)

/-- An access of a third call. -/
theorem AtMostOne.frame {u v v' : GuardThread} (h : AtMostOne guard nonce t u)
    (hstep : StepSpec guard guard' v v')
    (hdrops : pending t u = true → v.drops guard nonce = false) :
    AtMostOne guard' nonce t u :=
  ⟨h.1, fun hpending => hstep.keeps nonce (hdrops hpending) (h.2 hpending)⟩

end GuardThread

/-! ## Runs -/

open GuardThread

abbrev GuardConfig := Config NonceReplayGuard GuardThread

abbrev GuardAction := Action GuardThread Unit Empty

variable {c₀ c c' : GuardConfig} {i j : Nat}

/-- Two calls with one nonce that are in progress at the same time, in a configuration that a
run on `guard` reaches, and what the run goes on to do. -/
structure Overlap (guard : NonceReplayGuard) (i j : Nat) (nonce : Str)
    (before after : List GuardAction) (c₀ c : GuardConfig) : Prop where
  reached : guardSystem.run (Config.initial guard) before = some c₀
  run : guardSystem.run c₀ after = some c
  distinct : i ≠ j
  inProgress : ∀ k, k = i ∨ k = j →
    ∃ t, c₀.threads[k]? = some t ∧ t.running = true ∧ t.call.nonce = nonce

/-- Both calls have returned `Ok`. -/
def BothAccepted (i j : Nat) (c : GuardConfig) : Prop :=
  ∀ k, k = i ∨ k = j → ∃ t, c.threads[k]? = some t ∧ t.accepted = true

/-- Of the calls with one nonce that overlap, at most one returns `Ok`. -/
def OverlappingOnce (guard : NonceReplayGuard) : Prop :=
  ∀ {i j nonce before after c₀ c}, Overlap guard i j nonce before after c₀ c →
    ¬ BothAccepted i j c

/-- A step leaves in the guard the nonce that one of two calls has recorded, while the other is
in progress. -/
def KeepsRecorded (i j : Nat) (nonce : Str) (c : GuardConfig) : GuardAction → Prop
  | .move k _ => ∀ v ∈ c.threads[k]?, ∀ t ∈ c.threads[i]?, ∀ u ∈ c.threads[j]?,
      pending t u = true → v.drops c.shared nonce = false
  | _ => True

instance (i j : Nat) (nonce : Str) (c : GuardConfig) (a : GuardAction) :
    Decidable (KeepsRecorded i j nonce c a) := by
  cases a <;> unfold KeepsRecorded <;> infer_instance

/-- What the run of two overlapping calls maintains. -/
def PairInvariant (i j : Nat) (nonce : Str) (c : GuardConfig) : Prop :=
  ∃ t u, c.threads[i]? = some t ∧ c.threads[j]? = some u ∧
    t.call.nonce = nonce ∧ u.call.nonce = nonce ∧ AtMostOne c.shared nonce t u

theorem pairInvariant_next {a : GuardAction} (hne : i ≠ j) (h : PairInvariant i j nonce c)
    (hkeeps : KeepsRecorded i j nonce c a) (hnext : guardSystem.next c a = some c') :
    PairInvariant i j nonce c' := by
  obtain ⟨t, u, ht, hu, htn, hun, honce⟩ := h
  cases a with
  | spawn call =>
      obtain ⟨_, rfl⟩ := System.next_spawn.mp hnext
      refine ⟨t, u, ?_, ?_, htn, hun, honce⟩
      · exact List.getElem?_append_left (List.getElem?_eq_some_iff.mp ht).1 ▸ ht
      · exact List.getElem?_append_left (List.getElem?_eq_some_iff.mp hu).1 ▸ hu
  | move k choice =>
      obtain ⟨v, guard', v', hv, hmove, rfl⟩ := System.next_move.mp hnext
      have hstep := step_spec hmove
      have hdrops := hkeeps v hv t ht u hu
      have hlt := (List.getElem?_eq_some_iff.mp hv).1
      by_cases hki : k = i
      · subst hki
        obtain rfl : t = v := Option.some.inj (ht.symm.trans hv)
        refine ⟨v', u, List.getElem?_set_self hlt, ?_, hstep.call ▸ htn, hun,
          honce.step hstep htn hdrops⟩
        rw [List.getElem?_set_ne hne]
        exact hu
      by_cases hkj : k = j
      · subst hkj
        obtain rfl : u = v := Option.some.inj (hu.symm.trans hv)
        refine ⟨t, v', ?_, List.getElem?_set_self hlt, htn, hstep.call ▸ hun,
          (honce.symm.step hstep hun (pending_comm t u ▸ hdrops)).symm⟩
        rw [List.getElem?_set_ne hki]
        exact ht
      · refine ⟨t, u, ?_, ?_, htn, hun, honce.frame hstep hdrops⟩
        · rw [List.getElem?_set_ne hki]
          exact ht
        · rw [List.getElem?_set_ne hkj]
          exact hu
  | ambient event => exact event.elim

/-- Of two overlapping calls with one nonce at most one is accepted, in every run on which no
step drops the nonce between the record of one and the return of the other. -/
theorem overlapping_once {before after : List GuardAction}
    (h : Overlap guard i j nonce before after c₀ c)
    (hkeeps : guardSystem.Along (KeepsRecorded i j nonce) c₀ after) :
    ¬ BothAccepted i j c := by
  obtain ⟨t, ht, htr, htn⟩ := h.inProgress i (.inl rfl)
  obtain ⟨u, hu, hur, hun⟩ := h.inProgress j (.inr rfl)
  have hstart : PairInvariant i j nonce c₀ := by
    refine ⟨t, u, ht, hu, htn, hun, ?_, fun hpending => ?_⟩
    · simp [not_accepted_of_running htr]
    · simp [pending, not_accepted_of_running htr, not_accepted_of_running hur] at hpending
  obtain ⟨t', u', ht', hu', _, _, honce⟩ := System.run_invariant_along
    (fun _ _ _ hinv hkeep hnext => pairInvariant_next h.distinct hinv hkeep hnext)
    h.run hkeeps hstart
  intro hboth
  obtain ⟨t'', ht'', haccepted⟩ := hboth i (.inl rfl)
  obtain ⟨u'', hu'', haccepted'⟩ := hboth j (.inr rfl)
  obtain rfl := Option.some.inj (ht'.symm.trans ht'')
  obtain rfl := Option.some.inj (hu'.symm.trans hu'')
  exact honce.1 ⟨haccepted, haccepted'⟩

/-! ## Runs at capacity -/

/-- A call that presents a nonce for five minutes. -/
def presentation (nonce : Str) : GuardThread := start ⟨nonce, 1700000300, 1700000000⟩

/-- Two presentations of one nonce have started. -/
def twoStarted : List GuardAction :=
  [.spawn (presentation (text "n1")), .spawn (presentation (text "n1"))]

def moves (threads : List Nat) : List GuardAction := threads.map fun k => .move k ()

/-- Both look for the nonce, one records it, and the other makes room at its expense. -/
theorem overlappingOnce_fails : ¬ OverlappingOnce (withCapacity 1) := by
  intro h
  have hstarted : guardSystem.run (Config.initial (withCapacity 1)) twoStarted =
      some ⟨withCapacity 1, [presentation (text "n1"), presentation (text "n1")]⟩ := by decide
  have hrun : (guardSystem.run
      ⟨withCapacity 1, [presentation (text "n1"), presentation (text "n1")]⟩
      (moves [0, 1, 0, 0, 1, 1, 1, 1, 1, 1])).isSome = true := by decide
  obtain ⟨c, hc⟩ := Option.isSome_iff_exists.mp hrun
  refine @h 0 1 (text "n1") _ _ _ _ ⟨hstarted, hc, by decide, ?_⟩ ?_
  · rintro k (rfl | rfl)
    · exact ⟨presentation (text "n1"), rfl, rfl, rfl⟩
    · exact ⟨presentation (text "n1"), rfl, rfl, rfl⟩
  · have haccepted : ∀ c' ∈ guardSystem.run
        ⟨withCapacity 1, [presentation (text "n1"), presentation (text "n1")]⟩
        (moves [0, 1, 0, 0, 1, 1, 1, 1, 1, 1]),
        (c'.threads.map accepted)[0]? = some true ∧
          (c'.threads.map accepted)[1]? = some true := by decide
    have hboth := haccepted c hc
    simp only [List.getElem?_map, Option.map_eq_some_iff] at hboth
    rintro k (rfl | rfl)
    · exact hboth.1
    · exact hboth.2

/-- A guard of two entries, which both expire before the presentations do. -/
def fullGuard : NonceReplayGuard :=
  (((withCapacity 2).checkAndRecordAt (text "n2") 1700000100 1700000000).2.checkAndRecordAt
    (text "n3") 1700000200 1700000000).2

/-- Both find the guard full and evict, each another entry; the second presentation is refused. -/
theorem overlapping_once_evicting :
    ∃ c, guardSystem.run
        ⟨fullGuard, [presentation (text "n1"), presentation (text "n1")]⟩
        (moves [0, 1, 0, 0, 0, 0, 0, 0, 1, 1, 1, 1, 1, 1]) = some c ∧
      c.shared.seen.keys = [text "n1"] ∧ ¬ BothAccepted 0 1 c := by
  have hstarted : guardSystem.run (Config.initial fullGuard) twoStarted =
      some ⟨fullGuard, [presentation (text "n1"), presentation (text "n1")]⟩ := by decide
  have hkeys : (guardSystem.run
      ⟨fullGuard, [presentation (text "n1"), presentation (text "n1")]⟩
      (moves [0, 1, 0, 0, 0, 0, 0, 0, 1, 1, 1, 1, 1, 1])).map (fun c => c.shared.seen.keys) =
        some [text "n1"] := by decide
  obtain ⟨c, hc, hkeys⟩ := Option.map_eq_some_iff.mp hkeys
  have hoverlap : Overlap fullGuard 0 1 (text "n1") twoStarted
      (moves [0, 1, 0, 0, 0, 0, 0, 0, 1, 1, 1, 1, 1, 1])
      ⟨fullGuard, [presentation (text "n1"), presentation (text "n1")]⟩ c := by
    refine ⟨hstarted, hc, by decide, ?_⟩
    rintro k (rfl | rfl)
    · exact ⟨presentation (text "n1"), rfl, rfl, rfl⟩
    · exact ⟨presentation (text "n1"), rfl, rfl, rfl⟩
  exact ⟨c, hc, hkeys, overlapping_once hoverlap (by decide)⟩

end AquaAuth.HttpSig
