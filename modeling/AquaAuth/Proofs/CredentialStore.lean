import AquaAuth.Model.CredentialStore
set_option autoImplicit false
/-!
# Integrity of the credential store

Along a run no sign count decreases and no call touches the credential of another DID,
exactly when every `insert` over a stored id comes from the DID that owns it and brings at
least its count.  The lookups are exact in every state.
-/

namespace AquaAuth

open Support

namespace InMemoryWebauthnStore

variable {store : InMemoryWebauthnStore} {c : StoredCredential} {credId : CredentialId}

/-- The credential stored under an id. -/
def cred (store : InMemoryWebauthnStore) (credId : CredentialId) : Option StoredCredential :=
  store.creds.get credId.bytes

theorem credentialId_of_cred (h : store.cred credId = some c) : c.credentialId = credId :=
  CredentialId.ext (store.keyed _ (KeyedMap.get_eq_some.mp h))

theorem cred_put (c : StoredCredential) (credId : CredentialId) :
    (store.put c).cred credId = if credId = c.credentialId then some c else store.cred credId := by
  unfold cred put
  rw [KeyedMap.get_insert]
  exact if_congr CredentialId.ext_iff.symm rfl rfl

theorem cred_erase (credId id : CredentialId) :
    (store.erase credId).cred id = if id = credId then none else store.cred id := by
  unfold cred erase
  rw [KeyedMap.get_remove]
  exact if_congr CredentialId.ext_iff.symm rfl rfl

/-! ## What one call does -/

theorem cred_updateSignCount (store : InMemoryWebauthnStore) (credId id : CredentialId)
    (newCount : Nat) :
    (store.updateSignCount credId newCount).2.cred id =
      (store.cred id).map fun c =>
        if id = credId then { c with signCount := max c.signCount newCount } else c := by
  unfold updateSignCount
  cases hget : store.creds.get credId.bytes with
  | none =>
      by_cases hid : id = credId
      · have hnone : store.cred id = none := by rw [hid]; exact hget
        simp [hnone]
      · simp [hid]
  | some c =>
      have hcred : store.cred credId = some c := hget
      have hown := credentialId_of_cred hcred
      by_cases hcount : c.signCount < newCount
      · simp only [if_pos hcount, cred_put, hown]
        by_cases hid : id = credId
        · simp [hid, hcred, hown, Nat.max_eq_right hcount.le]
        · simp [hid]
      · simp only [if_neg hcount]
        by_cases hid : id = credId
        · simp [hid, hcred, Nat.max_eq_left (Nat.le_of_not_lt hcount)]
        · simp [hid]

theorem delete_cases (store : InMemoryWebauthnStore) (did : Str) (credId : CredentialId) :
    (∃ c, store.cred credId = some c ∧ c.did = did ∧
      (store.delete did credId).2 = store.erase credId) ∨ (store.delete did credId).2 = store := by
  unfold delete
  cases hget : store.creds.get credId.bytes with
  | none => exact .inr rfl
  | some c =>
      by_cases hdid : c.did = did
      · exact .inl ⟨c, hget, hdid, by simp only [if_pos hdid]⟩
      · exact .inr (by simp only [if_neg hdid])

end InMemoryWebauthnStore

/-! ## Integrity -/

/-- A call leaves every sign count at least where it was, and leaves the credentials of DIDs
it is not made on behalf of alone. -/
structure Intact (store : InMemoryWebauthnStore) (op : CredentialOp) : Prop where
  signCount : ∀ id c c', store.cred id = some c → (store.call op).2.cred id = some c' →
    c.signCount ≤ c'.signCount
  others : ∀ a, op.onBehalfOf = some a → ∀ id c, store.cred id = some c → c.did ≠ a →
    (store.call op).2.cred id = some c

/-- An `insert` over a stored id comes from its owner and brings at least its count. -/
def Respectful (store : InMemoryWebauthnStore) : CredentialOp → Prop
  | .insert cred _ => ∀ c, store.cred cred.credentialId = some c →
      c.did = cred.did ∧ c.signCount ≤ cred.signCount
  | _ => True

theorem respectful_of_intact {store : InMemoryWebauthnStore} {op : CredentialOp}
    (h : Intact store op) : Respectful store op := by
  cases op with
  | insert cred now =>
      intro c hc
      have hstored : (store.call (.insert cred now)).2.cred cred.credentialId =
          some (cred.stored now) := by
        show (store.put (cred.stored now)).cred cred.credentialId = _
        rw [InMemoryWebauthnStore.cred_put]
        exact if_pos rfl
      constructor
      · by_contra hother
        have hkept := h.others _ rfl _ c hc hother
        rw [hstored] at hkept
        exact hother (Option.some.inj hkept ▸ rfl)
      · exact h.signCount _ c _ hc hstored
  | listForDid did => trivial
  | getById credId => trivial
  | updateSignCount credId newCount => trivial
  | delete did credId => trivial

theorem intact_of_unchanged {store : InMemoryWebauthnStore} {op : CredentialOp}
    (h : (store.call op).2 = store) : Intact store op where
  signCount := by
    intro id c c' hc hc'
    rw [h, hc] at hc'
    obtain rfl := Option.some.inj hc'
    exact le_refl _
  others := by
    intro a _ id c hc _
    rw [h]
    exact hc

theorem intact_of_respectful {store : InMemoryWebauthnStore} {op : CredentialOp}
    (h : Respectful store op) : Intact store op := by
  cases op with
  | insert cred now =>
      have hput : ∀ id, (store.call (.insert cred now)).2.cred id =
          if id = cred.credentialId then some (cred.stored now) else store.cred id :=
        InMemoryWebauthnStore.cred_put (cred.stored now)
      constructor
      · intro id c c' hc hc'
        rw [hput] at hc'
        by_cases hid : id = cred.credentialId
        · rw [if_pos hid] at hc'
          obtain rfl := Option.some.inj hc'
          exact (h c (hid ▸ hc)).2
        · rw [if_neg hid, hc] at hc'
          obtain rfl := Option.some.inj hc'
          exact le_refl _
      · intro a ha id c hc hother
        obtain rfl : cred.did = a := Option.some.inj ha
        rw [hput, if_neg]
        · exact hc
        · rintro rfl
          exact hother (h c hc).1
  | listForDid did => exact intact_of_unchanged rfl
  | getById credId => exact intact_of_unchanged rfl
  | updateSignCount credId newCount =>
      refine ⟨fun id c c' hc hc' => ?_, nofun⟩
      have hupdate := store.cred_updateSignCount credId id newCount
      rw [hc, Option.map_some] at hupdate
      obtain rfl := Option.some.inj (hupdate.symm.trans hc')
      split_ifs
      · exact le_max_left _ _
      · exact le_refl _
  | delete did credId =>
      rcases store.delete_cases did credId with
        ⟨owned, howned, hdid, hdelete⟩ | hdelete
      · have herase : ∀ id, (store.call (.delete did credId)).2.cred id =
            if id = credId then none else store.cred id := fun id =>
          (congrArg (·.cred id) hdelete).trans (InMemoryWebauthnStore.cred_erase credId id)
        constructor
        · intro id c c' hc hc'
          rw [herase] at hc'
          by_cases hid : id = credId
          · simp [hid] at hc'
          · rw [if_neg hid, hc] at hc'
            obtain rfl := Option.some.inj hc'
            exact le_refl _
        · intro a ha id c hc hother
          obtain rfl : did = a := Option.some.inj ha
          rw [herase, if_neg]
          · exact hc
          · rintro rfl
            obtain rfl := Option.some.inj (howned.symm.trans hc)
            exact hother hdid
      · exact intact_of_unchanged hdelete

/-- A call is intact exactly when it is respectful. -/
theorem intact_iff {store : InMemoryWebauthnStore} {op : CredentialOp} :
    Intact store op ↔ Respectful store op :=
  ⟨respectful_of_intact, intact_of_respectful⟩

/-! ## Lookups -/

/-- `list_for_did` names the credentials of a DID and `get_by_id` finds each of them. -/
structure LooksUp (store : InMemoryWebauthnStore) : Prop where
  listed : ∀ did, ∃ creds, store.listForDid did = .ok creds ∧ creds.Nodup ∧
    ∀ c, c ∈ creds ↔ c ∈ store.creds.entries.map Prod.snd ∧ c.did = did
  found : ∀ credId c, store.getById credId = .ok (some c) ↔
    c ∈ store.creds.entries.map Prod.snd ∧ c.credentialId = credId

theorem looksUp (store : InMemoryWebauthnStore) : LooksUp store where
  listed did := by
    refine ⟨_, rfl, List.Nodup.filter _ ?_, fun c => by simp⟩
    have hids : (store.creds.entries.map Prod.snd).map (fun c => c.credentialId.bytes) =
        store.creds.entries.map Prod.fst := by
      rw [List.map_map]
      exact List.map_congr_left store.keyed
    exact List.Nodup.of_map _ (hids ▸ store.creds.nodup)
  found credId c := by
    simp only [InMemoryWebauthnStore.getById, Except.ok.injEq, KeyedMap.get_eq_some]
    constructor
    · intro hmem
      exact ⟨List.mem_map.mpr ⟨_, hmem, rfl⟩, CredentialId.ext (store.keyed _ hmem)⟩
    · rintro ⟨hmem, rfl⟩
      obtain ⟨⟨bytes, _⟩, hentry, rfl⟩ := List.mem_map.mp hmem
      have hkey := store.keyed _ hentry
      exact hkey ▸ hentry

/-! ## Runs -/

/-- While an id stays stored its sign count does not decrease. -/
theorem signCount_le_of_meets {store : InMemoryWebauthnStore} {ops : List CredentialOp}
    {credId : CredentialId} {c c' : StoredCredential}
    (h : credentialService.Meets Intact store ops)
    (hstays : ∀ done, done <+: ops → ((credentialService.after store done).cred credId).isSome)
    (hc : store.cred credId = some c)
    (hc' : (credentialService.after store ops).cred credId = some c') :
    c.signCount ≤ c'.signCount := by
  induction ops generalizing store c with
  | nil =>
      obtain rfl := Option.some.inj (hc.symm.trans hc')
      exact le_refl _
  | cons op ops ih =>
      obtain ⟨next, hnext⟩ := Option.isSome_iff_exists.mp (hstays [op] ⟨ops, rfl⟩)
      have hstep : c.signCount ≤ next.signCount := h.1.signCount credId c next hc hnext
      apply hstep.trans
      apply ih h.2 ?_ hnext hc'
      intro done hdone
      exact hstays (op :: done) (List.cons_prefix_cons.mpr ⟨rfl, hdone⟩)

/-- Every call of a run is intact exactly when every call is respectful.  Then the sign count of
an id never decreases while the id stays stored.  The lookups are exact in every state. -/
theorem credentials_intact_iff (store : InMemoryWebauthnStore) (ops : List CredentialOp) :
    (credentialService.Meets Intact store ops ↔ credentialService.Meets Respectful store ops) ∧
    (credentialService.Meets Respectful store ops →
      ∀ before during rest, ops = before ++ (during ++ rest) → ∀ credId c c',
        (∀ done, done <+: during →
          ((credentialService.after store (before ++ done)).cred credId).isSome) →
        (credentialService.after store before).cred credId = some c →
        (credentialService.after store (before ++ during)).cred credId = some c' →
        c.signCount ≤ c'.signCount) ∧
    ∀ before rest, ops = before ++ rest → LooksUp (credentialService.after store before) := by
  have hiff : credentialService.Meets Intact store ops ↔
      credentialService.Meets Respectful store ops := by
    simp only [Service.meets_iff, intact_iff]
  refine ⟨hiff, ?_, fun before rest _ => looksUp _⟩
  rintro hrespectful before during rest rfl credId c c' hstays hc hc'
  have hmeets := (Service.meets_append.mp (hiff.mpr hrespectful)).2
  rw [Service.after_append] at hc'
  refine signCount_le_of_meets (Service.meets_append.mp hmeets).1 ?_ hc hc'
  intro done hdone
  rw [← Service.after_append]
  exact hstays done hdone

/-! ### An insert over a stored id -/

/-- Two registrations of one credential id. -/
def takeover : List CredentialOp :=
  [.insert ⟨text "did:key:zDnaeAlice", ⟨[1, 2, 3]⟩, [], 5, [text "internal"], none⟩ 1700000000,
    .insert ⟨text "did:key:zDnaeMallory", ⟨[1, 2, 3]⟩, [], 0, [text "usb"], none⟩ 1700000001]

/-- The second registration takes the row of the first one over, and its count goes back. -/
theorem credentials_takeover_fails :
    ¬ ∀ ops, credentialService.Meets Intact .new ops := by
  intro h
  obtain ⟨_, hsecond, _⟩ := h takeover
  obtain ⟨hdid, _⟩ := respectful_of_intact hsecond _ rfl
  exact absurd hdid (by decide)

end AquaAuth
