import AquaAuth.Model.Directory
set_option autoImplicit false
/-!
# The documents of the key directory

Both documents list the keys that are live when they are rendered, and each entry can be
traced back to its DID.  A document stays accurate for as long as it may be cached unless a
registered key becomes live in the meantime.
-/

namespace AquaAuth.Directory

open Support Support.Result

variable {D : Dalek} {sha256 : Bytes → ByteArr 32}

/-! ## The registry -/

namespace KeyRegistry

theorem add_cases (registry : KeyRegistry D) (key : AdvertisedKey) :
    (∃ e, registry.add key = (.error e, registry) ∧ ¬ key.Advertisable D) ∨
      ∃ h : key.Advertisable D, registry.add key = (.ok (), registry.push key h) := by
  unfold add
  split_ifs with hwindow
  · exact .inl ⟨_, rfl, fun h => absurd h.1 (Nat.not_lt.mpr hwindow)⟩
  · split
    next e hraw =>
      refine .inl ⟨_, rfl, fun h => ?_⟩
      obtain ⟨raw, hok⟩ := h.2
      rw [hraw] at hok
      cases hok
    next raw hraw => exact .inr ⟨⟨Nat.lt_of_not_le hwindow, raw, hraw⟩, rfl⟩

theorem add_refused {registry : KeyRegistry D} {key : AdvertisedKey} {e : DirectoryError}
    (h : (registry.add key).1 = .error e) : (registry.add key).2 = registry := by
  rcases add_cases registry key with ⟨_, hadd, _⟩ | ⟨_, hadd⟩
  · rw [hadd]
  · rw [hadd] at h
    cases h

end KeyRegistry

/-- Whether `add` lets a key in. -/
def accepts (D : Dalek) (key : AdvertisedKey) : Bool := ((KeyRegistry.new D).add key).1.isOk

theorem accepts_iff {key : AdvertisedKey} : accepts D key = true ↔ key.Advertisable D := by
  unfold accepts
  rcases KeyRegistry.add_cases (.new D) key with ⟨e, hadd, hnot⟩ | ⟨hkey, hadd⟩
  · rw [hadd]
    exact iff_of_false (by simp [Except.isOk, Except.toBool]) hnot
  · rw [hadd]
    exact iff_of_true rfl hkey

namespace KeyRegistry

theorem keys_add (registry : KeyRegistry D) (key : AdvertisedKey) :
    (registry.add key).2.keys = registry.keys ++ [key].filter (accepts D) := by
  rcases add_cases registry key with ⟨e, hadd, hnot⟩ | ⟨hkey, hadd⟩
  · have haccepts : accepts D key = false := Bool.eq_false_iff.mpr (mt accepts_iff.mp hnot)
    simp [hadd, haccepts]
  · simp [hadd, accepts_iff.mpr hkey, push]

/-- The registry holds the keys `add` let in, in the order of the calls. -/
theorem keys_afterAdds (adds : List AdvertisedKey) :
    (afterAdds D adds).keys = adds.filter (accepts D) := by
  have hfold : ∀ (registry : KeyRegistry D),
      (adds.foldl (fun registry key => (registry.add key).2) registry).keys =
        registry.keys ++ adds.filter (accepts D) := by
    induction adds with
    | nil => simp
    | cons key adds ih =>
        intro registry
        rw [List.foldl_cons, ih, keys_add, List.append_assoc, ← List.filter_append]
        rfl
  exact (hfold (new D)).trans (List.nil_append _)

theorem mem_active {registry : KeyRegistry D} {now : Nat} {key : AdvertisedKey} :
    key ∈ registry.active now ↔ key ∈ registry.keys ∧ key.nbf ≤ now ∧ now < key.exp := by
  simp [active, AdvertisedKey.isActiveAt]

end KeyRegistry

/-! ## Rendering -/

/-- The rendered documents, when every live key renders. -/
theorem renderJwks_eq_ok {registry : KeyRegistry D} {now : Nat} {doc : DirectoryDocument} :
    renderJwks sha256 registry now = .ok doc ↔
      ∃ keys,
        List.Forall₂ (fun key jwk => jwkOf D sha256 key = .ok jwk) (registry.active now) keys ∧
        doc = { path := text "/.well-known/http-message-signatures-directory"
                contentType := text "application/http-message-signatures-directory+json"
                cacheControl := cacheControl (registry.active now) now
                body := (Jwks.toJson ⟨keys⟩).compact } := by
  simp only [renderJwks, serialize, bind_eq_ok, mapM_eq_ok, pure_eq_ok, Except.ok.injEq,
    exists_eq_left', eq_comm (b := doc)]

theorem renderAquaIdentity_eq_ok {registry : KeyRegistry D} {now : Nat}
    {doc : DirectoryDocument} :
    renderAquaIdentity sha256 registry now = .ok doc ↔
      ∃ keys, List.Forall₂ (fun key entry => aquaKeyOf D sha256 key = .ok entry)
          (registry.active now) keys ∧
        doc = { path := text "/.well-known/aqua-identity"
                contentType := text "application/json"
                cacheControl := cacheControl (registry.active now) now
                body := (AquaIdentity.toJson
                  ⟨1, (registry.active now).map AdvertisedKey.did, keys⟩).compact } := by
  simp only [renderAquaIdentity, serialize, bind_eq_ok, mapM_eq_ok, pure_eq_ok, Except.ok.injEq,
    exists_eq_left', eq_comm (b := doc)]

/-! ## The cache lifetime -/

/-- The floor does not raise the lifetime. -/
def FloorUnused (registry : KeyRegistry D) (now : Nat) : Prop :=
  minCacheSeconds ≤ soonestLapse (registry.active now) now

/-- The keys a document names are the live ones for as long as it may be cached. -/
def Accurate (registry : KeyRegistry D) (now : Nat) : Prop :=
  ∀ t, now ≤ t → t < now + cacheSeconds (registry.active now) now →
    registry.active t = registry.active now

/-- No registered key becomes live before the first of the live ones lapses. -/
def NoneUpcoming (registry : KeyRegistry D) (now : Nat) : Prop :=
  ∀ key ∈ registry.keys,
    ¬ (now < key.nbf ∧ key.nbf < now + soonestLapse (registry.active now) now)

theorem soonestLapse_le {active : List AdvertisedKey} {now : Nat} {key : AdvertisedKey}
    (h : key ∈ active) : soonestLapse active now ≤ key.exp - now := by
  unfold soonestLapse
  cases hmin : (active.map fun key => key.exp - now).min? with
  | none => exact Nat.zero_le _
  | some least =>
      have hle := (List.min?_eq_some_iff.mp hmin).2
      exact hle _ (List.mem_map_of_mem h)

theorem cacheSeconds_of_floorUnused {registry : KeyRegistry D} {now : Nat}
    (h : FloorUnused registry now) :
    cacheSeconds (registry.active now) now = soonestLapse (registry.active now) now :=
  Nat.max_eq_left h

theorem accurate_of_noneUpcoming {registry : KeyRegistry D} {now : Nat}
    (hfloor : FloorUnused registry now) (h : NoneUpcoming registry now) :
    Accurate registry now := by
  intro t hle hlt
  rw [cacheSeconds_of_floorUnused hfloor] at hlt
  apply List.filter_congr
  intro key hkey
  have hupcoming := h key hkey
  have hlapse : key.nbf ≤ now → now < key.exp → t < key.exp := by
    intro hnbf hexp
    have hmem := KeyRegistry.mem_active.mpr ⟨hkey, hnbf, hexp⟩
    have hsoonest : soonestLapse (registry.active now) now ≤ key.exp - now := soonestLapse_le hmem
    omega
  rw [Bool.eq_iff_iff]
  simp only [AdvertisedKey.isActiveAt, Bool.and_eq_true, decide_eq_true_eq]
  constructor
  · rintro ⟨hnbf, hexp⟩
    omega
  · rintro ⟨hnbf, hexp⟩
    exact ⟨hnbf.trans hle, hlapse hnbf hexp⟩

theorem noneUpcoming_of_accurate {registry : KeyRegistry D} {now : Nat}
    (h : Accurate registry now) : NoneUpcoming registry now := by
  rintro key hkey ⟨hnow, hsoon⟩
  have hexp := (registry.advertisable key hkey).1
  have hcached : key.nbf < now + cacheSeconds (registry.active now) now :=
    hsoon.trans_le (Nat.add_le_add_left (Nat.le_max_left _ _) now)
  have hactive := h key.nbf hnow.le hcached
  have hmem : key ∈ registry.active key.nbf :=
    KeyRegistry.mem_active.mpr ⟨hkey, le_refl _, hexp⟩
  rw [hactive] at hmem
  have hnbf := (KeyRegistry.mem_active.mp hmem).2.1
  omega

/-- Where the floor does not raise it, the advertised lifetime is accurate exactly when no
registered key becomes live before the first of the live ones lapses. -/
theorem accurate_iff (D : Dalek) (sha256 : Bytes → ByteArr 32) (adds : List AdvertisedKey)
    (now : Nat) (hfloor : FloorUnused (KeyRegistry.afterAdds D adds) now) :
    let registry := KeyRegistry.afterAdds D adds
    (∀ doc, renderJwks sha256 registry now = .ok doc →
      doc.cacheControl =
        text "max-age=" ++ Text.decimal (cacheSeconds (registry.active now) now)) ∧
    (∀ doc, renderAquaIdentity sha256 registry now = .ok doc →
      doc.cacheControl =
        text "max-age=" ++ Text.decimal (cacheSeconds (registry.active now) now)) ∧
    (Accurate registry now ↔ NoneUpcoming registry now) := by
  refine ⟨?_, ?_, noneUpcoming_of_accurate, accurate_of_noneUpcoming hfloor⟩
  · intro doc hdoc
    obtain ⟨_, _, rfl⟩ := renderJwks_eq_ok.mp hdoc
    rfl
  · intro doc hdoc
    obtain ⟨_, _, rfl⟩ := renderAquaIdentity_eq_ok.mp hdoc
    rfl

/-! ### A key that becomes live while the documents are cached -/

/-- The keys of a rotation, each with a signature of `key rotation`. -/
def rotationDalek : Dalek :=
  .ofTable
    [{ key := bytesOfHex "8a88e3dd7409f195fd52db2d3cba5d72ca6709bf1d94121bf3748801b40f6f5c"
       message := Text.utf8 (text "key rotation")
       signature := bytesOfHex <|
        "a8e11e2ecd6da5078867bab60f7d0ba82b67b5d320e1a6fe945aa6d4aacbcf3e" ++
        "8d6ecfc0d5685a1a50e029ae03ad690af2534b3e7c678dbade3512dbb0cd0205" },
     { key := bytesOfHex "8139770ea87d175f56a35466c34c7ecccb8d8a91b4ee37a25df60f5b8fc9b394"
       message := Text.utf8 (text "key rotation")
       signature := bytesOfHex <|
        "93ff7718c17a8fc1f7f2800df315d08a7e62d573bbc8732e02b242bc23c1254b" ++
        "36556e7075c5f7524af18174a810d4b813859c8646d1783b50a5c4865893790a" }]

def outgoingKey : AdvertisedKey :=
  ⟨text "did:key:z6Mkon3Necd6NkkyfoGoHxid2znGc59LU3K7mubaRcFbLfLX", 0, 10000⟩

/-- The successor of `outgoingKey`, live from 9000 on. -/
def incomingKey : AdvertisedKey :=
  ⟨text "did:key:z6Mko9hTggMwjSTEaJaPUfE6tqcy2xvU6BnNq3e3o8qVBiyH", 9000, 50000⟩

/-- SHA-256 of the JWKs of the rotation. -/
def rotationSha256 : Bytes → ByteArr 32 :=
  digestOfTable
    [(Text.utf8 (canonicalOkpJwk crvEd25519 (text "iojj3XQJ8ZX9UtstPLpdcspnCb8dlBIb83SIAbQPb1w")),
        arrOfHex 32 "5030d178e665d62a5701fa7dc18b26d77b0304c2b9a20fbe4167418f3b9fea8e"),
      (Text.utf8 (canonicalOkpJwk crvEd25519 (text "gTl3Dqh9F19Wo1Rmw0x-zMuNipG07jeiXfYPW4_Js5Q")),
        arrOfHex 32 "69506d6a92ddd7549454a20c1897cfcce103b8dd2c5dc9b32503554fefec2845")]

/-- Documents fetched at 1000 may be cached until 10000, and miss the key that is live from
9000 on. -/
theorem accurate_rotation_fails :
    ¬ ∀ (D : Dalek) (adds : List AdvertisedKey) (now : Nat),
      FloorUnused (KeyRegistry.afterAdds D adds) now →
        Accurate (KeyRegistry.afterAdds D adds) now := by
  intro h
  have hfloor :
      FloorUnused (KeyRegistry.afterAdds rotationDalek [outgoingKey, incomingKey]) 1000 := by
    unfold FloorUnused
    decide +kernel
  have hmissed := h rotationDalek [outgoingKey, incomingKey] 1000 hfloor 9000 (by decide)
    (by decide +kernel)
  exact absurd hmissed (by decide +kernel)

theorem accurate_iff_rotation :
    let registry := KeyRegistry.afterAdds rotationDalek [outgoingKey, incomingKey]
    (∀ doc, renderJwks rotationSha256 registry 9500 = .ok doc →
      doc.cacheControl =
        text "max-age=" ++ Text.decimal (cacheSeconds (registry.active 9500) 9500)) ∧
    (∀ doc, renderAquaIdentity rotationSha256 registry 9500 = .ok doc →
      doc.cacheControl =
        text "max-age=" ++ Text.decimal (cacheSeconds (registry.active 9500) 9500)) ∧
    (Accurate registry 9500 ↔ NoneUpcoming registry 9500) :=
  accurate_iff rotationDalek rotationSha256 [outgoingKey, incomingKey] 9500
    (by unfold FloorUnused; decide +kernel)

/-! ## Reading a document -/

theorem Jwk.toJson_injective : Function.Injective Jwk.toJson := by
  rintro ⟨⟩ ⟨⟩ h
  simpa [Jwk.toJson] using h

theorem AquaKey.toJson_injective : Function.Injective AquaKey.toJson := by
  rintro ⟨⟩ ⟨⟩ h
  simpa [AquaKey.toJson] using h

/-- A body names its entries. -/
theorem Jwks.compact_inj {keys keys' : List Jwk}
    (h : (Jwks.toJson ⟨keys⟩).compact = (Jwks.toJson ⟨keys'⟩).compact) : keys = keys' := by
  have hjson := Json.compact_injective h
  simp only [Jwks.toJson, Json.obj.injEq, List.cons.injEq, Prod.mk.injEq, Json.arr.injEq,
    true_and, and_true] at hjson
  exact Jwk.toJson_injective.list_map hjson

theorem AquaIdentity.compact_inj {dids dids' : List Str} {keys keys' : List AquaKey}
    (h : (AquaIdentity.toJson ⟨1, dids, keys⟩).compact =
      (AquaIdentity.toJson ⟨1, dids', keys'⟩).compact) : dids = dids' ∧ keys = keys' := by
  have hjson := Json.compact_injective h
  have hstr : Function.Injective Json.str := fun _ _ h => Json.str.inj h
  simp only [AquaIdentity.toJson, Json.obj.injEq, List.cons.injEq, Prod.mk.injEq, Json.arr.injEq,
    true_and, and_true] at hjson
  exact ⟨hstr.list_map hjson.1, AquaKey.toJson_injective.list_map hjson.2⟩

/-! ## One key in both documents -/

/-- The entries of a key in the two documents. -/
structure Describes (sha256 : Bytes → ByteArr 32) (key : AdvertisedKey) (jwk : Jwk)
    (entry : AquaKey) : Prop where
  jwkWindow : jwk.nbf = key.nbf ∧ jwk.exp = key.exp
  entryWindow : entry.nbf = key.nbf ∧ entry.exp = key.exp
  did : entry.did = key.did
  kid : jwk.kid = entry.thumbprint
  thumbprint : entry.thumbprint = okpThumbprint sha256 crvEd25519 jwk.x
  reencodes : ∃ raw : ByteArr 32, Base64.decodeNoPad Base64.urlSafe jwk.x = some raw.1 ∧
    ed25519DidKeyFromPubkey raw = entry.did

theorem describes_of_ok {key : AdvertisedKey} {jwk : Jwk} {entry : AquaKey}
    (hjwk : jwkOf D sha256 key = .ok jwk) (hentry : aquaKeyOf D sha256 key = .ok entry) :
    Describes sha256 key jwk entry := by
  obtain ⟨x, hx, hjwk⟩ := bind_eq_ok.mp hjwk
  obtain rfl := Except.ok.inj hjwk
  obtain ⟨raw, hraw, hx'⟩ := bind_eq_ok.mp hx
  obtain rfl := Except.ok.inj hx'
  have hthumbprint : key.thumbprint D sha256 =
      .ok (okpThumbprint sha256 crvEd25519 (Base64.encodeNoPad Base64.urlSafe raw.1)) :=
    bind_eq_ok.mpr ⟨_, hx, rfl⟩
  simp only [aquaKeyOf, hthumbprint, ok_bind, pure_eq_ok, Except.ok.injEq] at hentry
  subst hentry
  exact
    { jwkWindow := ⟨rfl, rfl⟩
      entryWindow := ⟨rfl, rfl⟩
      did := rfl
      kid := rfl
      thumbprint := rfl
      reencodes := ⟨raw, Base64.decodeNoPad_encodeNoPad Base64.urlSafe_alphabet _,
        ed25519DidKey_of_decode (mapError_eq_ok.mp hraw)⟩ }

theorem renders_of_advertisable (sha256 : Bytes → ByteArr 32) {key : AdvertisedKey}
    (h : key.Advertisable D) :
    (∃ jwk, jwkOf D sha256 key = .ok jwk) ∧ ∃ entry, aquaKeyOf D sha256 key = .ok entry := by
  obtain ⟨raw, hraw⟩ := h.2
  simp [jwkOf, aquaKeyOf, AdvertisedKey.thumbprint, AdvertisedKey.xB64url, hraw, Except.mapError]

/-! ## Both documents -/

/-- The keys `add` let in that are live at an instant, in the order of the calls. -/
def liveKeys (D : Dalek) (adds : List AdvertisedKey) (now : Nat) : List AdvertisedKey :=
  (adds.filter (accepts D)).filter fun key => key.nbf ≤ now ∧ now < key.exp

theorem active_afterAdds (adds : List AdvertisedKey) (now : Nat) :
    (KeyRegistry.afterAdds D adds).active now = liveKeys D adds now := by
  rw [KeyRegistry.active, KeyRegistry.keys_afterAdds, liveKeys]
  exact List.filter_congr fun key _ => (Bool.decide_and _ _).symm

/-- After any calls of `add` both documents render, list the keys that are live in the order of
the calls and describe each of them alike, and a refused call changes neither. -/
theorem documents_agree (D : Dalek) (sha256 : Bytes → ByteArr 32) (adds : List AdvertisedKey)
    (now : Nat) :
    let registry := KeyRegistry.afterAdds D adds
    let live := liveKeys D adds now
    (∃ (directory identity : DirectoryDocument) (jwks : List Jwk) (entries : List AquaKey),
      renderJwks sha256 registry now = .ok directory ∧
      renderAquaIdentity sha256 registry now = .ok identity ∧
      (∀ keys, directory.body = (Jwks.toJson ⟨keys⟩).compact ↔ keys = jwks) ∧
      (∀ dids keys, identity.body = (AquaIdentity.toJson ⟨1, dids, keys⟩).compact ↔
        dids = live.map AdvertisedKey.did ∧ keys = entries) ∧
      jwks.length = live.length ∧ entries.length = live.length ∧
      ∀ (i : Nat) key jwk entry,
        live[i]? = some key → jwks[i]? = some jwk → entries[i]? = some entry →
        Describes sha256 key jwk entry) ∧
    ∀ key e, (registry.add key).1 = .error e → ∀ t,
      renderJwks sha256 (registry.add key).2 t = renderJwks sha256 registry t ∧
      renderAquaIdentity sha256 (registry.add key).2 t = renderAquaIdentity sha256 registry t := by
  intro registry live
  have hactive : registry.active now = live := active_afterAdds adds now
  have hrenders : ∀ key ∈ registry.active now, key.Advertisable D := fun key hkey =>
    registry.advertisable key (KeyRegistry.mem_active.mp hkey).1
  obtain ⟨jwks, hjwks⟩ := exists_forall₂_of_ok fun key hkey =>
    (renders_of_advertisable sha256 (hrenders key hkey)).1
  obtain ⟨entries, hentries⟩ := exists_forall₂_of_ok fun key hkey =>
    (renders_of_advertisable sha256 (hrenders key hkey)).2
  refine ⟨⟨_, _, jwks, entries, renderJwks_eq_ok.mpr ⟨jwks, hjwks, rfl⟩,
    renderAquaIdentity_eq_ok.mpr ⟨entries, hentries, rfl⟩, ?_, ?_, ?_, ?_, ?_⟩, ?_⟩
  · intro keys
    constructor
    · exact fun h => (Jwks.compact_inj h).symm
    · rintro rfl
      rfl
  · intro dids keys
    rw [hactive]
    constructor
    · intro h
      obtain ⟨hdids, hkeys⟩ := AquaIdentity.compact_inj h
      exact ⟨hdids.symm, hkeys.symm⟩
    · rintro ⟨rfl, rfl⟩
      rfl
  · rw [← hactive, hjwks.length_eq]
  · rw [← hactive, hentries.length_eq]
  · intro i key jwk entry hkey hjwk hentry
    rw [← hactive] at hkey
    exact describes_of_ok (rel_of_forall₂ hjwks hkey hjwk) (rel_of_forall₂ hentries hkey hentry)
  · intro key e hadd t
    rw [KeyRegistry.add_refused hadd]
    exact ⟨rfl, rfl⟩

end AquaAuth.Directory
