import AquaAuth.Support.Json
import AquaAuth.Model.Did
set_option autoImplicit false
/-!
# The key directory

The `aqua-auth-directory` crate: the registry of advertised keys and the two well-known
documents rendered from it.  A registry holds only what `add` lets in.
-/

namespace AquaAuth.Directory

open Support Support.Result

variable (D : Dalek) (sha256 : Bytes → ByteArr 32)

/-- `CRV_ED25519` -/
def crvEd25519 : Str := text "Ed25519"

/-- `DirectoryError` -/
inductive DirectoryError where
  | invalidWindow (nbf exp : Nat)
  | unsupportedDid (reason : Str)
  | serialization (reason : Str)
  deriving DecidableEq, Repr

/-! ## thumbprint.rs -/

/-- `canonical_okp_jwk` -/
def canonicalOkpJwk (crv xB64url : Str) : Str :=
  text "\x7b\"crv\":\"" ++ crv ++ text "\",\"kty\":\"OKP\",\"x\":\"" ++ xB64url ++ text "\"\x7d"

/-- `okp_thumbprint` -/
def okpThumbprint (crv xB64url : Str) : Str :=
  Base64.encodeNoPad Base64.urlSafe (sha256 (Text.utf8 (canonicalOkpJwk crv xB64url))).1

/-! ## lib.rs -/

/-- `AdvertisedKey` -/
structure AdvertisedKey where
  did : Str
  nbf : Nat
  exp : Nat
  deriving DecidableEq, Repr

namespace AdvertisedKey

/-- `AdvertisedKey::x_b64url` -/
def xB64url (key : AdvertisedKey) : Except DirectoryError Str := do
  let raw ← (ed25519PubkeyFromDidKey D key.did).mapError fun e => .unsupportedDid e.display
  pure (Base64.encodeNoPad Base64.urlSafe raw.1)

/-- `AdvertisedKey::thumbprint` -/
def thumbprint (key : AdvertisedKey) : Except DirectoryError Str := do
  let x ← key.xB64url D
  pure (okpThumbprint sha256 crvEd25519 x)

/-- `AdvertisedKey::is_active_at` -/
def isActiveAt (key : AdvertisedKey) (now : Nat) : Bool := key.nbf ≤ now && now < key.exp

/-- What `add` asks of a key. -/
def Advertisable (key : AdvertisedKey) : Prop :=
  key.nbf < key.exp ∧ ∃ raw, ed25519PubkeyFromDidKey D key.did = .ok raw

end AdvertisedKey

/-- `KeyRegistry` -/
structure KeyRegistry where
  keys : List AdvertisedKey
  advertisable : ∀ key ∈ keys, key.Advertisable D

namespace KeyRegistry

/-- `KeyRegistry::new` -/
def new : KeyRegistry D := ⟨[], by simp⟩

variable {D}

/-- The `push` that ends `add`. -/
def push (registry : KeyRegistry D) (key : AdvertisedKey) (h : key.Advertisable D) :
    KeyRegistry D :=
  ⟨registry.keys ++ [key], by
    intro k hk
    rcases List.mem_append.mp hk with hk | hk
    · exact registry.advertisable k hk
    · obtain rfl := List.mem_singleton.mp hk
      exact h⟩

/-- `KeyRegistry::add` -/
def add (registry : KeyRegistry D) (key : AdvertisedKey) :
    Except DirectoryError Unit × KeyRegistry D :=
  if hwindow : key.exp ≤ key.nbf then (.error (.invalidWindow key.nbf key.exp), registry)
  else
    match hraw : ed25519PubkeyFromDidKey D key.did with
    | .error e => (.error (.unsupportedDid e.display), registry)
    | .ok raw => (.ok (), registry.push key ⟨Nat.lt_of_not_le hwindow, raw, hraw⟩)

/-- `KeyRegistry::active` -/
def active (registry : KeyRegistry D) (now : Nat) : List AdvertisedKey :=
  registry.keys.filter fun key => key.isActiveAt now

variable (D)

/-- The registry after a sequence of `add` calls, refused ones among them. -/
def afterAdds (adds : List AdvertisedKey) : KeyRegistry D :=
  adds.foldl (fun registry key => (registry.add key).2) (new D)

end KeyRegistry

/-! ## render.rs -/

/-- `MIN_CACHE_SECONDS` -/
def minCacheSeconds : Nat := 60

/-- `DirectoryDocument` -/
structure DirectoryDocument where
  path : Str
  contentType : Str
  cacheControl : Str
  body : Str
  deriving DecidableEq, Repr

/-- `Jwk` -/
structure Jwk where
  kty : Str
  crv : Str
  kid : Str
  x : Str
  use : Str
  nbf : Nat
  exp : Nat
  deriving DecidableEq, Repr

def Jwk.toJson (jwk : Jwk) : Json :=
  .obj [(text "kty", .str jwk.kty), (text "crv", .str jwk.crv), (text "kid", .str jwk.kid),
    (text "x", .str jwk.x), (text "use", .str jwk.use), (text "nbf", .nat jwk.nbf),
    (text "exp", .nat jwk.exp)]

/-- `Jwks` -/
structure Jwks where
  keys : List Jwk

def Jwks.toJson (jwks : Jwks) : Json := .obj [(text "keys", .arr (jwks.keys.map Jwk.toJson))]

/-- `AquaKey` -/
structure AquaKey where
  did : Str
  thumbprint : Str
  nbf : Nat
  exp : Nat
  deriving DecidableEq, Repr

def AquaKey.toJson (key : AquaKey) : Json :=
  .obj [(text "did", .str key.did), (text "thumbprint", .str key.thumbprint),
    (text "nbf", .nat key.nbf), (text "exp", .nat key.exp)]

/-- `AquaIdentity` -/
structure AquaIdentity where
  version : Nat
  dids : List Str
  keys : List AquaKey

def AquaIdentity.toJson (identity : AquaIdentity) : Json :=
  .obj [(text "version", .nat identity.version), (text "dids", .arr (identity.dids.map .str)),
    (text "keys", .arr (identity.keys.map AquaKey.toJson))]

/-- The lifetime `cache_seconds` computes before it applies the floor. -/
def soonestLapse (active : List AdvertisedKey) (now : Nat) : Nat :=
  (active.map fun key => key.exp - now).min?.getD 0

/-- `cache_seconds` -/
def cacheSeconds (active : List AdvertisedKey) (now : Nat) : Nat :=
  max (soonestLapse active now) minCacheSeconds

def cacheControl (active : List AdvertisedKey) (now : Nat) : Str :=
  text "max-age=" ++ Text.decimal (cacheSeconds active now)

/-- `serialize`.  Writing strings, numbers and lists of them cannot fail. -/
def serialize (value : Json) : Except DirectoryError Str := pure value.compact

/-- The entry of a key in the JWKS document. -/
def jwkOf (key : AdvertisedKey) : Except DirectoryError Jwk := do
  let x ← key.xB64url D
  pure { kty := text "OKP", crv := crvEd25519, kid := okpThumbprint sha256 crvEd25519 x, x,
         use := text "sig", nbf := key.nbf, exp := key.exp }

/-- The entry of a key in the identity document. -/
def aquaKeyOf (key : AdvertisedKey) : Except DirectoryError AquaKey := do
  let thumbprint ← key.thumbprint D sha256
  pure { did := key.did, thumbprint, nbf := key.nbf, exp := key.exp }

variable {D}

/-- `render_jwks` -/
def renderJwks (registry : KeyRegistry D) (now : Nat) :
    Except DirectoryError DirectoryDocument := do
  let active := registry.active now
  let keys ← active.mapM (jwkOf D sha256)
  let body ← serialize (Jwks.toJson ⟨keys⟩)
  pure { path := text "/.well-known/http-message-signatures-directory"
         contentType := text "application/http-message-signatures-directory+json"
         cacheControl := cacheControl active now
         body }

/-- `render_aqua_identity` -/
def renderAquaIdentity (registry : KeyRegistry D) (now : Nat) :
    Except DirectoryError DirectoryDocument := do
  let active := registry.active now
  let keys ← active.mapM (aquaKeyOf D sha256)
  let body ← serialize (AquaIdentity.toJson ⟨1, active.map AdvertisedKey.did, keys⟩)
  pure { path := text "/.well-known/aqua-identity"
         contentType := text "application/json"
         cacheControl := cacheControl active now
         body }

end AquaAuth.Directory
