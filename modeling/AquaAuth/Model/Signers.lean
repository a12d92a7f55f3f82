import AquaAuth.Model.Client
set_option autoImplicit false
/-!
# Signers over a key in memory

`local_key.rs`, and the signers of the testkit (`aqua-auth-testkit/src/signers.rs`), one for each
way of spelling a key.  A signer carries the DID it was built with.
-/

namespace AquaAuth

open Support Support.Result

/-- The private halves of the crates a build links, and the PEM readers. -/
structure SigningCrates (B : Build) where
  Ed25519Key : Type
  ed25519VerifyingKey : Ed25519Key → ByteArr 32
  ed25519Sign : Ed25519Key → Bytes → ByteArr 64
  ed25519FromPkcs8Pem : Str → Except Str Ed25519Key
  P256Key : Type
  /-- The SEC1 encoding of the verifying key with point compression. -/
  p256CompressedPoint : P256Key → ByteArr 33
  p256Sign : P256Key → Bytes → ByteArr 64
  p256FromPkcs8Pem : Str → Except Str P256Key
  K256Key : Type
  k256VerifyingKey : K256Key → B.k256.VerifyingKey
  /-- The signature's bytes and the byte of its recovery id. -/
  signPrehashRecoverable : K256Key → ByteArr 32 → Except Str (ByteArr 64 × UInt8)
  MlDsaKey : Type
  mlDsaVerifyingKey : MlDsaKey → ByteArr 2592
  mlDsaSign : MlDsaKey → Bytes → ByteArr 4627

variable {B : Build} (S : SigningCrates B)

/-! ## local_key.rs -/

/-- `LocalKeyError` -/
inductive LocalKeyError where
  | io (path source : Str)
  | pkcs8 (curve detail : Str)
  deriving DecidableEq, Repr

/-- `local_key::Key` -/
inductive LocalKey where
  | ed25519 (key : S.Ed25519Key)
  | p256 (key : S.P256Key)

variable {S}

/-- The `did:key` of a local key. -/
def LocalKey.did : LocalKey S → Str
  | .ed25519 key => ed25519DidKeyFromPubkey (S.ed25519VerifyingKey key)
  | .p256 key => p256DidKeyFromPubkey (S.p256CompressedPoint key)

/-- What a local key signs a message with. -/
def LocalKey.sign : LocalKey S → Str → Bytes
  | .ed25519 key, message => (S.ed25519Sign key (Text.utf8 message)).1
  | .p256 key, message => (S.p256Sign key (Text.utf8 message)).1

variable (S)

/-- `LocalKeySigner`.  The two fields are set together, the DID from the key. -/
structure LocalKeySigner where
  key : LocalKey S
  did : Str
  derived : did = key.did

namespace LocalKeySigner

variable {S} {Key : Type}

/-- A key of one curve from a PEM text, with the DID derived from it. -/
def fromPem (curve : Str) (fromPkcs8Pem : Str → Except Str Key) (wrap : Key → LocalKey S)
    (pem : Str) : Except LocalKeyError (LocalKeySigner S) := do
  let key ← (fromPkcs8Pem pem).mapError (.pkcs8 curve)
  pure ⟨wrap key, (wrap key).did, rfl⟩

/-- `read_pem`, over what `std::fs::read_to_string` gives for a path. -/
def readPem (readToString : Str → Except Str Str) (path : Str) : Except LocalKeyError Str :=
  (readToString path).mapError (.io path)

variable (S)

/-- `LocalKeySigner::ed25519_from_pem` -/
def ed25519FromPem : Str → Except LocalKeyError (LocalKeySigner S) :=
  fromPem (text "Ed25519") S.ed25519FromPkcs8Pem .ed25519

/-- `LocalKeySigner::p256_from_pem` -/
def p256FromPem : Str → Except LocalKeyError (LocalKeySigner S) :=
  fromPem (text "P-256") S.p256FromPkcs8Pem .p256

/-- `LocalKeySigner::ed25519_from_pem_file` -/
def ed25519FromPemFile (readToString : Str → Except Str Str) (path : Str) :
    Except LocalKeyError (LocalKeySigner S) := do
  let pem ← readPem readToString path
  ed25519FromPem S pem

/-- `LocalKeySigner::p256_from_pem_file` -/
def p256FromPemFile (readToString : Str → Except Str Str) (path : Str) :
    Except LocalKeyError (LocalKeySigner S) := do
  let pem ← readPem readToString path
  p256FromPem S pem

variable {S}

/-- `impl Signer for LocalKeySigner` -/
def signer (s : LocalKeySigner S) : Signer where
  signerDid := s.did
  sign message := .ok (s.key.sign message)
  publicKey := none

end LocalKeySigner

/-! ## signers.rs of the testkit -/

/-- `Spelling` -/
inductive Spelling where
  | didKey
  | didPkh
  deriving DecidableEq, Repr

variable {S}

/-- `Ed25519Local` -/
def Ed25519Local (key : S.Ed25519Key) (spelling : Spelling) : Signer where
  signerDid :=
    match spelling with
    | .didKey => text "did:key:z" ++
        Base58.encode ([0xED, 0x01] ++ (S.ed25519VerifyingKey key).1)
    | .didPkh => text "did:pkh:ed25519:0x" ++ Hex.encode (S.ed25519VerifyingKey key).1
  sign message := .ok (S.ed25519Sign key (Text.utf8 message)).1
  publicKey := none

/-- `P256Local` -/
def P256Local (key : S.P256Key) (spelling : Spelling) : Signer where
  signerDid :=
    match spelling with
    | .didKey => text "did:key:z" ++
        Base58.encode ([0x80, 0x24] ++ (S.p256CompressedPoint key).1)
    | .didPkh => text "did:pkh:p256:0x" ++ Hex.encode (S.p256CompressedPoint key).1
  sign message := .ok (S.p256Sign key (Text.utf8 message)).1
  publicKey := none

/-- `Eip155Local`, on chain 1. -/
def Eip155Local (key : S.K256Key) : Signer where
  signerDid := text "did:pkh:eip155:1:0x" ++
    eip55Checksum B.keccak256 (addressFromVerifyingKey B (S.k256VerifyingKey key))
  sign message := do
    let (signature, recoveryId) ←
      (S.signPrehashRecoverable key (eip191Prehash B message)).mapError SignError.mk
    pure (signature.1 ++ [recoveryId + 27])
  publicKey := none

/-- `MlDsa87Local` -/
def MlDsa87Local (key : S.MlDsaKey) : Signer where
  signerDid := Aqua.aquaDidFromPubkey B.sha256 (S.mlDsaVerifyingKey key).1
  sign message := .ok (S.mlDsaSign key (Text.utf8 message)).1
  publicKey := some (S.mlDsaVerifyingKey key).1

end AquaAuth
