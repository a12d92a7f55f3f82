import AquaAuth.Model.Aqua
set_option autoImplicit false
/-!
# DID methods and cipher suites

The two registries.  A trait object is the record of its functions; a default
body of the trait is a default value of the record.
-/

namespace AquaAuth

open Support Support.Result

/-! ## cipher_suite.rs -/

/-- `CipherSuite`, less the members nothing on the paths modelled here reads. -/
structure CipherSuite where
  namespaceName : Str
  verify : Str → Str → Bytes → Except CryptoError Bool
  /-- The remainder after `did:pkh:<namespace>:`, as an address and a chain id. -/
  parseDidParts : Str → Except CryptoError (Str × Option Str)

/-- The EIP-191 prehash of a message. -/
def eip191Prehash (B : Build) (message : Str) : ByteArr 32 :=
  let prefixText := text "\x19Ethereum Signed Message:\n" ++ Text.decimal (Text.utf8Len message)
  B.keccak256 (Text.utf8 prefixText ++ Text.utf8 message)

/-- `Eip155Suite::verify` -/
def eip155Verify (B : Build) (did message : Str) (signature : Bytes) :
    Except CryptoError Bool := do
  let expectedAddr ← addressFromDid did
  let prehash := eip191Prehash B message
  ensure (signature.length = 65) (.invalidSignature
    (text "EIP-191 signature must be 65 bytes, got " ++ Text.decimal signature.length))
  let v := signature.getD 64 0
  ensure (27 ≤ v.toNat) (.invalidSignature
    (text "invalid v=" ++ Text.decimal v.toNat ++ text "; expected 27 or 28"))
  let recoveryByte := v - 27
  let recId ← okOr (.invalidSignature
    (text "invalid recovery id " ++ Text.decimal recoveryByte.toNat))
    (B.k256.recoveryIdFromByte recoveryByte)
  let sig ← (B.k256.signatureFromSlice (signature.take 64)).mapError .invalidSignature
  let recovered ← (B.k256.recoverFromPrehash prehash sig recId).mapError fun e =>
    .invalidSignature (text "ecrecover failed: " ++ e)
  pure (addressFromVerifyingKey B recovered = expectedAddr)

/-- `Eip155Suite` -/
def eip155Suite (B : Build) : CipherSuite where
  namespaceName := text "eip155"
  verify := eip155Verify B
  parseDidParts didRemainder := do
    -- The first part of a `splitn` always exists; the second one needs a colon.
    let parts ← okOr (.invalidDid
      (text "missing address in eip155 remainder: " ++ didRemainder))
      (Text.splitOnceChar ':' didRemainder)
    pure (parts.2, some (text "eip155:" ++ parts.1))

/-- `Ed25519Suite::verify` -/
def ed25519Verify (B : Build) (did message : Str) (signature : Bytes) :
    Except CryptoError Bool := do
  let pubkeyBytes ← pubkeyFromEd25519Did B.dalek did
  let verifyingKey ← strictVerifyingKey B.dalek pubkeyBytes
  ensure (signature.length = 64) (.invalidSignature
    (text "Ed25519 signature must be 64 bytes, got " ++ Text.decimal signature.length))
  let sig ← (B.dalek.signatureFromSlice signature).mapError fun e =>
    .invalidSignature (text "invalid ed25519 signature: " ++ e)
  pure (B.dalek.verifyStrict verifyingKey (Text.utf8 message) sig)

/-- `Ed25519Suite` -/
def ed25519Suite (B : Build) : CipherSuite where
  namespaceName := text "ed25519"
  verify := ed25519Verify B
  parseDidParts didRemainder := pure (didRemainder, none)

/-- `P256Suite::verify` -/
def p256Verify (B : Build) (did message : Str) (signature : Bytes) :
    Except CryptoError Bool := do
  let pubkeyBytes ← pubkeyFromP256Did did
  let point ← (B.p256.encodedPointFromBytes pubkeyBytes.1).mapError fun e =>
    .invalidSignature (text "invalid p256 encoded point: " ++ e)
  let verifyingKey ← (B.p256.verifyingKeyFromEncodedPoint point).mapError fun e =>
    .invalidSignature (text "invalid p256 pubkey: " ++ e)
  let sig ← (p256SignatureFromBytes B.p256 signature).mapError fun e =>
    .invalidSignature (text "invalid p256 signature: " ++ e)
  pure (B.p256.verify verifyingKey (Text.utf8 message) sig)

/-- `P256Suite` -/
def p256Suite (B : Build) : CipherSuite where
  namespaceName := text "p256"
  verify := p256Verify B
  parseDidParts didRemainder := pure (didRemainder, none)

/-- `all_cipher_suites` -/
def allCipherSuites (B : Build) : List CipherSuite :=
  [eip155Suite B, ed25519Suite B, p256Suite B]

/-- `find_cipher_suite` -/
def findCipherSuite (B : Build) (name : Str) : Option CipherSuite :=
  (allCipherSuites B).find? fun suite => suite.namespaceName = name

/-! ## did_method.rs -/

/-- `DIDMethod`, less the display and token accessors. -/
structure DIDMethod where
  methodName : Str
  supportsDid : Str → Bool := fun did =>
    (text "did:" ++ methodName ++ text ":").isPrefixOf did
  methodLabel : Str → Except CryptoError Str
  addressForMessage : Str → Except CryptoError Str
  chainId : Str → Except CryptoError (Option Str)
  verify : Str → Str → Bytes → Except CryptoError Bool
  verifyWithPublicKey : Str → Str → Bytes → Option Bytes → Except CryptoError Bool :=
    fun did canonicalMsg signature _ => verify did canonicalMsg signature

/-- `pkh::method::split_namespace` -/
def splitNamespace (did : Str) : Except CryptoError (Str × Str) := do
  let rest ← okOr (.invalidDid (text "expected did:pkh: prefix: " ++ did))
    (Text.stripPrefix (text "did:pkh:") did)
  okOr (.invalidDid (text "no namespace in: " ++ did)) (Text.splitOnceChar ':' rest)

/-- `PkhMethod::method_label` -/
def pkhMethodLabel (did : Str) : Except CryptoError Str := do
  let (ns, _) ← splitNamespace did
  if ns = text "eip155" then pure (text "Ethereum")
  else if ns = text "ed25519" then pure (text "Ed25519")
  else if ns = text "p256" then pure (text "P-256")
  else .error (.unsupportedMethod ns)

/-- `PkhMethod::address_for_message` -/
def pkhAddressForMessage (B : Build) (did : Str) : Except CryptoError Str := do
  let (ns, remainder) ← splitNamespace did
  let suite ← okOr (.unsupportedMethod ns) (findCipherSuite B ns)
  let (address, _) ← suite.parseDidParts remainder
  if ns = text "eip155" then checksummedAddress B.keccak256 did else pure address

/-- `PkhMethod` -/
def pkhMethod (B : Build) : DIDMethod where
  methodName := text "pkh"
  methodLabel := pkhMethodLabel
  addressForMessage := pkhAddressForMessage B
  chainId did := do
    let (ns, remainder) ← splitNamespace did
    let suite ← okOr (.unsupportedMethod ns) (findCipherSuite B ns)
    let (_, chainId) ← suite.parseDidParts remainder
    pure chainId
  verify did canonicalMsg signature := do
    let (ns, _) ← splitNamespace did
    let suite ← okOr (.unsupportedMethod ns) (findCipherSuite B ns)
    suite.verify did canonicalMsg signature

/-- `KeyMethod` -/
def keyMethod (B : Build) : DIDMethod where
  methodName := text "key"
  methodLabel did := do
    let zBody ← okOr (.invalidDid did) (Text.stripPrefix (text "did:key:z") did)
    let key ← decodeMultibaseKey B.dalek zBody
    pure (keyTypeLabel key)
  addressForMessage did := okOr (.invalidDid did) (Text.stripPrefix (text "did:key:") did)
  chainId _ := pure none
  verify did message signature := do
    let zBody ← okOr (.invalidDid did) (Text.stripPrefix (text "did:key:z") did)
    let key ← decodeMultibaseKey B.dalek zBody
    verifyWithKey B key message signature

/-- The body of the first `V` element that has a `z` in it. -/
def firstVerificationBody : List Str → Option Str
  | [] => none
  | component :: components =>
      if (text "V").isPrefixOf component then
        match Text.splitOnceChar 'z' component with
        | some (_, body) => some body
        | none => firstVerificationBody components
      else firstVerificationBody components

/-- `peer::extract_z_body` -/
def extractZBody (did : Str) : Except CryptoError Str := do
  let body ← okOr (.invalidDid did) (Text.stripPrefix (text "did:peer:") did)
  match Text.stripPrefix (text "0") body with
  | some rest =>
      okOr (.invalidDid (text "did:peer variant 0 body must start with 'z': " ++ did))
        (Text.stripPrefix (text "z") rest)
  | none =>
      match Text.stripPrefix (text "2") body with
      | some rest =>
          okOr (.invalidDid
            (text "no V (verification) key found in did:peer variant 2: " ++ did))
            (firstVerificationBody (rest.splitOn '.'))
      | none => .error (.invalidDid (text "unsupported did:peer variant: " ++ did))

/-- `PeerMethod` -/
def peerMethod (B : Build) : DIDMethod where
  methodName := text "peer"
  supportsDid did :=
    (text "did:peer:0z").isPrefixOf did || (text "did:peer:2.").isPrefixOf did
  methodLabel did := do
    let zBody ← extractZBody did
    let key ← decodeMultibaseKey B.dalek zBody
    pure (keyTypeLabel key)
  addressForMessage did := do
    let body ← extractZBody did
    pure ('z' :: body)
  chainId _ := pure none
  verify did message signature := do
    let zBody ← extractZBody did
    let key ← decodeMultibaseKey B.dalek zBody
    verifyWithKey B key message signature

/-- `AquaMethod` -/
def aquaMethod (B : Build) : DIDMethod where
  methodName := text "aqua"
  methodLabel did := do
    let _ ← Aqua.multihashFromAquaDid did
    pure (text "ML-DSA-87")
  addressForMessage did := do
    let _ ← Aqua.multihashFromAquaDid did
    okOr (.invalidDid did) (Text.stripPrefix (text "did:aqua:") did)
  chainId _ := pure none
  verify _ _ _ := .error (.invalidSignature
    (text "did:aqua requires the signer's public key; call verify_with_public_key"))
  verifyWithPublicKey did canonicalMsg signature publicKey := do
    let publicKey ← okOr (.invalidSignature
      (text "did:aqua requires the signer's public key, none supplied")) publicKey
    let bound ← Aqua.aquaDidBindsPubkey B.sha256 did publicKey
    -- Bind first: verifying before binding would prove possession of some key only.
    if bound then Aqua.verify B.mlDsa publicKey signature (Text.utf8 canonicalMsg)
    else pure false

/-- `all_did_methods` -/
def allDidMethods (B : Build) : List DIDMethod :=
  [pkhMethod B, keyMethod B, peerMethod B] ++ if B.didAqua then [aquaMethod B] else []

/-- `find_did_method` -/
def findDidMethod (B : Build) (did : Str) : Option DIDMethod :=
  (allDidMethods B).find? fun m => m.supportsDid did

end AquaAuth
