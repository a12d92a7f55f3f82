import AquaAuth.Model.DidMethod
import AquaAuth.Support.Attempt
import AquaAuth.Support.Slice
set_option autoImplicit false
/-!
# The accessors of a DID method

Every member of `DIDMethod` as it runs, with the slices and indexings of the functions behind it.
A function that can panic has a question mark after its name.
-/

namespace AquaAuth

open Support Support.Result

/-! ## did.rs -/

/-- `did::eip55_checksum` -/
def eip55Checksum? (keccak256 : Bytes → ByteArr 32) (addr : ByteArr 20) : Option Str :=
  let lower := Hex.encode addr.1
  let hash := (keccak256 (Text.utf8 lower)).1
  lower.zipIdx.mapM fun (c, i) =>
    if c.isDigit then some c
    else do
      let byte ← hash[i / 2]?
      let nibble := if i % 2 = 0 then byte.toNat / 16 else byte.toNat % 16
      pure (if 8 ≤ nibble then c.toUpper else c)

/-- `did::checksummed_address` -/
def checksummedAddress? (keccak256 : Bytes → ByteArr 32) (did : Str) : Attempt CryptoError Str := do
  let addr ← .of (addressFromDid did)
  let checksum ← .slice (eip55Checksum? keccak256 addr)
  pure (text "0x" ++ checksum)

/-- `did::address_from_verifying_key`.  The last slice is copied into an array of its length. -/
def addressFromVerifyingKey? (B : Build) (key : B.k256.VerifyingKey) : Option (ByteArr 20) := do
  let coordinates ← Slice.from? (B.k256.toUncompressedPoint key).1 1
  let tail ← Slice.from? (B.keccak256 coordinates).1 12
  if h : tail.length = 20 then some ⟨tail, h⟩ else none

/-! ## cipher_suite.rs -/

/-- `Eip155Suite::verify` -/
def eip155Verify? (B : Build) (did message : Str) (signature : Bytes) : Attempt CryptoError Bool :=
  do
  let expectedAddr ← .of (addressFromDid did)
  let prehash := eip191Prehash B message
  .of (ensure (signature.length = 65) (.invalidSignature
    (text "EIP-191 signature must be 65 bytes, got " ++ Text.decimal signature.length)))
  let v ← .slice signature[64]?
  .of (ensure (27 ≤ v.toNat) (.invalidSignature
    (text "invalid v=" ++ Text.decimal v.toNat ++ text "; expected 27 or 28")))
  let recoveryByte := v - 27
  let recId ← .of (okOr (.invalidSignature
    (text "invalid recovery id " ++ Text.decimal recoveryByte.toNat))
    (B.k256.recoveryIdFromByte recoveryByte))
  let scalars ← .slice (Slice.to? signature 64)
  let sig ← .of ((B.k256.signatureFromSlice scalars).mapError .invalidSignature)
  let recovered ← .of ((B.k256.recoverFromPrehash prehash sig recId).mapError fun e =>
    .invalidSignature (text "ecrecover failed: " ++ e))
  let addr ← .slice (addressFromVerifyingKey? B recovered)
  pure (addr = expectedAddr)

/-- `CipherSuite`, as it runs. -/
structure RunningCipherSuite where
  namespaceName : Str
  hasChainId : Bool
  verify : Str → Str → Bytes → Attempt CryptoError Bool
  parseDidParts : Str → Except CryptoError (Str × Option Str)

/-- `all_cipher_suites` -/
def allRunningSuites (B : Build) : List RunningCipherSuite :=
  [{ namespaceName := text "eip155"
     hasChainId := true
     verify := eip155Verify? B
     parseDidParts := (eip155Suite B).parseDidParts },
   { namespaceName := text "ed25519"
     hasChainId := false
     verify := fun did message signature => .of (ed25519Verify B did message signature)
     parseDidParts := (ed25519Suite B).parseDidParts },
   { namespaceName := text "p256"
     hasChainId := false
     verify := fun did message signature => .of (p256Verify B did message signature)
     parseDidParts := (p256Suite B).parseDidParts }]

/-- `find_cipher_suite` -/
def findRunningSuite (B : Build) (name : Str) : Option RunningCipherSuite :=
  (allRunningSuites B).find? fun suite => suite.namespaceName = name

/-! ## key/mod.rs -/

/-- `key::decode_multibase_key` -/
def decodeMultibaseKey? (D : Dalek) (zBody : Str) : Attempt CryptoError KeyType := do
  let bytes ← .of ((Base58.decode zBody).mapError fun e =>
    .invalidDid (text "base58btc decode error: " ++ base58ErrorText e))
  if ed25519Prefix.isPrefixOf bytes then
    let raw ← .slice (Slice.from? bytes ed25519Prefix.length)
    .of (checkEd25519Raw D raw)
    pure (.ed25519 raw)
  else if p256Prefix.isPrefixOf bytes then
    let raw ← .slice (Slice.from? bytes p256Prefix.length)
    pure (.p256 raw)
  else
    let shown ← .slice (Slice.to? bytes (min 2 bytes.length))
    .of (.error (.invalidDid (text "unknown multicodec prefix " ++ debugHex shown)))

/-! ## did_method.rs -/

/-- `DIDMethod`, as it runs. -/
structure RunningDIDMethod where
  methodName : Str
  supportsDid : Str → Bool := fun did =>
    (text "did:" ++ methodName ++ text ":").isPrefixOf did
  methodLabel : Str → Attempt CryptoError Str
  displayLabel : Str → Attempt CryptoError Str
  addressForMessage : Str → Attempt CryptoError Str
  hasChainId : Str → Option Bool
  chainId : Str → Attempt CryptoError (Option Str)
  canonicalSubject : Str → Attempt CryptoError Str
  verify : Str → Str → Bytes → Attempt CryptoError Bool
  verifyWithPublicKey : Str → Str → Bytes → Option Bytes → Attempt CryptoError Bool :=
    fun did canonicalMsg signature _ => verify did canonicalMsg signature

/-- `pkh::method::split_namespace` -/
def splitNamespace? (did : Str) : Attempt CryptoError (Str × Str) := do
  let rest ← .of (okOr (.invalidDid (text "expected did:pkh: prefix: " ++ did))
    (Text.stripPrefix (text "did:pkh:") did))
  let colon ← .of (okOr (.invalidDid (text "no namespace in: " ++ did)) (Text.find ':' rest))
  let ns ← .slice (Text.sliceTo? rest colon)
  let remainder ← .slice (Text.sliceFrom? rest (colon + 1))
  pure (ns, remainder)

/-- `PkhMethod::method_label` -/
def pkhMethodLabel? (did : Str) : Attempt CryptoError Str := do
  let (ns, _) ← splitNamespace? did
  .of (if ns = text "eip155" then pure (text "Ethereum")
    else if ns = text "ed25519" then pure (text "Ed25519")
    else if ns = text "p256" then pure (text "P-256")
    else .error (.unsupportedMethod ns))

/-- `PkhMethod::address_for_message` -/
def pkhAddressForMessage? (B : Build) (did : Str) : Attempt CryptoError Str := do
  let (ns, remainder) ← splitNamespace? did
  let suite ← .of (okOr (.unsupportedMethod ns) (findRunningSuite B ns))
  let (address, _) ← .of (suite.parseDidParts remainder)
  if ns = text "eip155" then checksummedAddress? B.keccak256 did else pure address

/-- The address as `PkhMethod::display_label` shortens it. -/
def shortAddress? (address : Str) : Option Str :=
  if 12 < Text.utf8Len address then do
    let front ← Text.sliceTo? address 6
    let back ← Text.sliceFrom? address (Text.utf8Len address - 4)
    pure (front ++ text "..." ++ back)
  else some address

/-- `PkhMethod::display_label` -/
def pkhDisplayLabel? (B : Build) (did : Str) : Attempt CryptoError Str := do
  let (ns, _) ← splitNamespace? did
  let address ← pkhAddressForMessage? B did
  let short ← .slice (shortAddress? address)
  let tag :=
    if ns = text "eip155" then text "Ethereum"
    else if ns = text "ed25519" then text "Ed25519"
    else if ns = text "p256" then text "P-256"
    else ns
  pure (short ++ text " (" ++ tag ++ text ")")

/-- `PkhMethod::has_chain_id` -/
def pkhHasChainId? (B : Build) (did : Str) : Option Bool := do
  let split ← (splitNamespace? did).run
  pure (((split.toOption.bind fun parts => findRunningSuite B parts.1).map
    RunningCipherSuite.hasChainId).getD false)

/-- `PkhMethod` -/
def runningPkhMethod (B : Build) : RunningDIDMethod where
  methodName := text "pkh"
  methodLabel := pkhMethodLabel?
  displayLabel := pkhDisplayLabel? B
  addressForMessage := pkhAddressForMessage? B
  hasChainId := pkhHasChainId? B
  chainId did := do
    let (ns, remainder) ← splitNamespace? did
    let suite ← .of (okOr (.unsupportedMethod ns) (findRunningSuite B ns))
    let (_, chainId) ← .of (suite.parseDidParts remainder)
    pure chainId
  canonicalSubject did := pure did
  verify did canonicalMsg signature := do
    let (ns, _) ← splitNamespace? did
    let suite ← .of (okOr (.unsupportedMethod ns) (findRunningSuite B ns))
    suite.verify did canonicalMsg signature

/-- The body of a `did:key`. -/
def keyBody (did : Str) : Except CryptoError Str :=
  okOr (.invalidDid did) (Text.stripPrefix (text "did:key:z") did)

/-- The first `n` bytes of a text, or all of it when it is shorter. -/
def shortened? (s : Str) (n : Nat) : Option Str := Text.sliceTo? s (min (Text.utf8Len s) n)

/-- `KeyMethod` -/
def runningKeyMethod (B : Build) : RunningDIDMethod where
  methodName := text "key"
  methodLabel did := do
    let zBody ← .of (keyBody did)
    let key ← decodeMultibaseKey? B.dalek zBody
    pure (keyTypeLabel key)
  displayLabel did := do
    let zBody ← .of (keyBody did)
    let key ← decodeMultibaseKey? B.dalek zBody
    let short ← .slice (shortened? zBody 8)
    pure (text "z" ++ short ++ text "... (" ++ keyTypeLabel key ++ text ")")
  addressForMessage did := .of (okOr (.invalidDid did) (Text.stripPrefix (text "did:key:") did))
  hasChainId _ := some false
  chainId _ := pure none
  canonicalSubject did := pure did
  verify did message signature := do
    let zBody ← .of (keyBody did)
    let key ← decodeMultibaseKey? B.dalek zBody
    .of (verifyWithKey B key message signature)

/-- The scan of `peer::extract_z_body`. -/
def firstVerificationBody? : List Str → Option (Option Str)
  | [] => some none
  | component :: components =>
      if (text "V").isPrefixOf component then
        match Text.find 'z' component with
        | some pos => (Text.sliceFrom? component (pos + 1)).map some
        | none => firstVerificationBody? components
      else firstVerificationBody? components

/-- `peer::extract_z_body` -/
def extractZBody? (did : Str) : Attempt CryptoError Str := do
  let body ← .of (okOr (.invalidDid did) (Text.stripPrefix (text "did:peer:") did))
  match Text.stripPrefix (text "0") body with
  | some rest =>
      .of (okOr (.invalidDid (text "did:peer variant 0 body must start with 'z': " ++ did))
        (Text.stripPrefix (text "z") rest))
  | none =>
      match Text.stripPrefix (text "2") body with
      | some rest => do
          let found ← .slice (firstVerificationBody? (rest.splitOn '.'))
          .of (okOr (.invalidDid
            (text "no V (verification) key found in did:peer variant 2: " ++ did)) found)
      | none => .of (.error (.invalidDid (text "unsupported did:peer variant: " ++ did)))

/-- `PeerMethod` -/
def runningPeerMethod (B : Build) : RunningDIDMethod where
  methodName := text "peer"
  supportsDid := (peerMethod B).supportsDid
  methodLabel did := do
    let zBody ← extractZBody? did
    let key ← decodeMultibaseKey? B.dalek zBody
    pure (keyTypeLabel key)
  displayLabel did := do
    let zBody ← extractZBody? did
    let key ← decodeMultibaseKey? B.dalek zBody
    let short ← .slice (shortened? zBody 8)
    pure (text "z" ++ short ++ text "... (peer/" ++ keyTypeLabel key ++ text ")")
  addressForMessage did := do
    let body ← extractZBody? did
    pure ('z' :: body)
  hasChainId _ := some false
  chainId _ := pure none
  canonicalSubject did := pure did
  verify did message signature := do
    let zBody ← extractZBody? did
    let key ← decodeMultibaseKey? B.dalek zBody
    .of (verifyWithKey B key message signature)

/-! ## aqua/ml_dsa.rs -/

namespace Aqua

/-- `K` -/
def k : ℕ := 8

/-- The walk over the index windows, with slices that panic out of range. -/
def walkWindows? (indices : Bytes) (start : ℕ) : Bytes → Option (Except HintDefect Unit)
  | [] => some (.ok ())
  | cut :: cuts => do
      let window ← Slice.range? indices start cut.toNat
      if strictlyIncreasing window then walkWindows? indices cut.toNat cuts
      else some (.error .indicesNotStrictlyIncreasing)

/-- `hint_encoding_is_canonical`, with slices that panic out of range. -/
def hintEncodingIsCanonical? (sig : ByteArr 4627) : Option (Except HintDefect Unit) := do
  let hint ← Slice.from? sig.1 hintOffset
  -- The debug assertion on the length of the region.
  let _ ← if hint.length = omega + k then some () else none
  let indices ← Slice.to? hint omega
  let cuts ← Slice.from? hint omega
  match walkCuts 0 cuts with
  | .error defect => some (.error defect)
  | .ok maxCut => do
      let unused ← Slice.from? indices maxCut
      if ∀ b ∈ unused, b = 0 then walkWindows? indices 0 cuts
      else some (.error .unusedHintByteNonZero)

/-- `ml_dsa::verify` -/
def verify? (M : MlDsa) (publicKey signature message : Bytes) : Attempt CryptoError Bool := do
  let pk ← .of (tryIntoArr 2592 (.invalidSignature
    (text "ML-DSA-87 public key must be 2592 bytes, got " ++ Text.decimal publicKey.length))
    publicKey)
  let sig ← .of (tryIntoArr 4627 (.invalidSignature
    (text "ML-DSA-87 signature must be 4627 bytes, got " ++ Text.decimal signature.length))
    signature)
  let gate ← .slice (hintEncodingIsCanonical? sig)
  .of (gate.mapError fun d => .invalidSignature (text "ML-DSA-87 hint encoding: " ++ d.display))
  match M.decodeSignature sig with
  | none => pure false
  | some decoded => pure (M.verifyWithContext (M.decodeVerifyingKey pk) message [] decoded)

end Aqua

/-! ## aqua/mod.rs -/

/-- `AquaMethod` -/
def runningAquaMethod (B : Build) : RunningDIDMethod where
  methodName := text "aqua"
  methodLabel did := .of ((aquaMethod B).methodLabel did)
  displayLabel did := do
    let _ ← .of (Aqua.multihashFromAquaDid did)
    let body ← .slice (Text.sliceFrom? did (Text.utf8Len (text "did:aqua:")))
    let short ← .slice (shortened? body 9)
    pure (short ++ text "... (ML-DSA-87)")
  addressForMessage did := .of ((aquaMethod B).addressForMessage did)
  hasChainId _ := some false
  chainId _ := pure none
  canonicalSubject did := do
    let _ ← .of (Aqua.multihashFromAquaDid did)
    pure did
  verify did canonicalMsg signature := .of ((aquaMethod B).verify did canonicalMsg signature)
  verifyWithPublicKey did canonicalMsg signature publicKey := do
    let publicKey ← .of (okOr (.invalidSignature
      (text "did:aqua requires the signer's public key, none supplied")) publicKey)
    let bound ← .of (Aqua.aquaDidBindsPubkey B.sha256 did publicKey)
    if bound then Aqua.verify? B.mlDsa publicKey signature (Text.utf8 canonicalMsg)
    else pure false

/-! ## The registry -/

/-- `all_did_methods` -/
def allRunningMethods (B : Build) : List RunningDIDMethod :=
  [runningPkhMethod B, runningKeyMethod B, runningPeerMethod B] ++
    if B.didAqua then [runningAquaMethod B] else []

/-- `find_did_method` -/
def findRunningMethod (B : Build) (did : Str) : Option RunningDIDMethod :=
  (allRunningMethods B).find? fun m => m.supportsDid did

end AquaAuth
