import AquaAuth.Model.Key
set_option autoImplicit false
/-!
# DID parsing

`did.rs`: the identifiers `did:pkh` carries, the EIP-55 checksum and the
identifier line of a sign-in message.
-/

namespace AquaAuth

open Support Support.Result

/-- `did::parse_did_namespace` -/
def parseDidNamespace (did : Str) : Except CryptoError Str := do
  let rest ← okOr (.invalidDid (text "expected 'did:pkh:' prefix: " ++ did))
    (Text.stripPrefix (text "did:pkh:") did)
  pure (Text.firstSegment ':' rest)

/-- `did::address_from_did` -/
def addressFromDid (did : Str) : Except CryptoError (ByteArr 20) := do
  let rest ← okOr (.invalidDid (text "expected eip155 DID: " ++ did))
    (Text.stripPrefix (text "did:pkh:eip155:") did)
  let hexStr ← okOr (.invalidDid (text "missing 0x address in eip155 DID: " ++ did))
    (Text.stripPrefix (text "0x") (Text.lastSegment ':' rest))
  ensure (Text.utf8Len hexStr = 40) (.invalidDid
    (text "eip155 address must be 40 hex chars, got " ++ Text.decimal (Text.utf8Len hexStr)))
  let bytes ← (Hex.decode hexStr).mapError .hexDecode
  tryIntoArr 20 (.invalidDid (text "address must be exactly 20 bytes")) bytes

/-- `did::pubkey_from_ed25519_did` -/
def pubkeyFromEd25519Did (D : Dalek) (did : Str) : Except CryptoError (ByteArr 32) := do
  let hexStr ← okOr (.invalidDid (text "expected ed25519 DID: " ++ did))
    (Text.stripPrefix (text "did:pkh:ed25519:0x") did)
  ensure (Text.utf8Len hexStr = 64) (.invalidDid
    (text "ed25519 pubkey must be 64 hex chars, got " ++ Text.decimal (Text.utf8Len hexStr)))
  let bytes ← (Hex.decode hexStr).mapError .hexDecode
  let key ← tryIntoArr 32 (.invalidDid (text "ed25519 pubkey must be 32 bytes")) bytes
  let _ ← strictVerifyingKey D key
  pure key

/-- `did::pubkey_from_p256_did` -/
def pubkeyFromP256Did (did : Str) : Except CryptoError (ByteArr 33) := do
  let hexStr ← okOr (.invalidDid (text "expected p256 DID: " ++ did))
    (Text.stripPrefix (text "did:pkh:p256:0x") did)
  ensure (Text.utf8Len hexStr = 66) (.invalidDid
    (text "p256 compressed pubkey must be 66 hex chars, got " ++
      Text.decimal (Text.utf8Len hexStr)))
  let bytes ← (Hex.decode hexStr).mapError .hexDecode
  tryIntoArr 33 (.invalidDid (text "p256 compressed pubkey must be 33 bytes")) bytes

/-- `did::address_from_verifying_key` -/
def addressFromVerifyingKey (B : Build) (key : B.k256.VerifyingKey) : ByteArr 20 :=
  let hash := B.keccak256 ((B.k256.toUncompressedPoint key).1.drop 1)
  ⟨hash.1.drop 12, by simp [hash.2]⟩

/-- `did::eip55_checksum`.  The hash has a nibble for each of the forty digits. -/
def eip55Checksum (keccak256 : Bytes → ByteArr 32) (addr : ByteArr 20) : Str :=
  let lower := Hex.encode addr.1
  let hash := (keccak256 (Text.utf8 lower)).1
  lower.mapIdx fun i c =>
    if c.isDigit then c
    else
      let byte := (hash.getD (i / 2) 0).toNat
      let nibble := if i % 2 = 0 then byte / 16 else byte % 16
      if 8 ≤ nibble then c.toUpper else c

/-- `did::checksummed_address` -/
def checksummedAddress (keccak256 : Bytes → ByteArr 32) (did : Str) : Except CryptoError Str := do
  let addr ← addressFromDid did
  pure (text "0x" ++ eip55Checksum keccak256 addr)

/-- `did::identifier_from_message` -/
def identifierFromMessage (message : Str) : Option Str :=
  match message.splitOn '\n' with
  | _ :: line :: _ =>
      let id := Text.trim (Text.trimEndMatches (· = '\r') line)
      if id = [] then none else some id
  | _ => none

/-- `did::identifier_from_did` -/
def identifierFromDid (D : Dalek) (keccak256 : Bytes → ByteArr 32) (did : Str) :
    Except CryptoError Str := do
  let ns ← parseDidNamespace did
  if ns = text "eip155" then checksummedAddress keccak256 did
  else if ns = text "ed25519" then do
    let pk ← pubkeyFromEd25519Did D did
    pure (text "0x" ++ Hex.encode pk.1)
  else if ns = text "p256" then do
    let pk ← pubkeyFromP256Did did
    pure (text "0x" ++ Hex.encode pk.1)
  else .error (.unsupportedMethod ns)

/-! ## did:key encoding -/

/-- `did::encode_did_key` -/
def encodeDidKey (pre pubkey : Bytes) : Str := text "did:key:z" ++ Base58.encode (pre ++ pubkey)

/-- `did::ed25519_did_key_from_pubkey` -/
def ed25519DidKeyFromPubkey (pubkey : ByteArr 32) : Str := encodeDidKey ed25519Prefix pubkey.1

/-- `did::p256_did_key_from_pubkey` -/
def p256DidKeyFromPubkey (pubkey : ByteArr 33) : Str := encodeDidKey p256Prefix pubkey.1

/-- A DID whose key decodes is the encoding of that key. -/
theorem ed25519DidKey_of_decode {D : Dalek} {did : Str} {raw : ByteArr 32}
    (h : ed25519PubkeyFromDidKey D did = .ok raw) : ed25519DidKeyFromPubkey raw = did := by
  obtain ⟨zBody, hbody, h⟩ := bind_eq_ok.mp h
  obtain ⟨key, hkey, h⟩ := bind_eq_ok.mp h
  have hdid := Text.stripPrefix_eq_some.mp (okOr_eq_ok.mp hbody)
  cases key with
  | p256 raw => cases h
  | ed25519 bytes =>
      have hraw : raw.1 = bytes := tryIntoArr_eq_ok.mp h
      have hencode : Base58.encode (ed25519Prefix ++ bytes) = zBody :=
        encode_of_decodeMultibaseKey hkey
      rw [ed25519DidKeyFromPubkey, encodeDidKey, hraw, hencode, hdid]

end AquaAuth
