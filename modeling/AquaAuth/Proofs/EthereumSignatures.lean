import AquaAuth.Model.DidMethod
set_option autoImplicit false
/-!
# EIP-191 signatures

`Eip155Suite::verify` against the recovery of a signer as the specification states it, for every
value of `v`.
-/

namespace AquaAuth

open Support Support.Result

/-! ## The address of a DID -/

/-- The last segment of the DID is `0x` and the address in hexadecimal. -/
def AddressSegment (did : Str) (addr : ByteArr 20) : Prop :=
  ∃ rest hexStr, did = text "did:pkh:eip155:" ++ rest ∧
    Text.lastSegment ':' rest = text "0x" ++ hexStr ∧ (∀ c ∈ hexStr, Hex.isDigit c = true) ∧
      Text.asciiLower hexStr = Hex.encode addr.1

theorem addressFromDid_eq_ok {did : Str} {addr : ByteArr 20} :
    addressFromDid did = .ok addr ↔ AddressSegment did addr := by
  constructor
  · intro h
    obtain ⟨rest, hrest, h⟩ := bind_eq_ok.mp h
    obtain ⟨hexStr, hhex, h⟩ := bind_eq_ok.mp h
    obtain ⟨_, _, h⟩ := bind_eq_ok.mp h
    obtain ⟨bytes, hbytes, h⟩ := bind_eq_ok.mp h
    have haddr : addr.1 = bytes := tryIntoArr_eq_ok.mp h
    obtain ⟨hdigits, hlower⟩ := Hex.decode_eq_ok.mp (mapError_eq_ok.mp hbytes)
    rw [← haddr] at hlower
    exact ⟨rest, hexStr, Text.stripPrefix_eq_some.mp (okOr_eq_ok.mp hrest),
      Text.stripPrefix_eq_some.mp (okOr_eq_ok.mp hhex), hdigits, hlower⟩
  · rintro ⟨rest, hexStr, rfl, hsegment, hdigits, hlower⟩
    have hdecode : Hex.decode hexStr = .ok addr.1 := Hex.decode_eq_ok.mpr ⟨hdigits, hlower⟩
    have hlen : Text.utf8Len hexStr = 40 := by
      have hmap : (Text.asciiLower hexStr).length = hexStr.length := List.length_map _
      rw [Hex.utf8Len_of_digits hdigits, ← hmap, hlower, Hex.length_encode, addr.2]
    rw [addressFromDid, Text.stripPrefix_append, okOr_some, ok_bind, hsegment,
      Text.stripPrefix_append, okOr_some, ok_bind, ensure_pos hlen, ok_bind, hdecode]
    exact tryIntoArr_eq_ok.mpr rfl

theorem AddressSegment.unique {did : Str} {addr addr' : ByteArr 20} (h : AddressSegment did addr)
    (h' : AddressSegment did addr') : addr = addr' :=
  Except.ok.inj ((addressFromDid_eq_ok.mpr h).symm.trans (addressFromDid_eq_ok.mpr h'))

/-! ## Recovery -/

/-- The last byte of a signature of 65 bytes. -/
def recoveryValue (signature : Bytes) : UInt8 := signature.getD 64 0

/-- The key that `k256` recovers with the recovery id `v - 27`. -/
def RecoversKey (B : Build) (message : Str) (signature : Bytes) (key : B.k256.VerifyingKey) :
    Prop :=
  signature.length = 65 ∧ ∃ recId sig,
    B.k256.recoveryIdFromByte (recoveryValue signature - 27) = some recId ∧
      B.k256.signatureFromSlice (signature.take 64) = .ok sig ∧
        B.k256.recoverFromPrehash (eip191Prehash B message) sig recId = .ok key

section

variable {B : Build} {did message : Str} {signature : Bytes}

theorem RecoversKey.unique {key key' : B.k256.VerifyingKey}
    (h : RecoversKey B message signature key)
    (h' : RecoversKey B message signature key') : key = key' := by
  obtain ⟨_, recId, sig, hrecId, hsig, hkey⟩ := h
  obtain ⟨_, recId', sig', hrecId', hsig', hkey'⟩ := h'
  obtain rfl : recId = recId' := Option.some.inj (hrecId.symm.trans hrecId')
  obtain rfl : sig = sig' := Except.ok.inj (hsig.symm.trans hsig')
  exact Except.ok.inj (hkey.symm.trans hkey')

/-- What the suite decides. -/
theorem eip155Verify_eq_ok {b : Bool} :
    eip155Verify B did message signature = .ok b ↔
      ∃ addr key, AddressSegment did addr ∧ 27 ≤ (recoveryValue signature).toNat ∧
        RecoversKey B message signature key ∧
          b = decide (addressFromVerifyingKey B key = addr) := by
  constructor
  · intro h
    obtain ⟨addr, haddr, h⟩ := bind_eq_ok.mp h
    obtain ⟨_, hlen, h⟩ := bind_eq_ok.mp h
    obtain ⟨_, hv, h⟩ := bind_eq_ok.mp h
    obtain ⟨recId, hrecId, h⟩ := bind_eq_ok.mp h
    obtain ⟨sig, hsig, h⟩ := bind_eq_ok.mp h
    obtain ⟨key, hkey, h⟩ := bind_eq_ok.mp h
    exact ⟨addr, key, addressFromDid_eq_ok.mp haddr, ensure_eq_ok.mp hv,
      ⟨ensure_eq_ok.mp hlen, recId, sig, okOr_eq_ok.mp hrecId, mapError_eq_ok.mp hsig,
        mapError_eq_ok.mp hkey⟩, (Except.ok.inj h).symm⟩
  · rintro ⟨addr, key, haddr, hv, ⟨hlen, recId, sig, hrecId, hsig, hkey⟩, rfl⟩
    apply bind_eq_ok.mpr
    refine ⟨addr, addressFromDid_eq_ok.mpr haddr, bind_eq_ok.mpr ⟨(), ensure_pos hlen, ?_⟩⟩
    refine bind_eq_ok.mpr ⟨(), ensure_pos hv, bind_eq_ok.mpr ⟨recId, okOr_eq_ok.mpr hrecId, ?_⟩⟩
    refine bind_eq_ok.mpr ⟨sig, mapError_eq_ok.mpr hsig, bind_eq_ok.mpr ⟨key, ?_, rfl⟩⟩
    exact mapError_eq_ok.mpr hkey

end

/-! ## The specification -/

/-- A signature from which the specification recovers a key for the address of the DID to be
compared with. -/
def SpecRecovers (B : Build) (did message : Str) (signature : Bytes) (addr : ByteArr 20)
    (key : B.k256.VerifyingKey) : Prop :=
  AddressSegment did addr ∧ (recoveryValue signature = 27 ∨ recoveryValue signature = 28) ∧
    RecoversKey B message signature key

/-- The suite decides what the specification says: it accepts the key of the address, refuses that
of another one, and has an error for anything else. -/
structure FollowsSpec (B : Build) (did message : Str) (signature : Bytes) : Prop where
  accepts : eip155Verify B did message signature = .ok true ↔
    ∃ addr key, SpecRecovers B did message signature addr key ∧ addressFromVerifyingKey B key = addr
  refuses : eip155Verify B did message signature = .ok false ↔
    ∃ addr key, SpecRecovers B did message signature addr key ∧ addressFromVerifyingKey B key ≠ addr

/-- `k256` recovers a key with an id for an `x` coordinate above the order. -/
def RecoversReduced (B : Build) (did message : Str) (signature : Bytes) : Prop :=
  (recoveryValue signature = 29 ∨ recoveryValue signature = 30) ∧
    (∃ addr, AddressSegment did addr) ∧ ∃ key, RecoversKey B message signature key

variable {B : Build} {did message : Str} {signature : Bytes}

theorem recoveryValue_cases (hids : ∀ b, (B.k256.recoveryIdFromByte b).isSome = true ↔ b.toNat ≤ 3)
    {key : B.k256.VerifyingKey} (hkey : RecoversKey B message signature key)
    (hv : 27 ≤ (recoveryValue signature).toNat) :
    (recoveryValue signature = 27 ∨ recoveryValue signature = 28) ∨
      recoveryValue signature = 29 ∨ recoveryValue signature = 30 := by
  obtain ⟨_, recId, _, hrecId, _⟩ := hkey
  have hid : (recoveryValue signature - 27).toNat ≤ 3 := (hids _).mp (by rw [hrecId]; rfl)
  have hsub : (recoveryValue signature - 27).toNat = (recoveryValue signature).toNat - 27 :=
    UInt8.toNat_sub_of_le _ _ (UInt8.le_iff_toNat_le.mpr hv)
  simp only [← UInt8.toNat_inj]
  show (_ = 27 ∨ _ = 28) ∨ _ = 29 ∨ _ = 30
  omega

/-- Without the greater ids, what the suite decides is what the specification recovers. -/
theorem eip155Verify_eq_ok_of_not_reduced
    (hids : ∀ b, (B.k256.recoveryIdFromByte b).isSome = true ↔ b.toNat ≤ 3)
    (hnot : ¬ RecoversReduced B did message signature) {b : Bool} :
    eip155Verify B did message signature = .ok b ↔
      ∃ addr key, SpecRecovers B did message signature addr key ∧
        b = decide (addressFromVerifyingKey B key = addr) := by
  rw [eip155Verify_eq_ok]
  constructor
  · rintro ⟨addr, key, haddr, hv, hkey, hb⟩
    rcases recoveryValue_cases hids hkey hv with hlow | hhigh
    · exact ⟨addr, key, ⟨haddr, hlow, hkey⟩, hb⟩
    · exact absurd ⟨hhigh, ⟨addr, haddr⟩, key, hkey⟩ hnot
  · rintro ⟨addr, key, ⟨haddr, hlow, hkey⟩, hb⟩
    have hv : 27 ≤ (recoveryValue signature).toNat := by
      rcases hlow with h | h <;> rw [h] <;> decide
    exact ⟨addr, key, haddr, hv, hkey, hb⟩

/-- The suite follows the specification exactly where no key is recovered with a greater id. -/
theorem followsSpec_iff_not_reduced
    (hids : ∀ b, (B.k256.recoveryIdFromByte b).isSome = true ↔ b.toNat ≤ 3) :
    FollowsSpec B did message signature ↔ ¬ RecoversReduced B did message signature := by
  constructor
  · rintro hspec ⟨hhigh, ⟨addr, haddr⟩, key, hkey⟩
    have hv : 27 ≤ (recoveryValue signature).toNat := by
      rcases hhigh with h | h <;> rw [h] <;> decide
    have hlow : ∀ {addr key}, SpecRecovers B did message signature addr key → False := by
      rintro addr key ⟨_, h | h, _⟩ <;> rcases hhigh with h' | h' <;> rw [h] at h' <;> cases h'
    by_cases heq : addressFromVerifyingKey B key = addr
    · have hok := eip155Verify_eq_ok.mpr ⟨addr, key, haddr, hv, hkey, (decide_eq_true heq).symm⟩
      obtain ⟨_, _, hrecovers, _⟩ := hspec.accepts.mp hok
      exact hlow hrecovers
    · have hok := eip155Verify_eq_ok.mpr ⟨addr, key, haddr, hv, hkey, (decide_eq_false heq).symm⟩
      obtain ⟨_, _, hrecovers, _⟩ := hspec.refuses.mp hok
      exact hlow hrecovers
  · intro hnot
    constructor
    · rw [eip155Verify_eq_ok_of_not_reduced hids hnot]
      simp only [eq_comm (a := true), decide_eq_true_eq]
    · rw [eip155Verify_eq_ok_of_not_reduced hids hnot]
      simp only [eq_comm (a := false), decide_eq_false_iff_not, ne_eq]

/-! ## Letter case -/

/-- The DID of an address, on a chain or without one. -/
def didOfAddress (chain : Option Str) (hexStr : Str) : Str :=
  text "did:pkh:eip155:" ++
    match chain with
    | some chain => chain ++ ':' :: (text "0x" ++ hexStr)
    | none => text "0x" ++ hexStr

theorem addressSegment_didOfAddress {chain : Option Str} {hexStr : Str} (h : ':' ∉ hexStr)
    {addr : ByteArr 20} :
    AddressSegment (didOfAddress chain hexStr) addr ↔
      (∀ c ∈ hexStr, Hex.isDigit c = true) ∧ Text.asciiLower hexStr = Hex.encode addr.1 := by
  have hcolon : ':' ∉ text "0x" ++ hexStr := by
    rw [List.mem_append, not_or]
    exact ⟨by decide, h⟩
  have hsegment : ∀ rest, didOfAddress chain hexStr = text "did:pkh:eip155:" ++ rest →
      Text.lastSegment ':' rest = text "0x" ++ hexStr := by
    intro rest heq
    rw [← List.append_cancel_left heq]
    cases chain with
    | none => exact Text.lastSegment_of_not_mem hcolon
    | some chain => exact Text.lastSegment_append_cons hcolon
  constructor
  · rintro ⟨rest, hexStr', hdid, hlast, hdigits⟩
    rw [hsegment rest hdid] at hlast
    rw [List.append_cancel_left hlast]
    exact hdigits
  · intro hdigits
    exact ⟨_, hexStr, rfl, hsegment _ rfl, hdigits⟩

theorem isDigit_toLower (c : Char) : Hex.isDigit c.toLower = Hex.isDigit c := by
  by_cases hupper : c.isUpper = true
  · have hall : ∀ n < 26,
        Hex.isDigit (Char.ofNat (65 + n)).toLower = Hex.isDigit (Char.ofNat (65 + n)) := by
      decide
    obtain ⟨hlow, hhigh⟩ : 65 ≤ c.toNat ∧ c.toNat ≤ 90 := by
      simpa [Char.isUpper, UInt32.le_iff_toNat_le] using hupper
    have hc : c = Char.ofNat (65 + (c.toNat - 65)) := by
      rw [Nat.add_sub_cancel' hlow, Char.ofNat_toNat]
    rw [hc]
    exact hall _ (by omega)
  · rw [Char.toLower_eq_of_not_isUpper hupper]

theorem isDigit_iff_of_asciiLower {s t : Str} (h : Text.asciiLower s = Text.asciiLower t) :
    (∀ c ∈ s, Hex.isDigit c = true) ↔ ∀ c ∈ t, Hex.isDigit c = true := by
  have hlower : ∀ u : Str, (∀ c ∈ u, Hex.isDigit c = true) ↔
      ∀ c ∈ Text.asciiLower u, Hex.isDigit c = true := by
    intro u
    simp only [Text.asciiLower, List.forall_mem_map, isDigit_toLower]
  rw [hlower s, hlower t, h]

/-- The address does not depend on the letter case of its digits. -/
theorem addressSegment_iff_of_asciiLower {chain : Option Str} {hexStr hexStr' : Str}
    (h : ':' ∉ hexStr) (h' : ':' ∉ hexStr')
    (hcase : Text.asciiLower hexStr = Text.asciiLower hexStr') {addr : ByteArr 20} :
    AddressSegment (didOfAddress chain hexStr) addr ↔
      AddressSegment (didOfAddress chain hexStr') addr := by
  rw [addressSegment_didOfAddress h, addressSegment_didOfAddress h',
    isDigit_iff_of_asciiLower hcase, hcase]

/-- The letter case of the address changes neither a verdict nor whether there is one. -/
structure CaseInsensitive (B : Build) (message : Str) (signature : Bytes) (did did' : Str) :
    Prop where
  verdict : ∀ b, eip155Verify B did message signature = .ok b ↔
    eip155Verify B did' message signature = .ok b
  result : (∃ addr, AddressSegment did addr) →
    eip155Verify B did message signature = eip155Verify B did' message signature

theorem caseInsensitive_didOfAddress {chain : Option Str} {hexStr hexStr' : Str}
    (h : ':' ∉ hexStr) (h' : ':' ∉ hexStr')
    (hcase : Text.asciiLower hexStr = Text.asciiLower hexStr') :
    CaseInsensitive B message signature (didOfAddress chain hexStr)
      (didOfAddress chain hexStr') where
  verdict b := by
    rw [eip155Verify_eq_ok, eip155Verify_eq_ok]
    simp only [addressSegment_iff_of_asciiLower h h' hcase]
  result := by
    rintro ⟨addr, haddr⟩
    have haddr' := (addressSegment_iff_of_asciiLower h h' hcase).mp haddr
    rw [eip155Verify, eip155Verify, addressFromDid_eq_ok.mpr haddr, addressFromDid_eq_ok.mpr haddr']

/-- The suite follows the specification exactly where no key is recovered with an id above one, and
never depends on the letter case of the address. -/
theorem eip155Verify_followsSpec_iff
    (hids : ∀ b, (B.k256.recoveryIdFromByte b).isSome = true ↔ b.toNat ≤ 3) :
    (FollowsSpec B did message signature ↔ ¬ RecoversReduced B did message signature) ∧
      ∀ chain hexStr hexStr', ':' ∉ hexStr → ':' ∉ hexStr' →
        Text.asciiLower hexStr = Text.asciiLower hexStr' →
          CaseInsensitive B message signature (didOfAddress chain hexStr)
            (didOfAddress chain hexStr') :=
  ⟨followsSpec_iff_not_reduced hids, fun _ _ _ => caseInsensitive_didOfAddress⟩

/-! ## Crates by a table of recoveries -/

/-- `k256` as far as a list of recoveries tells: a prehash, a signature, a recovery id and the
key. -/
def K256.ofTable (table : List ((Bytes × Bytes × UInt8) × ByteArr 65)) : K256 where
  RecoveryId := { b : UInt8 // b.toNat ≤ 3 }
  VerifyingKey := ByteArr 65
  Signature := Bytes
  recoveryIdFromByte b := if h : b.toNat ≤ 3 then some ⟨b, h⟩ else none
  signatureFromSlice bytes :=
    if bytes.length = 64 then .ok bytes else .error (text "signature error")
  recoverFromPrehash prehash sig recId :=
    okOr (text "signature error")
      ((table.find? fun entry => entry.1 = (prehash.1, sig, recId.1)).map Prod.snd)
  toUncompressedPoint key := key

theorem recoveryIdFromByte_ofTable (table : List ((Bytes × Bytes × UInt8) × ByteArr 65))
    (b : UInt8) :
    ((K256.ofTable table).recoveryIdFromByte b).isSome = true ↔ b.toNat ≤ 3 := by
  show (if h : b.toNat ≤ 3 then some (⟨b, h⟩ : { b : UInt8 // b.toNat ≤ 3 })
    else none).isSome = true ↔ _
  split_ifs with h <;> simp [h]

def signedText : Bytes := Text.utf8 (text "\x19Ethereum Signed Message:\n10hello siwx")

def signedPrehash : ByteArr 32 :=
  arrOfHex 32 "75ee93ae86e5022b4753c1b04fe2b58bbaab08a6553315be327346582038da40"

/-- The base point of secp256k1. -/
def ethereumBase : ByteArr 65 :=
  arrOfHex 65 ("0479be667ef9dcbbac55a06295ce870b07029bfcdb2dce28d959f2815b16f81798" ++
    "483ada7726a3c4655da4fbfc0e1108a8fd17b448a68554199c47d08ffb10d4b8")

def baseRecoverable : Bytes :=
  bytesOfHex ("c6047f9441ed7d6d3045406e95c07cd85c778e4b8cef3ca7abac09b95c709ee5" ++
    "1df989a164693fcc3bcc810f72d19932ae39dd05996cd9150f2678c256399bf2")

/-- The key of a signature whose nonce point has the order plus two as its `x` coordinate. -/
def reducedKey : ByteArr 65 :=
  arrOfHex 65 ("0463924e3d96a8813d95bb40b796db7c709b9e7053d39f3e67623653172bd67e8d" ++
    "e66005cb1c023e6b011e90fee2edbaa17738045830961d3e97a90b212ff2d517")

def reducedRecoverable : Bytes := List.replicate 31 0 ++ 2 :: (List.replicate 31 0 ++ [5])

def ethereumBuild : Build :=
  { Build.ofTable [] [] with
    k256 := .ofTable [((signedPrehash.1, baseRecoverable, 0), ethereumBase),
      ((signedPrehash.1, reducedRecoverable, 2), reducedKey)]
    keccak256 := digestOfTable [(signedText, signedPrehash),
      (ethereumBase.1.drop 1,
        arrOfHex 32 "c0a6c424ac7157ae408398df7e5f4552091a69125d5dfcb7b8c2659029395bdf"),
      (reducedKey.1.drop 1,
        arrOfHex 32 "b2f6c8d9001ef2f5f4c9a9f7f2f84a3aa79ef8d05109773fd81ee6e1d6b5a8b3")] }

/-- A signature with `v` 29 is accepted. -/
theorem eip155Verify_followsSpec_fails :
    ¬ ∀ did message signature, FollowsSpec ethereumBuild did message signature := by
  intro h
  have hspec := h (text "did:pkh:eip155:1:0xf2f84a3aa79ef8d05109773fd81ee6e1d6b5a8b3")
    (text "hello siwx") (reducedRecoverable ++ [29])
  obtain ⟨_, _, ⟨_, hv, _⟩, _⟩ := hspec.accepts.mp (by decide +kernel)
  exact absurd hv (by decide +kernel)

/-- A signature by the base point is decided as specified. -/
theorem eip155Verify_followsSpec_base :
    FollowsSpec ethereumBuild (text "did:pkh:eip155:1:0x7e5f4552091a69125d5dfcb7b8c2659029395bdf")
      (text "hello siwx") (baseRecoverable ++ [27]) := by
  apply (eip155Verify_followsSpec_iff (recoveryIdFromByte_ofTable _)).1.mpr
  rintro ⟨hv, _⟩
  exact absurd hv (by decide +kernel)

end AquaAuth
