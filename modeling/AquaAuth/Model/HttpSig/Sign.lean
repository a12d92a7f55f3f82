import AquaAuth.Support.DateTime
import AquaAuth.Model.Client
import AquaAuth.Model.HttpSig.Base
set_option autoImplicit false
/-!
# Signing a request

`http_sig/sign.rs`, with the profiles and limits of `http_sig/mod.rs`.  The random
bytes of a nonce are an argument.
-/

namespace AquaAuth.HttpSig

open Support Support.Result

/-- `MAX_VALIDITY` -/
def maxValidity : Duration := .fromSecs (24 * 60 * 60) (by decide)

/-- `NONCE_BYTES` -/
def nonceBytes : Nat := 64

/-- `Profile` -/
inductive Profile where
  | aquaInternal
  | webBotAuth (jwkThumbprint : Str)
  deriving DecidableEq, Repr

/-- `SignedHeaders` -/
structure SignedHeaders where
  signatureInput : Str
  signature : Str
  deriving DecidableEq, Repr

/-- `validity_seconds` -/
def validitySeconds (validity : Duration) : Except HttpSigError Int := do
  let seconds := validity.secs
  ensure (seconds ≠ 0) .validityZero
  ensure (¬ validity.exceeds maxValidity) (.validityTooLong seconds maxValidity.secs)
  pure (asI64 seconds)

/-- `profile_parameters`: keyid, alg and tag. -/
def profileParameters (B : Build) (profile : Profile) (did : Str) :
    Except HttpSigError (Str × Str × Str) :=
  match profile with
  | .aquaInternal => do
      let alg ← algForDid B did
      pure (did, alg, tagAquaInternal)
  | .webBotAuth jwkThumbprint => do
      let alg ← algForDid B did
      ensure (alg = algEd25519) (.profileRequiresEd25519 did)
      let thumbprint := Text.trim jwkThumbprint
      ensure (thumbprint ≠ []) .emptyThumbprint
      pure (thumbprint, algEd25519, tagWebBotAuth)

/-- `generate_nonce`, from the bytes drawn. -/
def generateNonce (bytes : ByteArr nonceBytes) : Str := Base64.encodeNoPad Base64.urlSafe bytes.1

/-- The parameters a request is signed under. -/
def requestParams (B : Build) (did : Str) (parts : RequestParts) (profile : Profile)
    (validity : Duration) (created : Int) (bytes : ByteArr nonceBytes) :
    Except HttpSigError SignatureParams := do
  let window ← validitySeconds validity
  let (keyid, alg, tag) ← profileParameters B profile did
  pure
    { covered := coveredComponents parts
      created := created
      expires := saturatingAdd created window
      keyid := keyid
      alg := alg
      nonce := generateNonce bytes
      tag := tag }

/-- `sign_request_at` -/
def signRequestAt (B : Build) (S : Sfv) (signer : Signer) (parts : RequestParts)
    (profile : Profile) (validity : Duration) (created : Int) (bytes : ByteArr nonceBytes) :
    Except HttpSigError SignedHeaders := do
  let params ← requestParams B signer.signerDid parts profile validity created bytes
  let base ← buildSignatureBase S parts params
  let signature ← (signer.sign base).mapError fun e => .sign e.display
  let signatureInput ← signatureInputHeader S signatureLabel params
  let signature ← signatureHeader S signatureLabel signature
  pure { signatureInput := signatureInput, signature := signature }

end AquaAuth.HttpSig
