import AquaAuth.Support.Encoding
set_option autoImplicit false
/-!
# Errors

The error enumerations, variant for variant, with the data each one carries.
Their display texts are given where the program renders one error into another.
-/

namespace AquaAuth

open Support

/-- `crypto_error::CryptoError` -/
inductive CryptoError where
  | unsupportedMethod (did : Str)
  | invalidDid (reason : Str)
  | invalidSignature (reason : Str)
  | verificationFailed
  | hexDecode (error : Hex.DecodeError)
  deriving DecidableEq, Repr

/-- `auth_error::AuthError` -/
inductive AuthError where
  | crypto (error : CryptoError)
  | challengeNotFound
  | challengeExpired
  | sessionNotFound
  | sessionExpired
  | sessionStoreFull (max : Nat)
  | backendUnavailable (reason : Str)
  deriving DecidableEq, Repr

/-- `client::AuthClientError`, less the variant of the HTTP transport. -/
inductive AuthClientError where
  | auth (error : AuthError)
  | sign (reason : Str)
  | messageIdentifierMismatch (expected actual : Str)
  | uriOriginMismatch (messageOrigin clientOrigin : Str)
  deriving DecidableEq, Repr

/-- `http_sig::HttpSigError` -/
inductive HttpSigError where
  | invalidTargetUri (uri : Str)
  | unsupportedScheme (scheme : Str)
  | unsupportedComponent (name : Str)
  | missingComponent (name : Str)
  | duplicateComponent (name : Str)
  | invalidComponentValue (name reason : Str)
  | nonAsciiBase
  | structuredField (reason : Str)
  | malformedSignatureInput (reason : Str)
  | malformedSignature (reason : Str)
  | validityTooLong (actual max : Nat)
  | validityZero
  | invalidWindow (created expires : Int)
  | profileRequiresEd25519 (did : Str)
  | emptyThumbprint
  | tagMismatch (expected actual : Str)
  | algMismatch (did expected actual : Str)
  | createdInFuture (created now : Int) (skew : Nat)
  | expired (expires now : Int)
  | nonceReplayed
  | sign (reason : Str)
  | crypto (error : CryptoError)
  deriving DecidableEq, Repr

/-- `signer::SignError`, the reason a signing backend gives. -/
structure SignError where
  reason : Str
  deriving DecidableEq, Repr

namespace SignError

/-- The text of the error. -/
def display (e : SignError) : Str := text "signing failed: " ++ e.reason

end SignError

end AquaAuth
