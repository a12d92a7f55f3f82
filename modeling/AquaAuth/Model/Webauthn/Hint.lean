import AquaAuth.Model.Webauthn.Select
set_option autoImplicit false
/-!
# The hint cookie

`webauthn_hint.rs`: the `Set-Cookie` values that name a principal or nobody, and the hints of a
`Cookie` header.
-/

namespace AquaAuth

open Support

/-- `HINT_COOKIE_NAME` -/
def hintCookieName : Str := text "aqua_did_hint"

/-- `HINT_MAX_AGE_SECS` -/
def hintMaxAgeSecs : Nat := 34560000

/-- `HintCookieConfig` -/
structure HintCookieConfig where
  domain : Option Str
  secure : Bool
  maxAgeSecs : Nat
  deriving DecidableEq, Repr

namespace HintCookieConfig

/-- `HintCookieConfig::for_rp_id` -/
def forRpId (rpId : Str) : HintCookieConfig where
  domain := if rpId ≠ text "localhost" then some rpId else none
  secure := true
  maxAgeSecs := hintMaxAgeSecs

/-- `HintCookieConfig::header` -/
def header (cfg : HintCookieConfig) (value : Str) (maxAgeSecs : Nat) : Str :=
  let h := hintCookieName ++ '=' :: value
  let h :=
    match cfg.domain with
    | some domain => h ++ text "; Domain=" ++ domain
    | none => h
  let h := h ++ (text "; Path=/; Max-Age=" ++ Text.decimal maxAgeSecs)
  let h := if cfg.secure then h ++ text "; Secure" else h
  h ++ text "; SameSite=Lax"

end HintCookieConfig

/-- `hint_set_cookie` -/
def hintSetCookie {B : Build} (p : Principal B) (cfg : HintCookieConfig) : Str :=
  cfg.header p.did cfg.maxAgeSecs

/-- `hint_clear_cookie` -/
def hintClearCookie (cfg : HintCookieConfig) : Str := cfg.header [] 0

/-- `strip_suffix` of one character. -/
def stripSuffixChar (c : Char) (s : Str) : Option Str :=
  if s.getLast? = some c then some s.dropLast else none

/-- A value without the quotes around it. -/
def unquoted (value : Str) : Str :=
  ((Text.stripPrefix ['"'] value).bind (stripSuffixChar '"')).getD value

/-- `hints_from_cookie_header` -/
def hintsFromCookieHeader (B : Build) (R : P256Recovery B.p256) (cookieHeader : Str) :
    List DidHint :=
  ((cookieHeader.splitOn ';').filterMap (Text.splitOnceChar '=')).filter
      (fun pair => Text.trim pair.1 = hintCookieName) |>.filterMap
    fun pair => DidHint.parse B R (unquoted (Text.trim pair.2))

end AquaAuth
