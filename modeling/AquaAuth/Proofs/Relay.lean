import AquaAuth.Proofs.MessageLines
import AquaAuth.Model.Client
set_option autoImplicit false
/-!
# Refusing relayed challenges

The client hands a message to its signer only after two checks.  On a message
built for some DID they amount to: that DID has the signer's identifier, and the
message's URI has the origin the client dialed.
-/

namespace AquaAuth.Client

open Support Support.Result

variable {B : Build} {U : UrlCrate} {did : Str}

/-! ## Origins and placeholders -/

/-- An origin starts with a letter. -/
theorem originOf_start {raw origin : Str} (h : originOf U raw = some origin) :
    ∃ c rest, origin = c :: rest ∧ c ≠ '<' := by
  simp only [originOf, Option.bind_eq_bind, Option.bind_eq_some_iff] at h
  obtain ⟨url, _, host, _, h⟩ := h
  obtain ⟨c, scheme, hscheme⟩ : ∃ c scheme, url.scheme = c :: scheme ∧ c.isAlpha = true := by
    have hstart := url.schemeStart
    cases hs : url.scheme with
    | nil => simp [hs] at hstart
    | cons c scheme => exact ⟨c, scheme, rfl, by simpa [hs] using hstart⟩
  have hc : c.toLower ≠ '<' := by
    intro hlower
    have halpha : c.toLower.isAlpha = true := by simp [hscheme.2]
    rw [hlower] at halpha
    simp at halpha
  split at h
  · obtain rfl := Option.some.inj h
    exact ⟨c.toLower, _, by simp [Text.asciiLower, hscheme.1]; rfl, hc⟩
  · obtain rfl := Option.some.inj h
    exact ⟨c.toLower, _, by simp [Text.asciiLower, hscheme.1]; rfl, hc⟩

/-- The binding check passes exactly on two equal origins. -/
theorem verifyUriBinding_eq_ok {message baseUrl : Str} :
    verifyUriBinding U message baseUrl = .ok () ↔
      ∃ uri origin, uriLine message = some uri ∧ originOf U uri = some origin ∧
        originOf U baseUrl = some origin := by
  have hplaceholder : ∀ {raw origin : Str} (s : String) (rest : Str),
      originOf U raw = some origin → origin ≠ text ("<" ++ s) ++ rest := by
    rintro raw origin s rest horigin rfl
    obtain ⟨c, rest', heq, hc⟩ := originOf_start horigin
    simp only [text, String.toList_append, List.append_assoc] at heq
    exact hc (List.cons.inj heq).1.symm
  have hdistinct : ∀ a b : Str,
      text "<unparsable URI line: " ++ a ≠ text "<unparsable base_url: " ++ b := by
    intro a b heq
    have := congrArg (List.drop 12 ·) heq
    simp [text] at this
  have hmissing : ∀ b : Str,
      text "<message missing URI line>" ≠ text "<unparsable base_url: " ++ b := by
    intro b heq
    simp [text] at heq
  rw [verifyUriBinding, ensure_eq_ok]
  simp only [messageOrigin, clientOrigin]
  cases huri : uriLine message with
  | none =>
      cases hbase : originOf U baseUrl with
      | none => simp [hmissing]
      | some origin =>
          have := hplaceholder "message missing URI line>" [] hbase
          simpa [eq_comm] using this
  | some uri =>
      cases horigin : originOf U uri with
      | none =>
          cases hbase : originOf U baseUrl with
          | none => simp [horigin, hdistinct]
          | some origin =>
              have := hplaceholder "unparsable URI line: " (uri ++ text ">") hbase
              simpa [horigin, eq_comm] using this
      | some origin =>
          cases hbase : originOf U baseUrl with
          | none =>
              have := hplaceholder "unparsable base_url: " (baseUrl ++ text ">") horigin
              simpa [horigin] using this
          | some origin' => simp [horigin, eq_comm]

/-! ## The checks before signing -/

/-- What the client asked of the message before it signed. -/
theorem checkChallenge_eq_ok {message baseUrl : Str} :
    checkChallenge B U message baseUrl did = .ok () ↔
      ∃ m expected, findDidMethod B did = some m ∧ m.addressForMessage did = .ok expected ∧
        identifierFromMessage message = some expected ∧
        verifyUriBinding U message baseUrl = .ok () := by
  simp only [checkChallenge, bind_eq_ok, okOr_eq_ok, mapError_eq_ok, ensure_eq_ok]
  constructor
  · rintro ⟨m, hm, expected, hexpected, actual, hactual, _, rfl, hbinding⟩
    exact ⟨m, actual, hm, hexpected, hactual, hbinding⟩
  · rintro ⟨m, expected, hm, hexpected, hactual, hbinding⟩
    exact ⟨m, hm, expected, hexpected, expected, hactual, (), rfl, hbinding⟩

/-- The signer is invoked exactly when the checks pass, and then on the message. -/
theorem signed_eq (envelope : ChallengeEnvelope) (baseUrl : Str) (signer : Signer) :
    (signedSessionRequest B U envelope baseUrl signer).signed =
      match checkChallenge B U envelope.message baseUrl signer.signerDid with
      | .ok () => [envelope.message]
      | .error _ => [] := by
  unfold signedSessionRequest
  cases hcheck : checkChallenge B U envelope.message baseUrl signer.signerDid with
  | error e => rfl
  | ok u =>
      cases hsign : signer.sign envelope.message with
      | error e => rfl
      | ok sigBytes => rfl

theorem signed_ne_nil_iff {envelope : ChallengeEnvelope} {baseUrl : Str} {signer : Signer} :
    (signedSessionRequest B U envelope baseUrl signer).signed ≠ [] ↔
      checkChallenge B U envelope.message baseUrl signer.signerDid = .ok () := by
  rw [signed_eq]
  cases checkChallenge B U envelope.message baseUrl signer.signerDid <;> simp

/-! ## Messages built for a DID -/

/-- The parameters of a message built for a well-formed DID, with a domain and a
URI that stay on their lines. -/
structure Minted (B : Build) (params : MessageParams) (message : Str) : Prop where
  built : buildMessage B params = .ok message
  wellFormed : validateDidWellFormed B params.did = .ok ()
  domainLine : '\n' ∉ params.domain
  domainStart : ¬ text "URI:" <+: params.domain
  uriLine : '\n' ∉ params.uri
  uriTrimmed : Text.Trimmed params.uri
  uriNonempty : params.uri ≠ []

/-- A domain that does not start with `URI:` starts no line that does. -/
private theorem not_isPrefix_append {domain rest : Str} (h : ¬ text "URI:" <+: domain) :
    ¬ text "URI:" <+: domain ++ ' ' :: rest := by
  match domain with
  | [] => simp [text]
  | [a] => simp [text]
  | [a, b] => simp [text]
  | [a, b, c] => simp [text]
  | a :: b :: c :: d :: domain => simpa [text] using h

/-- A line without the prefix is not the `URI` line, whatever its end. -/
private theorem stripPrefix_trimEnd_none {line : Str} (h : ¬ text "URI:" <+: line) :
    Text.stripPrefix (text "URI:") (Text.trimEndMatches (· = '\r') line) = none := by
  rw [Text.stripPrefix_eq_none]
  intro rest heq
  exact h (List.IsPrefix.trans ⟨rest, heq.symm⟩ (Text.trimEndMatches_prefix _ line))

theorem uriLine_minted {params : MessageParams} {message identifier methodLabel : Str}
    (h : Minted B params message) (hlabel : '\n' ∉ methodLabel)
    (hid : IsIdentifier identifier) (tail : Str) :
    uriLine (messageBody params identifier methodLabel ++ tail) = some params.uri := by
  have hdomain : ¬ text "URI:" <+: domainLine params methodLabel := by
    have hspace : text " wants you to sign in with your " =
      ' ' :: text "wants you to sign in with your " := rfl
    simp only [domainLine, hspace, List.append_assoc, List.cons_append]
    exact not_isPrefix_append h.domainStart
  have hidentifier : ¬ text "URI:" <+: identifier := by
    obtain ⟨rest, rfl | rfl⟩ := hid.start <;> simp [text]
  have hstatement : ¬ text "URI:" <+: text "Sign in to Aqua Node" := by decide
  have hempty : ¬ text "URI:" <+: ([] : Str) := by decide
  have huri : Text.stripPrefix (text "URI:")
      (Text.trimEndMatches (· = '\r') (text "URI: " ++ params.uri)) = some (' ' :: params.uri) := by
    have hlast : ∀ c ∈ (text "URI: " ++ params.uri).getLast?, (decide (c = '\r')) = false := by
      intro c hc
      rw [List.getLast?_append_of_ne_nil _ h.uriNonempty] at hc
      rw [decide_eq_false_iff_not]
      rintro rfl
      exact absurd (h.uriTrimmed.getLast?_not_whitespace _ hc) (by decide)
    rw [Text.trimEndMatches_eq_self hlast, Text.stripPrefix_eq_some]
    rfl
  rw [uriLine, splitOn_messageBody h.domainLine hlabel hid.newline_not_mem h.uriLine]
  simp only [List.findSome?_cons, stripPrefix_trimEnd_none hdomain,
    stripPrefix_trimEnd_none hidentifier, stripPrefix_trimEnd_none hempty,
    stripPrefix_trimEnd_none hstatement, huri, Option.map_some]
  rw [Text.trim_cons_of_trimmed (by decide) h.uriTrimmed]
  simp [h.uriNonempty]

/-- `address_for_message` of the method that handles a DID. -/
def messageAddress (B : Build) (did : Str) : Option Str := do
  let m ← findDidMethod B did
  (m.addressForMessage did).toOption

private theorem messageAddress_eq_some {address : Str} :
    messageAddress B did = some address ↔
      ∃ m, findDidMethod B did = some m ∧ m.addressForMessage did = .ok address := by
  have toOption_iff : ∀ x : Except CryptoError Str,
      x.toOption = some address ↔ x = .ok address := fun x => by
    cases x <;> simp [Except.toOption]
  simp only [messageAddress, Option.bind_eq_bind, Option.bind_eq_some_iff, toOption_iff]

/-- What decides whether the client signs a message built for another DID. -/
theorem checkChallenge_minted_iff {params : MessageParams} {message baseUrl : Str}
    (h : Minted B params message) :
    checkChallenge B U message baseUrl did = .ok () ↔
      messageAddress B did = messageAddress B params.did ∧
      ∃ origin, originOf U params.uri = some origin ∧ originOf U baseUrl = some origin := by
  obtain ⟨minter, identifier, methodLabel, hminter, hid, hlabel, rfl⟩ :=
    buildMessage_eq_ok.mp h.built
  have hidentifier := address_isIdentifier hminter h.wellFormed hid
  have hnewline := newline_not_mem_methodLabel hminter hlabel
  have hline :=
    identifierFromMessage_body h.domainLine hnewline hidentifier (chainIdLine minter params.did)
  have huri := uriLine_minted h hnewline hidentifier (chainIdLine minter params.did)
  have hminted : messageAddress B params.did = some identifier :=
    messageAddress_eq_some.mpr ⟨minter, hminter, hid⟩
  rw [checkChallenge_eq_ok, hminted, messageAddress_eq_some]
  constructor
  · rintro ⟨m, expected, hm, hexpected, hactual, hbinding⟩
    obtain rfl := Option.some.inj (hline.symm.trans hactual)
    obtain ⟨uri, origin, huri', horigin, hbase⟩ := verifyUriBinding_eq_ok.mp hbinding
    obtain rfl := Option.some.inj (huri.symm.trans huri')
    exact ⟨⟨m, hm, hexpected⟩, origin, horigin, hbase⟩
  · rintro ⟨⟨m, hm, hexpected⟩, origin, horigin, hbase⟩
    exact ⟨m, identifier, hm, hexpected, hline,
      verifyUriBinding_eq_ok.mpr ⟨params.uri, origin, huri, horigin, hbase⟩⟩

/-- A refusal of one of the two binding checks. -/
def IsMismatch : AuthClientError → Prop
  | .messageIdentifierMismatch _ _ => True
  | .uriOriginMismatch _ _ => True
  | _ => False

/-- On a message built for a well-formed DID, the signer is invoked exactly when
that DID has the signer's identifier and the URI has the dialed origin.  On any
message, a run that reports a mismatch has not invoked it. -/
theorem signs_minted_iff (envelope : ChallengeEnvelope) (baseUrl : Str) (signer : Signer) :
    (∀ params, Minted B params envelope.message →
      ((signedSessionRequest B U envelope baseUrl signer).signed ≠ [] ↔
        messageAddress B signer.signerDid = messageAddress B params.did ∧
        ∃ origin, originOf U params.uri = some origin ∧ originOf U baseUrl = some origin)) ∧
    ∀ e, (signedSessionRequest B U envelope baseUrl signer).result = .error e → IsMismatch e →
      (signedSessionRequest B U envelope baseUrl signer).signed = [] := by
  refine ⟨fun params h => ?_, fun e he hmismatch => ?_⟩
  · rw [signed_ne_nil_iff]
    exact checkChallenge_minted_iff h
  · by_contra hsigned
    have hcheck := signed_ne_nil_iff.mp hsigned
    simp only [signedSessionRequest, hcheck] at he
    split at he
    · obtain rfl := Except.error.inj he
      exact hmismatch
    · cases he

/-! ## A challenge for the compressed generator -/

/-- The `did:key` of the compressed generator of P-256. -/
def generatorKeyDid : Str :=
  text "did:key:zDnaepsL7AXenJkVYdkh5KuKsSU7Ykh7kyXaLLU7auN9FWSiZ"

def relayBuild : Build := .ofTable [] []

def relayUrls : UrlCrate := .ofTable
  [(text "https://node.example", ⟨text "https", text "node.example", some 443, by decide⟩),
    (text "https://node.example:443/", ⟨text "https", text "node.example", some 443, by decide⟩)]

def relayParams : MessageParams where
  did := generatorKeyDid
  domain := text "aqua-node"
  uri := text "https://node.example"
  nonce := text "0xdeadbeef"
  issuedAt := ⟨1788091200, 0, by decide, DateTime.wholeSecond_lt, by decide⟩
  expirationTime := ⟨1788091500, 0, by decide, DateTime.wholeSecond_lt, by decide⟩

def relayMessage : Str :=
  text "aqua-node wants you to sign in with your P-256 account:\n" ++
    text "zDnaepsL7AXenJkVYdkh5KuKsSU7Ykh7kyXaLLU7auN9FWSiZ\n\n" ++
    text "Sign in to Aqua Node\n\nURI: https://node.example\n" ++
    text "Version: 1\nNonce: 0xdeadbeef\n" ++
    text "Issued At: 2026-08-30T12:00:00.000Z\n" ++
    text "Expiration Time: 2026-08-30T12:05:00.000Z"

def relaySigner : Signer where
  signerDid := generatorKeyDid
  sign _ := .error ⟨text "no key"⟩
  publicKey := none

def relayEnvelope : ChallengeEnvelope where
  nonce := text "0xdeadbeef"
  message := relayMessage
  expiresAt := 1788091500

theorem relayMinted : Minted relayBuild relayParams relayEnvelope.message where
  built := by decide +kernel
  wellFormed := by decide +kernel
  domainLine := by decide
  domainStart := by decide
  uriLine := by decide
  uriTrimmed := by decide
  uriNonempty := by decide

/-- The condition, met by a challenge for the signer's own DID and endpoint. -/
theorem signs_sample :
    (signedSessionRequest relayBuild relayUrls relayEnvelope
      (text "https://node.example:443/") relaySigner).signed ≠ [] := by
  have hiff := (signs_minted_iff (B := relayBuild) (U := relayUrls) relayEnvelope
    (text "https://node.example:443/") relaySigner).1 relayParams relayMinted
  refine hiff.mpr ?_
  have huri : originOf relayUrls relayParams.uri = some (text "https://node.example:443") := by
    decide +kernel
  have hbase : originOf relayUrls (text "https://node.example:443/") =
      some (text "https://node.example:443") := by
    decide +kernel
  exact ⟨rfl, _, huri, hbase⟩

end AquaAuth.Client
