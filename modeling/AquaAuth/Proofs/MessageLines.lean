import AquaAuth.Proofs.Identifier
set_option autoImplicit false
/-!
# Lines of a sign-in message

How a built message splits at its line feeds: the domain line, the identifier,
the statement, the `URI` line and whatever follows.
-/

namespace AquaAuth

open Support Support.Result

variable {B : Build} {did : Str} {m : DIDMethod}

/-! ## Labels -/

/-- The labels the registry hands out. -/
theorem methodLabel_cases {label : Str} (hm : findDidMethod B did = some m)
    (h : m.methodLabel did = .ok label) :
    label = text "Ethereum" ∨ label = text "Ed25519" ∨ label = text "P-256" ∨
      label = text "ML-DSA-87" := by
  have hkey : ∀ key, keyTypeLabel key = text "Ed25519" ∨ keyTypeLabel key = text "P-256" := by
    intro key
    cases key with
    | ed25519 raw => exact .inl rfl
    | p256 raw => exact .inr rfl
  rcases findDidMethod_cases hm with ⟨rfl, _⟩ | ⟨rfl, _⟩ | ⟨rfl, _⟩ | ⟨rfl, _⟩
  · obtain ⟨⟨ns, remainder⟩, _, hlabel⟩ := bind_eq_ok.mp h
    dsimp only at hlabel
    split_ifs at hlabel
    · exact .inl (Except.ok.inj hlabel).symm
    · exact .inr (.inl (Except.ok.inj hlabel).symm)
    · exact .inr (.inr (.inl (Except.ok.inj hlabel).symm))
  · obtain ⟨zBody, _, h⟩ := bind_eq_ok.mp h
    obtain ⟨key, _, hlabel⟩ := bind_eq_ok.mp h
    obtain rfl := Except.ok.inj hlabel
    exact .inr ((hkey key).imp_right .inl)
  · obtain ⟨zBody, _, h⟩ := bind_eq_ok.mp h
    obtain ⟨key, _, hlabel⟩ := bind_eq_ok.mp h
    obtain rfl := Except.ok.inj hlabel
    exact .inr ((hkey key).imp_right .inl)
  · obtain ⟨mh, _, hlabel⟩ := bind_eq_ok.mp h
    exact .inr (.inr (.inr (Except.ok.inj hlabel).symm))

theorem newline_not_mem_methodLabel {label : Str} (hm : findDidMethod B did = some m)
    (h : m.methodLabel did = .ok label) : '\n' ∉ label := by
  rcases methodLabel_cases hm h with rfl | rfl | rfl | rfl <;> decide

theorem IsIdentifier.newline_not_mem {s : Str} (h : IsIdentifier s) : '\n' ∉ s := by
  intro hmem
  have := h.alphanumeric _ hmem
  simp at this

theorem IsIdentifier.trimmed {s : Str} (h : IsIdentifier s) : Text.Trimmed s :=
  Text.trimmed_of_forall fun c hc =>
    Text.not_isWhitespace_of_isAlphanum (h.alphanumeric c hc)

theorem IsIdentifier.ne_nil {s : Str} (h : IsIdentifier s) : s ≠ [] := by
  obtain ⟨rest, rfl | rfl⟩ := h.start <;> simp

/-! ## The lines -/

/-- The first line of a message. -/
def domainLine (params : MessageParams) (methodLabel : Str) : Str :=
  params.domain ++ text " wants you to sign in with your " ++ methodLabel ++ text " account:"

theorem newline_not_mem_domainLine {params : MessageParams} {methodLabel : Str}
    (hdomain : '\n' ∉ params.domain) (hlabel : '\n' ∉ methodLabel) :
    '\n' ∉ domainLine params methodLabel := by
  have h1 : '\n' ∉ text " wants you to sign in with your " := by decide
  have h2 : '\n' ∉ text " account:" := by decide
  simp [domainLine, hdomain, hlabel, h1, h2]

/-- The message after its `URI` line, up to the `Chain ID` line. -/
def messageTail (params : MessageParams) : Str :=
  text "Version: 1\nNonce: " ++ params.nonce ++ text "\nIssued At: " ++
    params.issuedAt.format ++ text "\nExpiration Time: " ++ params.expirationTime.format

theorem messageBody_eq (params : MessageParams) (identifier methodLabel : Str) :
    messageBody params identifier methodLabel =
      domainLine params methodLabel ++ '\n' :: (identifier ++ '\n' :: '\n' ::
        (text "Sign in to Aqua Node" ++ '\n' :: '\n' ::
          (text "URI: " ++ params.uri ++ '\n' :: messageTail params))) := by
  have haccount : text " account:\n" = text " account:" ++ ['\n'] := rfl
  have hstatement : text "\n\nSign in to Aqua Node\n\nURI: " =
      '\n' :: '\n' :: (text "Sign in to Aqua Node" ++ '\n' :: '\n' :: text "URI: ") := rfl
  have hversion : text "\nVersion: 1\nNonce: " = '\n' :: text "Version: 1\nNonce: " := rfl
  simp only [messageBody, domainLine, messageTail, haccount, hstatement, hversion,
    List.append_assoc, List.cons_append, List.nil_append]

/-- What `build_message` returned, by its parts. -/
theorem buildMessage_eq_ok {params : MessageParams} {message : Str} :
    buildMessage B params = .ok message ↔
      ∃ m identifier methodLabel, findDidMethod B params.did = some m ∧
        m.addressForMessage params.did = .ok identifier ∧
        m.methodLabel params.did = .ok methodLabel ∧
        message = messageBody params identifier methodLabel ++ chainIdLine m params.did := by
  simp only [buildMessage, bind_eq_ok, okOr_eq_ok, mapError_eq_ok, pure_eq_ok, Except.ok.injEq]
  constructor
  · rintro ⟨m, hm, identifier, hid, methodLabel, hlabel, rfl⟩
    exact ⟨m, identifier, methodLabel, hm, hid, hlabel, rfl⟩
  · rintro ⟨m, identifier, methodLabel, hm, hid, hlabel, rfl⟩
    exact ⟨m, hm, identifier, hid, methodLabel, hlabel, rfl⟩

/-- The lines up to the `URI` line. -/
theorem splitOn_messageBody {params : MessageParams} {identifier methodLabel : Str}
    (hdomain : '\n' ∉ params.domain) (hlabel : '\n' ∉ methodLabel) (hid : '\n' ∉ identifier)
    (huri : '\n' ∉ params.uri) (tail : Str) :
    (messageBody params identifier methodLabel ++ tail).splitOn '\n' =
      domainLine params methodLabel :: identifier :: [] :: text "Sign in to Aqua Node" :: [] ::
        (text "URI: " ++ params.uri) :: (messageTail params ++ tail).splitOn '\n' := by
  have hstatement : '\n' ∉ text "Sign in to Aqua Node" := by decide
  have huriLine : '\n' ∉ text "URI: " ++ params.uri := by
    have h1 : '\n' ∉ text "URI: " := by decide
    simp [huri, h1]
  rw [messageBody_eq]
  simp only [List.append_assoc, List.cons_append]
  rw [List.splitOn_append_cons_self_of_not_mem (newline_not_mem_domainLine hdomain hlabel),
    List.splitOn_append_cons_self_of_not_mem hid, ← List.nil_append ('\n' :: _),
    List.splitOn_append_cons_self_of_not_mem (by simp),
    List.splitOn_append_cons_self_of_not_mem hstatement, ← List.nil_append ('\n' :: _),
    List.splitOn_append_cons_self_of_not_mem (by simp), ← List.append_assoc,
    List.splitOn_append_cons_self_of_not_mem huriLine]

/-- The identifier of a message, whatever its `URI` line. -/
theorem identifierFromMessage_body {params : MessageParams} {identifier methodLabel : Str}
    (hdomain : '\n' ∉ params.domain) (hlabel : '\n' ∉ methodLabel) (hid : IsIdentifier identifier)
    (tail : Str) :
    identifierFromMessage (messageBody params identifier methodLabel ++ tail) =
      some identifier := by
  have htrim : Text.trim identifier = identifier := hid.trimmed
  rw [messageBody_eq, List.append_assoc, List.cons_append, List.append_assoc, List.cons_append,
    identifierFromMessage,
    List.splitOn_append_cons_self_of_not_mem (newline_not_mem_domainLine hdomain hlabel),
    List.splitOn_append_cons_self_of_not_mem hid.newline_not_mem]
  simp [hid.trimmed.trimEndMatches_return, htrim, hid.ne_nil]

end AquaAuth
