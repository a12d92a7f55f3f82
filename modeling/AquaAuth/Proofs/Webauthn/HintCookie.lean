import AquaAuth.Support.Cookie
import AquaAuth.Support.DateTime
import AquaAuth.Model.Webauthn.Hint
import AquaAuth.Proofs.Webauthn.Selection
set_option autoImplicit false
/-!
# The way of a hint through a browser

A hint cookie is set for the DID and the scope it is meant for exactly when neither the DID nor the
domain writes attributes of its own, and what a browser sends back names the same key again,
whatever other cookies are around it.
-/

namespace AquaAuth

open Support Support.Result Support.Cookie

variable {B : Build} {R : P256Recovery B.p256} {cfg : HintCookieConfig} {value : Str} {age : ℕ}

namespace HintCookieConfig

/-- The attributes a cookie of this scope and lifetime has. -/
def attributes (cfg : HintCookieConfig) (age : ℕ) : List (Str × Str) :=
  cfg.domain.toList.map (text "Domain", ·) ++
    ([(text "Path", text "/"), (text "Max-Age", Text.decimal age)] ++
      ((if cfg.secure then [(text "Secure", [])] else []) ++ [(text "SameSite", text "Lax")]))

/-- The attributes as the header writes them. -/
def pieces (cfg : HintCookieConfig) (age : ℕ) : List Str :=
  cfg.domain.toList.map (text "Domain=" ++ ·) ++
    ([text "Path=/", text "Max-Age=" ++ Text.decimal age] ++
      ((if cfg.secure then [text "Secure"] else []) ++ [text "SameSite=Lax"]))

theorem header_eq : cfg.header value age =
    (hintCookieName ++ '=' :: value) ++ (cfg.pieces age).flatMap (text "; " ++ ·) := by
  obtain ⟨domain, secure, maxAge⟩ := cfg
  cases domain <;> cases secure <;> simp [header, pieces, text]

theorem length_pieces : (cfg.pieces age).length = (cfg.attributes age).length := by
  obtain ⟨domain, secure, maxAge⟩ := cfg
  cases domain <;> cases secure <;> rfl

theorem notMem_decimal {c : Char} (h : c.isDigit = false) : c ∉ Text.decimal age := by
  intro hmem
  rw [DateTime.isDigit_of_mem_decimal hmem] at h
  cases h

theorem count_pieces (pieces : List Str) :
    (pieces.flatMap (text "; " ++ ·)).count ';' =
      pieces.length + (pieces.map (List.count ';')).sum := by
  induction pieces with
  | nil => rfl
  | cons piece pieces ih =>
      have hseparator : (text "; ").count ';' = 1 := by decide
      rw [List.flatMap_cons, List.count_append, List.count_append, ih, hseparator,
        List.length_cons, List.map_cons, List.sum_cons]
      omega

/-- The pieces have no semicolons but those of the domain. -/
theorem count_semicolons : ((cfg.pieces age).map (List.count ';')).sum =
    (cfg.domain.getD []).count ';' := by
  have hage : (text "Max-Age=" ++ Text.decimal age).count ';' = 0 := by
    rw [List.count_append, List.count_eq_zero.mpr (notMem_decimal (by decide))]
    decide
  have hdomain : ∀ domain : Str, (text "Domain=" ++ domain).count ';' = domain.count ';' := by
    intro domain
    have hpre : (text "Domain=").count ';' = 0 := by decide
    rw [List.count_append, hpre, Nat.zero_add]
  have hpath : (text "Path=/").count ';' = 0 := by decide
  have hsecure : (text "Secure").count ';' = 0 := by decide
  have hsite : (text "SameSite=Lax").count ';' = 0 := by decide
  obtain ⟨domain, secure, maxAge⟩ := cfg
  cases domain <;> cases secure <;> simp [pieces, hage, hdomain, hpath, hsecure, hsite]

theorem count_header : (cfg.header value age).count ';' = value.count ';' +
    (cfg.domain.getD []).count ';' + (cfg.attributes age).length := by
  have hname : hintCookieName.count ';' = 0 := by decide
  rw [header_eq, List.count_append, List.count_append, List.count_cons_of_ne (by decide), hname,
    count_pieces, length_pieces, count_semicolons]
  omega

theorem readAttribute_domain (domain : Str) :
    readAttribute (text "Domain=" ++ domain) = (text "Domain", trimBlanks domain) := by
  have hpair : readPair (text "Domain" ++ '=' :: domain) = some (_, _) :=
    readPair_append (by decide)
  exact congrArg (Option.getD · _) hpair

theorem readAttribute_pieces (hdomain : ∀ domain ∈ cfg.domain, Plain domain) :
    (cfg.pieces age).map readAttribute = cfg.attributes age := by
  have hage : readAttribute (text "Max-Age=" ++ Text.decimal age) =
      (text "Max-Age", Text.decimal age) := by
    have hblank : trimBlanks (Text.decimal age) = Text.decimal age := by
      apply trimBlanks_of_forall
      intro c hc
      by_contra hblank
      have hcases : c = ' ' ∨ c = '\t' := by simpa [isBlank, or_iff_not_imp_left] using hblank
      rcases hcases with rfl | rfl <;> exact notMem_decimal (by decide) hc
    have hpair : readPair (text "Max-Age" ++ '=' :: Text.decimal age) = some (_, _) :=
      readPair_append (by decide)
    rw [hblank] at hpair
    exact congrArg (Option.getD · _) hpair
  have hdomains : cfg.domain.toList.map (fun domain => readAttribute (text "Domain=" ++ domain)) =
      cfg.domain.toList.map (text "Domain", ·) := by
    apply List.map_congr_left
    intro domain hmem
    rw [readAttribute_domain, (hdomain domain (Option.mem_toList.mp hmem)).2]
  rw [pieces, attributes, List.map_append, List.map_map]
  refine congrArg₂ (· ++ ·) hdomains ?_
  cases cfg.secure <;> simp only [List.map_append, List.map_cons, List.map_nil, hage] <;> rfl

/-- What the header sets is what it is meant to set. -/
theorem readSetCookie_header_iff :
    readSetCookie (cfg.header value age) = some ⟨hintCookieName, value, cfg.attributes age⟩ ↔
      Plain value ∧ ∀ domain ∈ cfg.domain, Plain domain := by
  have hname : '=' ∉ hintCookieName := by decide
  have hnameBlank : trimBlanks hintCookieName = hintCookieName := by decide
  have hsemi : ';' ∉ value → (∀ domain ∈ cfg.domain, ';' ∉ domain) →
      readSetCookie (cfg.header value age) = some ⟨hintCookieName, trimBlanks value,
        (cfg.pieces age).map readAttribute⟩ := by
    intro hvalue hdomain
    have hfirst : ';' ∉ hintCookieName ++ '=' :: value := by
      simp only [List.mem_append, List.mem_cons, not_or]
      exact ⟨by decide, by decide, hvalue⟩
    have hsum : ((cfg.pieces age).map (List.count ';')).sum = 0 := by
      rw [count_semicolons, List.count_eq_zero]
      cases hcfg : cfg.domain with
      | none => exact List.not_mem_nil
      | some domain => exact hdomain domain hcfg
    have hpieces : ∀ piece ∈ cfg.pieces age, ';' ∉ piece := by
      intro piece hmem
      apply List.count_eq_zero.mp
      exact List.sum_eq_zero_iff.mp hsum _ (List.mem_map_of_mem hmem)
    have hnonempty : hintCookieName ≠ [] := by decide
    rw [readSetCookie, header_eq, splitOn_pieces hfirst hpieces]
    dsimp only
    rw [readPair_append hname, hnameBlank, Option.bind_some, if_neg hnonempty, List.map_map]
    simp only [Function.comp_def, readAttribute_blank]
  constructor
  · intro h
    have hcount := length_attributes h
    rw [count_header] at hcount
    dsimp only at hcount
    have hvalue : ';' ∉ value := List.count_eq_zero.mp (by omega)
    have hdomain : ∀ domain ∈ cfg.domain, ';' ∉ domain := by
      intro domain hmem
      rw [Option.mem_def.mp hmem, Option.getD_some] at hcount
      exact List.count_eq_zero.mp (by omega)
    rw [hsemi hvalue hdomain] at h
    obtain ⟨_, htrim, hattributes⟩ := Cookie.mk.inj (Option.some.inj h)
    refine ⟨⟨hvalue, htrim⟩, fun domain hmem => ⟨hdomain domain hmem, ?_⟩⟩
    have hhead := congrArg List.head? hattributes
    rw [pieces, attributes, Option.mem_def.mp hmem] at hhead
    have hfirst : (text "Domain", trimBlanks domain) = (text "Domain", domain) := by
      simpa [readAttribute_domain] using hhead
    exact (Prod.mk.inj hfirst).2
  · rintro ⟨hvalue, hdomain⟩
    rw [hsemi hvalue.1 fun domain hmem => (hdomain domain hmem).1, hvalue.2,
      readAttribute_pieces hdomain]

end HintCookieConfig

/-- For any principal: the cookie set is the one meant unless the DID or the domain writes
attributes of its own or has blanks at an end. -/
theorem hintSetCookie_meant_iff (p : Principal B) (cfg : HintCookieConfig) :
    readSetCookie (hintSetCookie p cfg) =
        some ⟨hintCookieName, p.did, cfg.attributes cfg.maxAgeSecs⟩ ↔
      Plain p.did ∧ ∀ domain ∈ cfg.domain, Plain domain :=
  HintCookieConfig.readSetCookie_header_iff

/-! ## The request header -/

variable (B R) in
/-- The hint of one cookie. -/
def hintOfCookie (cookie : Str × Str) : List DidHint :=
  if Text.trim cookie.1 = hintCookieName then
    (DidHint.parse B R (unquoted (Text.trim cookie.2))).toList
  else []

theorem cookieString_cons (cookie : Str × Str) (cookies : List (Str × Str)) :
    cookieString (cookie :: cookies) = (cookie.1 ++ '=' :: cookie.2) ++
      (cookies.map fun c => c.1 ++ '=' :: c.2).flatMap (text "; " ++ ·) := by
  induction cookies generalizing cookie with
  | nil => simp [cookieString]
  | cons next cookies ih =>
      have hnext := ih next
      rw [cookieString, List.map_cons] at hnext
      rw [cookieString, List.map_cons, List.map_cons, List.intercalate_cons_cons, hnext,
        List.flatMap_cons]
      simp only [List.append_assoc]

variable (B R) in
/-- The hint of one piece of a header. -/
def hintOfPiece (piece : Str) : List DidHint :=
  (Text.splitOnceChar '=' piece).toList.flatMap (hintOfCookie B R)

theorem hintsFromCookieHeader_eq (header : Str) :
    hintsFromCookieHeader B R header = (header.splitOn ';').flatMap (hintOfPiece B R) := by
  unfold hintsFromCookieHeader
  induction header.splitOn ';' with
  | nil => rfl
  | cons piece pieces ih =>
      rw [List.flatMap_cons, ← ih, hintOfPiece]
      cases hsplit : Text.splitOnceChar '=' piece with
      | none => simp [hsplit]
      | some pair =>
          by_cases hname : Text.trim pair.1 = hintCookieName
          · cases hparse : DidHint.parse B R (unquoted (Text.trim pair.2)) <;>
              simp [hintOfCookie, hsplit, hname, hparse]
          · simp [hintOfCookie, hsplit, hname]

/-- A blank in front of a cookie does not matter. -/
theorem hintOfPiece_cookie {cookie : Str × Str} (h : Sendable cookie) :
    hintOfPiece B R (cookie.1 ++ '=' :: cookie.2) = hintOfCookie B R cookie ∧
      hintOfPiece B R (' ' :: (cookie.1 ++ '=' :: cookie.2)) = hintOfCookie B R cookie := by
  have hsplit : Text.splitOnceChar '=' (cookie.1 ++ '=' :: cookie.2) = some cookie :=
    Text.splitOnceChar_eq_some.mpr ⟨rfl, h.name.2⟩
  have hblank : Text.splitOnceChar '=' (' ' :: (cookie.1 ++ '=' :: cookie.2)) =
      some (' ' :: cookie.1, cookie.2) :=
    Text.splitOnceChar_eq_some.mpr ⟨rfl, by simp [h.name.2]⟩
  have htrim : Text.trim (' ' :: cookie.1) = Text.trim cookie.1 := rfl
  constructor
  · simp [hintOfPiece, hsplit]
  · simp [hintOfPiece, hblank, hintOfCookie, htrim]

/-- The hints of a header are those of its cookies, in their order. -/
theorem hintsFromCookieHeader_cookieString {cookies : List (Str × Str)}
    (h : ∀ cookie ∈ cookies, Sendable cookie) :
    hintsFromCookieHeader B R (cookieString cookies) = cookies.flatMap (hintOfCookie B R) := by
  have hpiece : ∀ cookie : Str × Str, Sendable cookie → ';' ∉ cookie.1 ++ '=' :: cookie.2 := by
    intro cookie hcookie
    simp only [List.mem_append, List.mem_cons, not_or]
    exact ⟨hcookie.name.1, by decide, hcookie.value⟩
  rw [hintsFromCookieHeader_eq]
  cases cookies with
  | nil => rfl
  | cons cookie cookies =>
      have hrest : ∀ piece ∈ cookies.map fun c => c.1 ++ '=' :: c.2, ';' ∉ piece := by
        intro piece hmem
        obtain ⟨c, hc, rfl⟩ := List.mem_map.mp hmem
        exact hpiece c (h c (List.mem_cons_of_mem _ hc))
      have hcookie := h cookie List.mem_cons_self
      rw [cookieString_cons, splitOn_pieces (hpiece cookie hcookie) hrest, List.flatMap_cons,
        List.flatMap_cons, (hintOfPiece_cookie hcookie).1, List.map_map, List.flatMap_map]
      congr 1
      apply List.flatMap_congr
      intro c hc
      exact (hintOfPiece_cookie (h c (List.mem_cons_of_mem _ hc))).2

/-! ## There and back -/

/-- A hint that was set as a cookie and sent back. -/
structure HintTravels (B : Build) (R : P256Recovery B.p256) (p : Principal B) (hint : DidHint)
    (cfg : HintCookieConfig) (before after : List (Str × Str)) : Prop where
  set : readSetCookie (hintSetCookie p cfg) =
    some ⟨hintCookieName, hint.did, cfg.attributes cfg.maxAgeSecs⟩
  sent : hintsFromCookieHeader B R
      (cookieString (before ++ (hintCookieName, hint.did) :: after)) =
    before.flatMap (hintOfCookie B R) ++ hint :: after.flatMap (hintOfCookie B R)
  /-- The same cookie in the same scope, with nothing in it and no lifetime. -/
  cleared : readSetCookie (hintClearCookie cfg) = some ⟨hintCookieName, [], cfg.attributes 0⟩
  gone : hintsFromCookieHeader B R
      (cookieString (before ++ (hintCookieName, []) :: after)) =
    before.flatMap (hintOfCookie B R) ++ after.flatMap (hintOfCookie B R)

theorem DidHint.did_of_parse {did : Str} {hint : DidHint} (h : DidHint.parse B R did = some hint) :
    hint.did = did := by
  obtain ⟨point, _, h⟩ := Option.bind_eq_some_iff.mp h
  split_ifs at h
  exact congrArg DidHint.did (Option.some.inj h).symm

theorem DidHint.alphanumeric (hint : DidHint) :
    ∀ c ∈ hint.did, c.isAlphanum = true ∨ c = ':' := by
  obtain ⟨did, point, rfl⟩ := hint
  intro c hc
  rcases List.mem_append.mp hc with hc | hc
  · have hall : (text "did:key:z").all (fun c => c.isAlphanum || c = ':') = true := by decide
    simpa using List.all_eq_true.mp hall c hc
  · exact .inl (alphanumeric_of_mem_alphabet
      (Base58.mem_alphabet_of_decode (Base58.decode_encode _) c hc))

/-- A hint is a value that every reader of cookies leaves as it is. -/
theorem DidHint.plain (hint : DidHint) : Plain hint.did ∧ Text.trim hint.did = hint.did ∧
    unquoted hint.did = hint.did := by
  have hnot : ∀ c : Char, c.isAlphanum = false → c ≠ ':' → c ∉ hint.did := by
    intro c halpha hcolon hmem
    rcases hint.alphanumeric c hmem with hc | hc
    · rw [halpha] at hc
      cases hc
    · exact hcolon hc
  refine ⟨⟨hnot ';' (by decide) (by decide), ?_⟩, ?_, ?_⟩
  · apply trimBlanks_of_forall
    intro c hc
    by_contra hblank
    have hcases : c = ' ' ∨ c = '\t' := by simpa [isBlank, or_iff_not_imp_left] using hblank
    rcases hcases with rfl | rfl
    · exact hnot ' ' (by decide) (by decide) hc
    · exact hnot '\t' (by decide) (by decide) hc
  · apply Text.trimmed_of_forall
    intro c hc
    rcases hint.alphanumeric c hc with halpha | rfl
    · exact Text.not_isWhitespace_of_isAlphanum halpha
    · decide
  · have hquote : Text.stripPrefix ['"'] hint.did = none := by
      apply Text.stripPrefix_eq_none.mpr
      intro rest hrest
      apply hnot '"' (by decide) (by decide)
      rw [hrest]
      exact List.mem_cons_self
    rw [unquoted, hquote]
    rfl

/-- The hints of what a browser sends when a hint cookie is among its cookies. -/
theorem hintsFromCookieHeader_hint {hint : DidHint} (hhint : DidHint.parse B R hint.did = some hint)
    {before after : List (Str × Str)} (hbefore : ∀ cookie ∈ before, Sendable cookie)
    (hafter : ∀ cookie ∈ after, Sendable cookie) :
    hintsFromCookieHeader B R (cookieString (before ++ (hintCookieName, hint.did) :: after)) =
      before.flatMap (hintOfCookie B R) ++ hint :: after.flatMap (hintOfCookie B R) := by
  obtain ⟨hplain, htrim, hunquoted⟩ := hint.plain
  have hname : ';' ∉ hintCookieName ∧ '=' ∉ hintCookieName := by decide
  have htrimName : Text.trim hintCookieName = hintCookieName := by decide
  have hown : hintOfCookie B R (hintCookieName, hint.did) = [hint] := by
    rw [hintOfCookie, if_pos htrimName, htrim, hunquoted, hhint]
    rfl
  have hsendable : ∀ cookie ∈ before ++ (hintCookieName, hint.did) :: after, Sendable cookie := by
    intro cookie hcookie
    rcases List.mem_append.mp hcookie with hcookie | hcookie
    · exact hbefore cookie hcookie
    · rcases List.mem_cons.mp hcookie with rfl | hcookie
      · exact ⟨hname, hplain.1⟩
      · exact hafter cookie hcookie
  rw [hintsFromCookieHeader_cookieString hsendable, List.flatMap_append, List.flatMap_cons, hown]
  rfl

/-- A hint cookie that is cleared gives no hint. -/
theorem hintsFromCookieHeader_cleared {before after : List (Str × Str)}
    (hbefore : ∀ cookie ∈ before, Sendable cookie) (hafter : ∀ cookie ∈ after, Sendable cookie) :
    hintsFromCookieHeader B R (cookieString (before ++ (hintCookieName, []) :: after)) =
      before.flatMap (hintOfCookie B R) ++ after.flatMap (hintOfCookie B R) := by
  have hname : ';' ∉ hintCookieName ∧ '=' ∉ hintCookieName := by decide
  have hnone : hintOfCookie B R (hintCookieName, []) = [] := rfl
  have hsendable : ∀ cookie ∈ before ++ (hintCookieName, []) :: after, Sendable cookie := by
    intro cookie hcookie
    rcases List.mem_append.mp hcookie with hcookie | hcookie
    · exact hbefore cookie hcookie
    · rcases List.mem_cons.mp hcookie with rfl | hcookie
      · exact ⟨hname, List.not_mem_nil⟩
      · exact hafter cookie hcookie
  rw [hintsFromCookieHeader_cookieString hsendable, List.flatMap_append, List.flatMap_cons, hnone]
  rfl

/-- The hint of a principal with a P-256 `did:key` comes back from every browser, among whatever
other cookies. -/
theorem hint_travels (B : Build) (R : P256Recovery B.p256) (p : Principal B) (hint : DidHint)
    (hhint : DidHint.parse B R p.did = some hint) (cfg : HintCookieConfig)
    (hdomain : ∀ domain ∈ cfg.domain, Plain domain) (before after : List (Str × Str))
    (hbefore : ∀ cookie ∈ before, Sendable cookie) (hafter : ∀ cookie ∈ after, Sendable cookie) :
    HintTravels B R p hint cfg before after := by
  have hdid : hint.did = p.did := DidHint.did_of_parse hhint
  have hempty : Plain [] := ⟨List.not_mem_nil, rfl⟩
  have hset : readSetCookie (hintSetCookie p cfg) =
      some ⟨hintCookieName, p.did, cfg.attributes cfg.maxAgeSecs⟩ :=
    HintCookieConfig.readSetCookie_header_iff.mpr ⟨hdid ▸ hint.plain.1, hdomain⟩
  exact {
    set := hdid ▸ hset
    sent := hintsFromCookieHeader_hint (hdid ▸ hhint) hbefore hafter
    cleared := HintCookieConfig.readSetCookie_header_iff.mpr ⟨hempty, hdomain⟩
    gone := hintsFromCookieHeader_cleared hbefore hafter }

/-! ### Among two other cookies -/

/-- The hint of the base point. -/
noncomputable def baseHint : DidHint := .ofPoint (sampleRecovery.toCompressedPoint baseKey)

theorem hint_travels_base : HintTravels sampleBuild sampleRecovery
    (.fromProvenDidKey sampleBuild baseHint) baseHint (.forRpId (text "inblock.io"))
      [(text "session", text "opaque")] [(text "theme", text "dark")] := by
  obtain ⟨publicKey, haccepts⟩ := sec1_sample.accepts baseKey
  have hhint : DidHint.parse sampleBuild sampleRecovery baseHint.did = some baseHint :=
    parse_ofPoint haccepts
  apply hint_travels sampleBuild sampleRecovery (.fromProvenDidKey sampleBuild baseHint) baseHint
    hhint
  · intro domain hdomain
    obtain rfl : text "inblock.io" = domain := Option.some.inj hdomain
    exact ⟨by decide, by decide⟩
  · intro cookie hcookie
    obtain rfl := List.mem_singleton.mp hcookie
    exact ⟨by decide, by decide⟩
  · intro cookie hcookie
    obtain rfl := List.mem_singleton.mp hcookie
    exact ⟨by decide, by decide⟩

end AquaAuth
