import AquaAuth.Model.Webauthn.Policy
import AquaAuth.Support.DateTime
import AquaAuth.Support.Labels
set_option autoImplicit false
/-!
# The invariant of an assertion policy

What holds of every policy that a sequence of builder calls ends in.
-/

namespace AquaAuth

open Support Support.Result

/-! ## RP IDs -/

/-- An RP ID as the policy keeps it. -/
structure IsRpId (rpId : Str) : Prop where
  lowercase : Text.asciiLower rpId = rpId
  plain : isPlainHostname rpId = true
  noTrailingDot : rpId.getLast? ≠ some '.'
  notIp : isIpLiteral rpId = false
  multiLabel : 1 < (Text.labels rpId).length ∨ rpId = text "localhost"

theorem isRpId_of_validateRpId {raw rpId : Str} (h : validateRpId raw = .ok rpId) :
    IsRpId rpId := by
  obtain ⟨_, hplain, h⟩ := bind_eq_ok.mp h
  obtain ⟨_, hlabels, h⟩ := bind_eq_ok.mp h
  obtain ⟨_, hip, h⟩ := bind_eq_ok.mp h
  obtain ⟨_, hmulti, h⟩ := bind_eq_ok.mp h
  obtain rfl := Except.ok.inj h
  exact {
    lowercase := Text.asciiLower_asciiLower _
    plain := ensure_eq_ok.mp hplain
    noTrailingDot := Text.getLast?_ne_dot (ensure_eq_ok.mp hlabels).2
    notIp := ensure_eq_ok.mp hip
    multiLabel := (ensure_eq_ok.mp hmulti).imp_left Text.length_labels_pos_iff.mpr }

/-- The host without its trailing dots has the labels of the RP ID at its end. -/
def WithinRpId (host rpId : Str) : Prop :=
  Text.labels rpId <:+ Text.labels (Text.trimEndMatches (· = '.') host)

theorem withinRpId_of_hostWithinRpId {host rpId : Str} (hlower : Text.asciiLower host = host)
    (h : hostWithinRpId host rpId = true) : WithinRpId host rpId := by
  have hsubset := (Text.trimEndMatches_prefix (· = '.') host).subset
  rw [hostWithinRpId, Text.asciiLower_of_subset hsubset hlower, Bool.or_eq_true, decide_eq_true_iff,
    List.isSuffixOf_iff_suffix] at h
  exact Text.labels_suffix_iff.mpr h

/-! ## Origins -/

/-- The scheme is one that an origin may have. -/
def IsWebScheme (scheme : Str) : Prop := scheme = text "https" ∨ scheme = text "http"

/-- A URL with one of these schemes and a host. -/
structure WebUrl (parseUrl : Str → Except Str OriginUrl) (url : OriginUrl) (host : Str) : Prop where
  parsed : ∃ raw, parseUrl raw = .ok url
  scheme : IsWebScheme url.scheme
  host : url.hostStr = some host

/-- The port of an origin, when it is not the one of the scheme. -/
def IsPort (port : Str) : Prop := port = [] ∨ ∃ n : ℕ, port = ':' :: Text.decimal n

/-- `url` writes origins canonically: a host in lowercase, and a text that reads back as the origin
and nothing else. -/
structure SerialisesOrigins (parseUrl : Str → Except Str OriginUrl) : Prop where
  lowercase : ∀ {url host}, WebUrl parseUrl url host → Text.asciiLower host = host
  serialised : ∀ {url host}, WebUrl parseUrl url host →
    ∃ port, IsPort port ∧ url.asciiOrigin = url.scheme ++ text "://" ++ (host ++ port)
  parsesBack : ∀ {url host}, WebUrl parseUrl url host →
    parseUrl url.asciiOrigin = .ok
      { scheme := url.scheme, username := [], password := none, hostStr := some host
        path := text "/", query := none, fragment := none, asciiOrigin := url.asciiOrigin }

section

variable {parseUrl : Str → Except Str OriginUrl} {raw origin host : Str}

/-- The scheme and the host of an origin. -/
def IsOrigin (url : OriginUrl) (host : Str) : Prop :=
  isPlainHostname host = true ∧
    (url.scheme = text "https" ∨ url.scheme = text "http" ∧ isLocal host = true)

/-- The parts of a URL that an origin does not have. -/
def IsBare (url : OriginUrl) : Prop :=
  (url.username = [] ∧ url.password = none) ∧
    (url.path = [] ∨ url.path = text "/") ∧ url.query = none ∧ url.fragment = none

theorem normaliseOrigin_eq_ok :
    normaliseOrigin parseUrl raw = .ok (origin, host) ↔
      ∃ url hostStr, parseUrl (Text.trimEndMatches (· = '/') (Text.trim raw)) = .ok url ∧
        IsBare url ∧ url.hostStr = some hostStr ∧ IsOrigin url (Text.asciiLower hostStr) ∧
          url.asciiOrigin = origin ∧ Text.asciiLower hostStr = host := by
  constructor
  · intro h
    obtain ⟨url, hurl, h⟩ := bind_eq_ok.mp h
    obtain ⟨_, huser, h⟩ := bind_eq_ok.mp h
    obtain ⟨_, hpath, h⟩ := bind_eq_ok.mp h
    obtain ⟨hostStr, hhost, h⟩ := bind_eq_ok.mp h
    obtain ⟨_, hplain, h⟩ := bind_eq_ok.mp h
    obtain ⟨_, hscheme, h⟩ := bind_eq_ok.mp h
    obtain ⟨horigin, hlower⟩ := Prod.mk.inj (Except.ok.inj h)
    exact ⟨url, hostStr, mapError_eq_ok.mp hurl, ⟨ensure_eq_ok.mp huser, ensure_eq_ok.mp hpath⟩,
      okOr_eq_ok.mp hhost, ⟨ensure_eq_ok.mp hplain, ensure_eq_ok.mp hscheme⟩, horigin, hlower⟩
  · rintro ⟨url, hostStr, hurl, ⟨huser, hpath⟩, hhost, ⟨hplain, hscheme⟩, rfl, rfl⟩
    refine bind_eq_ok.mpr ⟨url, mapError_eq_ok.mpr hurl, ?_⟩
    refine bind_eq_ok.mpr ⟨(), ensure_pos huser, bind_eq_ok.mpr ⟨(), ensure_pos hpath, ?_⟩⟩
    refine bind_eq_ok.mpr ⟨hostStr, okOr_eq_ok.mpr hhost, ?_⟩
    exact bind_eq_ok.mpr ⟨(), ensure_pos hplain, bind_eq_ok.mpr ⟨(), ensure_pos hscheme, rfl⟩⟩

theorem not_isWhitespace_of_plain (hplain : isPlainHostname host = true) :
    ∀ c ∈ host, Text.isWhitespace c = false ∧ c ≠ '/' := by
  intro c hc
  have hchar := List.all_eq_true.mp (Bool.and_eq_true_iff.mp hplain).2 c hc
  rw [Bool.or_eq_true, Bool.or_eq_true, decide_eq_true_iff, decide_eq_true_iff] at hchar
  rcases hchar with (halnum | rfl) | rfl
  · refine ⟨Text.not_isWhitespace_of_isAlphanum halnum, ?_⟩
    rintro rfl
    cases halnum
  · decide
  · decide

theorem not_isWhitespace_of_isPort {port : Str} (hport : IsPort port) :
    ∀ c ∈ port, Text.isWhitespace c = false ∧ c ≠ '/' := by
  intro c hc
  rcases hport with rfl | ⟨n, rfl⟩
  · cases hc
  · rcases List.mem_cons.mp hc with rfl | hc
    · decide
    · have hdigit := DateTime.isDigit_of_mem_decimal hc
      refine ⟨Text.not_isWhitespace_of_isAlphanum (Bool.or_eq_true_iff.mpr (.inr hdigit)), ?_⟩
      rintro rfl
      cases hdigit

/-- Trimming leaves an origin as it is. -/
theorem trim_origin {scheme port : Str} (hscheme : IsWebScheme scheme)
    (hplain : isPlainHostname host = true) (hport : IsPort port) :
    Text.trimEndMatches (· = '/') (Text.trim (scheme ++ text "://" ++ (host ++ port))) =
      scheme ++ text "://" ++ (host ++ port) := by
  have hback : ∀ c ∈ host ++ port, Text.isWhitespace c = false ∧ c ≠ '/' := by
    intro c hc
    rcases List.mem_append.mp hc with hc | hc
    · exact not_isWhitespace_of_plain hplain c hc
    · exact not_isWhitespace_of_isPort hport c hc
  have hfront : (scheme ++ text "://").all (fun c => !Text.isWhitespace c) = true := by
    rcases hscheme with rfl | rfl <;> decide +kernel
  have htrimmed : Text.Trimmed (scheme ++ text "://" ++ (host ++ port)) := by
    apply Text.trimmed_of_forall
    intro c hc
    rcases List.mem_append.mp hc with hc | hc
    · simpa using List.all_eq_true.mp hfront c hc
    · exact (hback c hc).1
  have hne : host ++ port ≠ [] := by
    intro hnil
    rw [(List.append_eq_nil_iff.mp hnil).1] at hplain
    cases hplain
  rw [htrimmed]
  apply Text.trimEndMatches_eq_self
  intro c hc
  rw [List.getLast?_append_of_ne_nil _ hne] at hc
  exact decide_eq_false (hback c (List.mem_of_getLast? hc)).2

/-- A normalised origin is its own normalisation, and it is written with its host. -/
theorem normaliseOrigin_self (hU : SerialisesOrigins parseUrl)
    (h : normaliseOrigin parseUrl raw = .ok (origin, host)) :
    normaliseOrigin parseUrl origin = .ok (origin, host) ∧ Text.asciiLower host = host ∧
      ∃ scheme port, IsPort port ∧ origin = scheme ++ text "://" ++ (host ++ port) ∧
        (scheme = text "https" ∨ scheme = text "http" ∧ isLocal host = true) := by
  obtain ⟨url, hostStr, hurl, _, hhost, ⟨hplain, hscheme⟩, rfl, rfl⟩ := normaliseOrigin_eq_ok.mp h
  have hweb : WebUrl parseUrl url hostStr := ⟨⟨_, hurl⟩, hscheme.imp_right And.left, hhost⟩
  have hlower := hU.lowercase hweb
  rw [hlower] at hplain hscheme ⊢
  obtain ⟨port, hport, horigin⟩ := hU.serialised hweb
  refine ⟨?_, hlower, url.scheme, port, hport, horigin, hscheme⟩
  have htrim : Text.trimEndMatches (· = '/') (Text.trim url.asciiOrigin) = url.asciiOrigin := by
    rw [horigin]
    exact trim_origin hweb.scheme hplain hport
  apply normaliseOrigin_eq_ok.mpr
  refine ⟨_, hostStr, (congrArg parseUrl htrim).trans (hU.parsesBack hweb),
    ⟨⟨rfl, rfl⟩, .inr rfl, rfl, rfl⟩, rfl, ?_, rfl, hlower⟩
  rw [hlower]
  exact ⟨hplain, hscheme⟩

end

/-! ## The loops -/

theorem exists_of_forall₂ {α β : Type} {R : α → β → Prop} {xs : List α} {ys : List β}
    (h : List.Forall₂ R xs ys) {y : β} (hy : y ∈ ys) : ∃ x, R x y := by
  induction h with
  | nil => exact absurd hy List.not_mem_nil
  | cons hhead _ ih =>
      rcases List.mem_cons.mp hy with rfl | hy
      · exact ⟨_, hhead⟩
      · exact ih hy

section

variable (parseUrl : Str → Except Str OriginUrl)

/-- One of the configured spellings is of this origin. -/
def Supplies (raws : List Str) (origin : Str) : Prop :=
  ∃ raw ∈ raws, ∃ host, normaliseOrigin parseUrl raw = .ok (origin, host)

/-- Each of the configured spellings is of an origin whose host has the property. -/
def AllHosts (p : Str → Prop) (raws : List Str) : Prop :=
  ∀ raw ∈ raws, ∃ origin host, normaliseOrigin parseUrl raw = .ok (origin, host) ∧ p host

end

section

variable {parseUrl : Str → Except Str OriginUrl}

theorem mem_pushed {normalised : List Str} {origin o : Str} :
    o ∈ (if origin ∈ normalised then normalised else normalised ++ [origin]) ↔
      o ∈ normalised ∨ o = origin := by
  split_ifs with hmem
  · constructor
    · exact .inl
    · rintro (h | rfl)
      · exact h
      · exact hmem
  · rw [List.mem_append, List.mem_singleton]

theorem nodup_pushed {normalised : List Str} {origin : Str} (h : normalised.Nodup) :
    (if origin ∈ normalised then normalised else normalised ++ [origin]).Nodup := by
  split_ifs with hmem
  · exact h
  · rw [← List.concat_eq_append]
    exact List.Nodup.concat hmem h

variable (parseUrl) in
/-- What one loop collects. -/
structure Collects (p : Str → Prop) (normalised raws out : List Str) : Prop where
  nodup : normalised.Nodup → out.Nodup
  mem_iff : ∀ o, o ∈ out ↔ o ∈ normalised ∨ Supplies parseUrl raws o
  hosts : AllHosts parseUrl p raws

theorem collects_of_ok {check : Str → Str → Str → Except PolicyError Unit} {p : Str → Prop}
    (hcheck : ∀ {raw origin host}, check raw origin host = .ok () → p host) {raws out : List Str} :
    ∀ {normalised}, collectOrigins parseUrl check normalised raws = .ok out →
      Collects parseUrl p normalised raws out := by
  induction raws with
  | nil =>
      intro normalised h
      obtain rfl := Except.ok.inj h
      refine ⟨id, ?_, fun raw hraw => absurd hraw List.not_mem_nil⟩
      intro o
      constructor
      · exact .inl
      · rintro (h | ⟨raw, hraw, _⟩)
        · exact h
        · exact absurd hraw List.not_mem_nil
  | cons raw raws ih =>
      intro normalised h
      obtain ⟨⟨origin, host⟩, hnormal, h⟩ := bind_eq_ok.mp h
      obtain ⟨_, hpassed, h⟩ := bind_eq_ok.mp h
      have hrest := ih h
      refine ⟨fun hnodup => hrest.nodup (nodup_pushed hnodup), ?_, ?_⟩
      · intro o
        rw [hrest.mem_iff, mem_pushed, or_assoc]
        apply or_congr_right
        constructor
        · rintro (rfl | ⟨raw', hraw', hsupplies⟩)
          · exact ⟨raw, List.mem_cons_self, host, hnormal⟩
          · exact ⟨raw', List.mem_cons_of_mem raw hraw', hsupplies⟩
        · rintro ⟨raw', hraw', host', hsupplies⟩
          rcases List.mem_cons.mp hraw' with rfl | hraw'
          · rw [hnormal] at hsupplies
            exact .inl (Prod.mk.inj (Except.ok.inj hsupplies)).1.symm
          · exact .inr ⟨raw', hraw', host', hsupplies⟩
      · intro raw' hraw'
        rcases List.mem_cons.mp hraw' with rfl | hraw'
        · exact ⟨origin, host, hnormal, hcheck hpassed⟩
        · exact hrest.hosts raw' hraw'

end

/-! ## The builder -/

/-- The arguments of a call that adds a relying party. -/
structure RpArgs where
  rpId : Str
  origins : List Str
  relatedOrigins : List Str

/-- The arguments, when the call adds a relying party. -/
def BuilderCall.args : BuilderCall → Option RpArgs
  | .rp rpId origins => some ⟨rpId, origins, []⟩
  | .rpWithRelatedOrigins rpId origins relatedOrigins => some ⟨rpId, origins, relatedOrigins⟩
  | .requireUv _ => none

section

variable (parseUrl : Str → Except Str OriginUrl) (sha256 : Bytes → ByteArr 32)

/-- The entry is what these arguments configure. -/
structure Configures (args : RpArgs) (entry : RpEntry) : Prop where
  rpId : validateRpId args.rpId = .ok entry.rpId
  rpIdHash : entry.rpIdHash = sha256 (Text.utf8 entry.rpId)
  supplied : args.origins ≠ [] ∨ args.relatedOrigins ≠ []
  nodup : entry.origins.Nodup
  mem_iff : ∀ o, o ∈ entry.origins ↔
    Supplies parseUrl args.origins o ∨ Supplies parseUrl args.relatedOrigins o
  within : AllHosts parseUrl (hostWithinRpId · entry.rpId = true) args.origins
  related : AllHosts parseUrl (isIpLiteral · = false) args.relatedOrigins

/-- The entries are what the calls so far configure, under different RP IDs. -/
structure BuilderInvariant (configured : List RpArgs) (b : AssertionPolicyBuilder) : Prop where
  entries : List.Forall₂ (Configures parseUrl sha256) configured b.entries
  distinct : (b.entries.map RpEntry.rpId).Nodup

end

section

variable {parseUrl : Str → Except Str OriginUrl} {sha256 : Bytes → ByteArr 32}
  {b b' : AssertionPolicyBuilder} {configured : List RpArgs}

/-- What adding a relying party does. -/
theorem addRp_eq_ok {args : RpArgs}
    (h : b.addRp parseUrl sha256 args.rpId args.origins args.relatedOrigins = .ok b') :
    ∃ entry, Configures parseUrl sha256 args entry ∧ (∀ e ∈ b.entries, e.rpId ≠ entry.rpId) ∧
      b' = { b with entries := b.entries ++ [entry] } := by
  obtain ⟨rpId, hrpId, h⟩ := bind_eq_ok.mp h
  obtain ⟨_, hdistinct, h⟩ := bind_eq_ok.mp h
  obtain ⟨_, hsupplied, h⟩ := bind_eq_ok.mp h
  obtain ⟨within, hwithin, h⟩ := bind_eq_ok.mp h
  obtain ⟨normalised, hnormalised, h⟩ := bind_eq_ok.mp h
  have hfirst := collects_of_ok (p := (hostWithinRpId · rpId = true)) ensure_eq_ok.mp hwithin
  have hsecond := collects_of_ok (p := (isIpLiteral · = false)) ensure_eq_ok.mp hnormalised
  refine ⟨⟨rpId, sha256 (Text.utf8 rpId), normalised⟩, ?_, ensure_eq_ok.mp hdistinct,
    (Except.ok.inj h).symm⟩
  exact {
    rpId := hrpId
    rpIdHash := rfl
    supplied := ensure_eq_ok.mp hsupplied
    nodup := hsecond.nodup (hfirst.nodup List.nodup_nil)
    mem_iff := by
      intro o
      rw [hsecond.mem_iff, hfirst.mem_iff]
      simp only [List.not_mem_nil, false_or]
    within := hfirst.hosts
    related := hsecond.hosts }

theorem BuilderInvariant.addRp (args : RpArgs) (hb : BuilderInvariant parseUrl sha256 configured b)
    (h : b.addRp parseUrl sha256 args.rpId args.origins args.relatedOrigins = .ok b') :
    BuilderInvariant parseUrl sha256 (configured ++ [args]) b' := by
  obtain ⟨entry, hentry, hdistinct, rfl⟩ := addRp_eq_ok h
  constructor
  · exact List.rel_append hb.entries (.cons hentry .nil)
  · rw [List.map_append, List.map_singleton, ← List.concat_eq_append]
    apply List.Nodup.concat ?_ hb.distinct
    intro hmem
    obtain ⟨e, he, heq⟩ := List.mem_map.mp hmem
    exact hdistinct e he heq

theorem BuilderInvariant.call {c : BuilderCall} (hb : BuilderInvariant parseUrl sha256 configured b)
    (h : b.call parseUrl sha256 c = .ok b') :
    BuilderInvariant parseUrl sha256 (configured ++ c.args.toList) b' := by
  cases c with
  | rp rpId origins => exact hb.addRp ⟨rpId, origins, []⟩ h
  | rpWithRelatedOrigins rpId origins relatedOrigins =>
      exact hb.addRp ⟨rpId, origins, relatedOrigins⟩ h
  | requireUv on =>
      obtain rfl := Except.ok.inj h
      rw [BuilderCall.args, Option.toList_none, List.append_nil]
      exact ⟨hb.entries, hb.distinct⟩

/-- The invariant holds after any sequence of calls. -/
theorem BuilderInvariant.calls {cs : List BuilderCall} :
    ∀ {configured b}, BuilderInvariant parseUrl sha256 configured b →
      cs.foldlM (AssertionPolicyBuilder.call parseUrl sha256) b = .ok b' →
        BuilderInvariant parseUrl sha256 (configured ++ cs.filterMap BuilderCall.args) b' := by
  induction cs with
  | nil =>
      intro configured b hb h
      obtain rfl := Except.ok.inj h
      rw [List.filterMap_nil, List.append_nil]
      exact hb
  | cons c cs ih =>
      intro configured b hb h
      rw [List.foldlM_cons] at h
      obtain ⟨next, hcall, h⟩ := bind_eq_ok.mp h
      have hrest := ih (hb.call hcall) h
      rw [List.append_assoc] at hrest
      have hargs : c.args.toList ++ cs.filterMap BuilderCall.args =
          (c :: cs).filterMap BuilderCall.args := by
        rw [List.filterMap_cons]
        cases c.args <;> rfl
      rwa [hargs] at hrest

theorem builderInvariant_of_calls {cs : List BuilderCall} {policy : AssertionPolicy}
    (h : AssertionPolicy.ofCalls parseUrl sha256 cs = .ok policy) :
    List.Forall₂ (Configures parseUrl sha256) (cs.filterMap BuilderCall.args) policy.entries ∧
      (policy.entries.map RpEntry.rpId).Nodup := by
  obtain ⟨b, hcalls, h⟩ := bind_eq_ok.mp h
  obtain ⟨_, _, h⟩ := bind_eq_ok.mp h
  obtain rfl := Except.ok.inj h
  have hstart : BuilderInvariant parseUrl sha256 [] AssertionPolicy.builder :=
    ⟨.nil, List.nodup_nil⟩
  have hb := hstart.calls hcalls
  exact ⟨hb.entries, hb.distinct⟩

end

/-! ## The policy -/

section

variable (parseUrl : Str → Except Str OriginUrl) (sha256 : Bytes → ByteArr 32)

/-- An origin as a policy lists it for an RP ID. -/
structure ListedOrigin (args : RpArgs) (rpId origin host : Str) : Prop where
  /-- The origin is in the browser's form, written with this host. -/
  written : ∃ scheme port, IsWebScheme scheme ∧ IsPort port ∧
    origin = scheme ++ text "://" ++ (host ++ port)
  normal : normaliseOrigin parseUrl origin = .ok (origin, host)
  within : WithinRpId host rpId ∨
    Supplies parseUrl args.relatedOrigins origin ∧ isIpLiteral host = false
  plaintext : text "http://" <+: origin → host = text "localhost" ∨ text ".localhost" <:+ host

/-- An entry of a policy, for the arguments it comes from. -/
structure EntryWellFormed (args : RpArgs) (entry : RpEntry) : Prop where
  rpId : IsRpId entry.rpId
  rpIdHash : entry.rpIdHash = sha256 (Text.utf8 entry.rpId)
  nonempty : entry.origins ≠ []
  nodup : entry.origins.Nodup
  origins : ∀ origin ∈ entry.origins, ∃ host, ListedOrigin parseUrl args entry.rpId origin host

/-- SHA-256 tells the RP IDs of the policy apart. -/
def CollisionFree (policy : AssertionPolicy) : Prop :=
  ∀ e ∈ policy.entries, ∀ e' ∈ policy.entries,
    sha256 (Text.utf8 e.rpId) = sha256 (Text.utf8 e'.rpId) → e.rpId = e'.rpId

/-- What holds of a policy built from these arguments. -/
structure PolicyWellFormed (configured : List RpArgs) (policy : AssertionPolicy) : Prop where
  distinct : (policy.entries.map RpEntry.rpId).Nodup
  entries : List.Forall₂ (EntryWellFormed parseUrl sha256) configured policy.entries
  /-- For the hash of an RP ID, an origin that was not supplied for it is refused, whatever the
  other RP IDs list. -/
  isolated : CollisionFree sha256 policy → ∀ {i : ℕ} {args : RpArgs} {entry : RpEntry},
    configured[i]? = some args →
    policy.entries[i]? = some entry → ∀ origin, ¬ Supplies parseUrl args.origins origin →
      ¬ Supplies parseUrl args.relatedOrigins origin →
        ∀ found, policy.entryForRpIdHash (sha256 (Text.utf8 entry.rpId)) = some found →
          found.allowsOrigin origin = false

end

section

variable {parseUrl : Str → Except Str OriginUrl} {sha256 : Bytes → ByteArr 32}

theorem listedOrigin_of_mem (hU : SerialisesOrigins parseUrl) {args : RpArgs} {entry : RpEntry}
    (hentry : Configures parseUrl sha256 args entry) {origin : Str} (h : origin ∈ entry.origins) :
    ∃ host, ListedOrigin parseUrl args entry.rpId origin host := by
  obtain ⟨host, hnormal, hhost⟩ : ∃ host,
      (∃ raw, normaliseOrigin parseUrl raw = .ok (origin, host)) ∧
      (hostWithinRpId host entry.rpId = true ∨
        Supplies parseUrl args.relatedOrigins origin ∧ isIpLiteral host = false) := by
    rcases (hentry.mem_iff origin).mp h with ⟨raw, hraw, host, hnormal⟩ | ⟨raw, hraw, host, hnormal⟩
    · obtain ⟨_, host', hnormal', hwithin⟩ := hentry.within raw hraw
      rw [hnormal] at hnormal'
      obtain ⟨_, rfl⟩ := Prod.mk.inj (Except.ok.inj hnormal')
      exact ⟨host, ⟨raw, hnormal⟩, .inl hwithin⟩
    · obtain ⟨_, host', hnormal', hip⟩ := hentry.related raw hraw
      rw [hnormal] at hnormal'
      obtain ⟨_, rfl⟩ := Prod.mk.inj (Except.ok.inj hnormal')
      exact ⟨host, ⟨raw, hnormal⟩, .inr ⟨⟨raw, hraw, host, hnormal⟩, hip⟩⟩
  obtain ⟨raw, hnormal⟩ := hnormal
  obtain ⟨hself, hlower, scheme, port, hport, horigin, hscheme⟩ := normaliseOrigin_self hU hnormal
  refine ⟨host, ⟨scheme, port, hscheme.imp_right And.left, hport, horigin⟩, hself, ?_, ?_⟩
  · exact hhost.imp_left (withinRpId_of_hostWithinRpId hlower)
  · intro hplaintext
    rcases hscheme with rfl | ⟨_, hlocal⟩
    · obtain ⟨rest, hrest⟩ := hplaintext
      have hfourth : some ':' = some 's' := congrArg (fun s : Str => s[4]?) (hrest.trans horigin)
      exact absurd (Option.some.inj hfourth) (by decide)
    · rw [isLocal, Bool.or_eq_true, decide_eq_true_iff, List.isSuffixOf_iff_suffix] at hlocal
      exact hlocal

theorem Configures.wellFormed (hU : SerialisesOrigins parseUrl) {args : RpArgs} {entry : RpEntry}
    (hentry : Configures parseUrl sha256 args entry) :
    EntryWellFormed parseUrl sha256 args entry where
  rpId := isRpId_of_validateRpId hentry.rpId
  rpIdHash := hentry.rpIdHash
  nonempty := by
    have hmem : ∃ origin, origin ∈ entry.origins := by
      rcases hentry.supplied with hne | hne
      · obtain ⟨raw, hraw⟩ := List.exists_mem_of_ne_nil _ hne
        obtain ⟨origin, host, hnormal, _⟩ := hentry.within raw hraw
        exact ⟨origin, (hentry.mem_iff origin).mpr (.inl ⟨raw, hraw, host, hnormal⟩)⟩
      · obtain ⟨raw, hraw⟩ := List.exists_mem_of_ne_nil _ hne
        obtain ⟨origin, host, hnormal, _⟩ := hentry.related raw hraw
        exact ⟨origin, (hentry.mem_iff origin).mpr (.inr ⟨raw, hraw, host, hnormal⟩)⟩
    obtain ⟨origin, horigin⟩ := hmem
    exact List.ne_nil_of_mem horigin
  nodup := hentry.nodup
  origins := fun _ => listedOrigin_of_mem hU hentry

/-- The entry found for the hash of an RP ID is the one of that RP ID. -/
theorem entryForRpIdHash_unique {policy : AssertionPolicy}
    (hhash : ∀ e ∈ policy.entries, e.rpIdHash = sha256 (Text.utf8 e.rpId))
    (hdistinct : (policy.entries.map RpEntry.rpId).Nodup) (hfree : CollisionFree sha256 policy)
    {entry found : RpEntry} (hentry : entry ∈ policy.entries)
    (hfound : policy.entryForRpIdHash (sha256 (Text.utf8 entry.rpId)) = some found) :
    found = entry := by
  have hmem := List.mem_of_find?_eq_some hfound
  have heq : found.rpIdHash = sha256 (Text.utf8 entry.rpId) := by
    simpa using List.find?_some hfound
  rw [hhash found hmem] at heq
  exact List.inj_on_of_nodup_map hdistinct hmem hentry (hfree found hmem entry hentry heq)

/-- Every policy that the builder ends in is well formed. -/
theorem policyWellFormed (hU : SerialisesOrigins parseUrl) {calls : List BuilderCall}
    {policy : AssertionPolicy} (h : AssertionPolicy.ofCalls parseUrl sha256 calls = .ok policy) :
    PolicyWellFormed parseUrl sha256 (calls.filterMap BuilderCall.args) policy := by
  obtain ⟨hentries, hdistinct⟩ := builderInvariant_of_calls h
  refine ⟨hdistinct, hentries.imp fun _ _ => Configures.wellFormed hU, ?_⟩
  intro hfree i args entry hargs hentry origin horigins hrelated found hfound
  have hhash : ∀ e ∈ policy.entries, e.rpIdHash = sha256 (Text.utf8 e.rpId) := by
    intro e he
    obtain ⟨_, hconfigures⟩ := exists_of_forall₂ hentries he
    exact hconfigures.rpIdHash
  have hconfigures := rel_of_forall₂ hentries hargs hentry
  obtain rfl := entryForRpIdHash_unique hhash hdistinct hfree (List.mem_of_getElem? hentry) hfound
  rw [RpEntry.allowsOrigin, List.any_eq_false]
  intro o ho heq
  obtain rfl := of_decide_eq_true heq
  rcases (hconfigures.mem_iff o).mp ho with hsupplies | hsupplies
  · exact horigins hsupplies
  · exact hrelated hsupplies

end

/-! ## A configuration -/

/-- `url` as far as a list of parsed texts tells. -/
def urlOfTable (table : List (Str × OriginUrl)) (raw : Str) : Except Str OriginUrl :=
  okOr (text "relative URL without a base") ((table.find? fun entry => entry.1 = raw).map Prod.snd)

def siwxUrl : OriginUrl :=
  ⟨text "https", [], none, some (text "siwx.inblock.io"), text "/", none, none,
    text "https://siwx.inblock.io"⟩

def harnessUrl : OriginUrl :=
  ⟨text "http", [], none, some (text "localhost"), text "/", none, none,
    text "http://localhost:3000"⟩

def configuredUrls : List (Str × OriginUrl) :=
  [(text "HTTPS://Siwx.InBlock.IO", siwxUrl), (siwxUrl.asciiOrigin, siwxUrl),
    (harnessUrl.asciiOrigin, harnessUrl)]

def configuredHash : ByteArr 32 :=
  arrOfHex 32 "71f05bdb3faa692d91fe647769a0c35eedecdb87ee8f9124b10be0a254837378"

def relatedHash : ByteArr 32 :=
  arrOfHex 32 "09f70888ac05d32e2d58bc0b1619341071f60acf9be414a68e03cac6166b75bf"

def configuredSha256 : Bytes → ByteArr 32 :=
  digestOfTable [(Text.utf8 (text "inblock.io"), configuredHash),
    (Text.utf8 (text "aqua.inblock.io"), relatedHash)]

/-- A spelling to normalise, and a related origin. -/
def configuredCalls : List BuilderCall :=
  [.requireUv false, .rp (text "InBlock.IO.") [text "HTTPS://Siwx.InBlock.IO/"],
    .rpWithRelatedOrigins (text "aqua.inblock.io") [] [text " http://localhost:3000/"]]

def configuredPolicy : AssertionPolicy where
  entries :=
    [⟨text "inblock.io", configuredHash, [text "https://siwx.inblock.io"]⟩,
      ⟨text "aqua.inblock.io", relatedHash, [text "http://localhost:3000"]⟩]
  requireUv := false

theorem serialisesOrigins_table : SerialisesOrigins (urlOfTable configuredUrls) := by
  have hcases : ∀ {url host}, WebUrl (urlOfTable configuredUrls) url host →
      (url = siwxUrl ∧ host = text "siwx.inblock.io") ∨
        (url = harnessUrl ∧ host = text "localhost") := by
    rintro url host ⟨⟨raw, hraw⟩, _, hhost⟩
    obtain ⟨entry, hentry, rfl⟩ := Option.map_eq_some_iff.mp (okOr_eq_ok.mp hraw)
    have hmem := List.mem_of_find?_eq_some hentry
    simp only [configuredUrls, List.mem_cons, List.not_mem_nil, or_false] at hmem
    rcases hmem with rfl | rfl | rfl
    · exact .inl ⟨rfl, (Option.some.inj hhost).symm⟩
    · exact .inl ⟨rfl, (Option.some.inj hhost).symm⟩
    · exact .inr ⟨rfl, (Option.some.inj hhost).symm⟩
  constructor
  · intro url host h
    rcases hcases h with ⟨rfl, rfl⟩ | ⟨rfl, rfl⟩ <;> decide +kernel
  · intro url host h
    rcases hcases h with ⟨rfl, rfl⟩ | ⟨rfl, rfl⟩
    · exact ⟨[], .inl rfl, by decide +kernel⟩
    · exact ⟨text ":3000", .inr ⟨3000, by decide +kernel⟩, by decide +kernel⟩
  · intro url host h
    rcases hcases h with ⟨rfl, rfl⟩ | ⟨rfl, rfl⟩ <;> decide +kernel

theorem policyWellFormed_base :
    PolicyWellFormed (urlOfTable configuredUrls) configuredSha256
      (configuredCalls.filterMap BuilderCall.args) configuredPolicy :=
  policyWellFormed serialisesOrigins_table (by decide +kernel)

end AquaAuth
