import AquaAuth.Proofs.BaseLines
import AquaAuth.Support.Labels
set_option autoImplicit false
/-!
# The authority of a target URI

What `authority_from_uri` accepts are the texts of a small grammar, each in one reading.  Its value
depends on the host, up to letter case, and on the port a client would connect to, and on
nothing else.
-/

namespace AquaAuth

open Support Support.Result

namespace HttpSig

/-! ## Ports -/

theorem parseU16_lt {port : Str} {n : Nat} (h : parseU16 port = some n) : n < 65536 := by
  unfold parseU16 at h
  dsimp only at h
  split_ifs at h with _ hlt
  exact Option.some.inj h ▸ hlt

theorem parseU16_decimal {n : Nat} (h : n < 65536) : parseU16 (Text.decimal n) = some n := by
  have hdigit : ∀ c ∈ Text.decimal n, c.isDigit = true := fun c hc =>
    DateTime.isDigit_of_mem_decimal hc
  have hne : Text.decimal n ≠ [] := Nat.toDigits_ne_nil
  have hplus : ∀ c rest, Text.decimal n ≠ '+' :: c :: rest := by
    intro c rest heq
    have hhead := hdigit '+' (heq ▸ List.mem_cons_self)
    exact absurd hhead (by decide)
  have hany : (Text.decimal n).any (fun c => !c.isDigit) = false := by
    rw [List.any_eq_false]
    intro c hc
    simp [hdigit c hc]
  unfold parseU16
  extract_lets digits value
  have hdigits : digits = Text.decimal n := by
    unfold digits
    split
    · rename_i c rest heq
      exact absurd heq (hplus c rest)
    · rfl
  have hvalue : value = n := by
    unfold value
    rw [hdigits]
    exact Nat.ofDigitChars_ten_toDigits
  have hdecimal : ¬ (digits = [] ∨ digits.any (fun c => !c.isDigit) = true) := by
    rw [hdigits, hany]
    simp [hne]
  rw [if_neg hdecimal, hvalue, if_pos h]

/-! ## The grammar -/

/-- A bracketed literal that is not empty, or a name without colon and closing bracket. -/
def IsHost (host : Str) : Prop :=
  host.head? = some '[' ∧ host.getLast? = some ']' ∧ host ≠ text "[]" ∨
    host ≠ [] ∧ ':' ∉ host ∧ ']' ∉ host

theorem IsHost.ne {host : Str} (h : IsHost host) : host ≠ [] ∧ host ≠ text "[]" := by
  rcases h with ⟨hhead, _, hbrackets⟩ | ⟨hne, _, hclose⟩
  · refine ⟨?_, hbrackets⟩
    rintro rfl
    exact absurd hhead (by decide)
  · refine ⟨hne, ?_⟩
    rintro rfl
    exact hclose (by decide)

theorem isHost_asciiLower {host : Str} : IsHost (Text.asciiLower host) ↔ IsHost host := by
  have hmap : ∀ (o : Option Char) {d : Char}, d.isAlpha = false →
      (o.map Char.toLower = some d ↔ o = some d) := by
    intro o d hd
    cases o with
    | none => simp
    | some c => rw [Option.map_some, Option.some_inj, Text.toLower_eq_iff hd, Option.some_inj]
  have hbrackets : Text.asciiLower host = text "[]" ↔ host = text "[]" := by
    constructor
    · intro h
      obtain ⟨c, cs, rfl, hc, hcs⟩ := List.map_eq_cons_iff.mp h
      obtain ⟨d, ds, rfl, hd, hds⟩ := List.map_eq_cons_iff.mp hcs
      rw [(Text.toLower_eq_iff (by decide)).mp hc, (Text.toLower_eq_iff (by decide)).mp hd,
        List.map_eq_nil_iff.mp hds]
      rfl
    · rintro rfl
      decide
  have hnil : Text.asciiLower host = [] ↔ host = [] := List.map_eq_nil_iff
  have hhead : (Text.asciiLower host).head? = some '[' ↔ host.head? = some '[' := by
    rw [Text.asciiLower, List.head?_map, hmap _ (by decide)]
  have hlast : (Text.asciiLower host).getLast? = some ']' ↔ host.getLast? = some ']' := by
    rw [Text.asciiLower, List.getLast?_map, hmap _ (by decide)]
  rw [IsHost, hhead, hlast, ne_eq, ne_eq, hbrackets, hnil, Text.mem_asciiLower_iff (by decide),
    Text.mem_asciiLower_iff (by decide), IsHost]

/-- A target URI, taken apart: the user information before `@`, the port after a colon, and what
follows the authority. -/
structure Target where
  scheme : Str
  userinfo : Option Str
  host : Str
  port : Option Str
  tail : Str

namespace Target

def userinfoText (t : Target) : Str := (t.userinfo.map (· ++ ['@'])).getD []

def hostPort (t : Target) : Str := t.host ++ (t.port.map (':' :: ·)).getD []

def rest (t : Target) : Str := t.userinfoText ++ t.hostPort ++ t.tail

/-- The URI itself. -/
def uri (t : Target) : Str := t.scheme ++ text "://" ++ t.rest

/-- The port of the scheme. -/
def schemePort (t : Target) : Nat := if Text.asciiLower t.scheme = text "http" then 80 else 443

/-- The explicit port, else the one of the scheme. -/
def effectivePort (t : Target) : Nat := (t.port.bind parseU16).getD t.schemePort

structure WellFormed (t : Target) : Prop where
  scheme : Text.asciiLower t.scheme = text "http" ∨ Text.asciiLower t.scheme = text "https"
  userinfo : ∀ u ∈ t.userinfo, ∀ c ∈ text "/?#", c ∉ u
  host : IsHost t.host
  plain : ∀ c ∈ text "/?#@", c ∉ t.host
  port : ∀ p ∈ t.port, (parseU16 p).isSome
  tail : ∀ c ∈ t.tail.head?, c ∈ text "/?#"

/-- The lowercased host, with the effective port where the scheme has another one. -/
def authority (t : Target) : Str :=
  if t.effectivePort = t.schemePort then Text.asciiLower t.host
  else Text.asciiLower t.host ++ ':' :: Text.decimal t.effectivePort

/-- The URI of the authority alone. -/
def normal (t : Target) : Target where
  scheme := t.scheme
  userinfo := none
  host := Text.asciiLower t.host
  port := if t.effectivePort = t.schemePort then none else some (Text.decimal t.effectivePort)
  tail := []

end Target

/-! ## Reading a well-formed URI -/

theorem delimiter_spec {c : Char} (h : c ∈ text "/?#@") :
    c.isAlpha = false ∧ c.isDigit = false ∧ c ≠ ':' ∧ c ≠ '+' := by
  have hcases : c = '/' ∨ c = '?' ∨ c = '#' ∨ c = '@' := by simpa [text] using h
  rcases hcases with rfl | rfl | rfl | rfl
  · decide
  · decide
  · decide
  · decide

theorem notEnd_iff {c : Char} :
    (!(decide (c = '/') || decide (c = '?') || decide (c = '#'))) = true ↔ c ∉ text "/?#" := by
  simp [text, and_assoc]

namespace Target

variable {t u : Target}

theorem WellFormed.colon_not_mem_scheme (h : t.WellFormed) : ':' ∉ t.scheme := by
  intro hmem
  have hlower := (Text.mem_asciiLower_iff (by decide)).mpr hmem
  rcases h.scheme with hs | hs
  · rw [hs] at hlower
    exact absurd hlower (by decide)
  · rw [hs] at hlower
    exact absurd hlower (by decide)

theorem WellFormed.splitOnce_uri (h : t.WellFormed) :
    Text.splitOnce (text "://") t.uri = some (t.scheme, t.rest) :=
  Text.splitOnce_append_of_not_mem h.colon_not_mem_scheme

theorem WellFormed.defaultPort (h : t.WellFormed) :
    defaultPort (Text.asciiLower t.scheme) = .ok t.schemePort := by
  unfold HttpSig.defaultPort schemePort
  rcases h.scheme with hs | hs
  · rw [hs, if_pos rfl, if_pos rfl]
    rfl
  · rw [hs, if_neg (by decide), if_pos rfl, if_neg (by decide)]
    rfl

theorem WellFormed.mem_portText (h : t.WellFormed) {c : Char}
    (hc : c ∈ (t.port.map (':' :: ·)).getD []) : c = ':' ∨ c = '+' ∨ c.isDigit = true := by
  cases hport : t.port with
  | none =>
      rw [hport] at hc
      exact absurd hc List.not_mem_nil
  | some p =>
      rw [hport] at hc
      obtain ⟨n, hn⟩ := Option.isSome_iff_exists.mp (h.port p hport)
      rcases List.mem_cons.mp hc with rfl | hc
      · exact .inl rfl
      · exact .inr (mem_of_parseU16 hn hc)

theorem WellFormed.not_mem_portText (h : t.WellFormed) {c : Char} (hcolon : c ≠ ':')
    (hplus : c ≠ '+') (hdigit : c.isDigit = false) : c ∉ (t.port.map (':' :: ·)).getD [] := by
  intro hc
  rcases h.mem_portText hc with rfl | rfl | hd
  · exact hcolon rfl
  · exact hplus rfl
  · exact absurd (hdigit ▸ hd) Bool.false_ne_true

theorem WellFormed.not_mem_hostPort (h : t.WellFormed) {c : Char} (hc : c ∈ text "/?#@") :
    c ∉ t.hostPort := by
  obtain ⟨_, hdigit, hcolon, hplus⟩ := delimiter_spec hc
  rw [hostPort, List.mem_append, not_or]
  exact ⟨h.plain c hc, h.not_mem_portText hcolon hplus hdigit⟩

theorem WellFormed.not_mem_userinfoText (h : t.WellFormed) {c : Char} (hc : c ∈ text "/?#") :
    c ∉ t.userinfoText := by
  unfold userinfoText
  cases huser : t.userinfo with
  | none => exact List.not_mem_nil
  | some u =>
      have hat : '@' ∉ text "/?#" := by decide
      rw [Option.map_some, Option.getD_some, List.mem_append, List.mem_singleton, not_or]
      exact ⟨h.userinfo u huser c hc, fun heq => hat (heq ▸ hc)⟩

/-- The scan stops at the end of the authority. -/
theorem WellFormed.takeWhile_rest (h : t.WellFormed) :
    t.rest.takeWhile (fun c => !(c = '/' || c = '?' || c = '#')) =
      t.userinfoText ++ t.hostPort := by
  have hsub : text "/?#" ⊆ text "/?#@" := by decide
  have hall : ∀ c ∈ t.userinfoText ++ t.hostPort,
      (!(decide (c = '/') || decide (c = '?') || decide (c = '#'))) = true := by
    intro c hc
    rw [notEnd_iff]
    intro hend
    rcases List.mem_append.mp hc with hc | hc
    · exact h.not_mem_userinfoText hend hc
    · exact h.not_mem_hostPort (hsub hend) hc
  rw [rest, List.takeWhile_append_of_pos hall]
  cases htail : t.tail with
  | nil => exact List.append_nil _
  | cons c tail =>
      have hend := h.tail c (htail ▸ rfl)
      have hstop :
          ¬ (!(decide (c = '/') || decide (c = '?') || decide (c = '#'))) = true := fun h =>
        notEnd_iff.mp h hend
      rw [List.takeWhile_cons, if_neg hstop, List.append_nil]

theorem WellFormed.hostPortText_rest (h : t.WellFormed) : hostPortText t.rest = t.hostPort := by
  have hat : '@' ∉ t.hostPort := h.not_mem_hostPort (by decide)
  rw [hostPortText, h.takeWhile_rest, userinfoText]
  cases t.userinfo with
  | none => exact Text.lastSegment_of_not_mem hat
  | some u =>
      rw [Option.map_some, Option.getD_some, List.append_assoc]
      exact Text.lastSegment_append_cons hat

theorem WellFormed.splitHostPort_hostPort (h : t.WellFormed) (uri : Str) :
    splitHostPort uri t.hostPort = .ok (t.host, t.port) := by
  have hbracket : ']' ∉ (t.port.map (':' :: ·)).getD [] :=
    h.not_mem_portText (by decide) (by decide) (by decide)
  unfold splitHostPort hostPort
  rcases h.host with ⟨hhead, hlast, _⟩ | ⟨_, hcolon, hclose⟩
  · obtain ⟨before, hbefore⟩ := List.getLast?_eq_some_iff.mp hlast
    have hsplit : Text.rsplitOnceChar ']' (t.host ++ (t.port.map (':' :: ·)).getD []) =
        some (before, (t.port.map (':' :: ·)).getD []) := by
      rw [Text.rsplitOnceChar_eq_some, hbefore, List.append_assoc]
      exact ⟨rfl, hbracket⟩
    have hopens : (t.host ++ (t.port.map (':' :: ·)).getD []).head? = some '[' := by
      rw [List.head?_append, hhead]
      rfl
    rw [hsplit]
    dsimp only
    rw [if_pos hopens, ← hbefore]
    cases t.port with
    | none => rfl
    | some p => rfl
  · have hsplit : Text.rsplitOnceChar ']' (t.host ++ (t.port.map (':' :: ·)).getD []) = none := by
      rw [Text.rsplitOnceChar_eq_none, List.mem_append, not_or]
      exact ⟨hclose, hbracket⟩
    rw [hsplit]
    cases t.port with
    | none =>
        rw [Option.map_none, Option.getD_none, List.append_nil,
          Text.splitOnceChar_eq_none.mpr hcolon]
        rfl
    | some p =>
        rw [Option.map_some, Option.getD_some, Text.splitOnceChar_eq_some.mpr ⟨rfl, hcolon⟩]
        rfl

/-- What the function gives for a URI of the grammar. -/
theorem WellFormed.authorityFromUri_uri (h : t.WellFormed) :
    authorityFromUri t.uri = .ok t.authority := by
  have hlower : Text.asciiLower t.host ≠ [] ∧ Text.asciiLower t.host ≠ text "[]" :=
    IsHost.ne (isHost_asciiLower.mpr h.host)
  have hne : t.hostPort ≠ [] := by
    intro hnil
    rw [hostPort, List.append_eq_nil_iff] at hnil
    exact (IsHost.ne h.host).1 hnil.1
  unfold authorityFromUri
  refine bind_eq_ok.mpr ⟨(t.scheme, t.rest), okOr_eq_ok.mpr h.splitOnce_uri, ?_⟩
  refine bind_eq_ok.mpr ⟨t.schemePort, h.defaultPort, ?_⟩
  refine bind_eq_ok.mpr ⟨(), ensure_eq_ok.mpr (h.hostPortText_rest ▸ hne), ?_⟩
  refine bind_eq_ok.mpr ⟨(t.host, t.port), ?_, bind_eq_ok.mpr ⟨(), ensure_eq_ok.mpr hlower, ?_⟩⟩
  · rw [h.hostPortText_rest, h.splitHostPort_hostPort]
  · rw [authority, effectivePort]
    cases hport : t.port with
    | none =>
        rw [Option.bind_none, Option.getD_none, if_pos rfl]
        rfl
    | some p =>
        obtain ⟨n, hn⟩ := Option.isSome_iff_exists.mp (h.port p hport)
        rw [Option.bind_some, hn, Option.getD_some]
        refine bind_eq_ok.mpr ⟨n, okOr_eq_ok.mpr hn, ?_⟩
        split_ifs
        · rfl
        · rfl

theorem WellFormed.effectivePort_lt (h : t.WellFormed) : t.effectivePort < 65536 := by
  unfold effectivePort
  cases hport : t.port with
  | none =>
      rw [Option.bind_none, Option.getD_none, schemePort]
      split_ifs <;> omega
  | some p =>
      obtain ⟨n, hn⟩ := Option.isSome_iff_exists.mp (h.port p hport)
      rw [Option.bind_some, hn, Option.getD_some]
      exact parseU16_lt hn

/-! ## Each URI has one reading -/

theorem hostPort_injective (ht : t.WellFormed) (hu : u.WellFormed) (h : t.hostPort = u.hostPort) :
    t.host = u.host ∧ t.port = u.port := by
  have hsplit := ht.splitHostPort_hostPort []
  rw [h, hu.splitHostPort_hostPort []] at hsplit
  exact Prod.mk.inj (Except.ok.inj hsplit.symm)

theorem userinfo_eq_of_text (h : t.userinfoText = u.userinfoText) : t.userinfo = u.userinfo := by
  unfold userinfoText at h
  cases ht : t.userinfo with
  | none =>
      cases hu : u.userinfo with
      | none => rfl
      | some b => simp [ht, hu] at h
  | some a =>
      cases hu : u.userinfo with
      | none => simp [ht, hu] at h
      | some b => simpa [ht, hu] using h

theorem uri_injective (ht : t.WellFormed) (hu : u.WellFormed) (h : t.uri = u.uri) : t = u := by
  have hsplit := ht.splitOnce_uri
  rw [h, hu.splitOnce_uri] at hsplit
  obtain ⟨hscheme, hrest⟩ := Prod.mk.inj (Option.some.inj hsplit.symm)
  have hbefore : t.userinfoText ++ t.hostPort = u.userinfoText ++ u.hostPort := by
    rw [← ht.takeWhile_rest, hrest, hu.takeWhile_rest]
  have hhostPort : t.hostPort = u.hostPort := by
    rw [← ht.hostPortText_rest, hrest, hu.hostPortText_rest]
  have huser : t.userinfoText = u.userinfoText := by
    rw [hhostPort] at hbefore
    exact List.append_cancel_right hbefore
  have htail : t.tail = u.tail := by
    rw [rest, rest, hbefore] at hrest
    exact List.append_cancel_left hrest
  obtain ⟨hhost, hport⟩ := hostPort_injective ht hu hhostPort
  have huserinfo := userinfo_eq_of_text huser
  cases t
  cases u
  simp only at hscheme huserinfo hhost hport htail
  rw [hscheme, huserinfo, hhost, hport, htail]

/-! ## The normal form -/

theorem normal_hostPort (t : Target) : t.normal.hostPort = t.authority := by
  unfold hostPort normal authority
  split_ifs
  · exact List.append_nil _
  · rfl

theorem normal_uri (t : Target) : t.normal.uri = t.scheme ++ text "://" ++ t.authority := by
  rw [uri, rest, normal_hostPort]
  exact congrArg _ (List.append_nil _)

theorem WellFormed.normal (h : t.WellFormed) : t.normal.WellFormed where
  scheme := h.scheme
  userinfo := nofun
  host := isHost_asciiLower.mpr h.host
  plain := by
    intro c hc hmem
    exact h.plain c hc ((Text.mem_asciiLower_iff (delimiter_spec hc).1).mp hmem)
  port := by
    intro p hp
    change (if t.effectivePort = t.schemePort then none else _) = some p at hp
    split_ifs at hp
    rw [← Option.some.inj hp, parseU16_decimal h.effectivePort_lt]
    rfl
  tail := nofun

theorem WellFormed.normal_effectivePort (h : t.WellFormed) :
    t.normal.effectivePort = t.effectivePort := by
  have hnormal : t.normal.effectivePort = ((if t.effectivePort = t.schemePort then none
      else some (Text.decimal t.effectivePort)).bind parseU16).getD t.schemePort := rfl
  rw [hnormal]
  split_ifs with hport
  · exact hport.symm
  · rw [Option.bind_some, parseU16_decimal h.effectivePort_lt]
    rfl

theorem WellFormed.normal_authority (h : t.WellFormed) : t.normal.authority = t.authority := by
  unfold authority
  rw [h.normal_effectivePort]
  change (if t.effectivePort = t.schemePort then Text.asciiLower (Text.asciiLower t.host)
    else Text.asciiLower (Text.asciiLower t.host) ++ _) = _
  rw [Text.asciiLower_asciiLower]

theorem WellFormed.withHost (h : t.WellFormed) {host : Str}
    (hhost : Text.asciiLower host = Text.asciiLower t.host) :
    Target.WellFormed { t with host := host } where
  scheme := h.scheme
  userinfo := h.userinfo
  host := isHost_asciiLower.mp (hhost ▸ isHost_asciiLower.mpr h.host)
  plain := by
    intro c hc hmem
    have hletter := (delimiter_spec hc).1
    have hlower := (Text.mem_asciiLower_iff hletter).mpr hmem
    rw [hhost] at hlower
    exact h.plain c hc ((Text.mem_asciiLower_iff hletter).mp hlower)
  port := h.port
  tail := h.tail

theorem schemePort_congr (h : Text.asciiLower t.scheme = Text.asciiLower u.scheme) :
    t.schemePort = u.schemePort := by
  rw [schemePort, h, ← schemePort]

/-- Two URIs have one authority exactly when they name one host and one port. -/
theorem authority_eq_iff (ht : t.WellFormed) (hu : u.WellFormed)
    (hscheme : Text.asciiLower t.scheme = Text.asciiLower u.scheme) :
    t.authority = u.authority ↔
      Text.asciiLower t.host = Text.asciiLower u.host ∧ t.effectivePort = u.effectivePort := by
  have hdefault := schemePort_congr hscheme
  constructor
  · intro h
    rw [← normal_hostPort, ← normal_hostPort] at h
    obtain ⟨hhost, hport⟩ := hostPort_injective ht.normal hu.normal h
    have heffective : t.normal.effectivePort = u.normal.effectivePort := by
      rw [effectivePort, hport]
      exact congrArg _ hdefault
    rw [ht.normal_effectivePort, hu.normal_effectivePort] at heffective
    exact ⟨hhost, heffective⟩
  · rintro ⟨hhost, hport⟩
    rw [authority, authority, hhost, hport, hdefault]

end Target

/-! ## What is accepted -/

theorem hostPortText_eq (rest : Str) :
    ∃ userinfo : Option Str, rest.takeWhile (fun c => !(c = '/' || c = '?' || c = '#')) =
      (userinfo.map (· ++ ['@'])).getD [] ++ hostPortText rest ∧ '@' ∉ hostPortText rest := by
  unfold hostPortText Text.lastSegment
  split
  · rename_i left right hsplit
    obtain ⟨heq, hat⟩ := Text.rsplitOnceChar_eq_some.mp hsplit
    exact ⟨some left, by simpa using heq, hat⟩
  · rename_i hnone
    exact ⟨none, rfl, Text.rsplitOnceChar_eq_none.mp hnone⟩

theorem isHost_of_splitHostPort {uri authority host : Str} {port : Option Str}
    (h : splitHostPort uri authority = .ok (host, port)) (hne : host ≠ [])
    (hbr : host ≠ text "[]") :
    IsHost host := by
  unfold splitHostPort at h
  split at h
  · rename_i before tail hsplit
    obtain ⟨heq, _⟩ := Text.rsplitOnceChar_eq_some.mp hsplit
    split_ifs at h with hopens
    have hhead : (before ++ [']']).head? = some '[' := by
      cases before with
      | nil =>
          rw [heq] at hopens
          exact absurd (Option.some.inj hopens) (by decide)
      | cons c before =>
          rw [heq] at hopens
          exact hopens
    have hhost : host = before ++ [']'] := by
      split at h
      · exact (Prod.mk.inj (Except.ok.inj h)).1.symm
      · exact (Prod.mk.inj (Except.ok.inj h)).1.symm
      · cases h
    exact .inl ⟨hhost ▸ hhead, hhost ▸ List.getLast?_concat, hbr⟩
  · rename_i hclose
    rw [Text.rsplitOnceChar_eq_none] at hclose
    split at h
    · rename_i left right hsplit
      obtain ⟨rfl, rfl⟩ := Prod.mk.inj (Except.ok.inj h)
      obtain ⟨heq, hcolon⟩ := Text.splitOnceChar_eq_some.mp hsplit
      rw [heq, List.mem_append, not_or] at hclose
      exact .inr ⟨hne, hcolon, hclose.1⟩
    · rename_i hnone
      obtain ⟨rfl, rfl⟩ := Prod.mk.inj (Except.ok.inj h)
      exact .inr ⟨hne, Text.splitOnceChar_eq_none.mp hnone, hclose⟩

/-- An accepted URI is one of the grammar. -/
theorem exists_target {uri authority : Str} (h : authorityFromUri uri = .ok authority) :
    ∃ t : Target, t.WellFormed ∧ t.uri = uri := by
  obtain ⟨⟨scheme, rest⟩, hsplit, h⟩ := bind_eq_ok.mp h
  obtain ⟨port₀, hscheme, h⟩ := bind_eq_ok.mp h
  obtain ⟨_, _, h⟩ := bind_eq_ok.mp h
  obtain ⟨⟨host, port⟩, hhost, h⟩ := bind_eq_ok.mp h
  obtain ⟨_, hnamed, h⟩ := bind_eq_ok.mp h
  obtain ⟨userinfo, hbefore, hat⟩ := hostPortText_eq rest
  have hplain : ∀ c ∈ text "/?#", c ∉ (userinfo.map (· ++ ['@'])).getD [] ++ hostPortText rest := by
    intro c hc hmem
    rw [← hbefore] at hmem
    have hin := List.mem_takeWhile_imp hmem
    exact notEnd_iff.mp hin hc
  have hsub : host ⊆ hostPortText rest := by
    rw [splitHostPort_eq_append hhost]
    exact List.subset_append_left _ _
  have hends : ∀ c ∈ (rest.dropWhile fun c => !(c = '/' || c = '?' || c = '#')).head?,
      c ∈ text "/?#" := by
    intro c hc
    have hstop := List.head?_dropWhile_not (fun c => !(c = '/' || c = '?' || c = '#')) rest
    rw [Option.mem_def.mp hc] at hstop
    by_contra hin
    exact absurd ((notEnd_iff.mpr hin).symm.trans hstop) (by decide)
  have hshape : IsHost host := by
    obtain ⟨hne, hbrackets⟩ := ensure_eq_ok.mp hnamed
    apply isHost_of_splitHostPort hhost
    · rintro rfl
      exact hne rfl
    · rintro rfl
      exact hbrackets (by decide)
  refine ⟨⟨scheme, userinfo, host, port,
    rest.dropWhile fun c => !(c = '/' || c = '?' || c = '#')⟩, ?_, ?_⟩
  · exact {
      scheme := by
        unfold defaultPort at hscheme
        split_ifs at hscheme with hhttp hhttps
        · exact .inl hhttp
        · exact .inr hhttps
      userinfo := by
        intro u hu c hc hmem
        obtain rfl : userinfo = some u := hu
        exact hplain c hc (List.mem_append_left _ (List.mem_append_left _ hmem))
      host := hshape
      plain := by
        intro c hc hmem
        have hcases : c ∈ text "/?#" ∨ c = '@' := by simpa [text, or_assoc] using hc
        rcases hcases with hc | rfl
        · exact hplain c hc (List.mem_append_right _ (hsub hmem))
        · exact hat (hsub hmem)
      port := by
        intro p hp
        obtain rfl : port = some p := hp
        obtain ⟨n, hn, _⟩ := bind_eq_ok.mp h
        exact Option.isSome_iff_exists.mpr ⟨n, okOr_eq_ok.mp hn⟩
      tail := hends }
  · rw [Text.splitOnce_eq_append (okOr_eq_ok.mp hsplit), Target.uri, Target.rest, Target.hostPort,
      ← splitHostPort_eq_append hhost, Target.userinfoText, ← hbefore]
    exact congrArg _ List.takeWhile_append_dropWhile

/-! ## The normal form -/

/-- The authority of a target URI as a normal form.  The URIs with an authority are those of the
grammar, each of one reading, so that the host and the effective port of a URI are well defined. -/
structure NormalForm (authorityOf : Str → Except HttpSigError Str) : Prop where
  accepts_iff : ∀ uri, (∃ authority, authorityOf uri = .ok authority) ↔
    ∃ t : Target, t.WellFormed ∧ t.uri = uri
  unique : ∀ t u : Target, t.WellFormed → u.WellFormed → t.uri = u.uri → t = u
  eq_iff : ∀ t u : Target, t.WellFormed → u.WellFormed →
    Text.asciiLower t.scheme = Text.asciiLower u.scheme →
    (authorityOf t.uri = authorityOf u.uri ↔
      Text.asciiLower t.host = Text.asciiLower u.host ∧ t.effectivePort = u.effectivePort)
  scheme_case : ∀ t : Target, t.WellFormed → ∀ scheme,
    Text.asciiLower scheme = Text.asciiLower t.scheme →
    authorityOf { t with scheme := scheme }.uri = authorityOf t.uri
  host_case : ∀ t : Target, t.WellFormed → ∀ host,
    Text.asciiLower host = Text.asciiLower t.host →
    authorityOf { t with host := host }.uri = authorityOf t.uri
  userinfo : ∀ t : Target, t.WellFormed → ∀ userinfo : Option Str,
    (∀ u ∈ userinfo, ∀ c ∈ text "/?#", c ∉ u) →
    authorityOf { t with userinfo := userinfo }.uri = authorityOf t.uri
  tail : ∀ t : Target, t.WellFormed → ∀ tail : Str,
    (∀ c ∈ tail.head?, c ∈ text "/?#") →
    authorityOf { t with tail := tail }.uri = authorityOf t.uri
  default_port : ∀ t : Target, t.WellFormed → t.effectivePort = t.schemePort →
    ∀ port : Option Str, (∀ p ∈ port, parseU16 p = some t.schemePort) →
    authorityOf { t with port := port }.uri = authorityOf t.uri
  idempotent : ∀ t : Target, t.WellFormed → ∀ authority, authorityOf t.uri = .ok authority →
    authorityOf (t.scheme ++ text "://" ++ authority) = .ok authority

section

variable {t u : Target}

/-- Respelling keeps the authority when the scheme, the host and the port stay what they are. -/
theorem authorityFromUri_respelled (ht : t.WellFormed) (hu : u.WellFormed)
    (hscheme : Text.asciiLower u.scheme = Text.asciiLower t.scheme)
    (hhost : Text.asciiLower u.host = Text.asciiLower t.host)
    (hport : u.effectivePort = t.effectivePort) :
    authorityFromUri u.uri = authorityFromUri t.uri := by
  rw [hu.authorityFromUri_uri, ht.authorityFromUri_uri,
    (Target.authority_eq_iff hu ht hscheme).mpr ⟨hhost, hport⟩]

end

/-- `authority_from_uri` is a normal form. -/
theorem authorityFromUri_normalForm : NormalForm authorityFromUri where
  accepts_iff uri := by
    constructor
    · rintro ⟨authority, h⟩
      exact exists_target h
    · rintro ⟨t, ht, rfl⟩
      exact ⟨t.authority, ht.authorityFromUri_uri⟩
  unique _ _ := Target.uri_injective
  eq_iff t u ht hu hscheme := by
    rw [ht.authorityFromUri_uri, hu.authorityFromUri_uri, Except.ok.injEq]
    exact Target.authority_eq_iff ht hu hscheme
  scheme_case t ht scheme hscheme := by
    have hwf : Target.WellFormed { t with scheme := scheme } :=
      { ht with scheme := hscheme ▸ ht.scheme }
    have hport : Target.schemePort { t with scheme := scheme } = t.schemePort :=
      Target.schemePort_congr hscheme
    refine authorityFromUri_respelled ht hwf hscheme rfl ?_
    rw [Target.effectivePort, hport, Target.effectivePort]
  host_case t ht host hhost := by
    exact authorityFromUri_respelled ht (ht.withHost hhost) rfl hhost rfl
  userinfo t ht userinfo huser := by
    have hwf : Target.WellFormed { t with userinfo := userinfo } := { ht with userinfo := huser }
    exact authorityFromUri_respelled ht hwf rfl rfl rfl
  tail t ht tail htail := by
    have hwf : Target.WellFormed { t with tail := tail } := { ht with tail := htail }
    exact authorityFromUri_respelled ht hwf rfl rfl rfl
  default_port t ht hdefault port hport := by
    have hwf : Target.WellFormed { t with port := port } :=
      { ht with port := fun p hp => Option.isSome_of_eq_some (hport p hp) }
    refine authorityFromUri_respelled ht hwf rfl rfl ?_
    rw [hdefault, Target.effectivePort]
    cases port with
    | none => rfl
    | some p => rw [Option.bind_some, hport p rfl, Option.getD_some]
  idempotent t ht authority h := by
    rw [ht.authorityFromUri_uri] at h
    rw [← Except.ok.inj h, ← Target.normal_uri, ht.normal.authorityFromUri_uri, ht.normal_authority]

example : authorityFromUri (text "HTTPS://user@Node.Example:+0443/v1?q#f") =
    .ok (text "node.example") := by decide +kernel

end HttpSig

end AquaAuth
