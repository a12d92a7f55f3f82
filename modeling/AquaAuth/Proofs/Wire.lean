import AquaAuth.Model.Wire
set_option autoImplicit false
/-!
# What the wire types read

A body is read by the names of its members: whatever their order and whatever else is there, each
field must be there once and have its type, and only the public key may be absent.  So what one
side writes the other one reads, and a member that a newer side adds is no obstacle.
-/

namespace AquaAuth

open Support Support.Serde

/-! ## Fields -/

section

variable {names : List Str} {members known : List (Str × Value)} {name : Str}

theorem length_named (name : Str) (members : List (Str × Value)) :
    (Value.named name members).length = (members.map Prod.fst).count name := by
  rw [Value.named, List.length_map, List.count_eq_countP, List.countP_map,
    List.countP_eq_length_filter]
  congr 2
  funext member
  exact (beq_eq_decide _ _).symm

/-- No known field is there twice. -/
theorem structMembers_object_isSome :
    (Value.structMembers names (.object members)).isSome ↔
      ∀ name ∈ names, (Value.named name members).length ≤ 1 := by
  have hcount : ∀ name ∈ names, ((members.filter fun member => member.1 ∈ names).map
      Prod.fst).count name = (members.map Prod.fst).count name := by
    intro name hname
    rw [← length_named, ← length_named, Value.named, Value.named, List.filter_filter]
    congr 2
    apply List.filter_congr
    intro member _
    by_cases heq : member.1 = name <;> simp [heq, hname]
  rw [Value.structMembers]
  split_ifs with hnodup
  · simp only [Option.isSome_some, true_iff]
    intro name hname
    rw [length_named, ← hcount name hname]
    exact List.nodup_iff_count_le_one.mp hnodup name
  · simp only [Option.isSome_none, Bool.false_eq_true, false_iff]
    intro hall
    apply hnodup
    rw [List.nodup_iff_count_le_one]
    intro name
    by_cases hname : name ∈ names
    · rw [hcount name hname, ← length_named]
      exact hall name hname
    · rw [List.count_eq_zero_of_not_mem]
      · exact Nat.zero_le 1
      · intro hmem
        obtain ⟨member, hmember, rfl⟩ := List.mem_map.mp hmem
        exact hname (of_decide_eq_true (List.mem_filter.mp hmember).2)

/-- A lookup among the fields is a lookup among all members. -/
theorem lookup_structMembers (h : Value.structMembers names (.object members) = some known)
    (hname : name ∈ names) : known.lookup name = (Value.named name members).head? := by
  rw [Value.named_of_structMembers h hname]
  cases known.lookup name <;> rfl

end

/-- The member with a name, there once, as a value of its type. -/
def OnceAs {α : Type} (read : Value → Option α) (name : Str) (members : List (Str × Value))
    (a : α) : Prop :=
  ∃ value, Value.named name members = [value] ∧ read value = some a

section

variable {α : Type} {read : Value → Option α} {names : List Str} {name : Str}
  {members known : List (Str × Value)} {a : α}

theorem OnceAs.length_le (h : OnceAs read name members a) :
    (Value.named name members).length ≤ 1 := by
  obtain ⟨value, hvalue, _⟩ := h
  rw [hvalue, List.length_singleton]

/-- Among members without repetition a field is read where it is there. -/
theorem lookup_bind_eq_some (h : Value.structMembers names (.object members) = some known)
    (hname : name ∈ names) :
    (known.lookup name >>= read) = some a ↔ OnceAs read name members a := by
  have hlength := structMembers_object_isSome.mp (by rw [h, Option.isSome_some]) name hname
  rw [lookup_structMembers h hname]
  unfold OnceAs
  match Value.named name members, hlength with
  | [], _ => simp
  | [value], _ => simp
  | first :: second :: rest, hlength => simp at hlength

/-- What a struct reads from an object, when that depends on members there at most once. -/
theorem structMembers_bind_eq_some {f : List (Str × Value) → Option α} {P : Prop}
    (hlength : P → ∀ name ∈ names, (Value.named name members).length ≤ 1)
    (hread : ∀ known, Value.structMembers names (.object members) = some known →
      (f known = some a ↔ P)) :
    (Value.structMembers names (.object members) >>= f) = some a ↔ P := by
  cases hknown : Value.structMembers names (.object members) with
  | none =>
      simp only [Option.bind_eq_bind, Option.bind_none, reduceCtorEq, false_iff]
      intro hP
      have hsome := structMembers_object_isSome.mpr (hlength hP)
      rw [hknown] at hsome
      cases hsome
  | some known => exact hread known hknown

end

/-! ## The three bodies -/

/-- A challenge is read from its three members. -/
theorem ChallengeEnvelope.deserialize_eq_some {members : List (Str × Value)}
    {envelope : ChallengeEnvelope} :
    ChallengeEnvelope.deserialize (.object members) = some envelope ↔
      OnceAs Value.asStr (text "nonce") members envelope.nonce ∧
      OnceAs Value.asStr (text "message") members envelope.message ∧
      OnceAs Value.asU64 (text "expires_at") members envelope.expiresAt := by
  obtain ⟨nonce, message, expiresAt⟩ := envelope
  apply structMembers_bind_eq_some
  · rintro ⟨hnonce, hmessage, hexpires⟩
    simp only [fields, List.forall_mem_cons, List.not_mem_nil, false_imp_iff, implies_true,
      and_true]
    exact ⟨hnonce.length_le, hmessage.length_le, hexpires.length_le⟩
  · intro known hknown
    rw [← lookup_bind_eq_some hknown (by simp [fields]),
      ← lookup_bind_eq_some hknown (by simp [fields]),
      ← lookup_bind_eq_some hknown (by simp [fields])]
    cases known.lookup (text "nonce") >>= Value.asStr <;>
      cases known.lookup (text "message") >>= Value.asStr <;>
        cases known.lookup (text "expires_at") >>= Value.asU64 <;> simp

/-- The member of the public key: absent, `null` or a text. -/
def PublicKeyAs (members : List (Str × Value)) (publicKey : Option Str) : Prop :=
  Value.named (text "public_key") members = [] ∧ publicKey = none ∨
    OnceAs Value.asOptionStr (text "public_key") members publicKey

/-- A session request is read from three members and perhaps a fourth. -/
theorem SessionRequest.deserialize_eq_some {members : List (Str × Value)}
    {request : SessionRequest} :
    SessionRequest.deserialize (.object members) = some request ↔
      OnceAs Value.asStr (text "did") members request.did ∧
      OnceAs Value.asStr (text "nonce") members request.nonce ∧
      OnceAs Value.asStr (text "signature") members request.signature ∧
      PublicKeyAs members request.publicKey := by
  obtain ⟨did, nonce, signature, publicKey⟩ := request
  apply structMembers_bind_eq_some
  · rintro ⟨hdid, hnonce, hsignature, hkey⟩
    have hkey : (Value.named (text "public_key") members).length ≤ 1 := by
      rcases hkey with ⟨hnone, _⟩ | honce
      · simp [hnone]
      · exact honce.length_le
    simp only [fields, List.forall_mem_cons, List.not_mem_nil, false_imp_iff, implies_true,
      and_true]
    exact ⟨hdid.length_le, hnonce.length_le, hsignature.length_le, hkey⟩
  · intro known hknown
    have hkey : (known.lookup (text "public_key")).elim (some none) Value.asOptionStr =
        some publicKey ↔ PublicKeyAs members publicKey := by
      have hfield : text "public_key" ∈ fields := by simp [fields]
      rw [PublicKeyAs, ← lookup_bind_eq_some hknown hfield,
        Value.named_of_structMembers hknown hfield]
      cases known.lookup (text "public_key") with
      | none => simp [eq_comm]
      | some value => simp
    rw [← hkey]
    rw [← lookup_bind_eq_some hknown (by simp [fields]),
      ← lookup_bind_eq_some hknown (by simp [fields]),
      ← lookup_bind_eq_some hknown (by simp [fields])]
    cases known.lookup (text "did") >>= Value.asStr <;>
      cases known.lookup (text "nonce") >>= Value.asStr <;>
        cases known.lookup (text "signature") >>= Value.asStr <;> simp
    cases known.lookup (text "public_key") with
    | none => simp
    | some value => cases hvalue : value.asOptionStr <;> simp [hvalue]

/-- A session is read from its four members. -/
theorem SessionResponse.deserialize_eq_some {members : List (Str × Value)}
    {response : SessionResponse} :
    SessionResponse.deserialize (.object members) = some response ↔
      OnceAs Value.asStr (text "did") members response.did ∧
      OnceAs Value.asStr (text "token") members response.token ∧
      OnceAs Value.asU64 (text "valid_until") members response.validUntil ∧
      OnceAs Value.asU64 (text "created_at") members response.createdAt := by
  obtain ⟨did, token, validUntil, createdAt⟩ := response
  apply structMembers_bind_eq_some
  · rintro ⟨hdid, htoken, hvalid, hcreated⟩
    simp only [fields, List.forall_mem_cons, List.not_mem_nil, false_imp_iff, implies_true,
      and_true]
    exact ⟨hdid.length_le, htoken.length_le, hvalid.length_le, hcreated.length_le⟩
  · intro known hknown
    rw [← lookup_bind_eq_some hknown (by simp [fields]),
      ← lookup_bind_eq_some hknown (by simp [fields]),
      ← lookup_bind_eq_some hknown (by simp [fields]),
      ← lookup_bind_eq_some hknown (by simp [fields])]
    cases known.lookup (text "did") >>= Value.asStr <;>
      cases known.lookup (text "token") >>= Value.asStr <;>
        cases known.lookup (text "valid_until") >>= Value.asU64 <;>
          cases known.lookup (text "created_at") >>= Value.asU64 <;> simp

/-! ## From one side to the other -/

section

variable {α : Type} {read : Value → Option α} {name : Str} {members own extra : List (Str × Value)}
  {a : α}

/-- A member is found in any order and among any others. -/
theorem named_perm (hperm : members.Perm (own ++ extra))
    (hextra : ∀ member ∈ extra, member.1 ≠ name) :
    (Value.named name members).Perm (Value.named name own) := by
  have hnone : Value.named name extra = [] := by
    rw [Value.named, List.map_eq_nil_iff, List.filter_eq_nil_iff]
    intro member hmember
    simpa using hextra member hmember
  have hfiltered := (hperm.filter fun member => member.1 = name).map Prod.snd
  rw [List.filter_append, List.map_append] at hfiltered
  have happend : Value.named name own ++ Value.named name extra = Value.named name own := by
    rw [hnone, List.append_nil]
  exact happend ▸ hfiltered

theorem OnceAs.perm (h : OnceAs read name own a) (hperm : members.Perm (own ++ extra))
    (hextra : ∀ member ∈ extra, member.1 ≠ name) : OnceAs read name members a := by
  obtain ⟨value, hvalue, hread⟩ := h
  have hnamed := named_perm hperm hextra
  rw [hvalue, List.perm_singleton] at hnamed
  exact ⟨value, hnamed, hread⟩

end

theorem onceAs_str {name s : Str} {members : List (Str × Value)}
    (h : Value.named name members = [.string s]) : OnceAs Value.asStr name members s :=
  ⟨_, h, rfl⟩

theorem onceAs_u64 {name : Str} {members : List (Str × Value)} {n : Nat} (hn : n < 2 ^ 64)
    (h : Value.named name members = [.u64 n]) : OnceAs Value.asU64 name members n :=
  ⟨_, h, Value.asU64_u64 hn⟩

theorem ChallengeEnvelope.onceAs (envelope : ChallengeEnvelope) (h : envelope.expiresAt < 2 ^ 64) :
    ∃ own, envelope.serialize = .object own ∧
      OnceAs Value.asStr (text "nonce") own envelope.nonce ∧
      OnceAs Value.asStr (text "message") own envelope.message ∧
      OnceAs Value.asU64 (text "expires_at") own envelope.expiresAt :=
  ⟨_, rfl, onceAs_str (by simp [Value.named]), onceAs_str (by simp [Value.named]),
    onceAs_u64 h (by simp [Value.named])⟩

theorem SessionRequest.onceAs (request : SessionRequest) :
    ∃ own, request.serialize = .object own ∧
      OnceAs Value.asStr (text "did") own request.did ∧
      OnceAs Value.asStr (text "nonce") own request.nonce ∧
      OnceAs Value.asStr (text "signature") own request.signature ∧
      PublicKeyAs own request.publicKey := by
  obtain ⟨did, nonce, signature, publicKey⟩ := request
  refine ⟨_, rfl, onceAs_str ?_, onceAs_str ?_, onceAs_str ?_, ?_⟩
  · cases publicKey <;> simp [Value.named]
  · cases publicKey <;> simp [Value.named]
  · cases publicKey <;> simp [Value.named]
  · cases publicKey with
    | none => exact .inl ⟨by simp [Value.named], rfl⟩
    | some publicKey =>
        refine .inr ⟨.string publicKey, ?_, rfl⟩
        simp [Value.named]

theorem SessionResponse.onceAs (response : SessionResponse) (hvalid : response.validUntil < 2 ^ 64)
    (hcreated : response.createdAt < 2 ^ 64) :
    ∃ own, response.serialize = .object own ∧
      OnceAs Value.asStr (text "did") own response.did ∧
      OnceAs Value.asStr (text "token") own response.token ∧
      OnceAs Value.asU64 (text "valid_until") own response.validUntil ∧
      OnceAs Value.asU64 (text "created_at") own response.createdAt :=
  ⟨_, rfl, onceAs_str (by simp [Value.named]), onceAs_str (by simp [Value.named]),
    onceAs_u64 hvalid (by simp [Value.named]), onceAs_u64 hcreated (by simp [Value.named])⟩

/-- A body survives the way to the other side: as it is written, and with its members in any order
among members that are no fields. -/
structure Travels {α : Type} (J : Serde.Json) (fields : List Str) (serialize : α → Value)
    (deserialize : Value → Option α) (a : α) : Prop where
  readBack : J.read deserialize (J.toVec (serialize a)) = .ok a
  tolerated : ∀ own extra members, serialize a = .object own → members.Perm (own ++ extra) →
    (∀ member ∈ extra, member.1 ∉ fields) → deserialize (.object members) = some a

/-- What is read back from any order is read back from what was written. -/
theorem Travels.of_tolerated {α : Type} {J : Serde.Json} (hJ : J.Faithful) {fields : List Str}
    {serialize : α → Value} {deserialize : Value → Option α} {a : α}
    {own : List (Str × Value)} (hown : serialize a = .object own)
    (hplain : Value.Plain depthLimit (serialize a))
    (htolerated : ∀ extra members, members.Perm (own ++ extra) →
      (∀ member ∈ extra, member.1 ∉ fields) → deserialize (.object members) = some a) :
    Travels J fields serialize deserialize a where
  readBack := by
    apply hJ.read_toVec hplain
    rw [hown]
    apply htolerated [] own
    · rw [List.append_nil]
    · simp
  tolerated := by
    intro own' extra members hown' hperm hextra
    rw [hown] at hown'
    obtain rfl := Value.object.inj hown'
    exact htolerated extra members hperm hextra

theorem ChallengeEnvelope.travels {J : Serde.Json} (hJ : J.Faithful) (envelope : ChallengeEnvelope)
    (h : envelope.expiresAt < 2 ^ 64) :
    Travels J fields serialize deserialize envelope := by
  obtain ⟨own, hown, hnonce, hmessage, hexpires⟩ := envelope.onceAs h
  refine .of_tolerated hJ hown ?_ fun extra members hperm hextra => ?_
  · simp only [serialize, depthLimit, Value.Plain, List.forall_mem_cons, List.not_mem_nil,
      false_imp_iff, implies_true, and_true]
    exact ⟨trivial, trivial, _, h, rfl⟩
  · have hne : ∀ {name : Str}, name ∈ fields → ∀ member ∈ extra, member.1 ≠ name := by
      rintro name hname member hmember rfl
      exact hextra member hmember hname
    rw [deserialize_eq_some]
    exact ⟨hnonce.perm hperm (hne (by simp [fields])), hmessage.perm hperm (hne (by simp [fields])),
      hexpires.perm hperm (hne (by simp [fields]))⟩

theorem SessionRequest.travels {J : Serde.Json} (hJ : J.Faithful) (request : SessionRequest) :
    Travels J fields serialize deserialize request := by
  obtain ⟨own, hown, hdid, hnonce, hsignature, hkey⟩ := request.onceAs
  refine .of_tolerated hJ hown ?_ fun extra members hperm hextra => ?_
  · simp only [serialize, depthLimit, Value.Plain, List.forall_mem_append, List.forall_mem_cons,
      List.not_mem_nil, false_imp_iff, implies_true, and_true, true_and]
    cases request.publicKey <;> simp
  · have hne : ∀ {name : Str}, name ∈ fields → ∀ member ∈ extra, member.1 ≠ name := by
      rintro name hname member hmember rfl
      exact hextra member hmember hname
    rw [deserialize_eq_some]
    refine ⟨hdid.perm hperm (hne (by simp [fields])), hnonce.perm hperm (hne (by simp [fields])),
      hsignature.perm hperm (hne (by simp [fields])), ?_⟩
    rcases hkey with ⟨hnone, hkey⟩ | honce
    · have hextraKey : ∀ member ∈ extra, member.1 ≠ text "public_key" := hne (by simp [fields])
      have hnamed := named_perm hperm hextraKey
      rw [hnone] at hnamed
      exact .inl ⟨hnamed.eq_nil, hkey⟩
    · exact .inr (honce.perm hperm (hne (by simp [fields])))

theorem SessionResponse.travels {J : Serde.Json} (hJ : J.Faithful) (response : SessionResponse)
    (hvalid : response.validUntil < 2 ^ 64) (hcreated : response.createdAt < 2 ^ 64) :
    Travels J fields serialize deserialize response := by
  obtain ⟨own, hown, hdid, htoken, hvalid', hcreated'⟩ := response.onceAs hvalid hcreated
  refine .of_tolerated hJ hown ?_ fun extra members hperm hextra => ?_
  · simp only [serialize, depthLimit, Value.Plain, List.forall_mem_cons, List.not_mem_nil,
      false_imp_iff, implies_true, and_true]
    exact ⟨trivial, trivial, ⟨_, hvalid, rfl⟩, _, hcreated, rfl⟩
  · have hne : ∀ {name : Str}, name ∈ fields → ∀ member ∈ extra, member.1 ≠ name := by
      rintro name hname member hmember rfl
      exact hextra member hmember hname
    rw [deserialize_eq_some]
    exact ⟨hdid.perm hperm (hne (by simp [fields])), htoken.perm hperm (hne (by simp [fields])),
      hvalid'.perm hperm (hne (by simp [fields])), hcreated'.perm hperm (hne (by simp [fields]))⟩

/-- A type of the wire: its values travel, and a body that names a field twice is refused. -/
structure WireType {α : Type} (J : Serde.Json) (fields : List Str) (serialize : α → Value)
    (deserialize : Value → Option α) (representable : α → Prop) : Prop where
  travels : ∀ a, representable a → Travels J fields serialize deserialize a
  strict : ∀ members a, deserialize (.object members) = some a →
    ∀ name ∈ fields, (Value.named name members).length ≤ 1

/-- What either side of a login writes is what the other one reads, whatever the order of the
members and whatever members are added to them; a repeated field is refused. -/
theorem wire_compatible {J : Serde.Json} (hJ : J.Faithful) :
    WireType J ChallengeEnvelope.fields ChallengeEnvelope.serialize ChallengeEnvelope.deserialize
      (fun envelope => envelope.expiresAt < 2 ^ 64) ∧
    WireType J SessionRequest.fields SessionRequest.serialize SessionRequest.deserialize
      (fun _ => True) ∧
    WireType J SessionResponse.fields SessionResponse.serialize SessionResponse.deserialize
      (fun response => response.validUntil < 2 ^ 64 ∧ response.createdAt < 2 ^ 64) := by
  have hstrict : ∀ {names : List Str} {members : List (Str × Value)} {α : Type} {a : α}
      {f : List (Str × Value) → Option α},
      (Value.structMembers names (.object members) >>= f) = some a →
        ∀ name ∈ names, (Value.named name members).length ≤ 1 := by
    intro names members α a f h
    obtain ⟨known, hknown, _⟩ := Option.bind_eq_some_iff.mp h
    exact structMembers_object_isSome.mp (by rw [hknown, Option.isSome_some])
  refine ⟨⟨fun envelope h => envelope.travels hJ h, ?_⟩, ⟨fun request _ => request.travels hJ, ?_⟩,
    ⟨fun response h => response.travels hJ h.1 h.2, ?_⟩⟩
  · intro members envelope h
    exact hstrict h
  · intro members request h
    exact hstrict h
  · intro members response h
    exact hstrict h

/-- The types over a crate that writes and reads compact JSON. -/
theorem wire_compatible_compact :
    WireType .compactCrate ChallengeEnvelope.fields ChallengeEnvelope.serialize
        ChallengeEnvelope.deserialize (fun envelope => envelope.expiresAt < 2 ^ 64) ∧
      WireType .compactCrate SessionRequest.fields SessionRequest.serialize
        SessionRequest.deserialize (fun _ => True) ∧
      WireType .compactCrate SessionResponse.fields SessionResponse.serialize
        SessionResponse.deserialize
        (fun response => response.validUntil < 2 ^ 64 ∧ response.createdAt < 2 ^ 64) :=
  wire_compatible Serde.Json.compactCrate_faithful

end AquaAuth
