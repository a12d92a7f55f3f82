import AquaAuth.Support.Interleaving
import AquaAuth.Support.KeyedMap
import AquaAuth.Support.Service
import AquaAuth.Model.Message
set_option autoImplicit false
/-!
# The challenge store

`challenge.rs`: the store as one caller after another sees it, and its calls as the
sequences of their atomic accesses to the shared map.

A panic is an outcome of its own: an addition of `chrono` that leaves the calendar
panics, so `create` returns an optional result.
-/

namespace AquaAuth

open Support Support.Result

/-- A reading of `Utc::now()`, which fails before the epoch. -/
abbrev ClockReading := { t : DateTime // 0 ≤ t.timestamp }

/-- `timestamp() as u64` -/
def ClockReading.secs (reading : ClockReading) : Nat := reading.1.timestamp.toNat

/-- A signed number of seconds cast to an unsigned 64-bit number. -/
def asU64 (n : Int) : Nat := (n % 2 ^ 64).toNat

/-- `types::Challenge` -/
structure Challenge where
  did : Str
  nonce : Str
  message : Str
  expiresAt : Nat
  deriving DecidableEq

/-- `ChallengeStore` -/
structure ChallengeStore where
  challenges : KeyedMap Str Challenge
  ttlSecs : Nat
  domain : Str
  uri : Str
  maxChallenges : Nat
  ttlLt : ttlSecs < 2 ^ 64
  deriving DecidableEq

/-- What a call draws from its surroundings: the readings of the clock and the random
bytes of the nonce. -/
structure ChallengeDraws where
  /-- The reading of the purge at capacity. -/
  purgeAt : ClockReading
  nonceBytes : ByteArr 32
  now : ClockReading

namespace ChallengeStore

/-- `ChallengeStore::with_capacity` -/
def withCapacity (ttlSecs : Nat) (httl : ttlSecs < 2 ^ 64) (domain uri : Str)
    (maxChallenges : Nat) : ChallengeStore where
  challenges := .empty
  ttlSecs := ttlSecs
  domain := domain
  uri := uri
  maxChallenges := maxChallenges
  ttlLt := httl

def len (store : ChallengeStore) : Nat := store.challenges.len

def isFull (store : ChallengeStore) : Bool := store.maxChallenges ≤ store.len

/-- `ChallengeStore::cleanup_expired` -/
def cleanupExpired (store : ChallengeStore) (now : Nat) : ChallengeStore :=
  { store with challenges := store.challenges.retain fun _ c => now < c.expiresAt }

/-- The order eviction follows: soonest expiry first, ties by nonce. -/
def evictionRank (entry : Str × Challenge) : Lex (Nat × Str) := toLex (entry.2.expiresAt, entry.1)

/-- The scan of `evict_oldest`. -/
def victim (store : ChallengeStore) : Option Str :=
  (store.challenges.least evictionRank).map Prod.fst

/-- The removal of `evict_oldest`. -/
def removeVictim (store : ChallengeStore) : Option Str → ChallengeStore
  | some nonce => { store with challenges := store.challenges.remove nonce }
  | none => store

/-- `ChallengeStore::evict_oldest` -/
def evictOldest (store : ChallengeStore) : ChallengeStore := store.removeVictim store.victim

/-- What `create` does at capacity, before it draws a nonce. -/
def makeRoom (store : ChallengeStore) (now : Nat) : ChallengeStore :=
  if store.isFull then
    let store := store.cleanupExpired now
    if store.isFull then store.evictOldest else store
  else store

/-- The nonce of 32 random bytes. -/
def nonceOf (nonceBytes : ByteArr 32) : Str := text "0x" ++ Hex.encode nonceBytes.1

/-- `now + Duration::seconds(ttl_secs as i64)`; nothing when an operation panics. -/
def expiry (store : ChallengeStore) (now : ClockReading) : Option DateTime :=
  (DateTime.durationSeconds (asI64 store.ttlSecs)).bind now.1.addSeconds

/-- The challenge `create` builds, when its expiry is representable. -/
def challengeFor (B : Build) (store : ChallengeStore) (did : Str) (nonceBytes : ByteArr 32)
    (now : ClockReading) (expires : DateTime) : Except AuthError Challenge := do
  let nonce := nonceOf nonceBytes
  let message ← buildMessage B
    { did
      domain := store.domain
      uri := store.uri
      nonce
      issuedAt := now.1
      expirationTime := expires }
  pure { did, nonce, message, expiresAt := asU64 expires.timestamp }

/-- The insertion that ends `create`, with the computations in front of it. -/
def issue (B : Build) (store : ChallengeStore) (did : Str) (nonceBytes : ByteArr 32)
    (now : ClockReading) : Option (Except AuthError Challenge) × ChallengeStore :=
  match store.expiry now with
  | none => (none, store)
  | some expires =>
      match challengeFor B store did nonceBytes now expires with
      | .error e => (some (.error e), store)
      | .ok challenge =>
          (some (.ok challenge),
            { store with challenges := store.challenges.insert challenge.nonce challenge })

/-- `ChallengeStore::create` -/
def create (B : Build) (store : ChallengeStore) (did : Str) (draws : ChallengeDraws) :
    Option (Except AuthError Challenge) × ChallengeStore :=
  match validateDidWellFormed B did with
  | .error e => (some (.error (.crypto e)), store)
  | .ok () => (store.makeRoom draws.purgeAt.secs).issue B did draws.nonceBytes draws.now

/-- The clock check of `validate`. -/
def checkExpiry (challenge : Challenge) (now : Nat) : Except AuthError Challenge :=
  if challenge.expiresAt ≤ now then .error .challengeExpired else .ok challenge

/-- `ChallengeStore::validate` -/
def validate (store : ChallengeStore) (nonce : Str) (now : Nat) :
    Except AuthError Challenge × ChallengeStore :=
  match store.challenges.get nonce with
  | none => (.error .challengeNotFound, store)
  | some challenge =>
      (checkExpiry challenge now, { store with challenges := store.challenges.remove nonce })

end ChallengeStore

/-! ## One call after another -/

/-- A call of the store, with what it draws. -/
inductive ChallengeOp where
  | create (did : Str) (draws : ChallengeDraws)
  | validate (nonce : Str) (now : Nat)
  | cleanupExpired (now : Nat)

/-- What a call returns. -/
inductive ChallengeAnswer where
  | created (result : Option (Except AuthError Challenge))
  | validated (result : Except AuthError Challenge)
  | swept
  deriving DecidableEq

namespace ChallengeStore

def call (B : Build) (store : ChallengeStore) : ChallengeOp → ChallengeAnswer × ChallengeStore
  | .create did draws =>
      let outcome := store.create B did draws
      (.created outcome.1, outcome.2)
  | .validate nonce now =>
      let outcome := store.validate nonce now
      (.validated outcome.1, outcome.2)
  | .cleanupExpired now => (.swept, store.cleanupExpired now)

end ChallengeStore

/-- The readings of the clock a call takes in turn. -/
def ChallengeOp.readings : ChallengeOp → List Nat
  | .create _ draws => [draws.purgeAt.secs, draws.now.secs]
  | .validate _ now => [now]
  | .cleanupExpired now => [now]

/-- The challenge store as a service. -/
def challengeService (B : Build) : Service Nat ChallengeStore ChallengeOp ChallengeAnswer where
  call := ChallengeStore.call B
  readings := ChallengeOp.readings

/-! ## Concurrent calls -/

/-- Where a call of `create` stands, named by the access it makes next. -/
inductive CreateStage where
  | len
  | cleanup
  | lenAgain
  | scan
  | remove (victim : Option Str)
  | insert
  | returned (result : Option (Except AuthError Challenge))
  deriving DecidableEq

/-- Where a call of `validate` stands. -/
inductive ValidateStage where
  | remove
  | clock (challenge : Challenge)
  | returned (result : Except AuthError Challenge)
  deriving DecidableEq

/-- A call of the store. -/
inductive ChallengeThread where
  | create (did : Str) (stage : CreateStage)
  | validate (nonce : Str) (stage : ValidateStage)
  | cleanup (done : Bool)
  deriving DecidableEq

/-- What a step draws: a reading of the clock and random bytes. -/
structure StepDraw where
  now : ClockReading
  bytes : ByteArr 32
  deriving DecidableEq

namespace ChallengeStore

variable (B : Build) (store : ChallengeStore)

/-- One atomic access of `create`.  The format check comes before the first one. -/
def createStep (did : Str) (stage : CreateStage) (draw : StepDraw) :
    Option (ChallengeStore × CreateStage) :=
  match stage with
  | .len =>
      match validateDidWellFormed B did with
      | .error e => some (store, .returned (some (.error (.crypto e))))
      | .ok () => some (store, if store.isFull then .cleanup else .insert)
  | .cleanup => some (store.cleanupExpired draw.now.secs, .lenAgain)
  | .lenAgain => some (store, if store.isFull then .scan else .insert)
  | .scan => some (store, .remove store.victim)
  | .remove victim => some (store.removeVictim victim, .insert)
  | .insert =>
      let outcome := store.issue B did draw.bytes draw.now
      some (outcome.2, .returned outcome.1)
  | .returned _ => none

/-- One atomic access of `validate`, or its reading of the clock. -/
def validateStep (nonce : Str) (stage : ValidateStage) (draw : StepDraw) :
    Option (ChallengeStore × ValidateStage) :=
  match stage with
  | .remove =>
      match store.challenges.get nonce with
      | none => some (store, .returned (.error .challengeNotFound))
      | some challenge =>
          some ({ store with challenges := store.challenges.remove nonce }, .clock challenge)
  | .clock challenge => some (store, .returned (checkExpiry challenge draw.now.secs))
  | .returned _ => none

/-- One atomic access of a call. -/
def step (thread : ChallengeThread) (draw : StepDraw) : Option (ChallengeStore × ChallengeThread) :=
  match thread with
  | .create did stage =>
      (store.createStep B did stage draw).map fun moved => (moved.1, .create did moved.2)
  | .validate nonce stage =>
      (store.validateStep nonce stage draw).map fun moved => (moved.1, .validate nonce moved.2)
  | .cleanup false => some (store.cleanupExpired draw.now.secs, .cleanup true)
  | .cleanup true => none

end ChallengeStore

/-- A call that has made no access. -/
def ChallengeThread.starts : ChallengeThread → Bool
  | .create _ stage => stage = .len
  | .validate _ stage => stage = .remove
  | .cleanup done => !done

/-- Calls of one challenge store. -/
def challengeSystem (B : Build) :
    Interleaving.System ChallengeStore ChallengeThread StepDraw Empty where
  entry := ChallengeThread.starts
  move store _ thread draw := store.step B thread draw
  ambient _ event := event.elim

end AquaAuth
