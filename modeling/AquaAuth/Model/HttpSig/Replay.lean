import AquaAuth.Support.Interleaving
import AquaAuth.Support.KeyedMap
import AquaAuth.Support.Service
import AquaAuth.Model.Error
set_option autoImplicit false
/-!
# The replay guard

`http_sig/replay.rs`: the guard as one call after another sees it, and the same
call as the sequence of its atomic accesses to the shared map.
-/

namespace AquaAuth.HttpSig

open Support

/-- `MAX_SEEN_NONCES` -/
def maxSeenNonces : Nat := 8192

/-- `NonceReplayGuard`.  Its constructors make room for at least one nonce. -/
structure NonceReplayGuard where
  seen : KeyedMap Str Int
  capacity : Nat
  capacityPos : 0 < capacity
  deriving DecidableEq

namespace NonceReplayGuard

/-- `NonceReplayGuard::with_capacity` -/
def withCapacity (capacity : Nat) : NonceReplayGuard where
  seen := .empty
  capacity := max capacity 1
  capacityPos := by omega

/-- `NonceReplayGuard::new` -/
def new : NonceReplayGuard := withCapacity maxSeenNonces

/-- `NonceReplayGuard::cleanup_expired_at` -/
def cleanupExpiredAt (guard : NonceReplayGuard) (now : Int) : NonceReplayGuard :=
  { guard with seen := guard.seen.retain fun _ expiresAt => now < expiresAt }

/-- The order eviction follows: soonest expiry first, ties by nonce. -/
def evictionRank (entry : Str × Int) : Lex (Int × Str) := toLex (entry.2, entry.1)

/-- The scan of `evict_soonest_expiring`. -/
def victim (guard : NonceReplayGuard) : Option Str := (guard.seen.least evictionRank).map Prod.fst

/-- The removal of `evict_soonest_expiring`. -/
def removeVictim (guard : NonceReplayGuard) : Option Str → NonceReplayGuard
  | some nonce => { guard with seen := guard.seen.remove nonce }
  | none => guard

/-- `NonceReplayGuard::evict_soonest_expiring` -/
def evictSoonestExpiring (guard : NonceReplayGuard) : NonceReplayGuard :=
  guard.removeVictim guard.victim

def isFull (guard : NonceReplayGuard) : Bool := guard.capacity ≤ guard.seen.len

/-- What `check_and_record_at` does at capacity, before it records. -/
def makeRoom (guard : NonceReplayGuard) (now : Int) : NonceReplayGuard :=
  if guard.isFull then
    let guard := guard.cleanupExpiredAt now
    if guard.isFull then guard.evictSoonestExpiring else guard
  else guard

/-- The entry access that ends `check_and_record_at`. -/
def record (guard : NonceReplayGuard) (nonce : Str) (expiresAt : Int) :
    Except HttpSigError Unit × NonceReplayGuard :=
  if guard.seen.containsKey nonce then (.error .nonceReplayed, guard)
  else (.ok (), { guard with seen := guard.seen.insert nonce expiresAt })

/-- `NonceReplayGuard::check_and_record_at` -/
def checkAndRecordAt (guard : NonceReplayGuard) (nonce : Str) (expiresAt now : Int) :
    Except HttpSigError Unit × NonceReplayGuard :=
  if guard.seen.containsKey nonce then (.error .nonceReplayed, guard)
  else (guard.makeRoom now).record nonce expiresAt

end NonceReplayGuard

/-- The arguments of a call of `check_and_record_at`. -/
structure GuardCall where
  nonce : Str
  expiresAt : Int
  now : Int
  deriving DecidableEq

/-! ## One call after another -/

inductive GuardOp where
  | present (call : GuardCall)
  | cleanup (now : Int)
  deriving DecidableEq

namespace NonceReplayGuard

/-- A sweep has no answer. -/
def call (guard : NonceReplayGuard) : GuardOp → Option (Except HttpSigError Unit) × NonceReplayGuard
  | .present call =>
      let outcome := guard.checkAndRecordAt call.nonce call.expiresAt call.now
      (some outcome.1, outcome.2)
  | .cleanup now => (none, guard.cleanupExpiredAt now)

end NonceReplayGuard

def GuardOp.reading : GuardOp → Int
  | .present call => call.now
  | .cleanup now => now

/-- The replay guard as a service. -/
def guardService :
    Service Int NonceReplayGuard GuardOp (Option (Except HttpSigError Unit)) where
  call := NonceReplayGuard.call
  readings op := [op.reading]

/-! ## Concurrent calls -/

/-- Where a call stands, named by the access it makes next. -/
inductive GuardStage where
  | containsKey
  | len
  | cleanup
  | lenAgain
  | scan
  | remove (victim : Option Str)
  | entry
  | returned (result : Except HttpSigError Unit)
  deriving DecidableEq

structure GuardThread where
  call : GuardCall
  stage : GuardStage
  deriving DecidableEq

namespace GuardThread

/-- A call that has not made its first access. -/
def start (call : GuardCall) : GuardThread := ⟨call, .containsKey⟩

def goto (t : GuardThread) (stage : GuardStage) : GuardThread := { t with stage }

/-- One atomic access. -/
def step (guard : NonceReplayGuard) (t : GuardThread) : Option (NonceReplayGuard × GuardThread) :=
  match t.stage with
  | .containsKey =>
      if guard.seen.containsKey t.call.nonce then
        some (guard, t.goto (.returned (.error .nonceReplayed)))
      else some (guard, t.goto .len)
  | .len => some (guard, t.goto (if guard.isFull then .cleanup else .entry))
  | .cleanup => some (guard.cleanupExpiredAt t.call.now, t.goto .lenAgain)
  | .lenAgain => some (guard, t.goto (if guard.isFull then .scan else .entry))
  | .scan => some (guard, t.goto (.remove guard.victim))
  | .remove victim => some (guard.removeVictim victim, t.goto .entry)
  | .entry =>
      let outcome := guard.record t.call.nonce t.call.expiresAt
      some (outcome.2, t.goto (.returned outcome.1))
  | .returned _ => none

end GuardThread

/-- Calls of `check_and_record_at` on one guard, each before its expiry. -/
def guardSystem : Interleaving.System NonceReplayGuard GuardThread Unit Empty where
  entry t := t.stage = .containsKey ∧ t.call.now < t.call.expiresAt
  move guard _ t _ := t.step guard
  ambient _ event := event.elim

end AquaAuth.HttpSig
