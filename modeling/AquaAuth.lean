import AquaAuth.Support.Result
import AquaAuth.Support.Text
import AquaAuth.Support.Encoding
import AquaAuth.Support.KeyedMap
import AquaAuth.Support.Interleaving
import AquaAuth.Support.Chronicle
import AquaAuth.Support.Service
import AquaAuth.Support.DateTime
import AquaAuth.Support.StructuredField
import AquaAuth.Support.Json
import AquaAuth.Support.Ecdsa
import AquaAuth.Support.P256Order
import AquaAuth.Support.Serde
import AquaAuth.Support.JsonReader
import AquaAuth.Support.Dialogue
import AquaAuth.Support.HintBitUnpack
import AquaAuth.Support.Cookie
import AquaAuth.Support.Slice
import AquaAuth.Support.LeadingDigits
import AquaAuth.Support.Der
import AquaAuth.Support.Attempt
import AquaAuth.Support.Labels
import AquaAuth.Model.Crates
import AquaAuth.Model.Error
import AquaAuth.Model.Key
import AquaAuth.Model.Did
import AquaAuth.Model.Aqua
import AquaAuth.Model.DidMethod
import AquaAuth.Model.Accessors
import AquaAuth.Model.Principal
import AquaAuth.Model.Message
import AquaAuth.Model.Client
import AquaAuth.Model.Challenge
import AquaAuth.Model.Session
import AquaAuth.Model.SessionBackend
import AquaAuth.Model.Peer
import AquaAuth.Model.Signers
import AquaAuth.Model.Wire
import AquaAuth.Model.AuthSession
import AquaAuth.Model.Router
import AquaAuth.Model.BackendCalls
import AquaAuth.Model.CredentialStore
import AquaAuth.Model.Webauthn.Recover
import AquaAuth.Model.Webauthn.Policy
import AquaAuth.Model.Directory
import AquaAuth.Proofs.Directory
import AquaAuth.Proofs.CredentialStore
import AquaAuth.Proofs.Registry
import AquaAuth.Proofs.Identifier
import AquaAuth.Proofs.Admission
import AquaAuth.Proofs.Spelling
import AquaAuth.Proofs.MessageLines
import AquaAuth.Proofs.Gate
import AquaAuth.Model.HttpSig.Base
import AquaAuth.Proofs.Relay
import AquaAuth.Proofs.SignatureBase
import AquaAuth.Proofs.BaseLines
import AquaAuth.Proofs.Authority
import AquaAuth.Proofs.Separation
import AquaAuth.Model.HttpSig.Replay
import AquaAuth.Model.HttpSig.Sign
import AquaAuth.Model.HttpSig.Verify
import AquaAuth.Proofs.Accepted
import AquaAuth.Proofs.RoundTrip
import AquaAuth.Proofs.Guard
import AquaAuth.Proofs.GuardSweeps
import AquaAuth.Proofs.Strictness
import AquaAuth.Proofs.Replay
import AquaAuth.Proofs.Burning
import AquaAuth.Proofs.Concurrent
import AquaAuth.Proofs.Challenges
import AquaAuth.Proofs.ChallengeConcurrent
import AquaAuth.Proofs.Sessions
import AquaAuth.Proofs.SessionCaps
import AquaAuth.Proofs.SessionLifetime
import AquaAuth.Proofs.SessionConcurrent
import AquaAuth.Proofs.PeerSteps
import AquaAuth.Proofs.Login
import AquaAuth.Proofs.Sweeps
import AquaAuth.Proofs.Atomicity
import AquaAuth.Proofs.SessionBackend
import AquaAuth.Proofs.Expiry
import AquaAuth.Proofs.RemovalCounts
import AquaAuth.Proofs.MessageTemplate
import AquaAuth.Proofs.IdentifierDerivations
import AquaAuth.Proofs.Webauthn.Recovery
import AquaAuth.Model.Webauthn.Select
import AquaAuth.Model.Webauthn.Hint
import AquaAuth.Model.Webauthn.StoredKey
import AquaAuth.Model.Webauthn.Messages
import AquaAuth.Model.Webauthn.SoftPasskey
import AquaAuth.Proofs.DidKeyCodec
import AquaAuth.Proofs.Webauthn.Selection
import AquaAuth.Proofs.PeerElements
import AquaAuth.Proofs.HintGate
import AquaAuth.Proofs.AquaCodec
import AquaAuth.Proofs.SignatureEncodings
import AquaAuth.Proofs.EthereumSignatures
import AquaAuth.Proofs.Identity
import AquaAuth.Proofs.Accessors
import AquaAuth.Proofs.Webauthn.Policy
import AquaAuth.Proofs.Webauthn.AssertionGate
import AquaAuth.Proofs.Wire
import AquaAuth.Proofs.AuthSession
import AquaAuth.Proofs.Signers
import AquaAuth.Proofs.HonestLogin
import AquaAuth.Proofs.Router
import AquaAuth.Proofs.Alone
import AquaAuth.Proofs.Bearer
import AquaAuth.Proofs.Webauthn.HintCookie
import AquaAuth.Proofs.Webauthn.StoredKey
import AquaAuth.Proofs.Webauthn.SoftPasskey
import AquaAuth.Proofs.Webauthn.PasskeyLogin
