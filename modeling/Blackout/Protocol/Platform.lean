import Blackout.Protocol.Bytes

/-!
# What the protocol is built on

The calls that the code makes to WebCrypto and to the KEM provider, and how a call can fail. SHA-256
and HKDF are definitions; the rest are parameters.

Randomness is an argument: a key pair is generated from a seed, and so is an encapsulation.
-/

namespace Blackout.Protocol

inductive ReleaseEnvelopeErrorCode
  | ownerKeySet
  | recipientIdentity
  | recipients
  | message
  | ownerKeyChanged
  | ownCopy
  | releaseMismatch
  | kemProvider
  deriving DecidableEq, Repr

inductive Failure
  /-- `Error` -/
  | error (message : String)
  /-- `ReleaseEnvelopeError` -/
  | envelope (code : ReleaseEnvelopeErrorCode) (message : String)
  /-- `HybridSealError` -/
  | zeroSharedSecret
  /-- The `NotSupportedError` of WebCrypto. -/
  | notSupported
  | operation
  /-- The `TypeError` of a text decoder. -/
  | invalidText
  deriving DecidableEq, Repr

/-- A call refuses its input, or fails. -/
inductive Refusal (π : Type)
  | returned (problem : π)
  | threw (failure : Failure)
  deriving DecidableEq, Repr

def thrown {α : Type} : Except String α → Except Failure α
  | .ok a => .ok a
  | .error message => .error (.error message)

theorem thrown_eq_ok {α : Type} {x : Except String α} {a : α} : thrown x = .ok a ↔ x = .ok a := by
  cases x with
  | ok b => exact ok_iff_ok
  | error e => exact ⟨nofun, nofun⟩

/-- Decryption inverts encryption under the same key, nonce and associated data. -/
structure AesGcm where
  encrypt (key nonce associatedData plaintext : Bytes) : Bytes
  decrypt (key nonce associatedData ciphertext : Bytes) : Option Bytes
  decrypt_encrypt : ∀ key nonce associatedData plaintext,
    decrypt key nonce associatedData (encrypt key nonce associatedData plaintext) = some plaintext
  length_encrypt : ∀ key nonce associatedData plaintext,
    (encrypt key nonce associatedData plaintext).length = plaintext.length + 16

def importAesGcmKey (rawKey : Bytes) : Except Failure Bytes :=
  if rawKey.length = 16 ∨ rawKey.length = 24 ∨ rawKey.length = 32 then .ok rawKey
  else .error .operation

theorem importAesGcmKey_ok {rawKey : Bytes} (h : rawKey.length = 32) :
    importAesGcmKey rawKey = .ok rawKey := if_pos (.inr (.inr h))

def operation {α : Type} : Option α → Except Failure α
  | some a => .ok a
  | none => .error .operation

theorem operation_eq_ok {α : Type} {x : Option α} {a : α} : operation x = .ok a ↔ x = some a := by
  cases x with
  | some b => exact ok_iff_some
  | none => exact ⟨nofun, nofun⟩

/-! ## Signatures, key agreement and encapsulation -/

/-- Signatures: operations only. -/
structure Ed25519 where
  SigningKey : Type
  VerifyKey : Type
  importSigningKey (d x : JsString) : Except Failure SigningKey
  importVerifyKey (raw : Bytes) : Except Failure VerifyKey
  sign (key : SigningKey) (message : Bytes) : Except Failure Bytes
  verify (key : VerifyKey) (signature message : Bytes) : Except Failure Bool

/-- Key agreement: operations only. -/
structure X25519 where
  PrivateKey : Type
  PublicKey : Type
  importPrivateKey (d x : JsString) : Except Failure PrivateKey
  importPublicKey (raw : Bytes) : Except Failure PublicKey
  generateKeyPair (seed : Bytes) : Except Failure (PrivateKey × Bytes)
  deriveBits (key : PrivateKey) (peer : PublicKey) : Except Failure Bytes

/-- Encapsulation: operations only. -/
structure KemProvider where
  publicKeyLength : Nat
  secretKeyLength : Nat
  ciphertextLength : Nat
  sharedSecretLength : Nat
  encapsulate (seed publicKey : Bytes) : Except Failure (Bytes × Bytes)
  decapsulate (ciphertext secretKey : Bytes) : Except Failure Bytes

/-- All calls that the code makes. -/
structure Platform where
  aes : AesGcm
  ed25519 : Ed25519
  x25519 : X25519
  kem : KemProvider
  /-- `Date.parse` gives a number. -/
  dateParses (value : JsString) : Bool

def isAllZero (bytes : Bytes) : Bool := bytes.all (· = 0)

/-- The primitives meet their specifications: a private key that fits a public key once is that
key's own, and works with it every time. -/
structure Platform.Correct (p : Platform) : Prop where
  /-- A key of which one signature verifies signs every message, and each signature verifies. -/
  sign_verify : ∀ {key peer message signature}, p.ed25519.sign key message = .ok signature →
    p.ed25519.verify peer signature message = .ok true → ∀ message', ∃ signature',
      p.ed25519.sign key message' = .ok signature' ∧
      p.ed25519.verify peer signature' message' = .ok true
  /-- A public key that contributes to one shared secret contributes to every. -/
  contributes : ∀ {seed fresh freshPublic peer secret},
    p.x25519.generateKeyPair seed = .ok (fresh, freshPublic) →
    p.x25519.deriveBits fresh peer = .ok secret → isAllZero secret = false → ∀ seed',
      ∃ fresh' freshPublic' secret', p.x25519.generateKeyPair seed' = .ok (fresh', freshPublic') ∧
        p.x25519.deriveBits fresh' peer = .ok secret' ∧ isAllZero secret' = false
  /-- A private key that agrees with one fresh key on a secret agrees with every. -/
  agrees : ∀ {seed fresh freshPublic freshKey key peer secret},
    p.x25519.generateKeyPair seed = .ok (fresh, freshPublic) →
    p.x25519.importPublicKey freshPublic = .ok freshKey →
    p.x25519.deriveBits key freshKey = .ok secret → p.x25519.deriveBits fresh peer = .ok secret →
    isAllZero secret = false → ∀ {seed' fresh' freshPublic'},
      p.x25519.generateKeyPair seed' = .ok (fresh', freshPublic') → freshPublic'.length = 32 ∧
        ∃ freshKey' secret', p.x25519.importPublicKey freshPublic' = .ok freshKey' ∧
          p.x25519.deriveBits key freshKey' = .ok secret' ∧
          p.x25519.deriveBits fresh' peer = .ok secret'
  /-- A secret key that opens one encapsulation to a public key opens every. -/
  opens : ∀ {seed publicKey ciphertext secret secretKey},
    p.kem.encapsulate seed publicKey = .ok (ciphertext, secret) →
    p.kem.decapsulate ciphertext secretKey = .ok secret → ∀ seed', ∃ ciphertext' secret',
      p.kem.encapsulate seed' publicKey = .ok (ciphertext', secret') ∧
      p.kem.decapsulate ciphertext' secretKey = .ok secret'

end Blackout.Protocol
