import Blackout.Protocol.SignedBytes
import Blackout.Protocol.Platform

/-!
# The hybrid seal (`deaddrop/crypto/keys.ts`, `pqHybrid.ts`, `hybridSeal.ts`)

An ephemeral X25519 key and an encapsulation, combined by HKDF with a transcript, then AES-GCM.
-/

namespace Blackout.Protocol

def HYBRID_SEAL_NONCE_BYTES : Nat := 12

def PQ_HYBRID_INFO : Bytes := utf8Encode (jsString "blackout-deaddrop-v2-hybrid")

/-- A seal: the ephemeral key, the encapsulation, the nonce and the ciphertext. -/
structure HybridSealed where
  ephemeralPublicKey : Bytes
  kemCiphertext : Bytes
  nonce : Bytes
  ciphertext : Bytes
  deriving DecidableEq

variable {p : Platform} {plaintext transcript : Bytes} {sealed : HybridSealed}
  {raw ecSecret nonce pqSecretKey : Bytes} {recipient : p.x25519.PublicKey}
  {ephemeral : p.x25519.PrivateKey × Bytes} {encapsulation : Bytes × Bytes}
  {privateKey : p.x25519.PrivateKey} {x : X25519}

def importRecipientPublicKey (x : X25519) (publicKeyBase64 : JsString) : Except Failure x.PublicKey := do
  let raw ← thrown (fromBase64 publicKeyBase64)
  if raw.length ≠ 32 then .error (.error s!"X25519 public key must be 32 bytes, got {raw.length}")
  else x.importPublicKey raw

/-- HKDF over both secrets, the public values and the transcript. -/
def deriveHybridAeadKey (ecSecret pqSecret ephemeralX25519Pub pqCiphertext transcript : Bytes) :
    Except Failure Bytes :=
  if ecSecret.length = 0 then .error (.error "ecSecret must not be empty")
  else if pqSecret.length = 0 then .error (.error "pqSecret must not be empty")
  else
    .ok (hkdf (ecSecret ++ pqSecret) (ephemeralX25519Pub ++ pqCiphertext)
      (if transcript.length > 0 then PQ_HYBRID_INFO ++ transcript else PQ_HYBRID_INFO) 32)

def importDerivedKey (ecSecret pqSecret ephemeralX25519Pub pqCiphertext transcript : Bytes) :
    Except Failure Bytes := do
  let keyBytes ← deriveHybridAeadKey ecSecret pqSecret ephemeralX25519Pub pqCiphertext transcript
  importAesGcmKey keyBytes

def refuseZero (sharedSecret : Bytes) : Except Failure Unit :=
  if isAllZero sharedSecret then .error .zeroSharedSecret else .ok ()

/-- Seals a plaintext with an ephemeral key and an encapsulation. -/
def hybridSealWith (p : Platform) (plaintext : Bytes) (recipient : p.x25519.PublicKey)
    (transcript : Bytes) (ephemeral : p.x25519.PrivateKey × Bytes) (encapsulation : Bytes × Bytes)
    (nonce : Bytes) : Except Failure HybridSealed :=
  if nonce.length ≠ HYBRID_SEAL_NONCE_BYTES then
    .error (.error s!"hybrid seal: the nonce must be {HYBRID_SEAL_NONCE_BYTES} bytes")
  else do
    let ecSecret ← p.x25519.deriveBits ephemeral.1 recipient
    refuseZero ecSecret
    let key ← importDerivedKey ecSecret encapsulation.2 ephemeral.2 encapsulation.1 transcript
    return { ephemeralPublicKey := ephemeral.2, kemCiphertext := encapsulation.1, nonce
             ciphertext := p.aes.encrypt key nonce [] plaintext }

def hybridOpen (p : Platform) (sealed : HybridSealed) (privateKey : p.x25519.PrivateKey)
    (pqSecretKey transcript : Bytes) : Except Failure Bytes := do
  let ephemeral ← importRecipientPublicKey p.x25519 (toBase64 sealed.ephemeralPublicKey)
  let ecSecret ← p.x25519.deriveBits privateKey ephemeral
  refuseZero ecSecret
  let pqSecret ← p.kem.decapsulate sealed.kemCiphertext pqSecretKey
  let key ←
    importDerivedKey ecSecret pqSecret sealed.ephemeralPublicKey sealed.kemCiphertext transcript
  operation (p.aes.decrypt key sealed.nonce [] sealed.ciphertext)

/-! ## What each call does -/

theorem importRecipientPublicKey_toBase64 (h : raw.length = 32) :
    importRecipientPublicKey x (toBase64 raw) = x.importPublicKey raw := by
  rw [importRecipientPublicKey, fromBase64_toBase64]
  exact if_neg (not_not_intro h)

theorem importRecipientPublicKey_toBase64_eq_ok {key : x.PublicKey} :
    importRecipientPublicKey x (toBase64 raw) = .ok key ↔ raw.length = 32 ∧ x.importPublicKey raw = .ok key := by
  rw [importRecipientPublicKey, fromBase64_toBase64]
  exact guard_eq_ok.trans (and_congr_left' Decidable.not_not)

theorem importDerivedKey_ok {pqSecret : Bytes} (hec : ecSecret.length ≠ 0)
    (hpq : pqSecret.length ≠ 0) (ephemeralX25519Pub pqCiphertext : Bytes) :
    ∃ key, importDerivedKey ecSecret pqSecret ephemeralX25519Pub pqCiphertext transcript = .ok key := by
  rw [importDerivedKey, deriveHybridAeadKey, if_neg hec, if_neg hpq]
  exact ⟨_, importAesGcmKey_ok (hkdf_length _ _ _ _)⟩

theorem refuseZero_eq_ok {sharedSecret : Bytes} {u : Unit} :
    refuseZero sharedSecret = .ok u ↔ isAllZero sharedSecret = false := by
  rw [refuseZero]
  cases isAllZero sharedSecret with
  | true => exact ⟨nofun, nofun⟩
  | false => exact ⟨fun _ => rfl, fun _ => rfl⟩

theorem hybridSealWith_eq_ok :
    hybridSealWith p plaintext recipient transcript ephemeral encapsulation nonce = .ok sealed ↔
      nonce.length = HYBRID_SEAL_NONCE_BYTES ∧
        ∃ ecSecret, p.x25519.deriveBits ephemeral.1 recipient = .ok ecSecret ∧
        isAllZero ecSecret = false ∧
        ∃ key, importDerivedKey ecSecret encapsulation.2 ephemeral.2 encapsulation.1 transcript = .ok key ∧
          sealed = ⟨ephemeral.2, encapsulation.1, nonce, p.aes.encrypt key nonce [] plaintext⟩ := by
  simp only [hybridSealWith, guard_eq_ok, Decidable.not_not, bind_eq_ok, refuseZero_eq_ok]
  constructor
  · rintro ⟨hlen, ecSecret, hec, _, hzero, key, hkey, h⟩
    cases h
    exact ⟨hlen, ecSecret, hec, hzero, key, hkey, rfl⟩
  · rintro ⟨hlen, ecSecret, hec, hzero, key, hkey, rfl⟩
    exact ⟨hlen, ecSecret, hec, (), hzero, key, hkey, rfl⟩

theorem hybridOpen_eq_ok :
    hybridOpen p sealed privateKey pqSecretKey transcript = .ok plaintext ↔
      ∃ ephemeral, importRecipientPublicKey p.x25519 (toBase64 sealed.ephemeralPublicKey) = .ok ephemeral ∧
        ∃ ecSecret, p.x25519.deriveBits privateKey ephemeral = .ok ecSecret ∧ isAllZero ecSecret = false ∧
          ∃ pqSecret, p.kem.decapsulate sealed.kemCiphertext pqSecretKey = .ok pqSecret ∧
            ∃ key, importDerivedKey ecSecret pqSecret sealed.ephemeralPublicKey
                sealed.kemCiphertext transcript = .ok key ∧
              p.aes.decrypt key sealed.nonce [] sealed.ciphertext = some plaintext := by
  simp only [hybridOpen, bind_eq_ok, refuseZero_eq_ok, operation_eq_ok, exists_const]

/-- A seal opens, under the same transcript, with keys that agree with the ephemeral key and open
the encapsulation. -/
theorem hybridOpen_hybridSealWith
    (hseal : hybridSealWith p plaintext recipient transcript ephemeral encapsulation nonce =
      .ok sealed) {ephemeralKey : p.x25519.PublicKey}
    (hlength : ephemeral.2.length = 32) (himport : p.x25519.importPublicKey ephemeral.2 = .ok ephemeralKey)
    (hown : p.x25519.deriveBits privateKey ephemeralKey = .ok ecSecret)
    (hother : p.x25519.deriveBits ephemeral.1 recipient = .ok ecSecret)
    (hopen : p.kem.decapsulate encapsulation.1 pqSecretKey = .ok encapsulation.2) :
    hybridOpen p sealed privateKey pqSecretKey transcript = .ok plaintext := by
  obtain ⟨-, ecSecret', hec, hzero, key, hkey, rfl⟩ := hybridSealWith_eq_ok.mp hseal
  rw [hother] at hec
  cases hec
  refine hybridOpen_eq_ok.mpr ⟨ephemeralKey, ?_, ecSecret, hown, hzero, encapsulation.2, hopen, key,
    hkey, p.aes.decrypt_encrypt key nonce [] plaintext⟩
  rw [importRecipientPublicKey_toBase64 hlength, himport]

end Blackout.Protocol
