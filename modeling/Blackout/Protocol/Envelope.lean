import Blackout.Protocol.Content
import Blackout.Protocol.KeySet

/-!
# Making release envelopes (`release/envelope.ts`)

`sealReleaseCopy` and `buildReleaseEnvelope`, with the randomness they draw as an argument.
-/

namespace Blackout.Protocol

open Utf16 List

variable {contentKey bytes : Bytes} {sealed : HybridSealed} {header : ReleaseHeader} {p : Platform}
  {u : Unit} {ownerSigningKey : p.ed25519.SigningKey} {copy : ReleaseCopy}

def RELEASE_KEY_COMMITMENT_LABEL : String := "blackout-release-key-commitment-v1"
def RELEASE_MAX_RECIPIENTS : Nat := 64

def newReleaseId (random : Bytes) : JsString :=
  let bytes := (random.modify 6 fun b => b &&& 0x0f ||| 0x40).modify 8 fun b => b &&& 0x3f ||| 0x80
  let hex := toHex bytes
  hex.take 8 ++ jsString "-" ++ (hex.drop 8).take 4 ++ jsString "-" ++ (hex.drop 12).take 4 ++
    jsString "-" ++ (hex.drop 16).take 4 ++ jsString "-" ++ hex.drop 20

def commitmentInput (contentKey : Bytes) : Bytes := labelBytes RELEASE_KEY_COMMITMENT_LABEL ++ contentKey

def releaseKeyCommitment (contentKey : Bytes) : Except Failure Bytes :=
  if contentKey.length ≠ RELEASE_CONTENT_KEY_BYTES then
    .error (.error "release envelope: the content key must be 32 bytes")
  else .ok (sha256 (commitmentInput contentKey))

def releaseContentHash (nonce ciphertext : Bytes) : Bytes := sha256 (nonce ++ ciphertext)

/-- The four parts of a seal, one after the other. -/
def encodeSealedKey (sealed : HybridSealed) : Except String Bytes :=
  if sealed.ephemeralPublicKey.length ≠ X25519_PUBLIC_KEY_BYTES ∨
      sealed.kemCiphertext.length ≠ MLKEM768_CIPHERTEXT_BYTES ∨
      sealed.nonce.length ≠ RELEASE_NONCE_BYTES ∨ sealed.ciphertext.length ≠ WRAPPED_KEY_BYTES then
    .error "release envelope: a sealed copy part has the wrong length"
  else
    .ok (sealed.ephemeralPublicKey ++ (sealed.kemCiphertext ++ (sealed.nonce ++ sealed.ciphertext)))

def decodeSealedKey (bytes : Bytes) : Except String HybridSealed :=
  if bytes.length ≠ RELEASE_SEALED_KEY_BYTES then
    .error "release envelope: a sealed copy must be 1180 bytes"
  else
    let rest := bytes.drop X25519_PUBLIC_KEY_BYTES
    let rest' := rest.drop MLKEM768_CIPHERTEXT_BYTES
    .ok { ephemeralPublicKey := bytes.take X25519_PUBLIC_KEY_BYTES
          kemCiphertext := rest.take MLKEM768_CIPHERTEXT_BYTES
          nonce := rest'.take RELEASE_NONCE_BYTES
          ciphertext := (rest'.drop RELEASE_NONCE_BYTES).take WRAPPED_KEY_BYTES }

def assertMlKem768 (kem : KemProvider) : Except Failure Unit :=
  if kem.publicKeyLength ≠ MLKEM768_PUBLIC_KEY_BYTES ∨ kem.ciphertextLength ≠ MLKEM768_CIPHERTEXT_BYTES ∨
      kem.secretKeyLength ≠ MLKEM768_SECRET_KEY_BYTES then
    .error (.envelope .kemProvider "release copies need an ML-KEM-768 KEM provider")
  else .ok ()

def headerBytes (header : ReleaseHeader) : Except Failure (Bytes × Bytes) :=
  match decodeCanonicalBase64 header.contentNonce (some RELEASE_NONCE_BYTES),
    decodeCanonicalBase64 header.contentCiphertext none,
    decodeCanonicalBase64 header.keyCommitment (some RELEASE_KEY_COMMITMENT_BYTES) with
  | some nonce, some ciphertext, some keyCommitment =>
    .ok (releaseContentHash nonce ciphertext, keyCommitment)
  | _, _, _ => .error (.error "release envelope: the header is malformed")

/-- What a copy is bound to. -/
def contextFor (header : ReleaseHeader) (recipientAccountId recipientFingerprint : JsString) :
    ReleaseCopyContext where
  releaseId := header.releaseId
  ownerAccountId := header.ownerAccountId
  ownerFingerprint := header.ownerFingerprint
  recipientAccountId := recipientAccountId
  recipientFingerprint := recipientFingerprint

/-! ## Copies -/

structure SealRandom where
  identity : Bytes
  ephemeral : Bytes
  encapsulation : Bytes
  nonce : Bytes

variable (p)

def verifiedRecipient (identity : ReleaseIdentity) (seed : Bytes) :
    Except Failure (ReleaseIdentity × JsString) :=
  match verifyReleaseIdentity p (identity.toJson : Json Int) none seed with
  | .ok check => .ok check
  | .error (.returned problem) => .error (.envelope .recipientIdentity
      s!"a recipient identity failed its check ({problem.name})")
  | .error (.threw failure) => .error failure

def sealVerified (header : ReleaseHeader) (contentKey : Bytes)
    (recipient : ReleaseIdentity × JsString) (ownerSigningKey : p.ed25519.SigningKey)
    (ephemeral : p.x25519.PrivateKey × Bytes) (encapsulation : Bytes × Bytes) (nonce : Bytes) :
    Except Failure ReleaseCopy :=
  if contentKey.length ≠ RELEASE_CONTENT_KEY_BYTES then
    .error (.error "release envelope: the content key must be 32 bytes")
  else do
    let context := contextFor header recipient.1.accountId recipient.2
    let recipientKey ← importRecipientPublicKey p.x25519 recipient.1.x25519Key
    let transcript ← thrown (releaseSealTranscript context)
    let sealed ← hybridSealWith p contentKey recipientKey transcript ephemeral encapsulation nonce
    let sealedKey ← thrown (encodeSealedKey sealed)
    let covered ← headerBytes header
    let signed ← thrown (releaseCopySignedBytes context covered.1 covered.2 sealedKey)
    let signature ← p.ed25519.sign ownerSigningKey signed
    return { recipientAccountId := context.recipientAccountId
             recipientFingerprint := context.recipientFingerprint
             sealedKey := toBase64 sealedKey
             signature := toBase64 signature }

/-- Seals the key to an identity that verifies; the owner signs the copy. -/
def sealReleaseCopy (header : ReleaseHeader) (contentKey : Bytes)
    (recipient : ReleaseIdentity) (ownerSigningKey : p.ed25519.SigningKey) (r : SealRandom) :
    Except Failure ReleaseCopy := do
  assertMlKem768 p.kem
  let verified ← verifiedRecipient p recipient r.identity
  match decodeCanonicalBase64 verified.1.mlkem768Key (some MLKEM768_PUBLIC_KEY_BYTES) with
  | none => .error (.envelope .recipientIdentity "a recipient ML-KEM key is malformed")
  | some mlkemKey => do
    let ephemeral ← p.x25519.generateKeyPair r.ephemeral
    let encapsulation ← p.kem.encapsulate r.encapsulation mlkemKey
    sealVerified p header contentKey verified ownerSigningKey ephemeral encapsulation r.nonce

def sealCopies (p : Platform) (header : ReleaseHeader) (contentKey : Bytes)
    (ownerSigningKey : p.ed25519.SigningKey) :
    List ReleaseIdentity → (Nat → SealRandom) → Except Failure (List ReleaseCopy)
  | [], _ => .ok []
  | recipient :: rest, r => do
    let copy ← sealReleaseCopy p header contentKey recipient ownerSigningKey (r 0)
    let copies ← sealCopies p header contentKey ownerSigningKey rest fun i => r (i + 1)
    return copy :: copies

/-! ## Envelopes -/

/-- The message, the owner and the recipients. -/
structure BuildReleaseEnvelopeInput where
  ownerKeySet : ReleaseKeySet
  recipients : List ReleaseIdentity
  message : JsString
  releaseId : Option JsString

structure BuildRandom where
  check : KeyCheckRandom
  releaseId : Bytes
  contentKey : Bytes
  nonce : Bytes
  copies : Nat → SealRandom

def requireOwnerKeySet (owner : ReleaseKeySet) (account : JsString)
    (r : KeyCheckRandom) : Except Failure Unit :=
  match checkReleaseKeySet p (owner.toJson : Json Int) (some account) r with
  | .ok () => .ok ()
  | .error (.threw failure) => .error failure
  | .error (.returned .kemProvider) =>
    .error (.envelope .kemProvider "no ML-KEM provider is configured")
  | .error (.returned problem) => .error (.envelope .ownerKeySet
      s!"the owner's key set failed its check ({problem.name})")

def headerOf (releaseId : JsString) (owner : ReleaseKeySet) (content : Bytes × Bytes)
    (keyCommitment : Bytes) : ReleaseHeader where
  releaseId := releaseId
  ownerAccountId := owner.identity.accountId
  ownerFingerprint := owner.fingerprint
  contentNonce := toBase64 content.1
  contentCiphertext := toBase64 content.2
  keyCommitment := toBase64 keyCommitment

def parseBuilt (envelope : ReleaseEnvelope) : Except Failure ReleaseEnvelope :=
  match parseReleaseEnvelope (envelope.toJson : Json Int) with
  | .ok parsed => .ok parsed
  | .error problem => .error (.error s!"release envelope: built one that fails ({problem.name})")

/-- The content, the header and a copy for the owner and for each recipient. -/
def buildReleaseEnvelope (input : BuildReleaseEnvelopeInput) (r : BuildRandom) :
    Except Failure ReleaseEnvelope := do
  assertMlKem768 p.kem
  let owner := input.ownerKeySet
  requireOwnerKeySet p owner owner.identity.accountId r.check
  if input.recipients.length < 1 ∨ input.recipients.length > RELEASE_MAX_RECIPIENTS then
    .error (.envelope .recipients s!"a release names 1 to {RELEASE_MAX_RECIPIENTS} recipients")
  else if ¬(input.recipients.map ReleaseIdentity.accountId).Nodup ∨
      owner.identity.accountId ∈ input.recipients.map ReleaseIdentity.accountId then
    .error (.envelope .recipients "a recipient is named twice, or is the owner")
  else do
    let releaseId := input.releaseId.getD (newReleaseId r.releaseId)
    let content ← encryptReleaseContentWith p.aes input.message releaseId owner.identity.accountId
      r.contentKey r.nonce
    let keyCommitment ← releaseKeyCommitment r.contentKey
    let header := headerOf releaseId owner content keyCommitment
    let ownerSigningKey ← importReleaseSigningKey p.ed25519 owner.signingPrivateJwk
    let copies ←
      sealCopies p header r.contentKey ownerSigningKey (owner.identity :: input.recipients) r.copies
    parseBuilt { header, copies }

variable {p}

/-! ## What each call does -/

theorem assertMlKem768_eq_ok {kem : KemProvider} :
    assertMlKem768 kem = .ok u ↔ kem.publicKeyLength = MLKEM768_PUBLIC_KEY_BYTES ∧
      kem.ciphertextLength = MLKEM768_CIPHERTEXT_BYTES ∧ kem.secretKeyLength = MLKEM768_SECRET_KEY_BYTES := by
  simp [assertMlKem768, not_or, ne_eq, Decidable.not_not]

theorem releaseKeyCommitment_eq_ok {commitment : Bytes} : releaseKeyCommitment contentKey = .ok commitment ↔
      contentKey.length = RELEASE_CONTENT_KEY_BYTES ∧ commitment = sha256 (commitmentInput contentKey) := by
  rw [releaseKeyCommitment, guard_eq_ok]
  exact and_congr Decidable.not_not ok_eq_iff

theorem encodeSealedKey_eq_ok : encodeSealedKey sealed = .ok bytes ↔
      (sealed.ephemeralPublicKey.length = X25519_PUBLIC_KEY_BYTES ∧
        sealed.kemCiphertext.length = MLKEM768_CIPHERTEXT_BYTES ∧
        sealed.nonce.length = RELEASE_NONCE_BYTES ∧ sealed.ciphertext.length = WRAPPED_KEY_BYTES) ∧
      bytes = sealed.ephemeralPublicKey ++ (sealed.kemCiphertext ++ (sealed.nonce ++ sealed.ciphertext)) := by
  rw [encodeSealedKey, guard_eq_ok]
  simp only [not_or, ne_eq, Decidable.not_not]
  exact and_congr_right fun _ => ok_eq_iff

theorem length_sealedKey (h : encodeSealedKey sealed = .ok bytes) : bytes.length = RELEASE_SEALED_KEY_BYTES := by
  obtain ⟨⟨h1, h2, h3, h4⟩, rfl⟩ := encodeSealedKey_eq_ok.mp h
  rw [length_append, length_append, length_append, h1, h2, h3, h4]
  rfl

theorem decodeSealedKey_encodeSealedKey
    (h : encodeSealedKey sealed = .ok bytes) : decodeSealedKey bytes = .ok sealed := by
  have hlen := length_sealedKey h
  obtain ⟨⟨h1, h2, h3, h4⟩, rfl⟩ := encodeSealedKey_eq_ok.mp h
  simp only [decodeSealedKey, if_neg (not_not_intro hlen), take_left' h1, drop_left' h1,
    take_left' h2, drop_left' h2, take_left' h3, drop_left' h3,
    take_of_length_le (Nat.le_of_eq h4)]

theorem headerBytes_eq_ok {covered : Bytes × Bytes} : headerBytes header = .ok covered ↔ ∃ nonce ciphertext,
        decodeCanonicalBase64 header.contentNonce (some RELEASE_NONCE_BYTES) = some nonce ∧
        decodeCanonicalBase64 header.contentCiphertext none = some ciphertext ∧
        decodeCanonicalBase64 header.keyCommitment (some RELEASE_KEY_COMMITMENT_BYTES) =
          some covered.2 ∧ covered.1 = releaseContentHash nonce ciphertext := by
  constructor
  · intro h
    unfold headerBytes at h
    split at h
    next nonce ciphertext keyCommitment hnonce hciphertext hcommitment =>
      cases h
      exact ⟨nonce, ciphertext, hnonce, hciphertext, hcommitment, rfl⟩
    next => cases h
  · obtain ⟨contentHash, keyCommitment⟩ := covered
    rintro ⟨nonce, ciphertext, hnonce, hciphertext, hcommitment, hhash⟩
    simp only at hcommitment hhash
    simp only [headerBytes, hnonce, hciphertext, hcommitment, hhash]

theorem verifiedRecipient_eq_ok {identity : ReleaseIdentity} {seed : Bytes}
    {check : ReleaseIdentity × JsString} :
    verifiedRecipient p identity seed = .ok check ↔
      verifyReleaseIdentity p (identity.toJson : Json Int) none seed = .ok check := by
  unfold verifiedRecipient
  cases verifyReleaseIdentity p (identity.toJson : Json Int) none seed with
  | ok r => exact ok_iff_ok
  | error e => cases e <;> exact ⟨nofun, nofun⟩

structure SealParts (p : Platform) where
  recipientKey : p.x25519.PublicKey
  transcript : Bytes
  sealed : HybridSealed
  sealedKey : Bytes
  covered : Bytes × Bytes
  signed : Bytes
  signature : Bytes

structure SealedCopy (p : Platform) (header : ReleaseHeader) (contentKey : Bytes)
    (recipient : ReleaseIdentity × JsString) (ownerSigningKey : p.ed25519.SigningKey)
    (ephemeral : p.x25519.PrivateKey × Bytes) (encapsulation : Bytes × Bytes) (nonce : Bytes)
    (copy : ReleaseCopy) (q : SealParts p) : Prop where
  length : contentKey.length = RELEASE_CONTENT_KEY_BYTES
  recipientKey : importRecipientPublicKey p.x25519 recipient.1.x25519Key = .ok q.recipientKey
  transcript : releaseSealTranscript (contextFor header recipient.1.accountId recipient.2) = .ok q.transcript
  sealed : hybridSealWith p contentKey q.recipientKey q.transcript ephemeral encapsulation nonce = .ok q.sealed
  sealedKey : encodeSealedKey q.sealed = .ok q.sealedKey
  covered : headerBytes header = .ok q.covered
  signed : releaseCopySignedBytes (contextFor header recipient.1.accountId recipient.2) q.covered.1
    q.covered.2 q.sealedKey = .ok q.signed
  signature : p.ed25519.sign ownerSigningKey q.signed = .ok q.signature
  copy_eq :
    copy = ⟨recipient.1.accountId, recipient.2, toBase64 q.sealedKey, toBase64 q.signature⟩

theorem sealVerified_eq_ok {recipient : ReleaseIdentity × JsString}
    {ephemeral : p.x25519.PrivateKey × Bytes} {encapsulation : Bytes × Bytes} {nonce : Bytes} :
    sealVerified p header contentKey recipient ownerSigningKey ephemeral encapsulation nonce = .ok copy ↔
      ∃ q, SealedCopy p header contentKey recipient ownerSigningKey ephemeral encapsulation nonce copy q := by
  simp only [sealVerified, guard_eq_ok, bind_eq_ok, thrown_eq_ok]
  constructor
  · rintro ⟨hlen, recipientKey, h1, transcript, h2, sealed, h3, sealedKey, h4, covered, h5,
      signed, h6, signature, h7, h⟩
    cases h
    exact ⟨⟨recipientKey, transcript, sealed, sealedKey, covered, signed, signature⟩,
      Decidable.not_not.mp hlen, h1, h2, h3, h4, h5, h6, h7, rfl⟩
  · rintro ⟨q, hlen, h1, h2, h3, h4, h5, h6, h7, rfl⟩
    exact ⟨not_not_intro hlen, _, h1, _, h2, _, h3, _, h4, _, h5, _, h6, _, h7, rfl⟩

/-- The key is sealed to an identity that verifies, under the copy's own transcript, and the owner
signs what the copy binds. -/
theorem sealReleaseCopy_eq_ok {recipient : ReleaseIdentity} {r : SealRandom} :
    sealReleaseCopy p header contentKey recipient ownerSigningKey r = .ok copy ↔
      assertMlKem768 p.kem = .ok () ∧ ∃ verified mlkemKey ephemeral encapsulation,
        verifyReleaseIdentity p (recipient.toJson : Json Int) none r.identity = .ok verified ∧
        decodeCanonicalBase64 verified.1.mlkem768Key (some MLKEM768_PUBLIC_KEY_BYTES) = some mlkemKey ∧
        p.x25519.generateKeyPair r.ephemeral = .ok ephemeral ∧
        p.kem.encapsulate r.encapsulation mlkemKey = .ok encapsulation ∧
        ∃ q, SealedCopy p header contentKey verified ownerSigningKey ephemeral encapsulation r.nonce copy q := by
  rw [sealReleaseCopy, bind_eq_ok]
  constructor
  · rintro ⟨_, hkem, h⟩
    obtain ⟨verified, hverified, h⟩ := bind_eq_ok.mp h
    refine ⟨hkem, verified, ?_⟩
    split at h
    · cases h
    next mlkemKey hkey =>
    obtain ⟨ephemeral, hephemeral, h⟩ := bind_eq_ok.mp h
    obtain ⟨encapsulation, hencapsulation, h⟩ := bind_eq_ok.mp h
    exact ⟨mlkemKey, ephemeral, encapsulation, verifiedRecipient_eq_ok.mp hverified, hkey,
      hephemeral, hencapsulation, sealVerified_eq_ok.mp h⟩
  · rintro ⟨hkem, verified, mlkemKey, ephemeral, encapsulation, hverified, hkey, hephemeral, hencapsulation, hq⟩
    refine ⟨(), hkem, bind_eq_ok.mpr ⟨verified, verifiedRecipient_eq_ok.mpr hverified, ?_⟩⟩
    simp only [hkey, bind_eq_ok]
    exact ⟨ephemeral, hephemeral, encapsulation, hencapsulation, sealVerified_eq_ok.mpr hq⟩

theorem sealCopies_eq_ok {recipients : List ReleaseIdentity}
    {r : Nat → SealRandom} {copies : List ReleaseCopy}
    (h : sealCopies p header contentKey ownerSigningKey recipients r = .ok copies) :
    List.Forall₂ (fun recipient copy =>
      ∃ r, sealReleaseCopy p header contentKey recipient ownerSigningKey r = .ok copy) recipients copies := by
  induction recipients generalizing r copies with
  | nil =>
    cases h
    exact .nil
  | cons recipient rest ih =>
    simp only [sealCopies, bind_eq_ok] at h
    obtain ⟨copy, hcopy, copies, hcopies, h⟩ := h
    cases h
    exact .cons ⟨r 0, hcopy⟩ (ih hcopies)

/-! ## What is built -/

theorem requireOwnerKeySet_eq_ok {owner : ReleaseKeySet} {account : JsString} {r : KeyCheckRandom} :
    requireOwnerKeySet p owner account r = .ok u ↔
      checkReleaseKeySet p (owner.toJson : Json Int) (some account) r = .ok () := by
  unfold requireOwnerKeySet
  split
  next h =>
    rw [h]
    exact ⟨fun _ => rfl, fun _ => rfl⟩
  iterate 3
    next h =>
      rw [h]
      exact ⟨nofun, nofun⟩

theorem parseBuilt_eq_ok {envelope parsed : ReleaseEnvelope} : parseBuilt envelope = .ok parsed ↔
      parseReleaseEnvelope (envelope.toJson : Json Int) = .ok parsed := by
  unfold parseBuilt
  cases parseReleaseEnvelope (envelope.toJson : Json Int) with
  | ok e => exact ok_iff_ok
  | error e => exact ⟨nofun, nofun⟩

structure BuiltEnvelope (p : Platform) (input : BuildReleaseEnvelopeInput) (r : BuildRandom)
    (e : ReleaseEnvelope) (content : Bytes × Bytes) (ownerSigningKey : p.ed25519.SigningKey) :
    Prop where
  kem : assertMlKem768 p.kem = .ok ()
  owner : checkReleaseKeySet p (input.ownerKeySet.toJson : Json Int)
    (some input.ownerKeySet.identity.accountId) r.check = .ok ()
  encrypted : encryptReleaseContentWith p.aes input.message e.header.releaseId
    e.header.ownerAccountId r.contentKey r.nonce = .ok content
  header : e.header = headerOf e.header.releaseId input.ownerKeySet content
    (sha256 (commitmentInput r.contentKey))
  signingKey : importReleaseSigningKey p.ed25519 input.ownerKeySet.signingPrivateJwk = .ok ownerSigningKey
  copies : List.Forall₂ (fun recipient copy =>
    ∃ r', sealReleaseCopy p e.header r.contentKey recipient ownerSigningKey r' = .ok copy)
    (input.ownerKeySet.identity :: input.recipients) e.copies
  parses : parseReleaseEnvelope (e.toJson : Json Int) = .ok e

theorem buildReleaseEnvelope_ok {input : BuildReleaseEnvelopeInput} {r : BuildRandom}
    {e : ReleaseEnvelope} (h : buildReleaseEnvelope p input r = .ok e) :
    ∃ content ownerSigningKey, BuiltEnvelope p input r e content ownerSigningKey := by
  simp only [buildReleaseEnvelope, bind_eq_ok, guard_eq_ok, requireOwnerKeySet_eq_ok,
    releaseKeyCommitment_eq_ok, parseBuilt_eq_ok] at h
  obtain ⟨_, hkem, _, howner, -, -, content, hcontent, _, ⟨-, rfl⟩, ownerSigningKey, hkey, copies,
    hcopies, hparse⟩ := h
  obtain rfl := parseReleaseEnvelope_toJson_eq hparse
  exact ⟨content, ownerSigningKey, hkem, howner, hcontent, rfl, hkey, sealCopies_eq_ok hcopies, hparse⟩

end Blackout.Protocol
