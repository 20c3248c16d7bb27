import Blackout.Protocol.Envelope

/-!
# Opening release copies (`release/envelope.ts`)

`releaseSignatureVerifier`, `unwrapCopy`, `openReleaseCopy` and `resealReleaseCopy`, on arbitrary
JSON values for what a server sends.

What each call accepts is an equivalence.
-/

namespace Blackout.Protocol

open Json Utf16

/-! ## The signature -/

inductive VerifierProblem
  | ownerIdentity
  | unsupported
  deriving DecidableEq, Repr

/-- The owner's key and the header that copies are checked against. -/
structure Verifier (p : Platform) where
  header : ReleaseHeader
  publicKey : p.ed25519.VerifyKey
  contentHash : Bytes
  keyCommitment : Bytes

section
variable {ν : Type} [DecidableEq ν] [One ν]

def releaseSignatureVerifier (p : Platform) (header : ReleaseHeader) (ownerIdentity : Json ν)
    (seed : Bytes) : Except (Refusal VerifierProblem) (Verifier p) :=
  match verifyReleaseIdentity p ownerIdentity (some header.ownerAccountId) seed with
  | .error (.threw failure) => .error (.threw failure)
  | .error (.returned .unsupported) => .error (.returned .unsupported)
  | .error (.returned _) => .error (.returned .ownerIdentity)
  | .ok (identity, fingerprint) =>
    if fingerprint ≠ header.ownerFingerprint then .error (.returned .ownerIdentity)
    else
      match decodeCanonicalBase64 identity.signingKey (some ED25519_PUBLIC_KEY_BYTES) with
      | none => .error (.returned .ownerIdentity)
      | some signingKey =>
        match p.ed25519.importVerifyKey signingKey with
        | .error .notSupported => .error (.returned .unsupported)
        | .error _ => .error (.returned .ownerIdentity)
        | .ok publicKey =>
          match headerBytes header with
          | .error failure => .error (.threw failure)
          | .ok (contentHash, keyCommitment) => .ok { header, publicKey, contentHash, keyCommitment }

end

def Verifier.verify {p : Platform} (v : Verifier p) (input : ReleaseCopy) : Except Failure Bool :=
  match parseReleaseCopy (input.toJson : Json Int) with
  | .error _ => .ok false
  | .ok copy =>
    match decodeCanonicalBase64 copy.sealedKey (some RELEASE_SEALED_KEY_BYTES),
      decodeCanonicalBase64 copy.signature (some ED25519_SIGNATURE_BYTES) with
    | some sealedKey, some signature =>
      match releaseCopySignedBytes
        (contextFor v.header copy.recipientAccountId copy.recipientFingerprint) v.contentHash
        v.keyCommitment sealedKey with
      | .error message => .error (.error message)
      | .ok signed =>
        match p.ed25519.verify v.publicKey signature signed with
        | .ok valid => .ok valid
        | .error _ => .ok false
    | _, _ => .ok false

/-! ## The content key -/

inductive ReleaseOpenProblem
  | envelope (problem : ReleaseEnvelopeProblem)
  | notForYou
  | noKey
  | ownerIdentity
  | zeroSharedSecret
  | wrap
  | commitment
  | content
  | unsupported
  | kemProvider
  deriving DecidableEq, Repr

def ReleaseOpenProblem.name : ReleaseOpenProblem → String
  | .envelope problem => problem.name
  | .notForYou => "not_for_you"
  | .noKey => "no_key"
  | .ownerIdentity => "owner_identity"
  | .zeroSharedSecret => "zero_shared_secret"
  | .wrap => "wrap"
  | .commitment => "commitment"
  | .content => "content"
  | .unsupported => "unsupported"
  | .kemProvider => "kem_provider"

def openSeal (p : Platform) (context : ReleaseCopyContext) (keySet : ReleaseKeySet)
    (sealedKey secretKey : Bytes) : Except Failure Bytes := do
  let privateKey ← importReleaseX25519Key p.x25519 keySet.x25519PrivateJwk
  let sealed ← thrown (decodeSealedKey sealedKey)
  let transcript ← thrown (releaseSealTranscript context)
  hybridOpen p sealed privateKey secretKey transcript

/-- The key is the one that the header commits to. -/
def checkCommitment (header : ReleaseHeader) (contentKey : Bytes) : Except (Refusal ReleaseOpenProblem) Bytes :=
  match decodeCanonicalBase64 header.keyCommitment (some RELEASE_KEY_COMMITMENT_BYTES) with
  | none => .error (.returned .commitment)
  | some commitment =>
    match releaseKeyCommitment contentKey with
    | .error failure => .error (.threw failure)
    | .ok computed =>
      if computed ≠ commitment then .error (.returned .commitment) else .ok contentKey

section
variable {ν : Type} [DecidableEq ν] [One ν] {p : Platform} {header : ReleaseHeader} {keySet : ReleaseKeySet}
  {contentKey seed : Bytes} {ownerIdentity : Json ν} {v : Verifier p} {copy : ReleaseCopy}

variable (p)

/-- The key of a copy whose signature verifies. -/
def unwrapCopy (header : ReleaseHeader) (copy : ReleaseCopy) (ownerIdentity : Json ν)
    (keySet : ReleaseKeySet) (seed : Bytes) : Except (Refusal ReleaseOpenProblem) Bytes :=
  match releaseSignatureVerifier p header ownerIdentity seed with
  | .error (.threw failure) => .error (.threw failure)
  | .error (.returned .unsupported) => .error (.returned .unsupported)
  | .error (.returned .ownerIdentity) => .error (.returned .ownerIdentity)
  | .ok verifier =>
    match verifier.verify copy with
    | .error failure => .error (.threw failure)
    | .ok false => .error (.returned (.envelope .signature))
    | .ok true =>
      match decodeCanonicalBase64 copy.sealedKey (some RELEASE_SEALED_KEY_BYTES),
        decodeCanonicalBase64 keySet.mlkem768SecretKey (some MLKEM768_SECRET_KEY_BYTES) with
      | some sealedKey, some secretKey =>
        match openSeal p (contextFor header copy.recipientAccountId copy.recipientFingerprint)
          keySet sealedKey secretKey with
        | .error .zeroSharedSecret => .error (.returned .zeroSharedSecret)
        | .error .notSupported => .error (.returned .unsupported)
        | .error _ => .error (.returned .wrap)
        | .ok contentKey => checkCommitment header contentKey
      | _, _ => .error (.returned .wrap)

/-! ## A recipient opens a copy -/

structure OpenReleaseCopyInput (ν : Type) where
  header : Json ν
  copy : Json ν
  ownerIdentity : Json ν
  recipientAccountId : JsString
  keySets : List ReleaseKeySet

structure OpenRandom where
  check : KeyCheckRandom
  owner : Bytes

structure ReleaseOpened where
  text : JsString
  releaseId : JsString
  ownerAccountId : JsString
  ownerFingerprint : JsString
  keySetFingerprint : JsString
  deriving DecidableEq

def openContentKey (input : OpenReleaseCopyInput ν) (r : OpenRandom) :
    Except (Refusal ReleaseOpenProblem) (ReleaseHeader × ReleaseKeySet × Bytes) :=
  match parseReleaseHeader input.header with
  | .error problem => .error (.returned (.envelope problem))
  | .ok header =>
    match parseReleaseCopy input.copy with
    | .error problem => .error (.returned (.envelope problem))
    | .ok copy =>
      if copy.recipientAccountId ≠ input.recipientAccountId then .error (.returned .notForYou)
      else
        match input.keySets.find? fun k => k.fingerprint = copy.recipientFingerprint with
        | none => .error (.returned .noKey)
        | some keySet =>
          match assertMlKem768 p.kem with
          | .error _ => .error (.returned .kemProvider)
          | .ok () =>
            match checkReleaseKeySet p (keySet.toJson : Json Int) (some input.recipientAccountId)
              r.check with
            | .error (.threw failure) => .error (.threw failure)
            | .error (.returned .kemProvider) => .error (.returned .kemProvider)
            | .error (.returned _) => .error (.returned .noKey)
            | .ok () => do
              let contentKey ← unwrapCopy p header copy input.ownerIdentity keySet r.owner
              return (header, keySet, contentKey)

def openReleaseCopy (input : OpenReleaseCopyInput ν) (r : OpenRandom) :
    Except (Refusal ReleaseOpenProblem) ReleaseOpened := do
  let (header, keySet, contentKey) ← openContentKey p input r
  match decryptReleaseContent p.aes header contentKey with
  | .error _ => .error (.returned .content)
  | .ok text => .ok { text
                      releaseId := header.releaseId
                      ownerAccountId := header.ownerAccountId
                      ownerFingerprint := header.ownerFingerprint
                      keySetFingerprint := keySet.fingerprint }

/-! ## The owner seals the key again -/

structure ResealReleaseCopyInput (ν : Type) where
  releaseId : JsString
  header : Json ν
  ownCopy : Json ν
  ownerKeySet : ReleaseKeySet
  recipient : ReleaseIdentity

structure ResealRandom where
  check : KeyCheckRandom
  owner : Bytes
  copy : SealRandom

def resealContentKey (input : ResealReleaseCopyInput ν) (r : ResealRandom) :
    Except Failure (ReleaseHeader × Bytes) := do
  assertMlKem768 p.kem
  match parseReleaseHeader input.header with
  | .error problem =>
    .error (.envelope .ownCopy s!"the release header is malformed ({problem.name})")
  | .ok header =>
    if header.releaseId ≠ input.releaseId then
      .error (.envelope .releaseMismatch "the header is not the release being re-sealed")
    else
      match parseReleaseCopy input.ownCopy with
      | .error problem =>
        .error (.envelope .ownCopy s!"the owner's copy is malformed ({problem.name})")
      | .ok copy =>
        let owner := input.ownerKeySet
        if owner.identity.accountId ≠ header.ownerAccountId ∨ owner.fingerprint ≠ header.ownerFingerprint then
          .error (.envelope .ownerKeyChanged
            "this device's release key is not the one the release was armed with")
        else if copy.recipientAccountId ≠ header.ownerAccountId ∨
            copy.recipientFingerprint ≠ header.ownerFingerprint then
          .error (.envelope .ownCopy "the copy given is not the owner's own")
        else if input.recipient.accountId = header.ownerAccountId then
          .error (.envelope .recipients "the owner's own copy is not re-sealed")
        else do
          requireOwnerKeySet p owner header.ownerAccountId r.check
          match unwrapCopy p header copy (owner.identity.toJson : Json Int) owner r.owner with
          | .error (.threw failure) => .error failure
          | .error (.returned problem) =>
            .error (.envelope .ownCopy s!"the owner's own copy did not open ({problem.name})")
          | .ok contentKey =>
            match decryptReleaseContent p.aes header contentKey with
            | .error _ =>
              .error (.envelope .ownCopy "the owner's own copy did not open (content)")
            | .ok _ => .ok (header, contentKey)

/-- Opens a copy and seals its key to another identity. -/
def resealReleaseCopy (input : ResealReleaseCopyInput ν) (r : ResealRandom) :
    Except Failure ReleaseCopy := do
  let (header, contentKey) ← resealContentKey p input r
  let ownerSigningKey ← importReleaseSigningKey p.ed25519 input.ownerKeySet.signingPrivateJwk
  sealReleaseCopy p header contentKey input.recipient ownerSigningKey r.copy

variable {p}

/-! ## What each call accepts -/

theorem releaseSignatureVerifier_eq_ok :
    releaseSignatureVerifier p header ownerIdentity seed = .ok v ↔ v.header = header ∧ ∃ identity signingKey,
        verifyReleaseIdentity p ownerIdentity (some header.ownerAccountId) seed =
          .ok (identity, header.ownerFingerprint) ∧
        decodeCanonicalBase64 identity.signingKey (some ED25519_PUBLIC_KEY_BYTES) = some signingKey ∧
        p.ed25519.importVerifyKey signingKey = .ok v.publicKey ∧
        headerBytes header = .ok (v.contentHash, v.keyCommitment) := by
  constructor
  · intro h
    unfold releaseSignatureVerifier at h
    split at h
    · cases h
    · cases h
    · cases h
    next identity fingerprint hidentity =>
    obtain ⟨hfp, hrest⟩ := guard_eq_ok.mp h
    obtain rfl := Decidable.not_not.mp hfp
    split at hrest
    · cases hrest
    next signingKey hkey =>
    split at hrest
    · cases hrest
    · cases hrest
    next publicKey hpublic =>
    split at hrest
    · cases hrest
    next contentHash keyCommitment hcovered =>
    cases hrest
    exact ⟨rfl, identity, signingKey, hidentity, hkey, hpublic, hcovered⟩
  · rintro ⟨rfl, identity, signingKey, hidentity, hkey, hpublic, hcovered⟩
    simp [releaseSignatureVerifier, hidentity, ne_eq, not_true_eq_false, hkey, hpublic, hcovered]

theorem Verifier.verify_eq_true : v.verify copy = .ok true ↔ copy.Form ∧
      ∃ sealedKey signature signed,
        decodeCanonicalBase64 copy.sealedKey (some RELEASE_SEALED_KEY_BYTES) = some sealedKey ∧
        decodeCanonicalBase64 copy.signature (some ED25519_SIGNATURE_BYTES) = some signature ∧
    releaseCopySignedBytes
          (contextFor v.header copy.recipientAccountId copy.recipientFingerprint) v.contentHash
          v.keyCommitment sealedKey = .ok signed ∧ p.ed25519.verify v.publicKey signature signed = .ok true := by
  constructor
  · intro h
    unfold Verifier.verify at h
    split at h
    · cases h
    next parsed hparse =>
    obtain rfl := parseReleaseCopy_toJson_eq hparse
    split at h
    next sealedKey signature hsealed hsignature =>
      split at h
      · cases h
      next signed hsigned =>
      split at h
      next valid hvalid =>
        cases h
        exact ⟨(parseReleaseCopy_eq_ok.mp hparse).2.2, sealedKey, signature, signed, hsealed,
          hsignature, hsigned, hvalid⟩
      next => cases h
    next => cases h
  · rintro ⟨form, sealedKey, signature, signed, hsealed, hsignature, hsigned, hvalid⟩
    have hparse : parseReleaseCopy (copy.toJson : Json Int) = .ok copy := parseReleaseCopy_toJson form
    simp only [Verifier.verify, hparse, hsealed, hsignature, hsigned, hvalid]

theorem openSeal_eq_ok {context : ReleaseCopyContext} {sealedKey secretKey : Bytes} :
    openSeal p context keySet sealedKey secretKey = .ok contentKey ↔
      ∃ privateKey, importReleaseX25519Key p.x25519 keySet.x25519PrivateJwk = .ok privateKey ∧
        ∃ sealed, decodeSealedKey sealedKey = .ok sealed ∧
          ∃ transcript, releaseSealTranscript context = .ok transcript ∧
            hybridOpen p sealed privateKey secretKey transcript = .ok contentKey := by
  simp only [openSeal, bind_eq_ok, thrown_eq_ok]

theorem checkCommitment_eq_ok {key : Bytes} : checkCommitment header contentKey = .ok key ↔
      key = contentKey ∧ contentKey.length = RELEASE_CONTENT_KEY_BYTES ∧
      decodeCanonicalBase64 header.keyCommitment (some RELEASE_KEY_COMMITMENT_BYTES) =
        some (sha256 (commitmentInput contentKey)) := by
  constructor
  · intro h
    unfold checkCommitment at h
    split at h
    · cases h
    next commitment hcommitment =>
    split at h
    · cases h
    next computed hcomputed =>
    obtain ⟨hlen, rfl⟩ := releaseKeyCommitment_eq_ok.mp hcomputed
    obtain ⟨heq, h⟩ := guard_eq_ok.mp h
    cases h
    rw [Decidable.not_not.mp heq]
    exact ⟨rfl, hlen, hcommitment⟩
  · rintro ⟨rfl, hlen, hcommitment⟩
    have hcomputed := releaseKeyCommitment_eq_ok.mpr ⟨hlen, rfl⟩
    simp [checkCommitment, hcommitment, hcomputed, ne_eq, not_true_eq_false]

theorem unwrapCopy_eq_ok :
    unwrapCopy p header copy ownerIdentity keySet seed = .ok contentKey ↔ ∃ verifier sealedKey secretKey,
        releaseSignatureVerifier p header ownerIdentity seed = .ok verifier ∧ verifier.verify copy = .ok true ∧
        decodeCanonicalBase64 copy.sealedKey (some RELEASE_SEALED_KEY_BYTES) = some sealedKey ∧
        decodeCanonicalBase64 keySet.mlkem768SecretKey (some MLKEM768_SECRET_KEY_BYTES) = some secretKey ∧
        openSeal p (contextFor header copy.recipientAccountId copy.recipientFingerprint) keySet
          sealedKey secretKey = .ok contentKey ∧ contentKey.length = RELEASE_CONTENT_KEY_BYTES ∧
        decodeCanonicalBase64 header.keyCommitment (some RELEASE_KEY_COMMITMENT_BYTES) =
          some (sha256 (commitmentInput contentKey)) := by
  constructor
  · intro h
    unfold unwrapCopy at h
    split at h
    · cases h
    · cases h
    · cases h
    next verifier hverifier =>
    split at h
    · cases h
    · cases h
    next hverify =>
    split at h
    next sealedKey secretKey hsealed hsecret =>
      split at h
      · cases h
      · cases h
      · cases h
      next key hopen =>
      obtain ⟨rfl, hlen, hcommitment⟩ := checkCommitment_eq_ok.mp h
      exact ⟨verifier, sealedKey, secretKey, hverifier, hverify, hsealed, hsecret, hopen, hlen, hcommitment⟩
    next => cases h
  · rintro ⟨verifier, sealedKey, secretKey, hverifier, hverify, hsealed, hsecret, hopen, hlen, hcommitment⟩
    simp only [unwrapCopy, hverifier, hverify, hsealed, hsecret, hopen]
    exact checkCommitment_eq_ok.mpr ⟨rfl, hlen, hcommitment⟩

variable {input : OpenReleaseCopyInput ν} {r : OpenRandom}

theorem openContentKey_eq_ok :
    openContentKey p input r = .ok (header, keySet, contentKey) ↔
      ∃ copy, parseReleaseHeader input.header = .ok header ∧ parseReleaseCopy input.copy = .ok copy ∧
        copy.recipientAccountId = input.recipientAccountId ∧
        (input.keySets.find? fun k => k.fingerprint = copy.recipientFingerprint) = some keySet ∧
        assertMlKem768 p.kem = .ok () ∧
        checkReleaseKeySet p (keySet.toJson : Json Int) (some input.recipientAccountId) r.check = .ok () ∧
        unwrapCopy p header copy input.ownerIdentity keySet r.owner = .ok contentKey := by
  constructor
  · intro h
    unfold openContentKey at h
    split at h
    · cases h
    next header' hheader =>
    split at h
    · cases h
    next copy hcopy =>
    obtain ⟨haccount, h⟩ := guard_eq_ok.mp h
    split at h
    · cases h
    next keySet' hfind =>
    split at h
    · cases h
    next hkem =>
    split at h
    · cases h
    · cases h
    · cases h
    next hcheck =>
    obtain ⟨key, hkey, h⟩ := bind_eq_ok.mp h
    cases h
    exact ⟨copy, hheader, hcopy, Decidable.not_not.mp haccount, hfind, hkem, hcheck, hkey⟩
  · rintro ⟨copy, hheader, hcopy, haccount, hfind, hkem, hcheck, hkey⟩
    simp only [openContentKey, hheader, hcopy, haccount, ne_eq, not_true_eq_false, if_false, hfind,
      hkem, hcheck, hkey]
    rfl

theorem openReleaseCopy_eq_ok {opened : ReleaseOpened} :
    openReleaseCopy p input r = .ok opened ↔
      ∃ header keySet contentKey text, openContentKey p input r = .ok (header, keySet, contentKey) ∧
        decryptReleaseContent p.aes header contentKey = .ok text ∧
        opened = ⟨text, header.releaseId, header.ownerAccountId, header.ownerFingerprint,
          keySet.fingerprint⟩ := by
  rw [openReleaseCopy, bind_eq_ok]
  constructor
  · rintro ⟨⟨header, keySet, contentKey⟩, hkey, h⟩
    simp only at h
    split at h
    · cases h
    next text htext =>
    cases h
    exact ⟨header, keySet, contentKey, text, hkey, htext, rfl⟩
  · rintro ⟨header, keySet, contentKey, text, hkey, htext, rfl⟩
    refine ⟨(header, keySet, contentKey), hkey, ?_⟩
    simp only [htext]

theorem resealContentKey_eq_ok {input : ResealReleaseCopyInput ν} {r : ResealRandom} :
    resealContentKey p input r = .ok (header, contentKey) ↔
      ∃ copy text, assertMlKem768 p.kem = .ok () ∧ parseReleaseHeader input.header = .ok header ∧
        header.releaseId = input.releaseId ∧ parseReleaseCopy input.ownCopy = .ok copy ∧
        input.ownerKeySet.identity.accountId = header.ownerAccountId ∧
        input.ownerKeySet.fingerprint = header.ownerFingerprint ∧
          copy.recipientAccountId = header.ownerAccountId ∧
        copy.recipientFingerprint = header.ownerFingerprint ∧ input.recipient.accountId ≠ header.ownerAccountId ∧
        checkReleaseKeySet p (input.ownerKeySet.toJson : Json Int) (some header.ownerAccountId)
          r.check = .ok () ∧
        unwrapCopy p header copy (input.ownerKeySet.identity.toJson : Json Int) input.ownerKeySet
          r.owner = .ok contentKey ∧ decryptReleaseContent p.aes header contentKey = .ok text := by
  rw [resealContentKey, bind_eq_ok]
  constructor
  · rintro ⟨_, hkem, h⟩
    split at h
    · cases h
    next header' hheader =>
    obtain ⟨hid, h⟩ := guard_eq_ok.mp h
    split at h
    · cases h
    next copy hcopy =>
    simp only [guard_eq_ok, not_or, ne_eq, Decidable.not_not] at h
    obtain ⟨⟨haccount, hfp⟩, ⟨hown, hownfp⟩, hother, h⟩ := h
    obtain ⟨_, howner, h⟩ := bind_eq_ok.mp h
    split at h
    · cases h
    · cases h
    next key hkey =>
    split at h
    · cases h
    next text htext =>
    cases h
    exact ⟨copy, text, hkem, hheader, Decidable.not_not.mp hid, hcopy, haccount, hfp, hown, hownfp,
      hother, requireOwnerKeySet_eq_ok.mp howner, hkey, htext⟩
  · rintro ⟨copy, text, hkem, hheader, hid, hcopy, haccount, hfp, hown, hownfp, hother, howner, hkey, htext⟩
    refine ⟨(), hkem, ?_⟩
    simp only [hheader, hid, hcopy, haccount, hfp, hown, hownfp, hother, ne_eq, not_true_eq_false,
      or_self, if_false, bind_eq_ok]
    exact ⟨(), requireOwnerKeySet_eq_ok.mpr howner, by simp only [hkey, htext]⟩

end

end Blackout.Protocol
