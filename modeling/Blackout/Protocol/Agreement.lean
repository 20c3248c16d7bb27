import Blackout.Protocol.Open

/-!
# Building and opening agree (`release/envelope.ts`)

An envelope that was built parses, and the owner and each recipient open it.
-/

namespace Blackout.Protocol

open Json List

variable {valid : Bytes → Bool} {account : String} {e : ReleaseEnvelope} {copy : ReleaseCopy}
  {identity : ReleaseIdentity} {keySets : List ReleaseKeySet}

/-- Of a device's key sets, the ones with a fingerprint are the identity's own: there is one, and
each has that identity and passes its check. -/
structure HoldsKeys (p : Platform) (identity : ReleaseIdentity) (fingerprint : JsString)
    (keySets : List ReleaseKeySet) : Prop where
  found : ∃ k ∈ keySets, k.fingerprint = fingerprint
  own : ∀ k ∈ keySets, k.fingerprint = fingerprint → k.identity = identity ∧
    ∃ r, checkReleaseKeySet p (k.toJson : Json Int) (some identity.accountId) r = .ok ()

theorem HoldsKeys.find {p : Platform} {fingerprint : JsString} (h : HoldsKeys p identity fingerprint keySets) :
    ∃ k, (keySets.find? fun k => k.fingerprint = fingerprint) = some k ∧ k.identity = identity ∧
      k.fingerprint = fingerprint ∧
      ∃ r, checkReleaseKeySet p (k.toJson : Json Int) (some identity.accountId) r = .ok () := by
  obtain ⟨k, hk, hfp⟩ := h.found
  have hsome : (keySets.find? fun k => decide (k.fingerprint = fingerprint)).isSome = true :=
    find?_isSome.mpr ⟨k, hk, decide_eq_true hfp⟩
  obtain ⟨k', hk'⟩ := Option.isSome_iff_exists.mp hsome
  have hfp' := find?_some hk'
  rw [decide_eq_true_eq] at hfp'
  obtain ⟨hidentity, hcheck⟩ := h.own k' (mem_of_find?_eq_some hk') hfp'
  exact ⟨k', hk', hidentity, hfp', hcheck⟩

section
variable {ν : Type} [DecidableEq ν] [One ν]
  {p : Platform} {header : ReleaseHeader} {contentKey : Bytes} {r : SealRandom} {copy : ReleaseCopy}
  {signingKey : p.ed25519.SigningKey} {covered : Bytes × Bytes} {recipient : ReleaseIdentity}

/-- A key set that passes its check makes a verifier that accepts what its private key signs. -/
theorem verifier_of_owner (correct : p.Correct) {owner : ReleaseKeySet} {r : KeyCheckRandom}
    (hcheck : checkReleaseKeySet p (owner.toJson : Json Int) (some owner.identity.accountId) r = .ok ())
    (hkey : importReleaseSigningKey p.ed25519 owner.signingPrivateJwk = .ok signingKey)
    (haccount : header.ownerAccountId = owner.identity.accountId)
    (hfingerprint : header.ownerFingerprint = owner.fingerprint)
    (hcovered : headerBytes header = .ok covered) (seed : Bytes) :
    ∃ publicKey, releaseSignatureVerifier p header (owner.identity.toJson : Json ν) seed =
        .ok ⟨header, publicKey, covered.1, covered.2⟩ ∧
      ∀ {message signature}, p.ed25519.sign signingKey message = .ok signature →
        p.ed25519.verify publicKey signature message = .ok true := by
  obtain ⟨hidentity, keys, message, secretKey, form, -, howns⟩ := checkReleaseKeySet_toJson_ok hcheck
  obtain ⟨privateKey, publicKey, himport, hpublic, hsigns⟩ := howns.signs correct
  obtain rfl : privateKey = signingKey := Except.ok.inj (himport.symm.trans hkey)
  have hverify : verifyReleaseIdentity p (owner.identity.toJson : Json ν)
      (some owner.identity.accountId) seed = .ok (owner.identity, owner.fingerprint) :=
    verifyReleaseIdentity_toJson_eq_ok.mpr (verifyReleaseIdentity_toJson_eq_ok.mp
      (verifyReleaseIdentity_seed correct hidentity seed))
  refine ⟨publicKey, ?_, fun {message signature} hsign => ?_⟩
  · rw [← haccount, ← hfingerprint] at hverify
    exact releaseSignatureVerifier_eq_ok.mpr
      ⟨rfl, owner.identity, keys.signingKey, hverify, form.signingKey, hpublic, hcovered⟩
  · obtain ⟨signature', hsign', hvalid⟩ := hsigns message
    rw [hsign] at hsign'
    cases hsign'
    exact hvalid

theorem verify_recipient (correct : p.Correct)
    (hseal : sealReleaseCopy p header contentKey recipient signingKey r = .ok copy) (seed : Bytes) :
    copy.recipientAccountId = recipient.accountId ∧
    verifyReleaseIdentity p (recipient.toJson : Json Int) (some copy.recipientAccountId) seed =
      .ok (recipient, copy.recipientFingerprint) := by
  obtain ⟨-, ⟨identity, fingerprint⟩, _, _, _, hverified, -, -, -, q, hsealed⟩ := sealReleaseCopy_eq_ok.mp hseal
  have hverified := verifyReleaseIdentity_seed correct hverified seed
  obtain ⟨rfl, -, hrest⟩ := verifyReleaseIdentity_toJson_eq_ok.mp hverified
  obtain rfl := hsealed.copy_eq
  exact ⟨rfl, verifyReleaseIdentity_toJson_eq_ok.mpr
    ⟨rfl, fun a ha => (Option.some.inj ha).symm, hrest⟩⟩

theorem signature_of_form {signature : Bytes} (h : isSignature (toBase64 signature) = true) :
    decodeCanonicalBase64 (toBase64 signature) (some ED25519_SIGNATURE_BYTES) = some signature := by
  obtain ⟨bytes, hbytes, -⟩ := (Option.any_eq_true _ _).mp h
  obtain rfl := toBase64_inj (eq_toBase64 hbytes)
  exact hbytes

/-- What was sealed to an identity opens with the keys of that identity. -/
theorem openSeal_sealed (correct : p.Correct) {k : ReleaseKeySet} {account : Option JsString}
    {rk : KeyCheckRandom} (hcheck : checkReleaseKeySet p (k.toJson : Json Int) account rk = .ok ())
    (hseal : sealReleaseCopy p header contentKey k.identity signingKey r = .ok copy) : ∃ sealedKey secretKey,
      decodeCanonicalBase64 copy.sealedKey (some RELEASE_SEALED_KEY_BYTES) = some sealedKey ∧
      decodeCanonicalBase64 k.mlkem768SecretKey (some MLKEM768_SECRET_KEY_BYTES) = some secretKey ∧
      openSeal p (contextFor header copy.recipientAccountId copy.recipientFingerprint) k sealedKey
        secretKey = .ok contentKey := by
  obtain ⟨-, keys, message, secretKey, form, hsecret, howns⟩ := checkReleaseKeySet_toJson_ok hcheck
  obtain ⟨-, ⟨identity, fingerprint⟩, mlkemKey, ephemeral, encapsulation, hverified, hmlkem,
    hephemeral, hencapsulation, q, hcopy⟩ := sealReleaseCopy_eq_ok.mp hseal
  obtain ⟨rfl, -⟩ := verifyReleaseIdentity_toJson_eq_ok.mp hverified
  obtain rfl := hcopy.copy_eq
  -- The keys the copy was sealed to are the ones that the check found to be the device's own.
  obtain rfl : mlkemKey = keys.mlkem768Key := Option.some.inj (hmlkem.symm.trans form.mlkem768Key)
  obtain ⟨privateKey, identityKey, himport, hidentityKey, hagrees⟩ := howns.agrees correct
  obtain ⟨hlength, ephemeralKey, secret, hephemeralKey, hown, hother⟩ := hagrees hephemeral
  have hrecipient := hcopy.recipientKey
  rw [eq_toBase64 form.x25519Key, hidentityKey] at hrecipient
  obtain rfl := Except.ok.inj hrecipient
  obtain ⟨ciphertext, shared, hencapsulate, hopens⟩ := howns.opens correct r.encapsulation
  rw [hencapsulation] at hencapsulate
  obtain rfl := Except.ok.inj hencapsulate
  refine ⟨q.sealedKey, secretKey,
    decodeCanonicalBase64_toBase64 (length_sealedKey hcopy.sealedKey) (by decide), hsecret,
    openSeal_eq_ok.mpr ⟨privateKey, himport, q.sealed,
      decodeSealedKey_encodeSealedKey hcopy.sealedKey, q.transcript, hcopy.transcript, ?_⟩⟩
  exact hybridOpen_hybridSealWith hcopy.sealed hlength hephemeralKey hown hother hopens

/-- The checks of a copy that was built pass. -/
theorem verify_sealed
    (hseal : sealReleaseCopy p header contentKey recipient signingKey r = .ok copy)
    (form : copy.Form) (hcovered : headerBytes header = .ok covered)
    {publicKey : p.ed25519.VerifyKey}
    (hvalid : ∀ {message signature}, p.ed25519.sign signingKey message = .ok signature →
      p.ed25519.verify publicKey signature message = .ok true) :
    (Verifier.mk header publicKey covered.1 covered.2 : Verifier p).verify copy = .ok true := by
  obtain ⟨-, verified, _, _, _, -, -, -, -, q, hcopy⟩ := sealReleaseCopy_eq_ok.mp hseal
  obtain rfl : q.covered = covered := Except.ok.inj (hcopy.covered.symm.trans hcovered)
  obtain rfl := hcopy.copy_eq
  exact Verifier.verify_eq_true.mpr ⟨form, q.sealedKey, q.signature, q.signed,
    decodeCanonicalBase64_toBase64 (length_sealedKey hcopy.sealedKey) (by decide),
    signature_of_form form.signature, hcopy.signed, hvalid hcopy.signature⟩

end

/-! ## Envelopes that were built -/

theorem EnvelopeForm.owner_copy {ν : Type} [DecidableEq ν] [One ν] {v : Json ν}
    (h : EnvelopeForm v e) (hcopy : copy ∈ e.copies)
    (haccount : copy.recipientAccountId = e.header.ownerAccountId) :
    copy.recipientFingerprint = e.header.ownerFingerprint := by
  obtain ⟨own, hown, hfp⟩ := h.owner
  have hmem : copy ∈ ownerCopies e.header e.copies := mem_filter.mpr ⟨hcopy, decide_eq_true haccount⟩
  rw [hown, mem_singleton] at hmem
  rw [hmem, hfp]

namespace BuiltEnvelope
variable {p : Platform} {input : BuildReleaseEnvelopeInput} {r : BuildRandom} {e : ReleaseEnvelope}
  {content : Bytes × Bytes} {signingKey : p.ed25519.SigningKey}

section
variable (h : BuiltEnvelope p input r e content signingKey)
include h

theorem form :
    EnvelopeForm (e.toJson : Json Int) e := parseReleaseEnvelope_eq_ok.mp h.parses

theorem header_form : e.header.Form := by
  have hheader := h.form.header
  exact (parseReleaseHeader_eq_ok.mp hheader).2.2

theorem copy_form : ∀ c ∈ e.copies, c.Form := by
  obtain ⟨items, -, -, -, hall⟩ := h.form.copies
  exact forall_copy_form hall

theorem ownerAccountId :
    e.header.ownerAccountId = input.ownerKeySet.identity.accountId := by
  rw [h.header]
  rfl

theorem ownerFingerprint :
    e.header.ownerFingerprint = input.ownerKeySet.fingerprint := by
  rw [h.header]
  rfl

theorem commitment :
    decodeCanonicalBase64 e.header.keyCommitment (some RELEASE_KEY_COMMITMENT_BYTES) =
      some (sha256 (commitmentInput r.contentKey)) := by
  rw [h.header]
  exact decodeCanonicalBase64_toBase64 (sha256_length _) (by decide)

theorem decrypts :
    (∃ bucket, encodeReleaseMessage input.message = .ok (utf8Encode input.message) ∧
      pad (utf8Encode input.message) .bucket = .ok (padded (utf8Encode input.message) bucket, bucket) ∧
      decryptPadded p.aes e.header r.contentKey = .ok (padded (utf8Encode input.message) bucket)) ∧
    decryptReleaseContent p.aes e.header r.contentKey =
      .ok ((Utf8.afterBom (scalars input.message)).flatMap Utf16.ofChar) := by
  have hnonce : e.header.contentNonce = toBase64 content.1 := by
    rw [h.header]
    rfl
  have hciphertext : e.header.contentCiphertext = toBase64 content.2 := by
    rw [h.header]
    rfl
  have form := h.header_form
  exact ⟨decryptPadded_encrypt h.encrypted form.ownerFingerprint form.keyCommitment hnonce hciphertext,
    decryptReleaseContent_encrypt h.encrypted form.ownerFingerprint form.keyCommitment hnonce
      hciphertext⟩

end

end BuiltEnvelope

section
variable {ν : Type} [DecidableEq ν] [One ν]

theorem openContentKey_sealed {p : Platform} (correct : p.Correct)
    {input : BuildReleaseEnvelopeInput} {r : BuildRandom}
    {content : Bytes × Bytes} {signingKey : p.ed25519.SigningKey}
    (h : BuiltEnvelope p input r e content signingKey)
    (form : copy.Form) {rc : SealRandom}
    (hseal : sealReleaseCopy p e.header r.contentKey identity signingKey rc = .ok copy)
    (hkeys : HoldsKeys p identity copy.recipientFingerprint keySets) (ro : OpenRandom) :
    ∃ k, openContentKey (ν := ν) p ⟨e.header.toJson, copy.toJson, input.ownerKeySet.identity.toJson,
        identity.accountId, keySets⟩ ro = .ok (e.header, k, r.contentKey) := by
  obtain ⟨-, _, _, _, _, -, -, -, -, q, hsealed⟩ := sealReleaseCopy_eq_ok.mp hseal
  obtain ⟨haccount, -⟩ := verify_recipient correct hseal ro.owner
  obtain ⟨k, hfind, rfl, -, rk, hcheck⟩ := hkeys.find
  obtain ⟨publicKey, hverifier, hvalid⟩ := verifier_of_owner (ν := ν) correct h.owner h.signingKey
    h.ownerAccountId h.ownerFingerprint hsealed.covered ro.owner
  obtain ⟨sealedKey, secretKey, hsealedKey, hsecret, hopen⟩ := openSeal_sealed correct hcheck hseal
  refine ⟨k, openContentKey_eq_ok.mpr ⟨copy, parseReleaseHeader_toJson h.header_form,
    parseReleaseCopy_toJson form, haccount, hfind, h.kem,
    checkReleaseKeySet_random correct hcheck ro.check, ?_⟩⟩
  exact unwrapCopy_eq_ok.mpr ⟨_, sealedKey, secretKey, hverifier,
    verify_sealed hseal form hsealed.covered hvalid, hsealedKey, hsecret, hopen,
    hsealed.length, h.commitment⟩

/-- What was built parses. For the owner and for each recipient, in order, there is a copy for the
identity's account and fingerprint. A device that holds the identity's keys opens it: the checks end
with the content key, under which the content decrypts to the padded message, and the text is
returned. The key set that the envelope was built with opens the owner's copy. -/
theorem release_build_open (p : Platform) (correct : p.Correct) (input : BuildReleaseEnvelopeInput)
    (r : BuildRandom) (e : ReleaseEnvelope) (h : buildReleaseEnvelope p input r = .ok e) :
    parseReleaseEnvelope (e.toJson : Json ν) = .ok e ∧
    (∃ bucket, encodeReleaseMessage input.message = .ok (utf8Encode input.message) ∧
      pad (utf8Encode input.message) .bucket = .ok (padded (utf8Encode input.message) bucket, bucket) ∧
      decryptPadded p.aes e.header r.contentKey = .ok (padded (utf8Encode input.message) bucket)) ∧
    List.Forall₂ (fun identity copy =>
      (∀ seed, verifyReleaseIdentity p (identity.toJson : Json Int) (some copy.recipientAccountId)
        seed = .ok (identity, copy.recipientFingerprint)) ∧
      ∀ keySets, HoldsKeys p identity copy.recipientFingerprint keySets → ∀ ro,
        (∃ k, openContentKey (ν := ν) p ⟨e.header.toJson, copy.toJson,
          input.ownerKeySet.identity.toJson, identity.accountId, keySets⟩ ro = .ok (e.header, k, r.contentKey)) ∧
        ∃ opened, openReleaseCopy (ν := ν) p ⟨e.header.toJson, copy.toJson,
          input.ownerKeySet.identity.toJson, identity.accountId, keySets⟩ ro = .ok opened ∧
          opened.text = (Utf8.afterBom (scalars input.message)).flatMap Utf16.ofChar)
      (input.ownerKeySet.identity :: input.recipients) e.copies ∧
    (∀ copy ∈ e.copies, copy.recipientAccountId = e.header.ownerAccountId →
      HoldsKeys p input.ownerKeySet.identity copy.recipientFingerprint [input.ownerKeySet]) := by
  obtain ⟨content, signingKey, hbuilt⟩ := buildReleaseEnvelope_ok h
  obtain ⟨hpadded, htext⟩ := hbuilt.decrypts
  refine ⟨parseReleaseEnvelope_eq_ok.mpr hbuilt.form.toJson, hpadded, ?_, ?_⟩
  · obtain ⟨hlength, hcopies⟩ := forall₂_iff_get.mp hbuilt.copies
    refine forall₂_iff_get.mpr ⟨hlength, fun i hi hi' => ?_⟩
    obtain ⟨rc, hseal⟩ := hcopies i hi hi'
    have form := hbuilt.copy_form _ (get_mem e.copies ⟨i, hi'⟩)
    refine ⟨fun seed => (verify_recipient correct hseal seed).2, fun keySets hkeys ro => ?_⟩
    obtain ⟨k, hkey⟩ := openContentKey_sealed (ν := ν) correct hbuilt form hseal hkeys ro
    exact ⟨⟨k, hkey⟩, _, openReleaseCopy_eq_ok.mpr ⟨e.header, k, r.contentKey, _, hkey, htext, rfl⟩, rfl⟩
  · intro copy hcopy haccount
    rw [hbuilt.form.owner_copy hcopy haccount, hbuilt.ownerFingerprint]
    exact ⟨⟨_, mem_singleton_self _, rfl⟩, fun k hk _ => by
      rw [mem_singleton.mp hk]
      exact ⟨rfl, r.check, hbuilt.owner⟩⟩

end

/-! ## A platform for examples

Its keys are units, and the messages given have one signature. -/

def toySignature : Bytes := 2 :: List.replicate 63 0

/-- Other messages have another signature. -/
def toySign (valid : Bytes → Bool) (message : Bytes) : Bytes :=
  if valid message then toySignature else 3 :: List.replicate 63 0

/-- A platform on which samples can be evaluated. -/
def toyPlatform (valid : Bytes → Bool) : Platform where
  aes := plainAesGcm
  ed25519 := { SigningKey := Unit
               VerifyKey := Unit
               importSigningKey := fun _ _ => .ok ()
               importVerifyKey := fun _ => .ok ()
               sign := fun _ message => .ok (toySign valid message)
               verify := fun _ signature message => .ok (signature = toySign valid message) }
  x25519 := { PrivateKey := Unit
              PublicKey := Unit
              importPrivateKey := fun _ _ => .ok ()
              importPublicKey := fun _ => .ok ()
              generateKeyPair := fun _ => .ok ((), 9 :: List.replicate 31 0)
              deriveBits := fun _ _ => .ok (List.replicate 32 1) }
  kem := { publicKeyLength := 1184
           secretKeyLength := 2400
           ciphertextLength := 1088
           sharedSecretLength := 32
           encapsulate := fun _ _ => .ok (List.replicate 1088 0, List.replicate 32 1)
           decapsulate := fun _ _ => .ok (List.replicate 32 1) }
  dateParses _ := true

theorem toyPlatform_correct (valid : Bytes → Bool) : (toyPlatform valid).Correct where
  sign_verify _ _ message := ⟨_, rfl, congrArg Except.ok (decide_eq_true rfl)⟩
  contributes _ _ _ seed := ⟨(), _, _, rfl, rfl, by decide⟩
  agrees _ _ _ _ _ := by
    rintro _ _ _ h
    cases h
    exact ⟨rfl, (), _, rfl, rfl, rfl⟩
  opens _ _ seed := ⟨_, _, rfl, rfl⟩

theorem toySignature_eq_iff {message : Bytes} : toySignature = toySign valid message ↔ valid message = true := by
  rw [toySign]
  split
  · simp [*]
  · simp [*, toySignature]

theorem toy_verify {message : Bytes} (h : valid message = true) :
    (toyPlatform valid).ed25519.verify () toySignature message = .ok true :=
  congrArg Except.ok (decide_eq_true (toySignature_eq_iff.mpr h))

theorem toy_sign {message : Bytes} (h : valid message = true) :
    (toyPlatform valid).ed25519.sign () message = .ok toySignature :=
  congrArg Except.ok (toySignature_eq_iff.mpr h).symm

def toyKeys : IdentityKeys where
  signingKey := 2 :: List.replicate 31 0
  x25519Key := 9 :: List.replicate 31 0
  mlkem768Key := List.replicate 1184 0
  signature := toySignature

def toyIdentity (account : String) : ReleaseIdentity where
  accountId := jsString account
  signingKey := toBase64 toyKeys.signingKey
  x25519Key := toBase64 toyKeys.x25519Key
  mlkem768Key := toBase64 toyKeys.mlkem768Key
  signature := toBase64 toyKeys.signature

def toyMessage (account : String) : Bytes :=
  let input := SignedInput.identity (toyKeys.fields (jsString account))
  labelBytes input.label ++ input.payload

def toyKeySet (account : String) : ReleaseKeySet where
  identity := toyIdentity account
  fingerprint := toHex (sha256 (toyMessage account))
  signingPrivateJwk := ⟨.ed25519, toBase64Url toyKeys.signingKey, toBase64Url toyKeys.signingKey⟩
  x25519PrivateJwk := ⟨.x25519, toBase64Url toyKeys.x25519Key, toBase64Url toyKeys.x25519Key⟩
  mlkem768SecretKey := toBase64 (List.replicate 2400 0)
  createdAt := []

theorem toy_signingKey_url : (decodeBase64Url (toBase64Url toyKeys.signingKey) 32).isSome = true := by
  decide

theorem toy_x25519Key_url : (decodeBase64Url (toBase64Url toyKeys.x25519Key) 32).isSome = true := by
  decide

section
variable (haccount : releaseAccountIdPattern (jsString account) = true)
  (hvalid : valid (toyMessage account) = true)
include haccount hvalid

theorem toy_identityForm :
    IdentityForm (toyPlatform valid) (toyIdentity account) toyKeys (toyMessage account) where
  accountId := haccount
  signingKey := decodeCanonicalBase64_toBase64 rfl (by decide)
  signingKeyForm := by decide
  x25519Key := decodeCanonicalBase64_toBase64 rfl (by decide)
  x25519KeyForm := by decide
  mlkem768Key := decodeCanonicalBase64_toBase64 length_replicate (by decide)
  mlkem768KeyForm := by decide +kernel
  signature := decodeCanonicalBase64_toBase64 rfl (by decide)
  signatureForm := sampleSignature_acceptable
  signedBytes := (SignedInput.bytes_eq_ok (m := .identity (toyKeys.fields (jsString account)))).mpr
    ⟨⟨haccount, rfl, rfl, length_replicate⟩, rfl⟩
  verified := toy_verify hvalid

theorem toy_verifyReleaseIdentity {ν : Type} [DecidableEq ν] [One ν] {asked : Option JsString}
    (hasked : ∀ a, asked = some a → a = jsString account) (seed : Bytes) :
    verifyReleaseIdentity (toyPlatform valid) ((toyIdentity account).toJson : Json ν) asked seed =
      .ok (toyIdentity account, toHex (sha256 (toyMessage account))) :=
  verifyReleaseIdentity_toJson_eq_ok.mpr ⟨rfl, hasked, toyKeys, toyMessage account,
    toy_identityForm haccount hvalid, x25519KeyContributes_eq_yes.mpr
      ⟨by decide, (), rfl, _, rfl, _, rfl, by decide⟩, rfl⟩

theorem toy_checkReleaseKeySet {r : KeyCheckRandom} (hchallenge : valid (keyCheckMessage r.challenge) = true) :
    checkReleaseKeySet (toyPlatform valid) ((toyKeySet account).toJson : Json Int)
      (some (jsString account)) r = .ok () := by
  refine checkReleaseKeySet_eq_ok.mpr ⟨(toyKeySet account).fields, toyIdentity account,
    readKeySet_toJson_eq_some.mpr ⟨rfl,
      okpJwk_toJson_eq_some.mpr ⟨rfl, rfl, toy_signingKey_url, toy_signingKey_url⟩,
      okpJwk_toJson_eq_some.mpr ⟨rfl, rfl, toy_x25519Key_url, toy_x25519Key_url⟩, rfl⟩,
    toy_verifyReleaseIdentity haccount hvalid (fun a ha => (Option.some.inj ha).symm) _, toyKeys,
    toyMessage account, List.replicate 2400 0, toy_identityForm haccount hvalid,
    decodeCanonicalBase64_toBase64 length_replicate (by decide), ?_⟩
  exact ⟨signingKeyMatches_eq_true.mpr
      ⟨rfl, (), (), toySignature, rfl, rfl, toy_sign hchallenge, toy_verify hchallenge⟩,
    x25519KeyMatches_eq_true.mpr ⟨rfl, (), (), _, (), _, rfl,
      importRecipientPublicKey_toBase64 rfl, rfl, importRecipientPublicKey_toBase64 rfl, rfl, rfl,
      by decide⟩, rfl,
    mlKemKeyMatches_eq_yes.mpr ⟨by decide +kernel, _, _, rfl, rfl⟩⟩

end

/-! ### An envelope for two -/

def toyContentKey : Bytes := List.replicate 32 0
def toyNonce : Bytes := List.replicate 12 0

def toyContent : Bytes × Bytes := (toyNonce, padded (utf8Encode (jsString "hi")) 1024 ++ List.replicate 16 0)

def toyHeader : ReleaseHeader :=
  headerOf sampleContext.releaseId (toyKeySet "ana") toyContent
    (sha256 (commitmentInput toyContentKey))

def toySealed : HybridSealed where
  ephemeralPublicKey := 9 :: List.replicate 31 0
  kemCiphertext := List.replicate 1088 0
  nonce := toyNonce
  ciphertext := toyContentKey ++ List.replicate 16 0

def toySealedKey : Bytes :=
  toySealed.ephemeralPublicKey ++ (toySealed.kemCiphertext ++ (toySealed.nonce ++ toySealed.ciphertext))

def toyContext (account : String) : ReleaseCopyContext :=
  contextFor toyHeader (jsString account) (toHex (sha256 (toyMessage account)))

def toySigned (account : String) : Bytes :=
  let input := SignedInput.copySignature (toyContext account)
    (releaseContentHash toyContent.1 toyContent.2) (sha256 (commitmentInput toyContentKey)) toySealedKey
  labelBytes input.label ++ input.payload

def toyCopy (account : String) : ReleaseCopy where
  recipientAccountId := jsString account
  recipientFingerprint := toHex (sha256 (toyMessage account))
  sealedKey := toBase64 toySealedKey
  signature := toBase64 toySignature

theorem toyContent_encrypted (valid : Bytes → Bool) :
    encryptReleaseContentWith (toyPlatform valid).aes (jsString "hi") sampleContext.releaseId
      (jsString "ana") toyContentKey toyNonce = .ok toyContent :=
  encrypt_sample (by decide) (by decide)

theorem toyHeader_form : toyHeader.Form :=
  toyHeader.form_of_content (toyContent_encrypted fun _ => true)
    (isFingerprint_toHex (sha256_length _)) (isBase64Of_toBase64 (sha256_length _) (by decide)) rfl rfl

theorem toyHeader_covered : headerBytes toyHeader =
    .ok (releaseContentHash toyContent.1 toyContent.2, sha256 (commitmentInput toyContentKey)) := by
  refine headerBytes_eq_ok.mpr ⟨toyContent.1, toyContent.2, decodeCanonicalBase64_toBase64 rfl (by decide), ?_,
    decodeCanonicalBase64_toBase64 (sha256_length _) (by decide), rfl⟩
  exact decodeCanonicalBase64_eq_some.mpr ⟨rfl, by simp [toyContent], nofun⟩

theorem toySealed_encoded : encodeSealedKey toySealed = .ok toySealedKey :=
  encodeSealedKey_eq_ok.mpr ⟨⟨rfl, length_replicate, rfl, rfl⟩, rfl⟩

section
variable (haccount : releaseAccountIdPattern (jsString account) = true)
include haccount

theorem toyCopy_form : (toyCopy account).Form where
  recipientAccountId := haccount
  recipientFingerprint := isFingerprint_toHex (sha256_length _)
  sealedKey := (isSealedKey_toBase64 (length_sealedKey toySealed_encoded)).trans (by decide)
  signature := (isSignature_toBase64 rfl).trans sampleSignature_acceptable

theorem toyContext_form :
    ContextForm (toyContext account) where
  releaseId := toyHeader_form.releaseId
  owner := toyHeader_form.ownerAccountId
  ownerFingerprint := ⟨_, fromHex_eq_some.mpr ⟨rfl, sha256_length _⟩⟩
  recipient := haccount
  recipientFingerprint := ⟨_, fromHex_eq_some.mpr ⟨rfl, sha256_length _⟩⟩

theorem toySigned_eq :
    releaseCopySignedBytes (toyContext account) (releaseContentHash toyContent.1 toyContent.2)
      (sha256 (commitmentInput toyContentKey)) toySealedKey = .ok (toySigned account) :=
  (SignedInput.bytes_eq_ok (m := .copySignature (toyContext account) _ _ _)).mpr
    ⟨⟨toyContext_form haccount, sha256_length _, sha256_length _, length_sealedKey toySealed_encoded⟩, rfl⟩

end

def toyRandom : BuildRandom where
  check := ⟨[], [], [], []⟩
  releaseId := []
  contentKey := toyContentKey
  nonce := toyNonce
  copies _ := ⟨[], [], [], toyNonce⟩

theorem toy_sealReleaseCopy (haccount : releaseAccountIdPattern (jsString account) = true)
    (hvalid : valid (toyMessage account) = true) (hcopy : valid (toySigned account) = true) :
    sealReleaseCopy (toyPlatform valid) toyHeader toyContentKey (toyIdentity account) ()
      ⟨[], [], [], toyNonce⟩ = .ok (toyCopy account) := by
  have hsecret : (List.replicate 32 1 : Bytes).length ≠ 0 := by decide
  obtain ⟨key, hkey⟩ := importDerivedKey_ok hsecret hsecret (9 :: List.replicate 31 0)
    (List.replicate 1088 0)
  refine sealReleaseCopy_eq_ok.mpr ⟨assertMlKem768_eq_ok.mpr ⟨rfl, rfl, rfl⟩, _,
    toyKeys.mlkem768Key, _, _, toy_verifyReleaseIdentity haccount hvalid (by nofun) _,
    decodeCanonicalBase64_toBase64 length_replicate (by decide), rfl, rfl, ?_⟩
  exact ⟨⟨(), _, toySealed, toySealedKey, _, toySigned account, toySignature⟩, rfl,
    importRecipientPublicKey_toBase64 rfl,
    (SignedInput.bytes_eq_ok (m := .sealTranscript (toyContext account))).mpr
      ⟨toyContext_form haccount, rfl⟩,
    hybridSealWith_eq_ok.mpr ⟨rfl, _, rfl, by decide, key, hkey, rfl⟩, toySealed_encoded,
    toyHeader_covered, toySigned_eq haccount, toy_sign hcopy, rfl⟩

def toyEnvelope : ReleaseEnvelope where
  header := toyHeader
  copies := [toyCopy "ana", toyCopy "ben"]

def toyInput : BuildReleaseEnvelopeInput where
  ownerKeySet := toyKeySet "ana"
  recipients := [toyIdentity "ben"]
  message := jsString "hi"
  releaseId := some sampleContext.releaseId

theorem toyEnvelope_form : EnvelopeForm (toyEnvelope.toJson : Json Int) toyEnvelope where
  fields := ⟨_, rfl, List.Perm.refl _⟩
  header := parseReleaseHeader_toJson toyHeader_form
  copies := ⟨_, rfl, by decide, by decide, .cons
    (parseReleaseCopy_toJson (toyCopy_form (by decide)))
    (.cons (parseReleaseCopy_toJson (toyCopy_form (by decide))) .nil)⟩
  distinct := pairwise_pair.mpr (by decide)
  owner := ⟨toyCopy "ana", rfl, rfl⟩

theorem toy_buildReleaseEnvelope :
    buildReleaseEnvelope (toyPlatform fun _ => true) toyInput toyRandom = .ok toyEnvelope := by
  have hcheck : checkReleaseKeySet (toyPlatform fun _ => true) toyInput.ownerKeySet.toJson
      (some toyInput.ownerKeySet.identity.accountId) toyRandom.check = .ok () :=
    toy_checkReleaseKeySet (by decide) rfl rfl
  simp only [buildReleaseEnvelope, bind_eq_ok, guard_eq_ok, requireOwnerKeySet_eq_ok,
    releaseKeyCommitment_eq_ok, parseBuilt_eq_ok]
  refine ⟨(), assertMlKem768_eq_ok.mpr ⟨rfl, rfl, rfl⟩, (), hcheck, by decide, by decide,
    toyContent, toyContent_encrypted _, _, ⟨rfl, rfl⟩, (), rfl, toyEnvelope.copies, ?_,
    parseReleaseEnvelope_eq_ok.mpr toyEnvelope_form⟩
  exact bind_eq_ok.mpr ⟨_, toy_sealReleaseCopy (by decide) rfl rfl, bind_eq_ok.mpr
    ⟨[toyCopy "ben"], bind_eq_ok.mpr ⟨_, toy_sealReleaseCopy (by decide) rfl rfl, rfl⟩, rfl⟩⟩

theorem release_build_open_toy : ∃ opened, openReleaseCopy (ν := Int) (toyPlatform fun _ => true)
      ⟨toyHeader.toJson, (toyCopy "ana").toJson, (toyIdentity "ana").toJson, jsString "ana",
        [toyKeySet "ana"]⟩ ⟨toyRandom.check, []⟩ = .ok opened ∧ opened.text = jsString "hi" := by
  obtain ⟨-, -, hcopies, hown⟩ := release_build_open (ν := Int) _ (toyPlatform_correct _) toyInput
    toyRandom toyEnvelope toy_buildReleaseEnvelope
  obtain ⟨_, hopen⟩ := (forall₂_cons.mp hcopies).1
  obtain ⟨-, opened, hopened, htext⟩ := hopen [toyKeySet "ana"]
    (hown (toyCopy "ana") (mem_cons_self ..) rfl) ⟨toyRandom.check, []⟩
  exact ⟨opened, hopened, htext.trans (by decide)⟩

end Blackout.Protocol
