import Mathlib.Data.Set.Function
import Blackout.Protocol.Agreement

/-!
# What an opened copy binds (`release/envelope.ts`)

A copy that opens carries the owner's signature of a record for this release, this content and this
key (`release_copy_binding`). If the owner signs only records that they made, it is one of these.
-/

namespace Blackout.Protocol

open Json List

/-- What an owner seals and signs in one copy. -/
structure CopyRecord where
  context : ReleaseCopyContext
  contentNonce : Bytes
  contentCiphertext : Bytes
  contentKey : Bytes
  sealedKey : Bytes
  nonce_length : contentNonce.length = RELEASE_NONCE_BYTES

namespace CopyRecord

def content (c : CopyRecord) : Bytes := c.contentNonce ++ c.contentCiphertext

def signedInput (c : CopyRecord) : SignedInput :=
  .copySignature c.context (sha256 c.content) (sha256 (commitmentInput c.contentKey)) c.sealedKey

/-- The strings of which the signed input has the hashes are among those given. -/
def HashedIn (c : CopyRecord) (contents commitments : Set Bytes) : Prop :=
  c.content ∈ contents ∧ commitmentInput c.contentKey ∈ commitments

/-- Every field of the header and the copy is the record's. -/
structure Shows (c : CopyRecord) (header : ReleaseHeader) (copy : ReleaseCopy) : Prop where
  context : c.context = contextFor header copy.recipientAccountId copy.recipientFingerprint
  contentNonce : header.contentNonce = toBase64 c.contentNonce
  contentCiphertext : header.contentCiphertext = toBase64 c.contentCiphertext
  keyCommitment : header.keyCommitment = toBase64 (sha256 (commitmentInput c.contentKey))
  sealedKey : copy.sealedKey = toBase64 c.sealedKey

theorem Shows.releaseId {c : CopyRecord} {header : ReleaseHeader} {copy : ReleaseCopy}
    (h : c.Shows header copy) : c.context.releaseId = header.releaseId := by
  rw [h.context]
  rfl

end CopyRecord

/-- A signature that is presented verifies for messages that the holder of the key signed, and what
opens under a transcript was sealed under it. -/
structure Trust (p : Platform) (signed : Bytes → Bytes → Prop)
    (sealedUnder : HybridSealed → Bytes → Bytes → Prop) (signature : Bytes) : Prop where
  unforgeable : ∀ {raw key message}, p.ed25519.importVerifyKey raw = .ok key →
    p.ed25519.verify key signature message = .ok true → signed raw message
  ownTranscript : ∀ {sealed privateKey secretKey transcript contentKey},
    hybridOpen p sealed privateKey secretKey transcript = .ok contentKey →
    sealedUnder sealed transcript contentKey

/-- The holder of a key signs, of the inputs for copies, those of records that they made. No two
contents that are hashed for these have one hash, and no two commitments. -/
structure OwnerSigns (signed : Bytes → Bytes → Prop) (raw : Bytes) (own : CopyRecord → Prop)
    (contents commitments : Set Bytes) : Prop where
  made : ∀ {context contentHash keyCommitment sealedKey message},
    (SignedInput.copySignature context contentHash keyCommitment sealedKey).bytes = .ok message →
    signed raw message → ∃ record, own record ∧ record.signedInput.bytes = .ok message
  hashed : ∀ {record}, own record → record.HashedIn contents commitments
  contents_injOn : Set.InjOn sha256 contents
  commitments_injOn : Set.InjOn sha256 commitments

/-- What a copy that opens is bound to. -/
structure BoundCopy (p : Platform) (signed : Bytes → Bytes → Prop)
    (sealedUnder : HybridSealed → Bytes → Bytes → Prop) (header : ReleaseHeader) (copy : ReleaseCopy)
    (identity : ReleaseIdentity) (keys : IdentityKeys) (record : CopyRecord) : Prop where
  account : identity.accountId = header.ownerAccountId
  fingerprint : ∃ message, IdentityForm p identity keys message ∧
    header.ownerFingerprint = toHex (sha256 message)
  valid : ∃ publicKey signature message, p.ed25519.importVerifyKey keys.signingKey = .ok publicKey ∧
    copy.signature = toBase64 signature ∧ record.signedInput.bytes = .ok message ∧
    p.ed25519.verify publicKey signature message = .ok true ∧ signed keys.signingKey message
  shown : record.Shows header copy
  sealed : ∃ sealed transcript, decodeSealedKey record.sealedKey = .ok sealed ∧
    (∀ context, releaseSealTranscript context = .ok transcript ↔ context = record.context) ∧
    sealedUnder sealed transcript record.contentKey
  made : ∀ {own contents commitments}, OwnerSigns signed keys.signingKey own contents commitments →
    record.HashedIn contents commitments → own record

section
variable {ν : Type} [DecidableEq ν] [One ν] {p : Platform} {signed : Bytes → Bytes → Prop}
  {sealedUnder : HybridSealed → Bytes → Bytes → Prop} {header : ReleaseHeader} {contentKey : Bytes}
  {copy : ReleaseCopy}

theorem made_of_signed {raw message : Bytes} {own : CopyRecord → Prop} {contents commitments : Set Bytes}
    {record : CopyRecord} (hbytes : record.signedInput.bytes = .ok message) (hsigned : signed raw message)
    (owner : OwnerSigns signed raw own contents commitments) (hrecord : record.HashedIn contents commitments) :
    own record := by
  obtain ⟨other, hown, hother⟩ := owner.made hbytes hsigned
  have hsame := SignedInput.bytes_inj hother hbytes
  simp only [CopyRecord.signedInput, SignedInput.copySignature.injEq] at hsame
  obtain ⟨hcontext, hcontent, hkey, hsealedKey⟩ := hsame
  have hkey := append_cancel_left (owner.commitments_injOn (owner.hashed hown).2 hrecord.2 hkey)
  obtain ⟨hnonce, hciphertext⟩ := append_inj (owner.contents_injOn (owner.hashed hown).1 hrecord.1 hcontent)
    (other.nonce_length.trans record.nonce_length.symm)
  have heq : other = record := by
    cases record
    cases other
    simp_all
  exact heq ▸ hown

theorem record_of_verified {v : Verifier p} (hv : v.header = header)
    (hcovered : headerBytes header = .ok (v.contentHash, v.keyCommitment))
    (hcommitment : decodeCanonicalBase64 header.keyCommitment (some RELEASE_KEY_COMMITMENT_BYTES) =
      some (sha256 (commitmentInput contentKey))) (hverify : v.verify copy = .ok true) :
    ∃ record : CopyRecord, record.Shows header copy ∧ record.contentKey = contentKey ∧
      ∃ signature message, copy.signature = toBase64 signature ∧ record.signedInput.bytes = .ok message ∧
        p.ed25519.verify v.publicKey signature message = .ok true := by
  subst hv
  obtain ⟨-, sealedKey, signature, message, hsealed, hsignature, hmessage, hvalid⟩ :=
    Verifier.verify_eq_true.mp hverify
  obtain ⟨nonce, ciphertext, hnonce, hciphertext, hcommitment', hhash⟩ := headerBytes_eq_ok.mp hcovered
  obtain ⟨hnonce, -, hlength⟩ := decodeCanonicalBase64_eq_some.mp hnonce
  have hcommitment := eq_toBase64 hcommitment
  have hcommitted := toBase64_inj ((eq_toBase64 hcommitment').symm.trans hcommitment)
  simp only at hcommitted hhash
  rw [hhash, hcommitted] at hmessage
  exact ⟨⟨_, nonce, ciphertext, contentKey, sealedKey, hlength _ rfl⟩,
    ⟨rfl, hnonce, eq_toBase64 hciphertext, hcommitment, eq_toBase64 hsealed⟩, rfl, signature, message,
    eq_toBase64 hsignature, hmessage, hvalid⟩

theorem unwrapCopy_bound {ownerIdentity : Json ν} {k : ReleaseKeySet} {seed : Bytes}
    (trust : ∀ signature, copy.signature = toBase64 signature → Trust p signed sealedUnder signature)
    (h : unwrapCopy p header copy ownerIdentity k seed = .ok contentKey) : ∃ identity keys record,
      verifyReleaseIdentity p ownerIdentity (some header.ownerAccountId) seed =
        .ok (identity, header.ownerFingerprint) ∧
      BoundCopy p signed sealedUnder header copy identity keys record ∧
      record.contentKey = contentKey := by
  obtain ⟨v, sealedKey, secretKey, hverifier, hverify, hsealed, -, hopen, -, hcommitment⟩ :=
    unwrapCopy_eq_ok.mp h
  obtain ⟨hheader, identity, signingKey, hidentity, hsigningKey, hpublic, hcovered⟩ :=
    releaseSignatureVerifier_eq_ok.mp hverifier
  obtain ⟨-, -, haccount, keys, message, form, -, hfingerprint⟩ := verifyReleaseIdentity_eq_ok.mp hidentity
  obtain rfl : signingKey = keys.signingKey := Option.some.inj (hsigningKey.symm.trans form.signingKey)
  obtain ⟨record, hshown, rfl, signature, signedBytes, hsignature, hbytes, hvalid⟩ :=
    record_of_verified hheader hcovered hcommitment hverify
  obtain ⟨_, -, sealed, hdecoded, transcript, htranscript, hopened⟩ := openSeal_eq_ok.mp hopen
  obtain rfl : record.sealedKey = sealedKey :=
    toBase64_inj (hshown.sealedKey.symm.trans (eq_toBase64 hsealed))
  rw [← hshown.context] at htranscript
  have hsigned := (trust signature hsignature).unforgeable hpublic hvalid
  refine ⟨identity, keys, record, hidentity, ⟨(haccount _ rfl).symm, ⟨message, form, hfingerprint⟩,
    ⟨v.publicKey, signature, signedBytes, hpublic, hsignature, hbytes, hvalid, hsigned⟩, hshown,
    ⟨sealed, transcript, hdecoded, fun context => ⟨fun hc => ?_, fun hc => hc ▸ htranscript⟩,
      (trust signature hsignature).ownTranscript hopened⟩, made_of_signed hbytes hsigned⟩, rfl⟩
  have heq : SignedInput.sealTranscript context = .sealTranscript record.context :=
    SignedInput.bytes_inj hc htranscript
  exact SignedInput.sealTranscript.inj heq

theorem SealedCopy.record {recipient : ReleaseIdentity × JsString} {signingKey : p.ed25519.SigningKey}
    {ephemeral : p.x25519.PrivateKey × Bytes} {encapsulation : Bytes × Bytes} {nonce : Bytes} {q : SealParts p}
    (h : SealedCopy p header contentKey recipient signingKey ephemeral encapsulation nonce copy q)
    (hcommitment : header.keyCommitment = toBase64 (sha256 (commitmentInput contentKey))) :
    ∃ record : CopyRecord, record.Shows header copy ∧ record.contentKey = contentKey ∧
      record.sealedKey = q.sealedKey ∧ record.signedInput.bytes = .ok q.signed := by
  obtain ⟨contentNonce, contentCiphertext, hnonce, hciphertext, hcovered, hhash⟩ :=
    headerBytes_eq_ok.mp h.covered
  obtain ⟨hnonce, -, hlength⟩ := decodeCanonicalBase64_eq_some.mp hnonce
  have hsigned := h.signed
  rw [hhash, toBase64_inj ((eq_toBase64 hcovered).symm.trans hcommitment)] at hsigned
  obtain rfl := h.copy_eq
  exact ⟨⟨_, contentNonce, contentCiphertext, contentKey, q.sealedKey, hlength _ rfl⟩,
    ⟨rfl, hnonce, eq_toBase64 hciphertext, hcommitment, rfl⟩, rfl, rfl, hsigned⟩

/-- A copy that `openReleaseCopy` opens carries a signature that the holder of an identity with the
header's account and fingerprint made, of a record that the header and the copy show; the key it
unwraps is the record's. So does the owner's own copy that `resealReleaseCopy` opens, with the
release id asked for, and the copy it makes shows a record of the same release, content and key. If
the owner signs only records that they made, and these have their release's key, this key is sealed
and no other. -/
theorem release_copy_binding (p : Platform) (signed : Bytes → Bytes → Prop)
    (sealedUnder : HybridSealed → Bytes → Bytes → Prop) :
    (∀ (input : OpenReleaseCopyInput ν) (r : OpenRandom) (opened : ReleaseOpened),
      (∀ copy signature, parseReleaseCopy input.copy = .ok copy →
        copy.signature = toBase64 signature → Trust p signed sealedUnder signature) →
      openReleaseCopy p input r = .ok opened →
      ∃ header copy k identity keys record, parseReleaseHeader input.header = .ok header ∧
        parseReleaseCopy input.copy = .ok copy ∧
        verifyReleaseIdentity p input.ownerIdentity (some header.ownerAccountId) r.owner =
          .ok (identity, header.ownerFingerprint) ∧
        openContentKey p input r = .ok (header, k, record.contentKey) ∧
        BoundCopy p signed sealedUnder header copy identity keys record ∧
        opened.releaseId = record.context.releaseId ∧
        opened.ownerAccountId = record.context.ownerAccountId ∧
        opened.ownerFingerprint = record.context.ownerFingerprint) ∧
    (∀ (input : ResealReleaseCopyInput ν) (r : ResealRandom) (made : ReleaseCopy),
      (∀ copy signature, parseReleaseCopy input.ownCopy = .ok copy →
        copy.signature = toBase64 signature → Trust p signed sealedUnder signature) →
      resealReleaseCopy p input r = .ok made →
      ∃ header copy keys record, parseReleaseHeader input.header = .ok header ∧
        parseReleaseCopy input.ownCopy = .ok copy ∧
        resealContentKey p input r = .ok (header, record.contentKey) ∧
        BoundCopy p signed sealedUnder header copy input.ownerKeySet.identity keys record ∧
        record.context.releaseId = input.releaseId ∧
        (∃ signingKey ephemeral encapsulation q record', SealedCopy p header record.contentKey
            (input.recipient, made.recipientFingerprint) signingKey ephemeral encapsulation r.copy.nonce
            made q ∧
          CopyRecord.Shows record' header made ∧ record'.sealedKey = q.sealedKey ∧
          record'.contentKey = record.contentKey ∧ record'.context.releaseId = input.releaseId) ∧
        ∀ (own : CopyRecord → Prop) (contents commitments : Set Bytes) (keyOf : JsString → Bytes),
          OwnerSigns signed keys.signingKey own contents commitments →
          record.HashedIn contents commitments →
          (∀ record, own record → record.contentKey = keyOf record.context.releaseId) →
          record.contentKey = keyOf input.releaseId) := by
  constructor
  · intro input r opened trust h
    obtain ⟨header, k, contentKey, text, hkey, -, rfl⟩ := openReleaseCopy_eq_ok.mp h
    obtain ⟨copy, hheader, hcopy, -, -, -, -, hunwrap⟩ := openContentKey_eq_ok.mp hkey
    obtain ⟨identity, keys, record, hidentity, hbound, rfl⟩ :=
      unwrapCopy_bound (fun signature => trust copy signature hcopy) hunwrap
    have hcontext := hbound.shown.context
    exact ⟨header, copy, k, identity, keys, record, hheader, hcopy, hidentity, hkey, hbound,
      by rw [hcontext]; rfl, by rw [hcontext]; rfl, by rw [hcontext]; rfl⟩
  · intro input r made trust h
    obtain ⟨⟨header, contentKey⟩, hkey, h⟩ := bind_eq_ok.mp h
    obtain ⟨signingKey, -, hseal⟩ := bind_eq_ok.mp h
    obtain ⟨copy, text, -, hheader, hid, hcopy, -, -, -, -, -, -, hunwrap, -⟩ :=
      resealContentKey_eq_ok.mp hkey
    obtain ⟨identity, keys, record, hidentity, hbound, rfl⟩ :=
      unwrapCopy_bound (fun signature => trust copy signature hcopy) hunwrap
    obtain ⟨rfl, -⟩ := verifyReleaseIdentity_toJson_eq_ok.mp hidentity
    obtain ⟨-, ⟨recipient, fingerprint⟩, _, ephemeral, encapsulation, hverified, -, -, -, q, hsealed⟩ :=
      sealReleaseCopy_eq_ok.mp hseal
    obtain ⟨rfl, -⟩ := verifyReleaseIdentity_toJson_eq_ok.mp hverified
    obtain ⟨record', hshown, hsame, hsealedKey, -⟩ := hsealed.record hbound.shown.keyCommitment
    have hrelease : record.context.releaseId = input.releaseId := hbound.shown.releaseId.trans hid
    have hrelease' : record'.context.releaseId = input.releaseId := hshown.releaseId.trans hid
    have hfingerprint : made.recipientFingerprint = fingerprint := by
      rw [hsealed.copy_eq]
    refine ⟨header, copy, keys, record, hheader, hcopy, hkey, hbound, hrelease,
      ⟨signingKey, ephemeral, encapsulation, q, record', ?_, hshown, hsealedKey, hsame, hrelease'⟩,
      fun own contents commitments keyOf owner hhashed hkeyOf => ?_⟩
    · rw [hfingerprint]
      exact hsealed
    · rw [hkeyOf _ (hbound.made owner hhashed), hrelease]

end

/-! ## Ana's records -/

def toyRecord (account : String) : CopyRecord where
  context := toyContext account
  contentNonce := toyContent.1
  contentCiphertext := toyContent.2
  contentKey := toyContentKey
  sealedKey := toySealedKey
  nonce_length := rfl

def toyInputs : List SignedInput :=
  [.identity (toyKeys.fields (jsString "ana")), .identity (toyKeys.fields (jsString "ben")),
    .keyCheck [], (toyRecord "ana").signedInput, (toyRecord "ben").signedInput]

def toyValid (message : Bytes) : Bool := toyInputs.any fun input => input.bytes.toOption = some message

theorem toyValid_iff {message : Bytes} :
    toyValid message = true ↔ ∃ input ∈ toyInputs, input.bytes = .ok message := by
  rw [toyValid, any_eq_true]
  refine exists_congr fun input => and_congr_right fun _ => ?_
  rw [decide_eq_true_eq]
  cases input.bytes with
  | error e => exact ⟨nofun, nofun⟩
  | ok b => exact ⟨fun h => congrArg _ (Option.some.inj h), fun h => congrArg _ (Except.ok.inj h)⟩

theorem toy_trust : Trust (toyPlatform toyValid) (fun _ message => toyValid message = true)
    (fun sealed transcript contentKey => ∃ privateKey secretKey,
      hybridOpen (toyPlatform toyValid) sealed privateKey secretKey transcript = .ok contentKey)
    toySignature where
  unforgeable _ hverify := toySignature_eq_iff.mp (of_decide_eq_true (Except.ok.inj hverify))
  ownTranscript h := ⟨_, _, h⟩

theorem toy_ownerSigns (raw : Bytes) : OwnerSigns (fun _ message => toyValid message = true) raw
    (fun record => ∃ account, record = toyRecord account) {toyContent.1 ++ toyContent.2}
    {commitmentInput toyContentKey} where
  made hbytes hsigned := by
    obtain ⟨input, hmem, hinput⟩ := toyValid_iff.mp hsigned
    obtain rfl := SignedInput.bytes_inj hinput hbytes
    simp only [toyInputs, mem_cons, reduceCtorEq, false_or, not_mem_nil, or_false] at hmem
    rcases hmem with hana | hben
    · exact ⟨toyRecord "ana", ⟨_, rfl⟩, hana ▸ hbytes⟩
    · exact ⟨toyRecord "ben", ⟨_, rfl⟩, hben ▸ hbytes⟩
  hashed h := by
    obtain ⟨account, rfl⟩ := h
    exact ⟨rfl, rfl⟩
  contents_injOn := Set.injOn_singleton _ _
  commitments_injOn := Set.injOn_singleton _ _

theorem toy_hashed {record : CopyRecord} {copy : ReleaseCopy} (hshown : record.Shows toyHeader copy)
    (hkey : record.contentKey = toyContentKey) :
    record.HashedIn {toyContent.1 ++ toyContent.2} {commitmentInput toyContentKey} := by
  rw [CopyRecord.HashedIn, CopyRecord.content, ← toBase64_inj hshown.contentNonce,
    ← toBase64_inj hshown.contentCiphertext, hkey]
  exact ⟨rfl, rfl⟩

theorem toyValid_message {account : String}
    (hmem : SignedInput.identity (toyKeys.fields (jsString account)) ∈ toyInputs)
    (haccount : releaseAccountIdPattern (jsString account) = true) : toyValid (toyMessage account) = true :=
  toyValid_iff.mpr ⟨_, hmem, SignedInput.bytes_eq_ok.mpr
    ⟨⟨haccount, rfl, rfl, length_replicate⟩, rfl⟩⟩

theorem toyValid_ana : toyValid (toyMessage "ana") = true := toyValid_message (mem_cons_self ..) (by decide)

theorem toyValid_ben : toyValid (toyMessage "ben") = true :=
  toyValid_message (mem_cons_of_mem _ (mem_cons_self ..)) (by decide)

theorem toyValid_keyCheck : toyValid (keyCheckMessage []) = true :=
  toyValid_iff.mpr ⟨.keyCheck [], by simp [toyInputs], rfl⟩

theorem toyValid_copy {account : String} (hmem : (toyRecord account).signedInput ∈ toyInputs)
    (haccount : releaseAccountIdPattern (jsString account) = true) : toyValid (toySigned account) = true :=
  toyValid_iff.mpr ⟨_, hmem, toySigned_eq haccount⟩

theorem toyValid_copy_ana : toyValid (toySigned "ana") = true :=
  toyValid_copy (by simp [toyInputs]) (by decide)

theorem toyValid_copy_ben : toyValid (toySigned "ben") = true :=
  toyValid_copy (by simp [toyInputs]) (by decide)

theorem toy_unwrapCopy {ν : Type} [DecidableEq ν] [One ν] (seed : Bytes) :
    unwrapCopy (toyPlatform toyValid) toyHeader (toyCopy "ana")
      ((toyIdentity "ana").toJson : Json ν) (toyKeySet "ana") seed = .ok toyContentKey := by
  have haccount : releaseAccountIdPattern (jsString "ana") = true := by decide
  have hsealed : decodeCanonicalBase64 (toyCopy "ana").sealedKey (some RELEASE_SEALED_KEY_BYTES) =
      some toySealedKey :=
    decodeCanonicalBase64_toBase64 (length_sealedKey toySealed_encoded) (by decide)
  have hsecret : (List.replicate 32 1 : Bytes).length ≠ 0 := by decide
  obtain ⟨key, hkey⟩ := importDerivedKey_ok hsecret hsecret (9 :: List.replicate 31 0)
    (List.replicate 1088 0)
  refine unwrapCopy_eq_ok.mpr ⟨⟨toyHeader, (), _, _⟩, toySealedKey, List.replicate 2400 0,
    releaseSignatureVerifier_eq_ok.mpr ⟨rfl, toyIdentity "ana", toyKeys.signingKey,
      toy_verifyReleaseIdentity haccount toyValid_ana (fun a ha => (Option.some.inj ha).symm) _,
      decodeCanonicalBase64_toBase64 rfl (by decide), rfl, toyHeader_covered⟩,
    Verifier.verify_eq_true.mpr ⟨toyCopy_form haccount, toySealedKey, toySignature, toySigned "ana",
      hsealed, decodeCanonicalBase64_toBase64 rfl (by decide), toySigned_eq haccount,
      toy_verify toyValid_copy_ana⟩, hsealed,
    decodeCanonicalBase64_toBase64 length_replicate (by decide), ?_, rfl,
    decodeCanonicalBase64_toBase64 (sha256_length _) (by decide)⟩
  exact openSeal_eq_ok.mpr ⟨(), rfl, toySealed, decodeSealedKey_encodeSealedKey toySealed_encoded, _,
    (SignedInput.bytes_eq_ok (m := .sealTranscript (toyContext "ana"))).mpr
      ⟨toyContext_form haccount, rfl⟩,
    hybridOpen_eq_ok.mpr ⟨(), importRecipientPublicKey_toBase64 rfl, _, rfl, by decide, _,
      rfl, key, hkey, plainAesGcm.decrypt_encrypt [] [] [] toyContentKey⟩⟩

def toyOpenInput : OpenReleaseCopyInput Int where
  header := toyHeader.toJson
  copy := (toyCopy "ana").toJson
  ownerIdentity := (toyIdentity "ana").toJson
  recipientAccountId := jsString "ana"
  keySets := [toyKeySet "ana"]

def toyResealInput : ResealReleaseCopyInput Int where
  releaseId := sampleContext.releaseId
  header := toyHeader.toJson
  ownCopy := (toyCopy "ana").toJson
  ownerKeySet := toyKeySet "ana"
  recipient := toyIdentity "ben"

def toyResealRandom : ResealRandom := ⟨⟨[], [], [], []⟩, [], ⟨[], [], [], toyNonce⟩⟩

theorem toy_check (r : KeyCheckRandom) (h : r.challenge = []) :
    checkReleaseKeySet (toyPlatform toyValid) ((toyKeySet "ana").toJson : Json Int)
      (some (jsString "ana")) r = .ok () :=
  toy_checkReleaseKeySet (by decide) toyValid_ana (h ▸ toyValid_keyCheck)

theorem toy_decrypt :
    ∃ text, decryptReleaseContent (toyPlatform toyValid).aes toyHeader toyContentKey = .ok text :=
  ⟨_, decryptReleaseContent_encrypt (toyContent_encrypted toyValid) toyHeader_form.ownerFingerprint
    toyHeader_form.keyCommitment rfl rfl⟩

theorem toy_openContentKey : openContentKey (toyPlatform toyValid) toyOpenInput
    ⟨⟨[], [], [], []⟩, []⟩ = .ok (toyHeader, toyKeySet "ana", toyContentKey) :=
  openContentKey_eq_ok.mpr ⟨toyCopy "ana", parseReleaseHeader_toJson toyHeader_form,
    parseReleaseCopy_toJson (toyCopy_form (by decide)), rfl,
    find?_cons_of_pos (decide_eq_true rfl), assertMlKem768_eq_ok.mpr ⟨rfl, rfl, rfl⟩,
    toy_check _ rfl, toy_unwrapCopy _⟩

theorem toy_resealContentKey : resealContentKey (toyPlatform toyValid) toyResealInput toyResealRandom =
    .ok (toyHeader, toyContentKey) := by
  obtain ⟨text, htext⟩ := toy_decrypt
  exact resealContentKey_eq_ok.mpr ⟨toyCopy "ana", text, assertMlKem768_eq_ok.mpr ⟨rfl, rfl, rfl⟩,
    parseReleaseHeader_toJson toyHeader_form, rfl,
    parseReleaseCopy_toJson (toyCopy_form (by decide)), rfl, rfl, rfl, rfl, by decide,
    toy_check _ rfl, toy_unwrapCopy _, htext⟩

theorem toy_copy_trust (copy : ReleaseCopy) (signature : Bytes)
    (hcopy : parseReleaseCopy ((toyCopy "ana").toJson : Json Int) = .ok copy)
    (hsignature : copy.signature = toBase64 signature) :
    Trust (toyPlatform toyValid) (fun _ message => toyValid message = true)
      (fun sealed transcript contentKey => ∃ privateKey secretKey,
        hybridOpen (toyPlatform toyValid) sealed privateKey secretKey transcript = .ok contentKey)
      signature := by
  obtain rfl : toyCopy "ana" = copy :=
    Except.ok.inj ((parseReleaseCopy_toJson (toyCopy_form (by decide))).symm.trans hcopy)
  obtain rfl : toySignature = signature := toBase64_inj hsignature
  exact toy_trust

/-- Ana opens their copy, and makes it again for Ben, on a platform that meets its specification. -/
theorem release_copy_binding_toy : (toyPlatform toyValid).Correct ∧
    (∃ opened account,
      openReleaseCopy (toyPlatform toyValid) toyOpenInput ⟨⟨[], [], [], []⟩, []⟩ = .ok opened ∧
      opened.releaseId = (toyRecord account).context.releaseId) ∧
    ∃ made header contentKey,
      resealReleaseCopy (toyPlatform toyValid) toyResealInput toyResealRandom = .ok made ∧
      resealContentKey (toyPlatform toyValid) toyResealInput toyResealRandom = .ok (header, contentKey) ∧
      contentKey = toyContentKey := by
  obtain ⟨hopen, hreseal⟩ := release_copy_binding (ν := Int) (toyPlatform toyValid)
    (fun _ message => toyValid message = true) (fun sealed transcript contentKey =>
      ∃ privateKey secretKey,
        hybridOpen (toyPlatform toyValid) sealed privateKey secretKey transcript = .ok contentKey)
  refine ⟨toyPlatform_correct _, ?_, ?_⟩
  · obtain ⟨text, htext⟩ := toy_decrypt
    have hopened := openReleaseCopy_eq_ok.mpr ⟨_, _, _, text, toy_openContentKey, htext, rfl⟩
    obtain ⟨header, _, _, _, _, record, -, -, -, hkey, hbound, hid, -, -⟩ :=
      hopen toyOpenInput _ _ toy_copy_trust hopened
    obtain ⟨rfl, -, hsame⟩ : toyHeader = header ∧ _ ∧ toyContentKey = record.contentKey := by
      simpa using toy_openContentKey.symm.trans hkey
    obtain ⟨account, rfl⟩ := hbound.made (toy_ownerSigns _) (toy_hashed hbound.shown hsame.symm)
    exact ⟨_, account, hopened, hid⟩
  · have hmade : resealReleaseCopy (toyPlatform toyValid) toyResealInput toyResealRandom =
        .ok (toyCopy "ben") := bind_eq_ok.mpr ⟨_, toy_resealContentKey, bind_eq_ok.mpr
          ⟨(), rfl, toy_sealReleaseCopy (by decide) toyValid_ben toyValid_copy_ben⟩⟩
    obtain ⟨header, _, _, record, -, -, hkey, hbound, -, -, hown⟩ :=
      hreseal toyResealInput _ _ toy_copy_trust hmade
    obtain ⟨rfl, hsame⟩ : toyHeader = header ∧ toyContentKey = record.contentKey := by
      simpa using toy_resealContentKey.symm.trans hkey
    refine ⟨_, _, _, hmade, hkey, hown _ _ _ (fun _ => toyContentKey) (toy_ownerSigns _)
      (toy_hashed hbound.shown hsame.symm) ?_⟩
    rintro _ ⟨account, rfl⟩
    rfl

end Blackout.Protocol
