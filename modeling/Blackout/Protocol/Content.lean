import Blackout.Lib.Utf8
import Blackout.Protocol.Parse
import Blackout.Protocol.Platform

/-!
# The content of a release (`release/envelope.ts`)

`encodeReleaseMessage`, `encryptReleaseContentWith` and `decryptReleaseContent`.
-/

namespace Blackout.Protocol

open Utf16 List

variable {text releaseId ownerAccountId : JsString} {aes : AesGcm} {contentKey nonce associatedData : Bytes}
  {content : Bytes × Bytes} {header : ReleaseHeader} {message : Bytes}

def RELEASE_MESSAGE_MAX_BYTES : Nat := 65536

def ReleaseEnvelopeProblem.name : ReleaseEnvelopeProblem → String
  | .shape => "shape"
  | .version => "version"
  | .releaseId => "release_id"
  | .accountId => "account_id"
  | .fingerprint => "fingerprint"
  | .contentNonce => "content_nonce"
  | .contentCiphertext => "content_ciphertext"
  | .keyCommitment => "key_commitment"
  | .copies => "copies"
  | .ownerCopy => "owner_copy"
  | .duplicateRecipient => "duplicate_recipient"
  | .sealedKey => "sealed_key"
  | .signature => "signature"

/-- The bytes of a message that is not too long. -/
def encodeReleaseMessage (text : JsString) : Except Failure Bytes :=
  if text.length = 0 then .error (.envelope .message "the message is empty")
  else if (utf8Encode text).length > RELEASE_MESSAGE_MAX_BYTES then
    .error (.envelope .message s!"the message is longer than {RELEASE_MESSAGE_MAX_BYTES} bytes")
  else .ok (utf8Encode text)

def encryptReleaseContentWith (aes : AesGcm) (text releaseId ownerAccountId : JsString)
    (contentKey nonce : Bytes) : Except Failure (Bytes × Bytes) :=
  if contentKey.length ≠ RELEASE_CONTENT_KEY_BYTES ∨ nonce.length ≠ RELEASE_NONCE_BYTES then
    .error (.error "release envelope: wrong content key or nonce length")
  else do
    let message ← encodeReleaseMessage text
    let (padded, _) ← thrown (pad message .bucket)
    let key ← importAesGcmKey contentKey
    let associatedData ← thrown (releaseContentAssociatedData releaseId ownerAccountId)
    return (nonce, aes.encrypt key nonce associatedData padded)

def fatalUtf8 (bytes : Bytes) : Except Failure JsString :=
  match Utf8.fatal bytes with
  | some cs => .ok (cs.flatMap ofChar)
  | none => .error .invalidText

def readMessage (padded : Bytes) : Except Failure JsString := do
  let bytes ← thrown (unpad padded)
  if bytes.length = 0 ∨ bytes.length > RELEASE_MESSAGE_MAX_BYTES then
    .error (.error "release envelope: the message is empty or over the cap")
  else fatalUtf8 bytes

def decryptPadded (aes : AesGcm) (input : ReleaseHeader) (contentKey : Bytes) : Except Failure Bytes :=
  match parseReleaseHeader (input.toJson : Json Int) with
  | .error problem =>
    .error (.error s!"release envelope: the header is malformed ({problem.name})")
  | .ok header =>
    match decodeCanonicalBase64 header.contentNonce (some RELEASE_NONCE_BYTES),
      decodeCanonicalBase64 header.contentCiphertext none with
    | some nonce, some ciphertext => do
      let key ← importAesGcmKey contentKey
      let associatedData ← thrown (releaseContentAssociatedData header.releaseId header.ownerAccountId)
      operation (aes.decrypt key nonce associatedData ciphertext)
    | _, _ => .error (.error "release envelope: the content is malformed")

def decryptReleaseContent (aes : AesGcm) (input : ReleaseHeader) (contentKey : Bytes) :
    Except Failure JsString := do
  let padded ← decryptPadded aes input contentKey
  readMessage padded

/-! ## Texts -/

def scalar : Point → Char
  | .char c => c
  | .lone _ => '\uFFFD'

/-- What the bytes of a message say. A lone surrogate was written as U+FFFD. -/
def scalars (text : JsString) : List Char := (points text).map scalar

theorem utf8Encode_eq : utf8Encode text = Utf8.encode (scalars text) := by
  rw [utf8Encode, scalars, Utf8.encode, flatMap_map]
  refine flatMap_congr fun p _ => ?_
  cases p with
  | char c => rfl
  | lone u =>
    have h : String.utf8EncodeChar '\uFFFD' = [0xEF, 0xBF, 0xBD] := by decide
    exact h.symm

theorem scalars_jsString (text : String) : scalars (jsString text) = text.toList := by
  rw [scalars, points_jsString, map_map]
  exact map_id _

theorem fatalUtf8_utf8Encode :
    fatalUtf8 (utf8Encode text) = .ok ((Utf8.afterBom (scalars text)).flatMap ofChar) := by
  rw [fatalUtf8, utf8Encode_eq, Utf8.fatal_encode]

theorem utf8Encode_ne_nil (h : text ≠ []) : utf8Encode text ≠ [] := by
  intro hnil
  rw [utf8Encode_eq, Utf8.encode, flatMap_eq_nil_iff] at hnil
  have hpoints : points text ≠ [] := by
    intro hp
    rw [← units_points text, hp] at h
    exact h rfl
  obtain ⟨p, hp⟩ := exists_mem_of_ne_nil _ hpoints
  exact String.utf8EncodeChar_ne_nil (hnil (scalar p) (mem_map_of_mem hp))

/-! ## Encryption -/

theorem encodeReleaseMessage_eq_ok : encodeReleaseMessage text = .ok message ↔
      text ≠ [] ∧ message.length ≤ RELEASE_MESSAGE_MAX_BYTES ∧ message = utf8Encode text := by
  rw [encodeReleaseMessage, guard_eq_ok, length_eq_zero_iff]
  refine and_congr_right fun _ => ?_
  rw [guard_eq_ok, Nat.not_lt]
  constructor
  · rintro ⟨hlen, h⟩
    cases h
    exact ⟨hlen, rfl⟩
  · rintro ⟨hlen, rfl⟩
    exact ⟨hlen, rfl⟩

/-- The message, its padding and the associated data are valid. -/
structure ContentForm (text releaseId ownerAccountId : JsString) (bucket : Nat)
    (associatedData : Bytes) : Prop where
  message : encodeReleaseMessage text = .ok (utf8Encode text)
  bucket : selectBucket (utf8Encode text).length = .ok bucket
  associatedData : releaseContentAssociatedData releaseId ownerAccountId = .ok associatedData

theorem encryptReleaseContentWith_eq_ok :
    encryptReleaseContentWith aes text releaseId ownerAccountId contentKey nonce = .ok content ↔
      contentKey.length = RELEASE_CONTENT_KEY_BYTES ∧ nonce.length = RELEASE_NONCE_BYTES ∧
      ∃ bucket associatedData, ContentForm text releaseId ownerAccountId bucket associatedData ∧ content =
          (nonce, aes.encrypt contentKey nonce associatedData (padded (utf8Encode text) bucket)) := by
  simp only [encryptReleaseContentWith, guard_eq_ok, not_or, Decidable.not_not, bind_eq_ok, thrown_eq_ok]
  constructor
  · rintro ⟨⟨hkey, hnonce⟩, message, hmessage, ⟨bytes, bucket⟩, hpad, key, himport, ad, had, heq⟩
    obtain ⟨-, -, rfl⟩ := encodeReleaseMessage_eq_ok.mp hmessage
    obtain ⟨hbucket, rfl⟩ := pad_bucket_eq_ok.mp hpad
    rw [importAesGcmKey_ok hkey] at himport
    cases himport
    cases heq
    exact ⟨hkey, hnonce, bucket, ad, ⟨hmessage, hbucket, had⟩, rfl⟩
  · rintro ⟨hkey, hnonce, bucket, ad, ⟨hmessage, hbucket, had⟩, rfl⟩
    exact ⟨⟨hkey, hnonce⟩, _, hmessage, (_, bucket), pad_bucket_eq_ok.mpr ⟨hbucket, rfl⟩,
      contentKey, importAesGcmKey_ok hkey, ad, had, rfl⟩

theorem message_bucket (h : encodeReleaseMessage text = .ok message) :
    ∃ bucket ∈ RELEASE_PADDED_SIZES, selectBucket message.length = .ok bucket := by
  obtain ⟨-, hlen, -⟩ := encodeReleaseMessage_eq_ok.mp h
  have hroom : message.length + 16 ≤ 262144 := by
    rw [RELEASE_MESSAGE_MAX_BYTES] at hlen
    omega
  obtain ⟨bucket, hbucket⟩ := selectBucket_exists (by decide) hroom
  have small : ∀ b ∈ BUCKETS, b ≤ 262144 → b ∈ RELEASE_PADDED_SIZES := by decide
  exact ⟨bucket, small bucket (selectBucket_spec hbucket).1 (selectBucket_le hbucket (by decide) hroom), hbucket⟩

theorem ContentForm.padded_size {bucket : Nat}
    (h : ContentForm text releaseId ownerAccountId bucket associatedData) :
    bucket ∈ RELEASE_PADDED_SIZES := by
  obtain ⟨size, hsize, hbucket⟩ := message_bucket h.message
  cases hbucket.symm.trans h.bucket
  exact hsize

theorem ContentForm.length_padded {bucket : Nat}
    (h : ContentForm text releaseId ownerAccountId bucket associatedData) :
    (padded (utf8Encode text) bucket).length = bucket := by
  have hroom := (selectBucket_spec h.bucket).2
  exact Protocol.length_padded (by omega)

/-- Padding. What a strategy accepts comes back, two padded plaintexts have one length exactly if
they are in one bucket, and a message is padded to a size whose ciphertext a release header may
have. -/
theorem padding_hides_length :
    (∀ strategy plaintext bytes bucket, pad plaintext strategy = .ok (bytes, bucket) →
      unpad bytes = .ok plaintext ∧ bytes.length = bucket ∧
      ∀ plaintext' bytes' bucket', pad plaintext' strategy = .ok (bytes', bucket') →
        (bytes.length = bytes'.length ↔ strategy.SameBucket plaintext.length plaintext'.length)) ∧
    ∀ text message, encodeReleaseMessage text = .ok message →
      ∃ bytes, ∃ bucket ∈ RELEASE_PADDED_SIZES, pad message .bucket = .ok (bytes, bucket) ∧
        bytes.length = bucket ∧ releaseContentCiphertextIsPadded (bytes.length + GCM_TAG_BYTES) = true := by
  refine ⟨fun strategy plaintext bytes bucket h => ?_, fun text message h => ?_⟩
  · obtain ⟨htarget, rfl⟩ := pad_eq_ok.mp h
    have hlen := length_padded (PaddingStrategy.lt_target htarget)
    refine ⟨unpad_padded plaintext bucket, hlen, fun plaintext' bytes' bucket' h' => ?_⟩
    obtain ⟨htarget', rfl⟩ := pad_eq_ok.mp h'
    rw [hlen, length_padded (PaddingStrategy.lt_target htarget')]
    exact PaddingStrategy.target_eq_iff htarget htarget'
  · obtain ⟨bucket, hsize, hbucket⟩ := message_bucket h
    have hroom := (selectBucket_spec hbucket).2
    have hlen : (padded message bucket).length = bucket := length_padded (by omega)
    refine ⟨_, bucket, hsize, pad_eq_ok.mpr ⟨hbucket, rfl⟩, hlen, ?_⟩
    exact releaseContentCiphertextIsPadded_iff.mpr ⟨bucket, hsize, by rw [hlen]; rfl⟩

/-! ## Decryption -/

section Encrypted
variable (henc : encryptReleaseContentWith aes text header.releaseId header.ownerAccountId
  contentKey nonce = .ok content)
  (hfingerprint : isFingerprint header.ownerFingerprint = true)
  (hcommitment : isBase64Of RELEASE_KEY_COMMITMENT_BYTES header.keyCommitment = true)
  (hnonce : header.contentNonce = toBase64 content.1)
  (hciphertext : header.contentCiphertext = toBase64 content.2)
include henc hfingerprint hcommitment hnonce hciphertext

theorem ReleaseHeader.form_of_content : header.Form := by
  obtain ⟨-, hlen, bucket, ad, hform, rfl⟩ := encryptReleaseContentWith_eq_ok.mp henc
  obtain ⟨⟨hid, howner⟩, -⟩ := (SignedInput.bytes_eq_ok
    (m := .contentData header.releaseId header.ownerAccountId)).mp hform.associatedData
  refine ⟨hid, howner, hfingerprint, ?_, ?_, hcommitment⟩
  · rw [hnonce]
    exact isBase64Of_toBase64 hlen (by decide)
  · rw [hciphertext]
    refine isContentCiphertext_toBase64 (releaseContentCiphertextIsPadded_iff.mpr
      ⟨bucket, hform.padded_size, ?_⟩)
    rw [aes.length_encrypt, hform.length_padded]

theorem decryptPadded_encrypt :
    ∃ bucket, encodeReleaseMessage text = .ok (utf8Encode text) ∧
      pad (utf8Encode text) .bucket = .ok (padded (utf8Encode text) bucket, bucket) ∧
      decryptPadded aes header contentKey = .ok (padded (utf8Encode text) bucket) := by
  have form := header.form_of_content henc hfingerprint hcommitment hnonce hciphertext
  obtain ⟨hkey, hlen, bucket, ad, hform, rfl⟩ := encryptReleaseContentWith_eq_ok.mp henc
  have hciphertext' : decodeCanonicalBase64 header.contentCiphertext none =
      some (aes.encrypt contentKey nonce ad (padded (utf8Encode text) bucket)) := by
    refine decodeCanonicalBase64_eq_some.mpr ⟨hciphertext, fun hnil => ?_, nofun⟩
    have hlength := aes.length_encrypt contentKey nonce ad (padded (utf8Encode text) bucket)
    rw [hnil, length_nil] at hlength
    omega
  have hnonce' : decodeCanonicalBase64 header.contentNonce (some RELEASE_NONCE_BYTES) = some nonce := by
    rw [hnonce]
    exact decodeCanonicalBase64_toBase64 hlen (by decide)
  refine ⟨bucket, hform.message, pad_bucket_eq_ok.mpr ⟨hform.bucket, rfl⟩, ?_⟩
  rw [decryptPadded, parseReleaseHeader_toJson form]
  simp only [hnonce', hciphertext', importAesGcmKey_ok hkey, hform.associatedData]
  exact congrArg operation (aes.decrypt_encrypt ..)

/-- What was encrypted is read, without a first U+FEFF, which the decoder takes for a byte-order
mark. -/
theorem decryptReleaseContent_encrypt : decryptReleaseContent aes header contentKey =
      .ok ((Utf8.afterBom (scalars text)).flatMap ofChar) := by
  obtain ⟨bucket, hmessage, -, hpadded⟩ := decryptPadded_encrypt henc hfingerprint hcommitment hnonce hciphertext
  obtain ⟨hne, hlen, -⟩ := encodeReleaseMessage_eq_ok.mp hmessage
  have hpos : ¬((utf8Encode text).length = 0 ∨ (utf8Encode text).length > RELEASE_MESSAGE_MAX_BYTES) := by
    rw [not_or, length_eq_zero_iff, Nat.not_lt]
    exact ⟨utf8Encode_ne_nil hne, hlen⟩
  rw [decryptReleaseContent, hpadded]
  show readMessage _ = _
  rw [readMessage, unpad_padded]
  exact (if_neg hpos).trans fatalUtf8_utf8Encode

end Encrypted

/-! ## The round trip -/

/-- A message that was accepted comes back, with the same key and under a header of the same
context, exactly when it does not start with U+FEFF. -/
theorem content_round_trip_iff (aes : AesGcm) (text : String) (header : ReleaseHeader)
    (contentKey nonce : Bytes) (content : Bytes × Bytes)
    (henc : encryptReleaseContentWith aes (jsString text) header.releaseId header.ownerAccountId
      contentKey nonce = .ok content) (hfingerprint : isFingerprint header.ownerFingerprint = true)
    (hcommitment : isBase64Of RELEASE_KEY_COMMITMENT_BYTES header.keyCommitment = true)
    (hnonce : header.contentNonce = toBase64 content.1)
    (hciphertext : header.contentCiphertext = toBase64 content.2) :
    decryptReleaseContent aes header contentKey = .ok (jsString text) ↔ text.toList.head? ≠ some '\uFEFF' := by
  rw [decryptReleaseContent_encrypt henc hfingerprint hcommitment hnonce hciphertext,
    scalars_jsString, ← Utf8.afterBom_eq_iff]
  constructor
  · intro h
    have hinj : jsString (String.ofList (Utf8.afterBom text.toList)) = jsString text := by
      rw [jsString, String.toList_ofList]
      exact Except.ok.inj h
    rw [← String.toList_ofList (l := Utf8.afterBom text.toList), jsString_inj hinj]
  · intro h
    rw [h]
    rfl

def plainAesGcm : AesGcm where
  encrypt _ _ _ plaintext := plaintext ++ List.replicate 16 0
  decrypt _ _ _ ciphertext := some (ciphertext.take (ciphertext.length - 16))
  decrypt_encrypt _ _ _ plaintext := by
    rw [List.length_append, List.length_replicate, Nat.add_sub_cancel, List.take_left]
  length_encrypt _ _ _ plaintext := by rw [List.length_append, List.length_replicate]

def contentHeader (text : String) : ReleaseHeader :=
  { sampleHeader with
    contentCiphertext := toBase64 (padded (utf8Encode (jsString text)) 1024 ++ List.replicate 16 0) }

theorem encrypt_sample (hmessage : encodeReleaseMessage text = .ok (utf8Encode text))
    (hbucket : selectBucket (utf8Encode text).length = .ok 1024) :
    encryptReleaseContentWith plainAesGcm text sampleHeader.releaseId sampleHeader.ownerAccountId
      (List.replicate 32 0) (List.replicate 12 0) =
      .ok (List.replicate 12 0, padded (utf8Encode text) 1024 ++ List.replicate 16 0) :=
  encryptReleaseContentWith_eq_ok.mpr ⟨length_replicate, length_replicate, 1024, _,
    ⟨hmessage, hbucket, (SignedInput.bytes_eq_ok (m := .contentData _ _)).mpr
      ⟨⟨sampleHeader_form.releaseId, sampleHeader_form.ownerAccountId⟩, rfl⟩⟩, rfl⟩

theorem content_round_trip_iff_sample :
    decryptReleaseContent plainAesGcm (contentHeader "hi") (List.replicate 32 0) =
      .ok (jsString "hi") :=
  (content_round_trip_iff plainAesGcm "hi" (contentHeader "hi") (List.replicate 32 0)
    (List.replicate 12 0) _ (encrypt_sample (by decide) (by decide))
    sampleHeader_form.ownerFingerprint sampleHeader_form.keyCommitment rfl rfl).mpr (by decide)

/-- A message of U+FEFF and "hi" is accepted, and read as "hi". -/
theorem content_loses_mark :
    (∃ content, encryptReleaseContentWith plainAesGcm (jsString "\uFEFFhi") sampleHeader.releaseId
      sampleHeader.ownerAccountId (List.replicate 32 0) (List.replicate 12 0) = .ok content ∧
      (contentHeader "\uFEFFhi").contentNonce = toBase64 content.1 ∧
      (contentHeader "\uFEFFhi").contentCiphertext = toBase64 content.2) ∧
    decryptReleaseContent plainAesGcm (contentHeader "\uFEFFhi") (List.replicate 32 0) = .ok (jsString "hi") ∧
    jsString "hi" ≠ jsString "\uFEFFhi" := by
  have henc := @encrypt_sample (jsString "\uFEFFhi") (by decide) (by decide)
  have hread : decryptReleaseContent plainAesGcm (contentHeader "\uFEFFhi") (List.replicate 32 0) =
      .ok ((Utf8.afterBom (scalars (jsString "\uFEFFhi"))).flatMap ofChar) :=
    decryptReleaseContent_encrypt henc sampleHeader_form.ownerFingerprint
      sampleHeader_form.keyCommitment rfl rfl
  refine ⟨⟨_, henc, rfl, rfl⟩, ?_, by decide⟩
  rw [hread, scalars_jsString]
  rfl

end Blackout.Protocol
