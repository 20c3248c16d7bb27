import Blackout.Protocol.Bytes

/-!
# The byte strings that are signed, bound or authenticated

`releaseCopySignedBytes`, `releaseSealTranscript` and `releaseContentAssociatedData`
(`release/envelope.ts`), `releaseIdentitySignedBytes` (`release/identity.ts`) and the message of
`signingKeyMatches` (`release/keySet.ts`). Each is a label, then fields of fixed length or with
their length in front.
-/

namespace Blackout.Protocol

open Utf16 List

/-! ## Forms of ids -/

/-- The code unit of an ASCII character. -/
def isUnit (c : Char) (u : UInt16) : Bool := u.toNat = c.toNat

/-- A digit or a letter. -/
def isAlnumUnit (u : UInt16) : Bool :=
  (48 ≤ u.toNat && u.toNat ≤ 57) || (65 ≤ u.toNat && u.toNat ≤ 90) ||
    (97 ≤ u.toNat && u.toNat ≤ 122)

/-- The form of an account id: ASCII and short. -/
def releaseAccountIdPattern (value : JsString) : Bool :=
  match value with
  | [] => false
  | first :: rest =>
    isAlnumUnit first && rest.length ≤ 127 &&
      rest.all fun u => isAlnumUnit u || isUnit '.' u || isUnit '_' u || isUnit '-' u

inductive IdClass
  | hex
  | dash
  | version
  | variant

def IdClass.test : IdClass → UInt16 → Bool
  | .hex, u => isHexUnit u
  | .dash, u => isUnit '-' u
  | .version, u => isUnit '4' u
  | .variant, u => isUnit '8' u || isUnit '9' u || isUnit 'a' u || isUnit 'b' u

/-- The places of a release id: hexadecimal digits and hyphens. -/
def releaseIdClasses : List IdClass :=
  List.replicate 8 IdClass.hex ++ [IdClass.dash] ++ List.replicate 4 IdClass.hex ++
    [IdClass.dash, IdClass.version] ++ List.replicate 3 IdClass.hex ++
    [IdClass.dash, IdClass.variant] ++ List.replicate 3 IdClass.hex ++ [IdClass.dash] ++
    List.replicate 12 IdClass.hex

def releaseIdPattern (value : JsString) : Bool :=
  value.length = releaseIdClasses.length && (value.zip releaseIdClasses).all fun p => p.2.test p.1

variable {u : UInt16}

theorem isUnit_lt {c : Char} (hc : c.toNat < 128) (h : isUnit c u = true) : u.toNat < 128 := by
  rw [isUnit, decide_eq_true_eq] at h
  omega

theorem isHexUnit_lt (h : isHexUnit u = true) : u.toNat < 128 := by
  simp only [isHexUnit, Bool.or_eq_true, Bool.and_eq_true, decide_eq_true_eq] at h
  omega

theorem isAlnumUnit_lt (h : isAlnumUnit u = true) : u.toNat < 128 := by
  simp only [isAlnumUnit, Bool.or_eq_true, Bool.and_eq_true, decide_eq_true_eq] at h
  omega

/-- ASCII, and short enough for a length of two bytes. -/
def ShortAscii (s : JsString) : Prop := Ascii s ∧ s.length < 65536

variable {value : JsString}

theorem shortAscii_accountId (h : releaseAccountIdPattern value = true) : ShortAscii value := by
  cases value with
  | nil => exact absurd h Bool.false_ne_true
  | cons first rest =>
    simp only [releaseAccountIdPattern, Bool.and_eq_true, decide_eq_true_eq, all_eq_true, Bool.or_eq_true] at h
    obtain ⟨⟨hfirst, hlen⟩, hrest⟩ := h
    refine ⟨fun u hu => ?_, by rw [length_cons]; omega⟩
    rcases mem_cons.mp hu with rfl | hu
    · exact isAlnumUnit_lt hfirst
    rcases hrest u hu with ((h | h) | h) | h
    · exact isAlnumUnit_lt h
    all_goals exact isUnit_lt (by decide) h

theorem IdClass.test_lt {k : IdClass} (h : k.test u = true) : u.toNat < 128 := by
  cases k with
  | hex => exact isHexUnit_lt h
  | dash | version => exact isUnit_lt (by decide) h
  | variant =>
    simp only [IdClass.test, Bool.or_eq_true] at h
    rcases h with ((h | h) | h) | h <;> exact isUnit_lt (by decide) h

theorem shortAscii_releaseId (h : releaseIdPattern value = true) : ShortAscii value := by
  simp only [releaseIdPattern, Bool.and_eq_true, decide_eq_true_eq, all_eq_true] at h
  obtain ⟨hlen, hall⟩ := h
  refine ⟨fun u hu => ?_, by rw [hlen]; decide⟩
  obtain ⟨i, -, rfl⟩ := mem_iff_getElem.mp hu
  have hzip : i < (value.zip releaseIdClasses).length := by
    rw [length_zip]
    omega
  have htest := hall _ (getElem_mem hzip)
  rw [getElem_zip] at htest
  exact IdClass.test_lt htest

/-! ## The encoders -/

/-- The release, the owner and the recipient of a copy. -/
structure ReleaseCopyContext where
  releaseId : JsString
  ownerAccountId : JsString
  ownerFingerprint : JsString
  recipientAccountId : JsString
  recipientFingerprint : JsString
  deriving DecidableEq

/-- What an identity's signature covers. -/
structure ReleaseIdentityKeyBytes where
  accountId : JsString
  signingKey : Bytes
  x25519Key : Bytes
  mlkem768Key : Bytes
  deriving DecidableEq

def RELEASE_IDENTITY_LABEL : String := "blackout-release-identity-v1"
def RELEASE_KEY_CHECK_LABEL : String := "blackout-release-key-check-v1"
def RELEASE_SEAL_LABEL : String := "blackout-release-seal-v1"
def RELEASE_SEAL_SIGNATURE_LABEL : String := "blackout-release-seal-signature-v1"
def RELEASE_CONTENT_LABEL : String := "blackout-release-content-v1"

def RELEASE_FINGERPRINT_BYTES : Nat := 32
def ED25519_PUBLIC_KEY_BYTES : Nat := 32
def X25519_PUBLIC_KEY_BYTES : Nat := 32
def MLKEM768_PUBLIC_KEY_BYTES : Nat := 1184
def RELEASE_KEY_COMMITMENT_BYTES : Nat := 32
def MLKEM768_CIPHERTEXT_BYTES : Nat := 1088
def RELEASE_NONCE_BYTES : Nat := 12
def RELEASE_CONTENT_KEY_BYTES : Nat := 32
def GCM_TAG_BYTES : Nat := 16
def WRAPPED_KEY_BYTES : Nat := RELEASE_CONTENT_KEY_BYTES + GCM_TAG_BYTES
/-- The ephemeral key, the encapsulation, the nonce and the wrapped key. -/
def RELEASE_SEALED_KEY_BYTES : Nat :=
  X25519_PUBLIC_KEY_BYTES + MLKEM768_CIPHERTEXT_BYTES + RELEASE_NONCE_BYTES + WRAPPED_KEY_BYTES

/-- A string of a form, with its length in front. -/
def asciiField (value : JsString) (pattern : JsString → Bool) (name : String) : Except String Bytes :=
  if !pattern value then .error s!"release envelope: {name} is not in the allowed form"
  else lengthPrefixed (utf8Encode value)

def fingerprintField (value : JsString) (name : String) : Except String Bytes :=
  match fromHex value RELEASE_FINGERPRINT_BYTES with
  | none => .error s!"release envelope: {name} must be 64 lowercase hex digits"
  | some bytes => .ok bytes

/-- The fields that a seal and a signature both bind. -/
def contextBytes (context : ReleaseCopyContext) : Except String Bytes := do
  let releaseId ← asciiField context.releaseId releaseIdPattern "the release id"
  let owner ← asciiField context.ownerAccountId releaseAccountIdPattern "the owner's account id"
  let ownerFingerprint ← fingerprintField context.ownerFingerprint "the owner's fingerprint"
  let recipient ←
    asciiField context.recipientAccountId releaseAccountIdPattern "the recipient's account id"
  let recipientFingerprint ←
    fingerprintField context.recipientFingerprint "the recipient's fingerprint"
  return releaseId ++ (owner ++ (ownerFingerprint ++ (recipient ++ recipientFingerprint)))

/-- What a seal is bound to. -/
def releaseSealTranscript (context : ReleaseCopyContext) : Except String Bytes := do
  let fields ← contextBytes context
  return labelBytes RELEASE_SEAL_LABEL ++ fields

/-- What the owner signs for a copy. -/
def releaseCopySignedBytes (context : ReleaseCopyContext)
    (contentHash keyCommitment sealedKey : Bytes) : Except String Bytes :=
  if contentHash.length ≠ 32 ∨ keyCommitment.length ≠ RELEASE_KEY_COMMITMENT_BYTES ∨
      sealedKey.length ≠ RELEASE_SEALED_KEY_BYTES then
    .error "release envelope: a signed field has the wrong length"
  else do
    let fields ← contextBytes context
    return labelBytes RELEASE_SEAL_SIGNATURE_LABEL ++ (fields ++ (contentHash ++ (keyCommitment ++ sealedKey)))

/-- What the content is authenticated with. -/
def releaseContentAssociatedData (releaseId ownerAccountId : JsString) : Except String Bytes := do
  let id ← asciiField releaseId releaseIdPattern "the release id"
  let owner ← asciiField ownerAccountId releaseAccountIdPattern "the owner's account id"
  return labelBytes RELEASE_CONTENT_LABEL ++ (id ++ owner)

/-- What an identity signs, and its fingerprint hashes. -/
def releaseIdentitySignedBytes (fields : ReleaseIdentityKeyBytes) : Except String Bytes :=
  if !releaseAccountIdPattern fields.accountId then
    .error "release identity: the account id is not in the allowed form"
  else if fields.signingKey.length ≠ ED25519_PUBLIC_KEY_BYTES ∨
      fields.x25519Key.length ≠ X25519_PUBLIC_KEY_BYTES ∨
      fields.mlkem768Key.length ≠ MLKEM768_PUBLIC_KEY_BYTES then
    .error "release identity: a public key has the wrong length"
  else do
    let account ← lengthPrefixed (utf8Encode fields.accountId)
    return labelBytes RELEASE_IDENTITY_LABEL ++
      (account ++ (fields.signingKey ++ (fields.x25519Key ++ fields.mlkem768Key)))

/-- The message that `signingKeyMatches` signs. -/
def keyCheckMessage (random : Bytes) : Bytes := labelBytes RELEASE_KEY_CHECK_LABEL ++ random

/-! ## What they return -/

/-- Bytes with their length in front. -/
def framed (bytes : Bytes) : Bytes := lengthBytes bytes.length ++ bytes

variable {pattern : JsString → Bool} {name : String}

theorem asciiField_eq_ok {bytes : Bytes}
    (short : pattern value = true → ShortAscii value) : asciiField value pattern name = .ok bytes ↔
      pattern value = true ∧ bytes = framed (utf8Encode value) := by
  rw [asciiField, guard_eq_ok, not_true_iff]
  refine and_congr_right fun h => ?_
  obtain ⟨hascii, hlen⟩ := short h
  rw [lengthPrefixed_ok (by rw [length_utf8Encode hascii]; exact hlen), ok_eq_iff]
  rfl

theorem fingerprintField_eq_ok {bytes : Bytes} :
    fingerprintField value name = .ok bytes ↔ fromHex value RELEASE_FINGERPRINT_BYTES = some bytes := by
  unfold fingerprintField
  split
  next h =>
    rw [h]
    exact ⟨nofun, nofun⟩
  next h =>
    rw [h]
    exact ok_iff_some

/-- The fields that `contextBytes` accepts. -/
structure ContextForm (c : ReleaseCopyContext) : Prop where
  releaseId : releaseIdPattern c.releaseId = true
  owner : releaseAccountIdPattern c.ownerAccountId = true
  ownerFingerprint : ∃ b, fromHex c.ownerFingerprint RELEASE_FINGERPRINT_BYTES = some b
  recipient : releaseAccountIdPattern c.recipientAccountId = true
  recipientFingerprint : ∃ b, fromHex c.recipientFingerprint RELEASE_FINGERPRINT_BYTES = some b

def contextEncoding (c : ReleaseCopyContext) : Bytes :=
  framed (utf8Encode c.releaseId) ++ (framed (utf8Encode c.ownerAccountId) ++
    (hexPairs c.ownerFingerprint ++
      (framed (utf8Encode c.recipientAccountId) ++ hexPairs c.recipientFingerprint)))

theorem hexPairs_of_fromHex {n : Nat} {bytes : Bytes}
    (h : fromHex value n = some bytes) : hexPairs value = bytes := by
  obtain ⟨rfl, -⟩ := fromHex_eq_some.mp h
  exact hexPairs_toHex

theorem contextBytes_eq_ok {c : ReleaseCopyContext} {bytes : Bytes} :
    contextBytes c = .ok bytes ↔ ContextForm c ∧ bytes = contextEncoding c := by
  simp only [contextBytes, bind_eq_ok, asciiField_eq_ok shortAscii_releaseId,
    asciiField_eq_ok shortAscii_accountId, fingerprintField_eq_ok]
  constructor
  · rintro ⟨_, ⟨h1, rfl⟩, _, ⟨h2, rfl⟩, b3, h3, _, ⟨h4, rfl⟩, b5, h5, h⟩
    cases h
    refine ⟨⟨h1, h2, ⟨b3, h3⟩, h4, ⟨b5, h5⟩⟩, ?_⟩
    rw [contextEncoding, hexPairs_of_fromHex h3, hexPairs_of_fromHex h5]
  · rintro ⟨⟨h1, h2, ⟨b3, h3⟩, h4, ⟨b5, h5⟩⟩, rfl⟩
    refine ⟨_, ⟨h1, rfl⟩, _, ⟨h2, rfl⟩, b3, h3, _, ⟨h4, rfl⟩, b5, h5, ?_⟩
    rw [contextEncoding, hexPairs_of_fromHex h3, hexPairs_of_fromHex h5]
    rfl

/-! ## One byte string, one input -/

theorem selfDelimiting_ascii (short : ∀ s, pattern s = true → ShortAscii s) :
    SelfDelimiting (fun s => pattern s = true) fun s => framed (utf8Encode s) :=
  selfDelimiting_lengthBytes.lengthPrefixed.comap
    (fun s hs => by rw [length_utf8Encode (short s hs).1]; exact (short s hs).2)
    (fun s t hs ht => utf8Encode_inj (short s hs).1 (short t ht).1)

theorem selfDelimiting_fingerprint :
    SelfDelimiting (fun s => ∃ b, fromHex s RELEASE_FINGERPRINT_BYTES = some b) hexPairs := by
  refine (SelfDelimiting.fixed RELEASE_FINGERPRINT_BYTES).comap ?_ ?_
  · rintro s ⟨b, h⟩
    rw [hexPairs_of_fromHex h]
    exact (fromHex_eq_some.mp h).2
  · rintro s t ⟨b, hs⟩ ⟨c, ht⟩ heq
    rw [hexPairs_of_fromHex hs, hexPairs_of_fromHex ht] at heq
    rw [(fromHex_eq_some.mp hs).1, (fromHex_eq_some.mp ht).1, heq]

theorem selfDelimiting_context : SelfDelimiting ContextForm contextEncoding := by
  have releaseId := selfDelimiting_ascii fun _ => shortAscii_releaseId
  have account := selfDelimiting_ascii fun _ => shortAscii_accountId
  have fingerprint := selfDelimiting_fingerprint
  refine (releaseId.seq (account.seq (fingerprint.seq (account.seq fingerprint)))).comap
    (f := fun c : ReleaseCopyContext => (c.releaseId, c.ownerAccountId, c.ownerFingerprint,
      c.recipientAccountId, c.recipientFingerprint)) ?_ ?_
  · intro c h
    exact ⟨h.releaseId, h.owner, h.ownerFingerprint, h.recipient, h.recipientFingerprint⟩
  · rintro ⟨⟩ ⟨⟩ - - h
    obtain ⟨rfl, rfl, rfl, rfl, rfl⟩ := h
    rfl

/-- The five kinds of byte strings with their fields. -/
inductive SignedInput
  | copySignature (context : ReleaseCopyContext) (contentHash keyCommitment sealedKey : Bytes)
  | identity (fields : ReleaseIdentityKeyBytes)
  | keyCheck (random : Bytes)
  | sealTranscript (context : ReleaseCopyContext)
  | contentData (releaseId ownerAccountId : JsString)

namespace SignedInput

/-- The byte string, or the error. -/
def bytes : SignedInput → Except String Bytes
  | .copySignature context contentHash keyCommitment sealedKey =>
    releaseCopySignedBytes context contentHash keyCommitment sealedKey
  | .identity fields => releaseIdentitySignedBytes fields
  | .keyCheck random => .ok (keyCheckMessage random)
  | .sealTranscript context => releaseSealTranscript context
  | .contentData releaseId ownerAccountId => releaseContentAssociatedData releaseId ownerAccountId

def label : SignedInput → String
  | .copySignature .. => RELEASE_SEAL_SIGNATURE_LABEL
  | .identity _ => RELEASE_IDENTITY_LABEL
  | .keyCheck _ => RELEASE_KEY_CHECK_LABEL
  | .sealTranscript _ => RELEASE_SEAL_LABEL
  | .contentData .. => RELEASE_CONTENT_LABEL

def payload : SignedInput → Bytes
  | .copySignature context contentHash keyCommitment sealedKey =>
    contextEncoding context ++ (contentHash ++ (keyCommitment ++ sealedKey))
  | .identity fields => framed (utf8Encode fields.accountId) ++
    (fields.signingKey ++ (fields.x25519Key ++ fields.mlkem768Key))
  | .keyCheck random => random
  | .sealTranscript context => contextEncoding context
  | .contentData releaseId ownerAccountId =>
    framed (utf8Encode releaseId) ++ framed (utf8Encode ownerAccountId)

/-- The fields that are accepted. -/
def Form : SignedInput → Prop
  | .copySignature context contentHash keyCommitment sealedKey =>
    ContextForm context ∧ contentHash.length = 32 ∧ keyCommitment.length = RELEASE_KEY_COMMITMENT_BYTES ∧
      sealedKey.length = RELEASE_SEALED_KEY_BYTES
  | .identity fields => releaseAccountIdPattern fields.accountId = true ∧
    fields.signingKey.length = ED25519_PUBLIC_KEY_BYTES ∧
    fields.x25519Key.length = X25519_PUBLIC_KEY_BYTES ∧
    fields.mlkem768Key.length = MLKEM768_PUBLIC_KEY_BYTES
  | .keyCheck _ => True
  | .sealTranscript context => ContextForm context
  | .contentData releaseId ownerAccountId =>
    releaseIdPattern releaseId = true ∧ releaseAccountIdPattern ownerAccountId = true

variable {m : SignedInput} {b : Bytes}

theorem bytes_eq_ok :
    m.bytes = .ok b ↔ m.Form ∧ b = labelBytes m.label ++ m.payload := by
  cases m with
  | copySignature =>
    simp only [bytes, releaseCopySignedBytes, guard_eq_ok, not_or, Decidable.not_not, bind_eq_ok,
      contextBytes_eq_ok]
    constructor
    · rintro ⟨hlen, _, ⟨form, rfl⟩, h⟩
      cases h
      exact ⟨⟨form, hlen⟩, rfl⟩
    · rintro ⟨⟨form, hlen⟩, rfl⟩
      exact ⟨hlen, _, ⟨form, rfl⟩, rfl⟩
  | identity fields =>
    simp only [bytes, releaseIdentitySignedBytes, guard_eq_ok, not_true_iff, not_or,
      Decidable.not_not, Form, and_assoc]
    refine and_congr_right fun hform => and_congr_right fun _ => and_congr_right fun _ =>
      and_congr_right fun _ => ?_
    obtain ⟨hascii, hshort⟩ := shortAscii_accountId hform
    rw [lengthPrefixed_ok (by rw [length_utf8Encode hascii]; exact hshort)]
    exact ok_eq_iff
  | keyCheck random =>
    exact ok_eq_iff.trans (and_iff_right trivial).symm
  | sealTranscript context =>
    simp only [bytes, releaseSealTranscript, bind_eq_ok, contextBytes_eq_ok]
    constructor
    · rintro ⟨_, ⟨form, rfl⟩, h⟩
      cases h
      exact ⟨form, rfl⟩
    · rintro ⟨form, rfl⟩
      exact ⟨_, ⟨form, rfl⟩, rfl⟩
  | contentData =>
    simp only [bytes, releaseContentAssociatedData, bind_eq_ok,
      asciiField_eq_ok shortAscii_releaseId, asciiField_eq_ok shortAscii_accountId]
    constructor
    · rintro ⟨_, ⟨hid, rfl⟩, _, ⟨howner, rfl⟩, h⟩
      cases h
      exact ⟨⟨hid, howner⟩, rfl⟩
    · rintro ⟨⟨hid, howner⟩, rfl⟩
      exact ⟨_, ⟨hid, rfl⟩, _, ⟨howner, rfl⟩, rfl⟩

def labels : List String :=
  [RELEASE_SEAL_SIGNATURE_LABEL, RELEASE_IDENTITY_LABEL, RELEASE_KEY_CHECK_LABEL,
    RELEASE_SEAL_LABEL, RELEASE_CONTENT_LABEL]

theorem label_mem (m : SignedInput) : m.label ∈ labels := by
  cases m <;> simp [label, labels]

theorem selfDelimiting_label : SelfDelimiting (· ∈ labels) labelBytes := by
  refine (SelfDelimiting.terminated 0).comap (f := fun l => utf8Encode (jsString l)) ?_ ?_
  · decide
  · have all : ∀ c ∈ labels, ∀ d ∈ labels, utf8Encode (jsString c) = utf8Encode (jsString d) → c = d := by
      decide
    exact fun c d hc hd => all c hc d hd

variable {m' : SignedInput}

theorem payload_inj (hm : m.Form) (hm' : m'.Form) (hlabel : m.label = m'.label)
    (h : m.payload = m'.payload) : m = m' := by
  have account := selfDelimiting_ascii fun _ => shortAscii_accountId
  cases m <;> cases m' <;> first | exact absurd hlabel (by simp only [label]; decide) | skip
  case copySignature.copySignature =>
    obtain ⟨rfl, h₁⟩ := selfDelimiting_context hm.1 hm'.1 h
    obtain ⟨rfl, h₂⟩ := append_inj h₁ (hm.2.1.trans hm'.2.1.symm)
    obtain ⟨rfl, rfl⟩ := append_inj h₂ (hm.2.2.1.trans hm'.2.2.1.symm)
    rfl
  case identity.identity f f' =>
    obtain ⟨haccount, h₁⟩ := account hm.1 hm'.1 h
    obtain ⟨hsigning, h₂⟩ := append_inj h₁ (hm.2.1.trans hm'.2.1.symm)
    obtain ⟨hx25519, hmlkem⟩ := append_inj h₂ (hm.2.2.1.trans hm'.2.2.1.symm)
    obtain ⟨_, _, _, _⟩ := f
    cases haccount
    cases hsigning
    cases hx25519
    cases hmlkem
    rfl
  case keyCheck.keyCheck => exact congrArg keyCheck h
  case sealTranscript.sealTranscript =>
    exact congrArg sealTranscript (selfDelimiting_context.injective hm hm' h)
  case contentData.contentData =>
    obtain ⟨rfl, h₁⟩ := (selfDelimiting_ascii fun _ => shortAscii_releaseId) hm.1 hm'.1 h
    rw [account.injective hm.2 hm'.2 h₁]

theorem bytes_inj (h : m.bytes = .ok b) (h' : m'.bytes = .ok b) : m = m' := by
  obtain ⟨form, rfl⟩ := bytes_eq_ok.mp h
  obtain ⟨form', heq⟩ := bytes_eq_ok.mp h'
  obtain ⟨hlabel, hpayload⟩ := selfDelimiting_label m.label_mem m'.label_mem heq
  exact payload_inj form form' hlabel hpayload

end SignedInput

/-- A byte string that is signed, bound or authenticated says which of the five kinds it is of, and
each of its fields. -/
theorem signed_bytes_unambiguous (m m' : SignedInput) (b : Bytes) (h : m.bytes = .ok b)
    (h' : m'.bytes = .ok b) : m = m' :=
  SignedInput.bytes_inj h h'

def sampleContext : ReleaseCopyContext where
  releaseId := jsString "00000000-0000-4000-8000-000000000000"
  ownerAccountId := jsString "ana"
  ownerFingerprint := toHex (List.replicate 32 0)
  recipientAccountId := jsString "ben"
  recipientFingerprint := toHex (List.replicate 32 1)

def sampleSigned : SignedInput :=
  .copySignature sampleContext (List.replicate 32 2) (List.replicate 32 3) (List.replicate 1180 4)

theorem sampleSigned_form : sampleSigned.Form := by
  refine ⟨⟨by decide, by decide, ⟨_, fromHex_eq_some.mpr ⟨rfl, rfl⟩⟩, by decide,
    ⟨_, fromHex_eq_some.mpr ⟨rfl, rfl⟩⟩⟩, length_replicate, length_replicate,
    length_replicate⟩

theorem signed_bytes_unambiguous_copy :
    ∃ b, sampleSigned.bytes = .ok b ∧ ∀ m : SignedInput, m.bytes = .ok b → m = sampleSigned := by
  have h := SignedInput.bytes_eq_ok.mpr ⟨sampleSigned_form, rfl⟩
  exact ⟨_, h, fun m hm => signed_bytes_unambiguous m sampleSigned _ hm h⟩

end Blackout.Protocol
