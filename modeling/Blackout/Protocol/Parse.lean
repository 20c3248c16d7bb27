import Blackout.Lib.Json
import Blackout.Protocol.KeyForms
import Blackout.Protocol.Padding

/-!
# Parsing release envelopes (`release/envelope.ts`)

`parseReleaseHeader`, `parseReleaseCopy` and `parseReleaseEnvelope` over arbitrary JSON values.

An envelope is accepted exactly when it has the form (`release_envelope_exact`).
-/

namespace Blackout.Protocol

open Json List

variable {b : Bytes} {n : Nat}

/-! ## Types -/

/-- The content and what identifies the release and its owner. -/
structure ReleaseHeader where
  releaseId : JsString
  ownerAccountId : JsString
  ownerFingerprint : JsString
  contentNonce : JsString
  contentCiphertext : JsString
  keyCommitment : JsString
  deriving DecidableEq

/-- The content key, sealed to one recipient. -/
structure ReleaseCopy where
  recipientAccountId : JsString
  recipientFingerprint : JsString
  sealedKey : JsString
  signature : JsString
  deriving DecidableEq

structure ReleaseEnvelope where
  header : ReleaseHeader
  copies : List ReleaseCopy
  deriving DecidableEq

inductive ReleaseEnvelopeProblem
  | shape
  | version
  | releaseId
  | accountId
  | fingerprint
  | contentNonce
  | contentCiphertext
  | keyCommitment
  | copies
  | ownerCopy
  | duplicateRecipient
  | sealedKey
  | signature
  deriving DecidableEq, Repr

def HEADER_FIELDS : List String :=
  ["v", "releaseId", "ownerAccountId", "ownerFingerprint", "contentNonce", "contentCiphertext", "keyCommitment"]

def COPY_FIELDS : List String := ["recipientAccountId", "recipientFingerprint", "sealedKey", "signature"]

def ENVELOPE_FIELDS : List String := HEADER_FIELDS ++ ["copies"]

def RELEASE_PADDED_SIZES : List Nat := [1024, 16384, 262144]

def RELEASE_MAX_COPIES : Nat := 65

def MAX_CIPHERTEXT_BASE64 : Nat := base64Length (262144 + GCM_TAG_BYTES)

/-! ## The parsers -/

section Parsers
variable {ν : Type} [DecidableEq ν] [One ν]

/-- A field is read, checked and kept as it is. -/
def require {ε : Type} (problem : ε) (value : Option JsString) (check : JsString → Bool) : Except ε JsString :=
  match value with
  | some s => if check s then .ok s else .error problem
  | none => .error problem

def isOne : Option (Json ν) → Bool
  | some (.num n) => n = 1
  | _ => false

def isFingerprint (value : JsString) : Bool := (fromHex value RELEASE_FINGERPRINT_BYTES).isSome

def isBase64Of (length : Nat) (value : JsString) : Bool := (decodeCanonicalBase64 value (some length)).isSome

def releaseContentCiphertextIsPadded (length : Nat) : Bool :=
  RELEASE_PADDED_SIZES.any fun size => size + GCM_TAG_BYTES = length

def isContentCiphertext (value : JsString) : Bool :=
  value.length ≤ MAX_CIPHERTEXT_BASE64 && (decodeCanonicalBase64 value none).any fun ciphertext =>
    releaseContentCiphertextIsPadded ciphertext.length

def isSealedKey (value : JsString) : Bool :=
  (decodeCanonicalBase64 value (some RELEASE_SEALED_KEY_BYTES)).any fun sealedKey =>
    x25519KeyIsCanonical (sealedKey.take X25519_PUBLIC_KEY_BYTES)

def isSignature (value : JsString) : Bool :=
  (decodeCanonicalBase64 value (some ED25519_SIGNATURE_BYTES)).any ed25519SignatureIsAcceptable

/-- The header of an arbitrary JSON value. -/
def parseReleaseHeader (input : Json ν) : Except ReleaseEnvelopeProblem ReleaseHeader :=
  if !input.hasExactly HEADER_FIELDS then .error .shape
  else if !isOne (input.field "v") then .error .version
  else do
    let releaseId ← require .releaseId (input.strField "releaseId") releaseIdPattern
    let ownerAccountId ← require .accountId (input.strField "ownerAccountId") releaseAccountIdPattern
    let ownerFingerprint ← require .fingerprint (input.strField "ownerFingerprint") isFingerprint
    let contentNonce ←
      require .contentNonce (input.strField "contentNonce") (isBase64Of RELEASE_NONCE_BYTES)
    let contentCiphertext ←
      require .contentCiphertext (input.strField "contentCiphertext") isContentCiphertext
    let keyCommitment ← require .keyCommitment (input.strField "keyCommitment")
      (isBase64Of RELEASE_KEY_COMMITMENT_BYTES)
    return { releaseId, ownerAccountId, ownerFingerprint, contentNonce, contentCiphertext, keyCommitment }

def parseReleaseCopy (input : Json ν) : Except ReleaseEnvelopeProblem ReleaseCopy :=
  if !input.hasExactly COPY_FIELDS then .error .shape
  else do
    let recipientAccountId ←
      require .accountId (input.strField "recipientAccountId") releaseAccountIdPattern
    let recipientFingerprint ←
      require .fingerprint (input.strField "recipientFingerprint") isFingerprint
    let sealedKey ← require .sealedKey (input.strField "sealedKey") isSealedKey
    let signature ← require .signature (input.strField "signature") isSignature
    return { recipientAccountId, recipientFingerprint, sealedKey, signature }

/-- The copies, to different recipients, one of them the owner. -/
def parseCopies (header : ReleaseHeader) :
    List (Json ν) → List JsString → Nat → Except ReleaseEnvelopeProblem (List ReleaseCopy)
  | [], _, ownerCopies => if ownerCopies ≠ 1 then .error .ownerCopy else .ok []
  | entry :: rest, seen, ownerCopies => do
    let copy ← parseReleaseCopy entry
    if copy.recipientAccountId ∈ seen then .error .duplicateRecipient
    else if copy.recipientAccountId = header.ownerAccountId then
      if copy.recipientFingerprint ≠ header.ownerFingerprint then .error .ownerCopy
      else do
        let copies ← parseCopies header rest (copy.recipientAccountId :: seen) (ownerCopies + 1)
        return copy :: copies
    else do
      let copies ← parseCopies header rest (copy.recipientAccountId :: seen) ownerCopies
      return copy :: copies

def headerInput (input : Json ν) : Json ν :=
  .obj (HEADER_FIELDS.filterMap fun name => (input.field name).map fun v => (jsString name, v))

def parseReleaseEnvelope (input : Json ν) : Except ReleaseEnvelopeProblem ReleaseEnvelope :=
  if !input.hasExactly ENVELOPE_FIELDS then .error .shape
  else do
    let header ← parseReleaseHeader (headerInput input)
    match input.field "copies" with
    | some (.arr items) =>
      if items.length < 2 ∨ items.length > RELEASE_MAX_COPIES then .error .copies
      else do
        let copies ← parseCopies header items [] 0
        return { header, copies }
    | _ => .error .copies

/-! ## Values -/

def ReleaseHeader.properties (h : ReleaseHeader) : List (JsString × Json ν) :=
  [(jsString "v", .num 1), (jsString "releaseId", .str h.releaseId),
    (jsString "ownerAccountId", .str h.ownerAccountId),
    (jsString "ownerFingerprint", .str h.ownerFingerprint),
    (jsString "contentNonce", .str h.contentNonce),
    (jsString "contentCiphertext", .str h.contentCiphertext),
    (jsString "keyCommitment", .str h.keyCommitment)]

def ReleaseHeader.toJson (h : ReleaseHeader) : Json ν := .obj h.properties

def ReleaseCopy.toJson (c : ReleaseCopy) : Json ν :=
  .obj [(jsString "recipientAccountId", .str c.recipientAccountId),
    (jsString "recipientFingerprint", .str c.recipientFingerprint),
    (jsString "sealedKey", .str c.sealedKey), (jsString "signature", .str c.signature)]

def ReleaseEnvelope.toJson (e : ReleaseEnvelope) : Json ν :=
  .obj (e.header.properties ++ [(jsString "copies", .arr (e.copies.map ReleaseCopy.toJson))])

def Agree (names : List String) (v w : Json ν) : Prop := ∀ name ∈ names, v.field name = w.field name

structure ReleaseHeader.Form (h : ReleaseHeader) : Prop where
  releaseId : releaseIdPattern h.releaseId = true
  ownerAccountId : releaseAccountIdPattern h.ownerAccountId = true
  ownerFingerprint : isFingerprint h.ownerFingerprint = true
  contentNonce : isBase64Of RELEASE_NONCE_BYTES h.contentNonce = true
  contentCiphertext : isContentCiphertext h.contentCiphertext = true
  keyCommitment : isBase64Of RELEASE_KEY_COMMITMENT_BYTES h.keyCommitment = true

structure ReleaseCopy.Form (c : ReleaseCopy) : Prop where
  recipientAccountId : releaseAccountIdPattern c.recipientAccountId = true
  recipientFingerprint : isFingerprint c.recipientFingerprint = true
  sealedKey : isSealedKey c.sealedKey = true
  signature : isSignature c.signature = true

end Parsers

/-! ## What the parsers accept -/

section Copies
variable {ν : Type}
  {c : ReleaseCopy} {copies : List ReleaseCopy} {header : ReleaseHeader} {seen : List JsString}
  {owned : Nat} {v : Json ν} {items : List (Json ν)}

theorem require_eq_ok {ε : Type} {problem : ε} {value : Option JsString} {check : JsString → Bool}
    {s : JsString} :
    require problem value check = .ok s ↔ value = some s ∧ check s = true := by
  cases value with
  | none => exact ⟨nofun, nofun⟩
  | some t =>
    rw [require, Option.some.injEq]
    split
    next ht =>
      rw [Except.ok.injEq]
      exact ⟨fun h => ⟨h, h ▸ ht⟩, And.left⟩
    next ht => exact ⟨nofun, fun h => absurd (h.1 ▸ h.2) ht⟩

theorem agree_copy_iff : Agree COPY_FIELDS v c.toJson ↔
      v.field "recipientAccountId" = some (.str c.recipientAccountId) ∧
      v.field "recipientFingerprint" = some (.str c.recipientFingerprint) ∧
      v.field "sealedKey" = some (.str c.sealedKey) ∧ v.field "signature" = some (.str c.signature) := by
  simp only [Agree, COPY_FIELDS, forall_mem_cons, not_mem_nil, false_implies, implies_true, and_true]
  rfl

theorem parseReleaseCopy_eq_ok : parseReleaseCopy v = .ok c ↔
      v.hasExactly COPY_FIELDS = true ∧ Agree COPY_FIELDS v c.toJson ∧ c.Form := by
  rw [agree_copy_iff, parseReleaseCopy, guard_eq_ok, not_true_iff]
  simp only [bind_eq_ok, require_eq_ok, strField_eq_some]
  constructor
  · rintro ⟨hshape, _, ⟨h1, c1⟩, _, ⟨h2, c2⟩, _, ⟨h3, c3⟩, _, ⟨h4, c4⟩, ⟨⟩⟩
    exact ⟨hshape, ⟨h1, h2, h3, h4⟩, ⟨c1, c2, c3, c4⟩⟩
  · rintro ⟨hshape, ⟨h1, h2, h3, h4⟩, ⟨c1, c2, c3, c4⟩⟩
    exact ⟨hshape, _, ⟨h1, c1⟩, _, ⟨h2, c2⟩, _, ⟨h3, c3⟩, _, ⟨h4, c4⟩, rfl⟩

theorem parseReleaseCopy_toJson (form : c.Form) : parseReleaseCopy (c.toJson : Json ν) = .ok c :=
  parseReleaseCopy_eq_ok.mpr ⟨rfl, fun _ _ => rfl, form⟩

theorem parseReleaseCopy_toJson_eq {c' : ReleaseCopy}
    (hp : parseReleaseCopy (c.toJson : Json ν) = .ok c') : c' = c := by
  obtain ⟨-, hagree, -⟩ := parseReleaseCopy_eq_ok.mp hp
  obtain ⟨_, _, _, _⟩ := c'
  obtain ⟨⟨⟩, ⟨⟩, ⟨⟩, ⟨⟩⟩ := agree_copy_iff.mp hagree
  rfl

theorem forall_copy_form
    (h : List.Forall₂ (fun item copy => parseReleaseCopy item = .ok copy) items copies) :
    ∀ c ∈ copies, c.Form := by
  induction h with
  | nil => exact nofun
  | cons hcopy _ ih =>
    rw [forall_mem_cons]
    exact ⟨(parseReleaseCopy_eq_ok.mp hcopy).2.2, ih⟩

def ownerCopies (header : ReleaseHeader) (copies : List ReleaseCopy) : List ReleaseCopy :=
  copies.filter fun c => c.recipientAccountId = header.ownerAccountId

structure CopiesForm (header : ReleaseHeader) (copies : List ReleaseCopy) (seen : List JsString)
    (owned : Nat) : Prop where
  distinct : (copies.map ReleaseCopy.recipientAccountId).Nodup
  fresh : ∀ c ∈ copies, c.recipientAccountId ∉ seen
  fingerprint : ∀ c ∈ copies, c.recipientAccountId = header.ownerAccountId →
    c.recipientFingerprint = header.ownerFingerprint
  owner : owned + (ownerCopies header copies).length = 1

theorem copiesForm_cons : CopiesForm header (c :: copies) seen owned ↔ c.recipientAccountId ∉ seen ∧
      (c.recipientAccountId = header.ownerAccountId → c.recipientFingerprint = header.ownerFingerprint) ∧
      CopiesForm header copies (c.recipientAccountId :: seen)
        (if c.recipientAccountId = header.ownerAccountId then owned + 1 else owned) := by
  have count : owned + (ownerCopies header (c :: copies)).length =
      (if c.recipientAccountId = header.ownerAccountId then owned + 1 else owned) +
        (ownerCopies header copies).length := by
    rw [ownerCopies, filter_cons]
    by_cases h : c.recipientAccountId = header.ownerAccountId
    · simp only [h, decide_true, if_true, length_cons, ownerCopies]
      omega
    · simp [h, decide_false, Bool.false_eq_true, ownerCopies]
  constructor
  · rintro ⟨hd, hfresh, hfp, howner⟩
    rw [map_cons, nodup_cons] at hd
    rw [forall_mem_cons] at hfresh hfp
    refine ⟨hfresh.1, hfp.1, hd.2, fun d hdm => ?_, hfp.2, count ▸ howner⟩
    rw [mem_cons, not_or]
    exact ⟨fun heq => hd.1 (heq ▸ mem_map_of_mem hdm), hfresh.2 d hdm⟩
  · rintro ⟨hfresh, hfp, h⟩
    refine ⟨?_, ?_, ?_, ?_⟩
    · rw [map_cons, nodup_cons]
      refine ⟨fun hmem => ?_, h.distinct⟩
      obtain ⟨d, hd, heq⟩ := mem_map.mp hmem
      exact h.fresh d hd (heq ▸ mem_cons_self)
    · rw [forall_mem_cons]
      exact ⟨hfresh, fun d hd hmem => h.fresh d hd (mem_cons_of_mem _ hmem)⟩
    · rw [forall_mem_cons]
      exact ⟨hfp, h.fingerprint⟩
    · exact count ▸ h.owner

theorem parseCopies_cons_eq_ok {entry : Json ν} {rest : List (Json ν)} :
    parseCopies header (entry :: rest) seen owned = .ok copies ↔
      ∃ copy, parseReleaseCopy entry = .ok copy ∧ copy.recipientAccountId ∉ seen ∧
        (copy.recipientAccountId = header.ownerAccountId → copy.recipientFingerprint = header.ownerFingerprint) ∧
        ∃ tail, copies = copy :: tail ∧ parseCopies header rest (copy.recipientAccountId :: seen)
          (if copy.recipientAccountId = header.ownerAccountId then owned + 1 else owned) = .ok tail := by
  have goOn : ∀ (copy : ReleaseCopy) (x : Except ReleaseEnvelopeProblem (List ReleaseCopy)),
      (do let copies ← x; return copy :: copies) = .ok copies ↔ ∃ tail, copies = copy :: tail ∧
        x = .ok tail := by
    intro copy x
    rw [bind_eq_ok]
    constructor
    · rintro ⟨tail, htail, heq⟩
      cases heq
      exact ⟨tail, rfl, htail⟩
    · rintro ⟨tail, rfl, htail⟩
      exact ⟨tail, htail, rfl⟩
  rw [parseCopies, bind_eq_ok]
  refine exists_congr fun copy => and_congr_right fun _ => ?_
  rw [guard_eq_ok]
  by_cases howner : copy.recipientAccountId = header.ownerAccountId
  · simp only [howner, if_true, guard_eq_ok, ne_eq, Decidable.not_not, goOn, forall_const]
  · simp only [howner, if_false, goOn, false_implies, true_and]

theorem parseCopies_eq_ok : parseCopies header items seen owned = .ok copies ↔
      List.Forall₂ (fun item copy => parseReleaseCopy item = .ok copy) items copies ∧
        CopiesForm header copies seen owned := by
  induction items generalizing seen owned copies with
  | nil =>
    rw [parseCopies, guard_eq_ok, Decidable.not_not]
    constructor
    · rintro ⟨howned, ⟨⟩⟩
      exact ⟨.nil, nodup_nil, nofun, nofun, howned⟩
    · rintro ⟨⟨⟩, hform⟩
      exact ⟨hform.owner, rfl⟩
  | cons entry rest ih =>
    rw [parseCopies_cons_eq_ok]
    constructor
    · rintro ⟨copy, hcopy, hseen, hfp, tail, rfl, htail⟩
      obtain ⟨hall, hform⟩ := ih.mp htail
      exact ⟨.cons hcopy hall, copiesForm_cons.mpr ⟨hseen, hfp, hform⟩⟩
    · rintro ⟨hall, hform⟩
      cases hall with
      | cons hcopy hall =>
        obtain ⟨hseen, hfp, hform⟩ := copiesForm_cons.mp hform
        exact ⟨_, hcopy, hseen, hfp, _, rfl, ih.mpr ⟨hall, hform⟩⟩

theorem copiesForm_iff : CopiesForm header copies [] 0 ↔
      (copies.Pairwise fun c d => c.recipientAccountId ≠ d.recipientAccountId) ∧
      ∃ c, ownerCopies header copies = [c] ∧ c.recipientFingerprint = header.ownerFingerprint := by
  constructor
  · intro h
    obtain ⟨c, hc⟩ := length_eq_one_iff.mp ((Nat.zero_add _).symm.trans h.owner)
    have hmem : c ∈ ownerCopies header copies := hc ▸ mem_singleton_self c
    obtain ⟨hmem, howner⟩ := mem_filter.mp hmem
    exact ⟨pairwise_map.mp h.distinct, c, hc, h.fingerprint c hmem (of_decide_eq_true howner)⟩
  · rintro ⟨hd, c, hc, hfp⟩
    refine ⟨pairwise_map.mpr hd, fun _ _ => not_mem_nil, fun d hd howner => ?_, ?_⟩
    · have hmem : d ∈ ownerCopies header copies := mem_filter.mpr ⟨hd, decide_eq_true howner⟩
      rw [hc, mem_singleton] at hmem
      rw [hmem]
      exact hfp
    · rw [hc, Nat.zero_add, length_singleton]

end Copies

/-! ## The envelope -/

section Envelope
variable {ν : Type} {v : Json ν} {h : ReleaseHeader} {e : ReleaseEnvelope}

theorem lookup_filterMap_field (name : String) (names : List String) :
    (names.filterMap fun n => (v.field n).map fun w => (jsString n, w)).lookup (jsString name) =
      if name ∈ names then v.field name else none := by
  induction names with
  | nil => rfl
  | cons n names ih =>
    by_cases h : name = n
    · subst h
      rw [if_pos mem_cons_self, filterMap_cons]
      cases hv : v.field name with
      | none =>
        rw [hv, ite_self] at ih
        exact ih
      | some w => exact lookup_cons_self
    · have hmem : name ∈ n :: names ↔ name ∈ names := by
        rw [mem_cons, or_iff_right h]
      have hne : (jsString name == jsString n) = false := beq_eq_false_iff_ne.mpr fun heq => h (jsString_inj heq)
      simp only [hmem, ← ih, filterMap_cons]
      cases v.field n with
      | none => rfl
      | some w =>
        rw [Option.map_some, lookup_cons, hne]

theorem headerInput_agree (v : Json ν) : Agree HEADER_FIELDS (headerInput v) v :=
  fun name h => (lookup_filterMap_field name HEADER_FIELDS).trans (if_pos h)

variable [One ν]

theorem headerInput_toJson (e : ReleaseEnvelope) : headerInput (e.toJson : Json ν) = e.header.toJson := rfl

theorem agree_header_iff : Agree HEADER_FIELDS v h.toJson ↔
      v.field "v" = some (.num 1) ∧ v.field "releaseId" = some (.str h.releaseId) ∧
      v.field "ownerAccountId" = some (.str h.ownerAccountId) ∧
      v.field "ownerFingerprint" = some (.str h.ownerFingerprint) ∧
      v.field "contentNonce" = some (.str h.contentNonce) ∧
      v.field "contentCiphertext" = some (.str h.contentCiphertext) ∧
      v.field "keyCommitment" = some (.str h.keyCommitment) := by
  simp only [Agree, HEADER_FIELDS, forall_mem_cons, not_mem_nil, false_implies, implies_true, and_true]
  rfl

variable [DecidableEq ν]

theorem isOne_iff {o : Option (Json ν)} : isOne o = true ↔ o = some (.num 1) := by
  unfold isOne
  split
  next n => simp
  next h =>
    refine ⟨fun h => absurd h Bool.false_ne_true, fun heq => ?_⟩
    exact absurd heq (h 1)

theorem parseReleaseHeader_eq_ok : parseReleaseHeader v = .ok h ↔
      v.hasExactly HEADER_FIELDS = true ∧ Agree HEADER_FIELDS v h.toJson ∧ h.Form := by
  rw [agree_header_iff, parseReleaseHeader]
  simp only [guard_eq_ok, not_true_iff, isOne_iff, bind_eq_ok, require_eq_ok, strField_eq_some]
  constructor
  · rintro ⟨hshape, h0, _, ⟨h1, c1⟩, _, ⟨h2, c2⟩, _, ⟨h3, c3⟩, _, ⟨h4, c4⟩, _, ⟨h5, c5⟩, _, ⟨h6, c6⟩, ⟨⟩⟩
    exact ⟨hshape, ⟨h0, h1, h2, h3, h4, h5, h6⟩, ⟨c1, c2, c3, c4, c5, c6⟩⟩
  · rintro ⟨hshape, ⟨h0, h1, h2, h3, h4, h5, h6⟩, ⟨c1, c2, c3, c4, c5, c6⟩⟩
    exact ⟨hshape, h0, _, ⟨h1, c1⟩, _, ⟨h2, c2⟩, _, ⟨h3, c3⟩, _, ⟨h4, c4⟩, _, ⟨h5, c5⟩, _, ⟨h6, c6⟩, rfl⟩

theorem parseReleaseHeader_toJson (form : h.Form) : parseReleaseHeader (h.toJson : Json ν) = .ok h :=
  parseReleaseHeader_eq_ok.mpr ⟨rfl, fun _ _ => rfl, form⟩

/-- An object with exactly the fields of an envelope, a header and copies that parse, no account
twice, and one copy of the owner, for the header's fingerprint. -/
structure EnvelopeForm (v : Json ν) (e : ReleaseEnvelope) : Prop where
  fields : ∃ properties, v = .obj properties ∧ (properties.map Prod.fst).Perm (ENVELOPE_FIELDS.map jsString)
  header : parseReleaseHeader (headerInput v) = .ok e.header
  copies : ∃ items, v.field "copies" = some (.arr items) ∧ 2 ≤ items.length ∧ items.length ≤ 65 ∧
    List.Forall₂ (fun item copy => parseReleaseCopy item = .ok copy) items e.copies
  distinct : e.copies.Pairwise fun c d => c.recipientAccountId ≠ d.recipientAccountId
  owner : ∃ c, ownerCopies e.header e.copies = [c] ∧ c.recipientFingerprint = e.header.ownerFingerprint

theorem parseReleaseEnvelope_eq_ok : parseReleaseEnvelope v = .ok e ↔ EnvelopeForm v e := by
  rw [parseReleaseEnvelope, guard_eq_ok, not_true_iff, hasExactly_iff (by decide), bind_eq_ok]
  constructor
  · rintro ⟨hfields, header, hheader, hp⟩
    split at hp
    next items hitems =>
      simp only [guard_eq_ok, not_or, Nat.not_lt, bind_eq_ok, parseCopies_eq_ok, copiesForm_iff] at hp
      obtain ⟨⟨h2, h65⟩, copies, ⟨hall, hd, howner⟩, ⟨⟩⟩ := hp
      exact ⟨hfields, hheader, ⟨items, hitems, h2, h65, hall⟩, hd, howner⟩
    · cases hp
  · rintro ⟨hfields, hheader, ⟨items, hitems, h2, h65, hall⟩, hd, howner⟩
    refine ⟨hfields, e.header, hheader, ?_⟩
    simp only [hitems, guard_eq_ok, not_or, Nat.not_lt, bind_eq_ok, parseCopies_eq_ok, copiesForm_iff]
    exact ⟨⟨h2, h65⟩, e.copies, ⟨hall, hd, howner⟩, rfl⟩

theorem parseReleaseHeader_toJson_eq {h' : ReleaseHeader}
    (hp : parseReleaseHeader (h.toJson : Json ν) = .ok h') : h' = h := by
  obtain ⟨-, hagree, -⟩ := parseReleaseHeader_eq_ok.mp hp
  obtain ⟨_, _, _, _, _, _⟩ := h'
  obtain ⟨-, ⟨⟩, ⟨⟩, ⟨⟩, ⟨⟩, ⟨⟩, ⟨⟩⟩ := agree_header_iff.mp hagree
  rfl

theorem EnvelopeForm.toJson {μ : Type} [DecidableEq μ] [One μ] {v : Json μ}
    (h : EnvelopeForm v e) : EnvelopeForm (e.toJson : Json ν) e := by
  obtain ⟨-, hheader, ⟨items, -, h2, h65, hall⟩, hd, howner⟩ := h
  obtain ⟨-, -, hform⟩ := parseReleaseHeader_eq_ok.mp hheader
  refine ⟨⟨_, rfl, List.Perm.refl _⟩, ?_, ⟨e.copies.map ReleaseCopy.toJson, rfl, ?_, ?_, ?_⟩, hd, howner⟩
  · exact parseReleaseHeader_toJson hform
  · rw [length_map, ← hall.length_eq]
    exact h2
  · rw [length_map, ← hall.length_eq]
    exact h65
  · rw [forall₂_map_left_iff, forall₂_same]
    intro c hc
    exact parseReleaseCopy_toJson (forall_copy_form hall c hc)

theorem parseReleaseEnvelope_toJson_eq {e' : ReleaseEnvelope}
    (hp : parseReleaseEnvelope (e.toJson : Json ν) = .ok e') : e' = e := by
  obtain ⟨-, hheader, ⟨items, hitems, -, -, hall⟩, -, -⟩ := parseReleaseEnvelope_eq_ok.mp hp
  obtain ⟨header, copies⟩ := e
  obtain ⟨header', copies'⟩ := e'
  obtain rfl := parseReleaseHeader_toJson_eq hheader
  have hmap : items = copies.map ReleaseCopy.toJson := by
    cases hitems
    rfl
  rw [hmap, forall₂_map_left_iff] at hall
  have heq : List.Forall₂ (· = ·) copies copies' := hall.imp fun _ _ h => (parseReleaseCopy_toJson_eq h).symm
  rw [forall₂_eq_eq_eq] at heq
  rw [heq]

/-- `parseReleaseEnvelope` accepts the values of the form and no others; what it returns has the
values of the input's fields, copy by copy, and parses to itself. -/
theorem release_envelope_exact (v : Json ν) : (∀ e, parseReleaseEnvelope v = .ok e ↔ EnvelopeForm v e) ∧
    (∀ e, parseReleaseEnvelope v = .ok e → (Agree HEADER_FIELDS v e.toJson ∧
        ∃ items, v.field "copies" = some (.arr items) ∧
          List.Forall₂ (fun item copy => Agree COPY_FIELDS item copy.toJson) items e.copies) ∧
      parseReleaseEnvelope (e.toJson : Json ν) = .ok e) := by
  refine ⟨fun e => parseReleaseEnvelope_eq_ok, fun e hp => ?_⟩
  have hform := parseReleaseEnvelope_eq_ok.mp hp
  refine ⟨⟨fun name hname => ?_, ?_⟩, parseReleaseEnvelope_eq_ok.mpr hform.toJson⟩
  · obtain ⟨-, hagree, -⟩ := parseReleaseHeader_eq_ok.mp hform.header
    rw [← headerInput_agree v name hname, hagree name hname,
      ← headerInput_agree e.toJson name hname, headerInput_toJson]
  · obtain ⟨items, hitems, -, -, hall⟩ := hform.copies
    exact ⟨items, hitems, hall.imp fun _ _ h => (parseReleaseCopy_eq_ok.mp h).2.1⟩

end Envelope

theorem isFingerprint_toHex (h : b.length = RELEASE_FINGERPRINT_BYTES) : isFingerprint (toHex b) = true :=
  Option.isSome_iff_exists.mpr ⟨b, fromHex_eq_some.mpr ⟨rfl, h⟩⟩

theorem decodeCanonicalBase64_toBase64 (h : b.length = n) (hn : n ≠ 0) :
    decodeCanonicalBase64 (toBase64 b) (some n) = some b := by
  refine decodeCanonicalBase64_eq_some.mpr ⟨rfl, ?_, ?_⟩
  · rintro rfl
    exact hn h.symm
  · intro m hm
    rw [h]
    exact Option.some.inj hm

theorem isBase64Of_toBase64 (h : b.length = n) (hn : n ≠ 0) : isBase64Of n (toBase64 b) = true := by
  rw [isBase64Of, decodeCanonicalBase64_toBase64 h hn]
  rfl

theorem releaseContentCiphertextIsPadded_iff {length : Nat} : releaseContentCiphertextIsPadded length = true ↔
      ∃ size ∈ RELEASE_PADDED_SIZES, length = size + 16 := by
  rw [releaseContentCiphertextIsPadded, any_eq_true]
  refine exists_congr fun size => and_congr_right fun _ => ?_
  rw [decide_eq_true_eq, eq_comm, GCM_TAG_BYTES]

theorem isContentCiphertext_toBase64 (h : releaseContentCiphertextIsPadded b.length = true) :
    isContentCiphertext (toBase64 b) = true := by
  obtain ⟨size, hsize, hlen⟩ := releaseContentCiphertextIsPadded_iff.mp h
  have hdecode : decodeCanonicalBase64 (toBase64 b) none = some b := by
    refine decodeCanonicalBase64_eq_some.mpr ⟨rfl, ?_, nofun⟩
    rintro rfl
    exact absurd hlen (Nat.succ_ne_zero _).symm
  have hmax : size ≤ 262144 := by
    have all : ∀ size ∈ RELEASE_PADDED_SIZES, size ≤ 262144 := by decide
    exact all size hsize
  rw [isContentCiphertext, hdecode, length_toBase64, Bool.and_eq_true, decide_eq_true_eq]
  refine ⟨?_, h⟩
  rw [MAX_CIPHERTEXT_BASE64, base64Length, base64Length, GCM_TAG_BYTES]
  omega

theorem isSealedKey_toBase64 (h : b.length = RELEASE_SEALED_KEY_BYTES) :
    isSealedKey (toBase64 b) = x25519KeyIsCanonical (b.take X25519_PUBLIC_KEY_BYTES) := by
  rw [isSealedKey, decodeCanonicalBase64_toBase64 h (by decide)]
  rfl

theorem isSignature_toBase64 (h : b.length = ED25519_SIGNATURE_BYTES) :
    isSignature (toBase64 b) = ed25519SignatureIsAcceptable b := by
  rw [isSignature, decodeCanonicalBase64_toBase64 h (by decide)]
  rfl

/-! ## An envelope of two copies -/

def sampleHeader : ReleaseHeader where
  releaseId := sampleContext.releaseId
  ownerAccountId := sampleContext.ownerAccountId
  ownerFingerprint := sampleContext.ownerFingerprint
  contentNonce := toBase64 (List.replicate 12 0)
  contentCiphertext := toBase64 (List.replicate 1040 0)
  keyCommitment := toBase64 (List.replicate 32 0)

def sampleCopy (accountId : String) (fingerprint : Bytes) : ReleaseCopy where
  recipientAccountId := jsString accountId
  recipientFingerprint := toHex fingerprint
  sealedKey := toBase64 (List.replicate 1180 0)
  signature := toBase64 (2 :: List.replicate 63 0)

def sampleEnvelope : ReleaseEnvelope where
  header := sampleHeader
  copies := [sampleCopy "ana" (List.replicate 32 0), sampleCopy "ben" (List.replicate 32 1)]

theorem sampleHeader_form : sampleHeader.Form where
  releaseId := by decide
  ownerAccountId := by decide
  ownerFingerprint := isFingerprint_toHex length_replicate
  contentNonce := isBase64Of_toBase64 length_replicate (by decide)
  contentCiphertext := isContentCiphertext_toBase64 (by rw [length_replicate]; decide)
  keyCommitment := isBase64Of_toBase64 length_replicate (by decide)

theorem sampleSignature_acceptable : ed25519SignatureIsAcceptable (2 :: List.replicate 63 0) = true := by
  decide

theorem sampleCopy_form {accountId : String} (h : releaseAccountIdPattern (jsString accountId) = true)
    {fingerprint : Bytes} (hlen : fingerprint.length = 32) : (sampleCopy accountId fingerprint).Form where
  recipientAccountId := h
  recipientFingerprint := isFingerprint_toHex hlen
  sealedKey := (isSealedKey_toBase64 length_replicate).trans (by decide)
  signature := (isSignature_toBase64 rfl).trans sampleSignature_acceptable

theorem sampleEnvelope_form : EnvelopeForm (sampleEnvelope.toJson : Json Int) sampleEnvelope where
  fields := ⟨_, rfl, List.Perm.refl _⟩
  header := parseReleaseHeader_toJson sampleHeader_form
  copies := ⟨_, rfl, by decide, by decide, .cons
    (parseReleaseCopy_toJson (sampleCopy_form (by decide) length_replicate))
    (.cons (parseReleaseCopy_toJson (sampleCopy_form (by decide) length_replicate)) .nil)⟩
  distinct := pairwise_pair.mpr (by decide)
  owner := ⟨sampleCopy "ana" (List.replicate 32 0), rfl, rfl⟩

theorem release_envelope_exact_sample :
    parseReleaseEnvelope (sampleEnvelope.toJson : Json Int) = .ok sampleEnvelope :=
  ((release_envelope_exact sampleEnvelope.toJson).1 sampleEnvelope).mpr
    sampleEnvelope_form

/-! ## Envelopes as texts -/

theorem distinct_copies {ν : Type} (copies : List ReleaseCopy) :
    DistinctItems (copies.map (ReleaseCopy.toJson (ν := ν))) := by
  induction copies with
  | nil => trivial
  | cons c copies ih =>
    refine ⟨?_, ih⟩
    simp only [ReleaseCopy.toJson, Distinct, DistinctFields, map_cons, map_nil, and_true]
    decide

/-- An envelope that was accepted is accepted again after `JSON.stringify` and `JSON.parse`, as it
was. -/
theorem release_envelope_text {ν : Type} [JsonNumber ν] [DecidableEq ν] [One ν] {v : Json ν}
    {e : ReleaseEnvelope} (h : parseReleaseEnvelope v = .ok e) (layout : Layout) :
    (parse (ν := ν) (print layout 0 (e.toJson : Json ν))).map parseReleaseEnvelope = some (.ok e) := by
  have hdistinct : Distinct (e.toJson : Json ν) := by
    refine ⟨show (ENVELOPE_FIELDS.map jsString).Nodup by decide, ?_⟩
    simp only [ReleaseHeader.properties, cons_append, nil_append, Distinct, DistinctFields,
      distinct_copies, and_true]
  rw [← append_nil (print layout 0 _), parse_print layout _ hdistinct (forall_mem_nil _)]
  exact congrArg some (parseReleaseEnvelope_eq_ok.mpr (parseReleaseEnvelope_eq_ok.mp h).toJson)

theorem release_envelope_text_sample :
    (parse (ν := Int) (print .compact 0 (sampleEnvelope.toJson : Json Int))).map
    parseReleaseEnvelope = some (.ok sampleEnvelope) :=
  release_envelope_text (parseReleaseEnvelope_eq_ok.mpr sampleEnvelope_form) .compact

end Blackout.Protocol
