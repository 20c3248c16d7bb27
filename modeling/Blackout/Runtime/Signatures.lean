import Mathlib.Data.List.Sort
import Blackout.Lib.Join
import Blackout.Lib.Sha256
import Blackout.Lib.Utf16
import Blackout.Lib.Utf8
import Blackout.Runtime.Node

/-!
# Signed registrations and attestations (`blackout_runtime/module.py`)

The homeserver module accepts a plugin whose registration carries an HMAC of its fields, and an
attestation whose proof is a hash of its fields and a secret. The fields are joined with `:`, and
capabilities with `,`, which a field may have as well. One signature is for one set of fields
exactly when the separators in them are in the same places (`signatures_bind`).
-/

namespace Blackout.Runtime

open List
open Option hiding map_map

abbrev Content := String → Option PyValue

/-- The configured keys. -/
structure Keys where
  attestationSecret : PyString
  pluginSignatureSecret : PyString

/-- An entry of type `plugin_registration_rejected`. -/
structure Anomaly where
  ts : Int
  sender : PyString
  pluginId : Option PyString
  signingKeyId : Option PyString
  reason : String

inductive Failure
  /-- `SynapseError(403, message)`, with the entry written to the anomalies before. -/
  | synapseError (message : String) (anomaly : Option Anomaly)
  | unicodeEncodeError
  | typeError

/-- `text.encode("utf-8")`, which raises at a surrogate. -/
def utf8 (text : PyString) : Option Bytes :=
  if text.all (·.val.isValidChar) then some (Utf8.encode (text.map fun c => Char.ofNat c.val)) else none

/-- The hex digest of a text. -/
def digestWith (hash : Bytes → Bytes) (text : PyString) : Option PyString :=
  (utf8 text).map fun bytes => hexdigest (hash bytes)

def nonempty : PyValue → Option PyString
  | .str [] => none
  | .str text => some text
  | _ => none

def coerceStringList : Option PyValue → Option (List PyString)
  | some (.list items) => items.mapM nonempty
  | _ => none

/-! ## Registrations -/

structure Registration where
  pluginId : PyString
  pluginVersion : PyString
  capabilities : List PyString
  signingKeyId : PyString
  signature : PyString

/-- The fields of a registration that is not malformed. -/
def registration (content : Content) : Option Registration := do
  let pluginId ← content "plugin_id" >>= nonempty
  let pluginVersion ← content "plugin_version" >>= nonempty
  let signingKeyId ← content "signing_key_id" >>= nonempty
  let signature ← content "signature" >>= nonempty
  let capabilities ← coerceStringList (content "capabilities")
  if capabilities = [] then none
  else some ⟨pluginId, pluginVersion, capabilities, signingKeyId, signature⟩

def colon : CodePoint := 58

def comma : CodePoint := 44

namespace Registration

def canonicalCapabilities (r : Registration) : List PyString := r.capabilities.insertionSort (· ≤ ·)

def text (r : Registration) : PyString :=
  r.pluginId ++ colon :: (r.pluginVersion ++ colon :: (r.signingKeyId ++ colon ::
    [comma].intercalate r.canonicalCapabilities))

def expectedSignature (keys : Keys) (r : Registration) : Option PyString :=
  (utf8 keys.pluginSignatureSecret).bind fun key => digestWith (hmac key) r.text

end Registration

section
variable (keys : Keys)

/-- `policy` is the content of the room's plugin policy, if that is a mapping. -/
def validatePluginRegistration (now : Int) (sender : PyString) (content : Content)
    (policy : Option Content) : Except Failure Unit :=
  let reject pluginId signingKeyId reason message :=
    .error (.synapseError message (some ⟨now, sender, pluginId, signingKeyId, reason⟩))
  match registration content, policy with
  | none, _ => reject none none "malformed_registration" "Plugin registration payload is malformed"
  | some r, none => reject r.pluginId none "missing_policy" "Plugin registration policy is required"
  | some r, some policy =>
    let allowlistedPlugins := coerceStringList (policy "allowlisted_plugins")
    let revokedSigningKeys := coerceStringList (policy "revoked_signing_key_ids")
    let trustedCapabilities := coerceStringList (policy "trusted_capabilities")
    if !allowlistedPlugins.any (·.contains r.pluginId) then
      reject r.pluginId none "plugin_not_allowlisted" "Plugin is not allowlisted for registration"
    else if revokedSigningKeys.any (·.contains r.signingKeyId) then
      reject r.pluginId r.signingKeyId "signing_key_revoked" "Plugin signing key has been revoked"
    else if trustedCapabilities.any fun trusted => r.capabilities.any (!trusted.contains ·) then
      reject r.pluginId none "capability_not_trusted" "Plugin requests a capability outside trust policy"
    else match r.expectedSignature keys with
      | none => .error .unicodeEncodeError
      | some expectedSignature =>
        if r.signature = expectedSignature then .ok ()
        -- compare_digest raises at a character outside ASCII, which no digest has
        else if r.signature.any (128 ≤ ·.val) then .error .typeError
        else reject r.pluginId none "signature_verification_failed" "Plugin signature verification failed"

/-! ## Attestations -/

structure Attestation where
  nodeId : PyString
  subject : PyString
  proof : PyString

def attestation (content : Content) : Option Attestation :=
  match content "node_id", content "subject_user_id", content "proof" with
  | some (.str nodeId), some (.str subject), some (.str proof) => some ⟨nodeId, subject, proof⟩
  | _, _, _ => none

def Attestation.text (a : Attestation) : PyString :=
  a.nodeId ++ colon :: (a.subject ++ colon :: keys.attestationSecret)

def validateAttestationProof (content : Content) : Except Failure Unit :=
  match attestation content with
  | none => .error (.synapseError "Attestation proof fields are malformed" none)
  | some a =>
    match digestWith sha256 (a.text keys) with
    | none => .error .unicodeEncodeError
    | some expected =>
      if a.proof = expected then .ok ()
      else .error (.synapseError "Attestation proof verification failed" none)

/-! ## From a digest to its text -/

theorem utf8_inj {s t : PyString} {b : Bytes} (hs : utf8 s = some b) (ht : utf8 t = some b) : s = t := by
  unfold utf8 at hs ht
  split at hs <;> split at ht <;> try contradiction
  rename_i vs vt
  have hdecode := congrArg (Utf8.decodeFrom .fresh) (Option.some.inj (hs.trans ht.symm))
  rw [Utf8.decodeFrom_encode, Utf8.decodeFrom_encode] at hdecode
  have hchars := map_injective_iff.mpr (some_injective Char) hdecode
  have back : ∀ l : PyString, l.all (·.val.isValidChar) = true →
      (l.map fun c => Char.ofNat c.val).map Char.toNat = l.map Fin.val := by
    intro l hl
    rw [map_map]
    refine map_congr_left fun c hc => ?_
    exact Utf16.toNat_char (of_decide_eq_true (all_eq_true.mp hl c hc))
  have hvals := congrArg (List.map Char.toNat) hchars
  rw [back s vs, back t vt] at hvals
  exact map_injective_iff.mpr Fin.val_injective hvals

theorem py_inj {s t : String} (h : py s = py t) : s = t := by
  refine String.toList_injective (map_injective_iff.mpr (fun c d heq => ?_) h)
  exact Char.ext (UInt32.toNat_inj.mp (Fin.mk.inj heq))

theorem hexDigit_inj {m n : Nat} (hm : m < 16) (hn : n < 16) (h : hexDigit m = hexDigit n) : m = n := by
  have all : ∀ i j : Fin 16, hexDigit i = hexDigit j → i = j := by decide
  exact congrArg Fin.val (all ⟨m, hm⟩ ⟨n, hn⟩ h)

theorem hexdigest_inj {a b : Bytes} (h : hexdigest a = hexdigest b) : a = b := by
  replace h := String.ofList_injective (py_inj h)
  induction a generalizing b with
  | nil =>
    cases b with
    | nil => rfl
    | cons => contradiction
  | cons x a ih =>
    cases b with
    | nil => contradiction
    | cons y b =>
      simp only [flatMap_cons, cons_append, nil_append, cons.injEq] at h
      obtain ⟨hhigh, hlow, hrest⟩ := h
      have hx := x.toNat_lt
      have hy := y.toNat_lt
      have high := hexDigit_inj (by omega) (by omega) hhigh
      have low := hexDigit_inj (by omega) (by omega) hlow
      rw [UInt8.toNat_inj.mp (by omega : x.toNat = y.toNat), ih hrest]

/-- The two texts are no collision of the hash function. -/
def NoCollision (hash : Bytes → Bytes) (s t : PyString) : Prop :=
  ∀ a b, utf8 s = some a → utf8 t = some b → hash a = hash b → a = b

theorem noCollision_self (hash : Bytes → Bytes) (s : PyString) : NoCollision hash s s :=
  fun _ _ ha hb _ => Option.some.inj (ha.symm.trans hb)

theorem digestWith_inj {hash : Bytes → Bytes} {s t d : PyString} (h : NoCollision hash s t)
    (hs : digestWith hash s = some d) (ht : digestWith hash t = some d) : s = t := by
  obtain ⟨a, ha, hda⟩ := map_eq_some_iff.mp hs
  obtain ⟨b, hb, hdb⟩ := map_eq_some_iff.mp ht
  cases h a b ha hb (hexdigest_inj (hda.trans hdb.symm))
  exact utf8_inj ha hb

/-! ## From a text to its fields -/

/-- What the signature is for. -/
def Registration.signed (r : Registration) : PyString × PyString × PyString × List PyString :=
  (r.pluginId, r.pluginVersion, r.signingKeyId, r.canonicalCapabilities)

/-- How many colons the fields have, and how many commas the capabilities. -/
def Registration.separators (r : Registration) : Nat × Nat × Nat × List Nat :=
  (r.pluginId.count colon, r.pluginVersion.count colon, r.signingKeyId.count colon,
    r.canonicalCapabilities.map (List.count comma))

theorem signed_eq_iff {r r' : Registration} (h : r.text = r'.text) :
    r.signed = r'.signed ↔ r.separators = r'.separators := by
  simp only [Registration.signed, Registration.separators, Prod.mk.injEq]
  constructor
  · rintro ⟨hid, hversion, hkey, hcapabilities⟩
    rw [hid, hversion, hkey, hcapabilities]
    exact ⟨rfl, rfl, rfl, rfl⟩
  · rintro ⟨hid, hversion, hkey, hcapabilities⟩
    obtain ⟨hid, h⟩ := append_cons_inj_of_count hid h
    obtain ⟨hversion, h⟩ := append_cons_inj_of_count hversion h
    obtain ⟨hkey, h⟩ := append_cons_inj_of_count hkey h
    exact ⟨hid, hversion, hkey, intercalate_inj_of_count hcapabilities h⟩

theorem attested_eq_iff {keys : Keys} {a a' : Attestation} (h : a.text keys = a'.text keys) :
    (a.nodeId = a'.nodeId ∧ a.subject = a'.subject) ↔ a.nodeId.count colon = a'.nodeId.count colon := by
  constructor
  · rintro ⟨hnode, -⟩
    rw [hnode]
  · intro hcount
    obtain ⟨hnode, h⟩ := append_cons_inj_of_count hcount h
    exact ⟨hnode, append_cancel_right h⟩

/-! ## What passes -/

/-- Some request with these fields is accepted. -/
def Registers (r : Registration) : Prop := ∃ now sender content policy,
  registration content = some r ∧ validatePluginRegistration keys now sender content policy = .ok ()

def Attests (a : Attestation) : Prop := ∃ content,
  attestation content = some a ∧ validateAttestationProof keys content = .ok ()

end

section

variable {keys : Keys} {content : Content} {r : Registration} {a : Attestation}

theorem Registers.signature_eq (h : Registers keys r) : r.expectedSignature keys = some r.signature := by
  obtain ⟨_, _, content, policy, hr, h⟩ := h
  cases policy with
  | none => simp [validatePluginRegistration, hr] at h
  | some policy =>
    simp only [validatePluginRegistration, hr] at h
    generalize r.expectedSignature keys = expected at h ⊢
    repeat' split at h
    all_goals try cases h
    exact congrArg some (Eq.symm ‹_›)

theorem validatePluginRegistration_ok {now : Int} {sender : PyString} {policy : Content}
    (hr : registration content = some r)
    (hallowed : coerceStringList (policy "allowlisted_plugins") = some [r.pluginId])
    (hrevoked : coerceStringList (policy "revoked_signing_key_ids") = none)
    (htrusted : coerceStringList (policy "trusted_capabilities") = none)
    (hsig : r.expectedSignature keys = some r.signature) :
    validatePluginRegistration keys now sender content (some policy) = .ok () := by
  simp [validatePluginRegistration, hr, hallowed, hrevoked, htrusted, hsig]

theorem Attests.proof_eq (h : Attests keys a) : digestWith sha256 (a.text keys) = some a.proof := by
  obtain ⟨content, ha, h⟩ := h
  simp only [validateAttestationProof, ha] at h
  generalize digestWith sha256 (a.text keys) = expected at h ⊢
  repeat' split at h
  all_goals try cases h
  exact congrArg some (Eq.symm ‹_›)

theorem validateAttestationProof_ok (ha : attestation content = some a)
    (h : digestWith sha256 (a.text keys) = some a.proof) : validateAttestationProof keys content = .ok () := by
  simp [validateAttestationProof, ha, h]

end

/-- Two registrations that pass with one signature have the same signed fields exactly when these
have their separators alike, and two attestations that pass with one proof the same node and subject
exactly when the node ids have as many colons, if the two texts are no collision. -/
theorem signatures_bind (keys : Keys) :
    (∀ r r' : Registration, Registers keys r → Registers keys r' → r.signature = r'.signature →
      (∀ key, utf8 keys.pluginSignatureSecret = some key → NoCollision (hmac key) r.text r'.text) →
      (r.signed = r'.signed ↔ r.separators = r'.separators)) ∧
    ∀ a a' : Attestation, Attests keys a → Attests keys a' → a.proof = a'.proof →
      NoCollision sha256 (a.text keys) (a'.text keys) →
      ((a.nodeId = a'.nodeId ∧ a.subject = a'.subject) ↔
        a.nodeId.count colon = a'.nodeId.count colon) := by
  constructor
  · intro r r' h h' heq hdistinct
    obtain ⟨key, hkey, hsig⟩ := bind_eq_some_iff.mp h.signature_eq
    obtain ⟨_, hkey', hsig'⟩ := bind_eq_some_iff.mp h'.signature_eq
    cases hkey.symm.trans hkey'
    exact signed_eq_iff (digestWith_inj (hdistinct key hkey) hsig (heq ▸ hsig'))
  · intro a a' h h' heq hdistinct
    exact attested_eq_iff (digestWith_inj hdistinct h.proof_eq (heq ▸ h'.proof_eq))

def sampleKeys : Keys := ⟨[115], [115]⟩

def sampleSignature (text : String) : PyString := hexdigest (hmac [115] (Utf8.encode text.toList))

def sampleProof (text : String) : PyString := hexdigest (sha256 (Utf8.encode text.toList))

/-- A registration, an attestation and a policy in one. -/
def sampleContent (first second : String) (capabilities : List PyString) (digest : PyString) : Content
  | "plugin_id" | "node_id" => some (.str (py first))
  | "plugin_version" | "subject_user_id" => some (.str (py second))
  | "signing_key_id" => some (.str [107])
  | "capabilities" => some (.list (capabilities.map .str))
  | "signature" | "proof" => some (.str digest)
  | "allowlisted_plugins" => some (.list [.str (py first)])
  | _ => none

def sampleRegistration (first second : String) (capabilities : List PyString) (text : String) :
    Registration :=
  ⟨py first, py second, capabilities, [107], sampleSignature text⟩

def sampleAttestation (first second text : String) : Attestation := ⟨py first, py second, sampleProof text⟩

theorem sampleSignature_ne_nil (text : String) : sampleSignature text ≠ [] := by
  intro h
  have hempty : hexdigest [] = [] := by simp [hexdigest, py]
  have hlen := congrArg List.length (hexdigest_inj (h.trans hempty.symm))
  rw [hmac, sha256_length] at hlen
  cases hlen

/-- A registration with the digest of its own text passes. -/
theorem sample_registers {first second text : String} {capabilities : List PyString}
    (hfields : ∀ c digest, registration (sampleContent first second capabilities (c :: digest)) =
      some ⟨py first, py second, capabilities, [107], c :: digest⟩)
    (hallowed : coerceStringList (some (.list [.str (py first)])) = some [py first])
    (hsig : (sampleRegistration first second capabilities text).expectedSignature sampleKeys =
      some (sampleSignature text)) :
    Registers sampleKeys (sampleRegistration first second capabilities text) := by
  obtain ⟨c, digest, hcons⟩ := exists_cons_of_ne_nil (sampleSignature_ne_nil text)
  rw [sampleRegistration, hcons] at hsig ⊢
  exact ⟨0, [], _, some (sampleContent first second [] []), hfields c digest,
    validatePluginRegistration_ok (hfields c digest) hallowed rfl rfl hsig⟩

theorem sample_attests {first second text : String}
    (hproof : digestWith sha256 ((sampleAttestation first second text).text sampleKeys) =
      some (sampleProof text)) :
    Attests sampleKeys (sampleAttestation first second text) := by
  rw [sampleAttestation] at hproof ⊢
  generalize sampleProof text = proof at hproof ⊢
  exact ⟨sampleContent first second [] proof, rfl, validateAttestationProof_ok rfl hproof⟩

/-- Two orders of the capabilities, and a node id with a colon. -/
theorem signatures_bind_sample :
    (sampleRegistration "a:b" "c" [[120], [121]] "a:b:c:k:x,y").signed =
      (sampleRegistration "a:b" "c" [[121], [120]] "a:b:c:k:x,y").signed ∧
    (sampleAttestation "a:b" "c" "a:b:c:s").subject = py "c" := by
  have attests : Attests sampleKeys (sampleAttestation "a:b" "c" "a:b:c:s") := sample_attests rfl
  refine ⟨((signatures_bind sampleKeys).1 _ _ (sample_registers (fun _ _ => rfl) rfl rfl)
    (sample_registers (fun _ _ => rfl) rfl rfl) rfl fun key _ => noCollision_self _ _).mpr rfl, ?_⟩
  exact (((signatures_bind sampleKeys).2 _ _ attests attests rfl (noCollision_self _ _)).mpr rfl).2

/-- The first field may end where the second begins: `a:b` and `c`, `a` and `b:c`. -/
theorem shared_signature :
    Registers sampleKeys (sampleRegistration "a:b" "c" [[120]] "a:b:c:k:x") ∧
    Registers sampleKeys (sampleRegistration "a" "b:c" [[120]] "a:b:c:k:x") ∧
    Attests sampleKeys (sampleAttestation "a:b" "c" "a:b:c:s") ∧
    Attests sampleKeys (sampleAttestation "a" "b:c" "a:b:c:s") :=
  ⟨sample_registers (fun _ _ => rfl) rfl rfl, sample_registers (fun _ _ => rfl) rfl rfl,
    sample_attests rfl, sample_attests rfl⟩

end Blackout.Runtime
