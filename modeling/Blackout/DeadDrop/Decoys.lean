import Mathlib.Data.Rat.Floor
import Blackout.DeadDrop.Store
import Blackout.Protocol.Bytes

/-!
# Decoys (`handleFetch` of `deaddrop-appservice/src/index.mjs`, `decoys.mjs`)

A fetch answers with the drop under the clue, if there is one, among decoys made to look like it.

Random bytes and integers are parameters.
-/

namespace Blackout.DeadDrop

open Protocol List

variable {pad exp : JsString} {e : OpaqueEnvelope}
  {ikm salt info seed : Bytes} {counter : Int} {b : Rat} {roomId ct : JsString}

/-! ## The code -/

def envelopeV1 (pad dropId : JsString) (clue ek nonce ct : Bytes) (expiresAt : JsString) : Json Rat :=
  .obj [(jsString "v", .num 1), (jsString "suite", .str (jsString V1_SUITE)), (jsString "pad", .str pad),
    (jsString "dropId", .str dropId), (jsString "clue", .str (toBase64 clue)),
    (jsString "ek", .str (toBase64 ek)), (jsString "nonce", .str (toBase64 nonce)),
    (jsString "ct", .str (toBase64 ct)), (jsString "expiresAt", .str expiresAt)]

def DECOY_SALT : Bytes := utf8Encode (jsString "blackout-deaddrop-decoy-v1")

/-- HKDF of Node, which gives 255 blocks of 32 bytes at most. -/
def hkdfSync (ikm salt info : Bytes) (keylen : Rat) : Except Thrown Bytes :=
  if keylen.den = 1 ∧ 0 ≤ keylen ∧ keylen ≤ 255 * 32 then .ok (hkdf ikm salt info keylen.num.toNat)
  else .error .rangeError

def sliceDecoy (stream : Bytes) (ctBytes : Nat) (paddingStrategy expiresAt : JsString) : Json Rat :=
  envelopeV1 paddingStrategy (toHex ((stream.drop (60 + ctBytes)).take 16)) (stream.take 16)
    ((stream.drop 16).take 32) ((stream.drop 48).take 12) ((stream.drop 60).take ctBytes) expiresAt

/-- A decoy of a size, from the seed and a counter. -/
def generateDecoy (seed : Bytes) (counter : Int) (bucketBytes : Rat) (paddingStrategy expiresAt : JsString) :
    Except Thrown (Json Rat) :=
  match hkdfSync seed DECOY_SALT (utf8Encode (jsString s!"decoy:{counter}"))
      (16 + 32 + 12 + (bucketBytes + 16) + 16) with
  | .error e => .error e
  | .ok stream => .ok (sliceDecoy stream (bucketBytes.num.toNat + 16) paddingStrategy expiresAt)

def endsWith (s t : JsString) : Bool := t.isSuffixOf s

def ciphertextPadding (ct : JsString) : Nat :=
  if endsWith ct (jsString "==") then 2 else if endsWith ct (jsString "=") then 1 else 0

/-- The size of a ciphertext, from the length of its base64. -/
def ciphertextBytesFromEnvelope (envelope : OpaqueEnvelope) : Rat :=
  envelope.ct.length / 4 * 3 - ciphertextPadding envelope.ct

structure Randomness where
  seed : Fin 32 → UInt8
  ints : Nat → Nat

def newSeed (random : Fin 32 → UInt8) (roomId : JsString) : DecoySeed where
  roomId := roomId
  seedHex := toHex (List.ofFn random)
  length_seedHex := by rw [length_toHex, List.length_ofFn]

/-- The seed of a room, which is drawn once. -/
def getOrCreateDecoySeed (random : Fin 32 → UInt8) (s : Store) (roomId : JsString) :
    Except Thrown Bytes × Store :=
  match h : s.decoySeeds.read roomId with
  | .inherited => (.error .typeError, s)
  | .own row => (.ok (hexPairs row.seedHex), s)
  | .undefined =>
    (.ok (hexPairs (newSeed random roomId).seedHex),
      { s with decoySeeds := s.decoySeeds.add (newSeed random roomId) h })

/-- The swaps of the shuffle at the places up to `i`; `randomInt (i + 1)` is below `i + 1`. -/
def shuffleFrom {α : Type} (ints : Nat → Nat) : Nat → List α → List α
  | 0, all => all
  | i + 1, all => shuffleFrom ints i (all.swap (i + 1) (ints (i + 1) % (i + 2)))

def shuffle {α : Type} (ints : Nat → Nat) (all : List α) : List α := shuffleFrom ints (all.length - 1) all

section Fetch
variable (now : Int)

def refBytes (real : Option OpaqueEnvelope) : Rat :=
  match real with
  | some e => ciphertextBytesFromEnvelope e - 16
  | none => 1024

def refPad (real : Option OpaqueEnvelope) : JsString := (real.map OpaqueEnvelope.pad).getD (jsString "minimal")

def refExp (real : Option OpaqueEnvelope) : JsString :=
  (real.map OpaqueEnvelope.expiresAt).getD (jsString (toISOString (now + 3600000)))

/-- The number of decoys that a request asks for. -/
def desiredDecoys (defaultDecoys : Rat) (decoyCount : Option (Json Rat)) : Rat :=
  max 0 (match decoyCount with
    | some (.num n) => n
    | _ => defaultDecoys)

/-- The largest number of elements of a JavaScript array. -/
def MAX_ARRAY_LENGTH : Nat := 2 ^ 32 - 1

/-- `push` on an array of `length` elements. A full array throws. -/
def pushed {α : Type} (length : Nat) (element : α) : Except Thrown α :=
  if length < MAX_ARRAY_LENGTH then .ok element else .error .rangeError

/-- The loop runs for `i = 0, 1, ...` below the number asked for, which need not be an integer. It
finds the array with `i` decoys in it, so it ends before the counter leaves the integers that a
double holds. -/
def makeDecoys (seed : Bytes) (real : Option OpaqueEnvelope) (desired : Rat) :
    Except Thrown (List (Json Rat)) :=
  (List.range ⌈desired⌉₊).mapM fun (i : Nat) =>
    (generateDecoy seed (now * 1000 + i) (max 1 (refBytes real)) (refPad real)
      (refExp now real)).bind (pushed i)

/-- `[...real, ...decoys]`. What comes after the last place of an array is no element of it. -/
def spread {α : Type} (real decoys : List α) : List α := (real ++ decoys).take MAX_ARRAY_LENGTH

def fetched (all : List (Json Rat)) (decoyCount : Nat) : Reply :=
  ⟨200, .obj [(jsString "envelopes", .arr all), (jsString "decoyCount", .num decoyCount)]⟩

/-- The drop under the clue, if there is one, among decoys. -/
def handleFetch (parse : JsString → Option Int) (defaultDecoys : Rat) (random : Randomness)
    (s : Store) (body : Json Rat) : Except Thrown Reply × Store :=
  if isNull body then (.error .typeError, s)
  else
    match body.strField "roomId", body.strField "clue" with
    | some roomId, some clue =>
      match fetchByClue parse now s clue with
      | (.error e, s₁) => (.error e, s₁)
      | (.ok real, s₁) =>
        match getOrCreateDecoySeed random.seed s₁ roomId with
        | (.error e, s₂) => (.error e, s₂)
        | (.ok seed, s₂) =>
          match makeDecoys now seed real.head? (desiredDecoys defaultDecoys (body.field "decoyCount")) with
          | .error e => (.error e, s₂)
          | .ok decoys =>
            let all := spread (real.map OpaqueEnvelope.input) decoys
            (.ok (fetched (shuffle random.ints all) decoys.length), s₂)
    | _, _ => (.ok (errorReply 400 (jsString "roomId and clue are required")), s)

end Fetch

/-! ## Real envelopes -/

/-- What the sender makes, in the shape of version 1, from a ciphertext of some size
(`deaddrop/crypto/envelope.ts`). -/
structure SealedV1 (size : Nat) where
  pad : JsString
  dropId : Bytes
  clue : Bytes
  ek : Bytes
  nonce : Bytes
  ct : Bytes
  expiresAt : JsString
  pad_valid : padIsValid (some pad) = true
  length_dropId : dropId.length = 16
  length_clue : clue.length = 16
  length_ek : ek.length = 32
  length_nonce : nonce.length = 12
  length_ct : ct.length = size

def SealedV1.envelope {size : Nat} (r : SealedV1 size) : Json Rat :=
  envelopeV1 r.pad (toHex r.dropId) r.clue r.ek r.nonce r.ct r.expiresAt

def textLength : Json Rat → Nat
  | .str s => s.length
  | _ => 0

def fieldLengths : Json Rat → List (JsString × Nat)
  | .obj fields => fields.map fun p => (p.1, textLength p.2)
  | _ => []

/-- The fields and their lengths are those of a real envelope. -/
def LooksSealed (size : Nat) (e : Json Rat) : Prop :=
  ∃ r : SealedV1 size, fieldLengths e = fieldLengths r.envelope

variable {size n k : Nat} {d : Json Rat} {α β ε : Type} {f : α → Except ε β} {xs : List α}

theorem fieldLengths_envelope (r : SealedV1 size) : fieldLengths r.envelope =
      [(jsString "v", 0), (jsString "suite", (jsString V1_SUITE).length), (jsString "pad", r.pad.length),
        (jsString "dropId", 32), (jsString "clue", 24), (jsString "ek", 44), (jsString "nonce", 16),
        (jsString "ct", base64Length size), (jsString "expiresAt", r.expiresAt.length)] := by
  simp [SealedV1.envelope, envelopeV1, fieldLengths, textLength, length_toHex, length_toBase64,
    r.length_dropId, r.length_clue, r.length_ek, r.length_nonce, r.length_ct, base64Length]

theorem LooksSealed.congr (h : LooksSealed size d) (hn : base64Length n = base64Length size) :
    LooksSealed n d := by
  obtain ⟨r, hr⟩ := h
  refine ⟨{ r with ct := List.replicate n 0, length_ct := length_replicate }, ?_⟩
  rw [hr, fieldLengths_envelope, fieldLengths_envelope, hn]

theorem LooksSealed.base64Length_eq (h : LooksSealed size d) (h' : LooksSealed n d) :
    base64Length size = base64Length n := by
  obtain ⟨r, hr⟩ := h
  obtain ⟨r', hr'⟩ := h'
  rw [hr, fieldLengths_envelope, fieldLengths_envelope] at hr'
  simp only [cons.injEq, Prod.mk.injEq] at hr'
  exact hr'.2.2.2.2.2.2.2.1.2

/-! ## Making decoys -/

theorem hkdfSync_eq_ok (h : n ≤ 8160) :
    hkdfSync ikm salt info n = .ok (hkdf ikm salt info n) := by
  have hle : (n : Rat) ≤ 255 * 32 := by
    have : n ≤ 8160 := by exact_mod_cast h
    norm_num at this ⊢
    exact this
  simp [hkdfSync, hle]

theorem hkdfSync_isOk {out : Bytes} {keylen : Rat}
    (h : hkdfSync ikm salt info keylen = .ok out) : ∃ n : Nat, keylen = n ∧ n ≤ 8160 := by
  rw [hkdfSync] at h
  split at h
  · rename_i hk
    obtain ⟨hden, hnonneg, hle⟩ := hk
    obtain ⟨m, hm⟩ := Int.eq_ofNat_of_zero_le (Rat.num_nonneg.mpr hnonneg)
    have hkey : keylen = m := by
      rw [← (Rat.den_eq_one_iff keylen).mp hden, hm]
      simp
    refine ⟨m, hkey, ?_⟩
    rw [hkey] at hle
    exact_mod_cast hle
  · cases h

theorem sliceDecoy_looks {stream : Bytes} (h : stream.length = n + 76)
    (hpad : padIsValid (some pad) = true) : LooksSealed n (sliceDecoy stream n pad exp) := by
  let r : SealedV1 n :=
    { pad := pad, expiresAt := exp, pad_valid := hpad
      dropId := (stream.drop (60 + n)).take 16
      clue := stream.take 16
      ek := (stream.drop 16).take 32
      nonce := (stream.drop 48).take 12
      ct := (stream.drop 60).take n
      length_dropId := by rw [length_take, length_drop]; omega
      length_clue := by rw [length_take]; omega
      length_ek := by rw [length_take, length_drop]; omega
      length_nonce := by rw [length_take, length_drop]; omega
      length_ct := by rw [length_take, length_drop]; omega }
  exact ⟨r, rfl⟩

variable (exp seed counter) in
theorem generateDecoy_looks (hn : n ≤ 8068) (hpad : padIsValid (some pad) = true) :
    ∃ d, generateDecoy seed counter n pad exp = .ok d ∧ LooksSealed (n + 16) d := by
  have htotal : (16 + 32 + 12 + (n + 16) + 16) = ((n + 16 + 76 : Nat) : Rat) := by
    push_cast
    ring
  have hnum : (n : Rat).num.toNat = n := by simp
  rw [generateDecoy, htotal, hkdfSync_eq_ok (by omega), hnum]
  exact ⟨_, rfl, sliceDecoy_looks (hkdf_length _ _ _ _) hpad⟩

theorem generateDecoy_bound (hb : 1 ≤ b)
    (h : generateDecoy seed counter b pad exp = .ok d) : ∃ m : Nat, b = m ∧ 1 ≤ m ∧ m ≤ 8068 := by
  rw [generateDecoy] at h
  split at h
  · cases h
  rename_i stream hstream
  obtain ⟨n, htotal, hn⟩ := hkdfSync_isOk hstream
  have hbn : b = n - 92 := by linarith
  have h93 : 93 ≤ n := by
    have : (93 : Rat) ≤ n := by linarith
    exact_mod_cast this
  refine ⟨n - 92, ?_, by omega, by omega⟩
  rw [hbn, Nat.cast_sub (by omega)]
  rfl

theorem mapM_ok {P : β → Prop}
    (h : ∀ x ∈ xs, ∃ y, f x = .ok y ∧ P y) : ∃ ys, xs.mapM f = .ok ys ∧ ys.length = xs.length ∧
    ∀ y ∈ ys, P y := by
  induction xs with
  | nil => exact ⟨[], rfl, rfl, by simp⟩
  | cons x xs ih =>
    obtain ⟨y, hy, hP⟩ := h x mem_cons_self
    obtain ⟨ys, hys, hlen, hall⟩ := ih (forall_mem_cons.mp h).2
    refine ⟨y :: ys, ?_, by simp [hlen], by simpa using ⟨hP, hall⟩⟩
    rw [mapM_cons, hy, hys]
    rfl

theorem generateDecoy_error (hb : 8068 < b) :
    generateDecoy seed counter b pad exp = .error .rangeError := by
  have hlong : ¬ (16 + 32 + 12 + (b + 16) + 16) ≤ 255 * 32 := by
    linarith
  simp [generateDecoy, hkdfSync, hlong]

theorem forall₂_of_mapM {ys : List β} (h : xs.mapM f = .ok ys) :
    Forall₂ (fun x y => f x = .ok y) xs ys := by
  induction xs generalizing ys with
  | nil =>
    obtain rfl : [] = ys := Except.ok.inj h
    exact .nil
  | cons x xs ih =>
    rw [mapM_cons] at h
    cases hf : f x with
    | error e => simp [hf, bind, Except.bind] at h
    | ok y =>
      cases hrest : xs.mapM f with
      | error e => simp [hf, hrest, bind, Except.bind] at h
      | ok rest =>
        simp only [hf, hrest, bind, Except.bind, pure, Except.pure, Except.ok.injEq] at h
        exact h ▸ .cons hf (ih hrest)

section Make
variable {now : Int} {seed : Bytes} {real : Option OpaqueEnvelope} {desired : Rat}

variable (real) in
theorem padIsValid_refPad : padIsValid (some (refPad real)) = true := by
  cases real with
  | none => decide
  | some e => exact e.padIsValid_pad

variable (now seed) in
theorem makeDecoys_looks {m : Nat} (hm : max 1 (refBytes real) = m) (hle : m ≤ 8068)
    (hroom : desired ≤ MAX_ARRAY_LENGTH) :
    ∃ decoys, makeDecoys now seed real desired = .ok decoys ∧ decoys.length = ⌈desired⌉₊ ∧
      ∀ d ∈ decoys, LooksSealed (m + 16) d := by
  rw [makeDecoys, hm]
  have hmake : ∀ i ∈ List.range ⌈desired⌉₊, ∃ d,
      (generateDecoy seed (now * 1000 + i) m (refPad real) (refExp now real)).bind (pushed i) =
        .ok d ∧ LooksSealed (m + 16) d := by
    intro i hi
    have hpush : i < MAX_ARRAY_LENGTH := (mem_range.mp hi).trans_le (Nat.ceil_le.mpr hroom)
    obtain ⟨d, hd, hlooks⟩ :=
      generateDecoy_looks (refExp now real) seed (now * 1000 + i) hle (padIsValid_refPad real)
    refine ⟨d, ?_, hlooks⟩
    rw [hd]
    exact if_pos hpush
  obtain ⟨decoys, hmap, hlen, hlooks⟩ := mapM_ok hmake
  exact ⟨decoys, hmap, by rw [hlen, length_range], hlooks⟩

theorem max_refBytes_none : max 1 (refBytes none) = (1024 : Nat) := by
  rw [refBytes]
  norm_num

theorem makeDecoys_none (hd : ¬ 0 < desired) : makeDecoys now seed real desired = .ok [] := by
  rw [makeDecoys, Nat.ceil_eq_zero.mpr (not_lt.mp hd)]
  rfl

theorem length_makeDecoys {decoys : List (Json Rat)} (h : makeDecoys now seed real desired = .ok decoys) :
    decoys.length = ⌈desired⌉₊ := by
  have hlen := (forall₂_of_mapM h).length_eq
  rw [length_range] at hlen
  exact hlen.symm

theorem makeDecoys_bound {decoys : List (Json Rat)} (hd : 0 < desired)
    (h : makeDecoys now seed real desired = .ok decoys) :
    ∃ m : Nat, max 1 (refBytes real) = m ∧ 1 ≤ m ∧ m ≤ 8068 := by
  have hall := forall₂_of_mapM h
  obtain ⟨k, hk⟩ : ∃ k, ⌈desired⌉₊ = k + 1 := Nat.exists_eq_succ_of_ne_zero (Nat.ceil_pos.mpr hd).ne'
  rw [hk, range_succ_eq_map] at hall
  cases hall with
  | cons hfirst _ =>
    cases hd : generateDecoy seed (now * 1000 + (0 : Nat)) (max 1 (refBytes real)) (refPad real)
        (refExp now real) with
    | error e =>
      rw [hd] at hfirst
      cases hfirst
    | ok d => exact generateDecoy_bound (le_max_left _ _) hd

theorem makeDecoys_error (hd : 0 < desired) (h : 8068 < refBytes real) :
    makeDecoys now seed real desired = .error .rangeError := by
  obtain ⟨k, hk⟩ : ∃ k, ⌈desired⌉₊ = k + 1 := Nat.exists_eq_succ_of_ne_zero (Nat.ceil_pos.mpr hd).ne'
  rw [makeDecoys, hk, range_succ_eq_map, mapM_cons, generateDecoy_error (h.trans_le (le_max_right _ _))]
  rfl

end Make

/-! ## Sizes -/

theorem ciphertextPadding_le (ct : JsString) : ciphertextPadding ct ≤ 2 := by
  unfold ciphertextPadding
  split
  · decide
  · split <;> decide

theorem ciphertextBytes_eq (hk : e.ct.length = 4 * k) (h1 : 1 ≤ k) :
    ciphertextBytesFromEnvelope e = (3 * k - ciphertextPadding e.ct : Nat) := by
  have hp := ciphertextPadding_le e.ct
  rw [ciphertextBytesFromEnvelope, hk, Nat.cast_sub (by omega)]
  push_cast
  ring

theorem dvd_of_ciphertextBytes (h : ciphertextBytesFromEnvelope e = size) : 4 ∣ e.ct.length := by
  rw [ciphertextBytesFromEnvelope] at h
  have h' : (3 * e.ct.length : Rat) = 4 * (size + ciphertextPadding e.ct) := by linarith
  have hnat : 3 * e.ct.length = 4 * (size + ciphertextPadding e.ct) := by exact_mod_cast h'
  omega

/-- The size is that of a sealed text, and HKDF can give that many bytes at once. -/
def Sized (e : OpaqueEnvelope) : Prop := 4 ∣ e.ct.length ∧ 24 ≤ e.ct.length ∧
    ciphertextBytesFromEnvelope e ≤ 8084

theorem sized_bucket (h : Sized e) :
    ∃ m size : Nat, max 1 (refBytes (some e)) = m ∧ m ≤ 8068 ∧
      ciphertextBytesFromEnvelope e = size ∧ base64Length size = base64Length (m + 16) := by
  obtain ⟨⟨k, hk⟩, h24, hle⟩ := h
  have hp := ciphertextPadding_le e.ct
  have hbytes := ciphertextBytes_eq hk (by omega)
  rw [hbytes] at hle
  have hle' : 3 * k - ciphertextPadding e.ct ≤ 8084 := by exact_mod_cast hle
  refine ⟨max 1 (3 * k - ciphertextPadding e.ct - 16), 3 * k - ciphertextPadding e.ct, ?_, by omega, hbytes, ?_⟩
  · rw [refBytes, hbytes, Nat.cast_max, Nat.cast_sub (m := 16) (by omega)]
    norm_num
  · rw [base64Length, base64Length]
    omega

theorem sized_of_bucket {m : Nat} (hm : max 1 (refBytes (some e)) = m) (h1 : 1 ≤ m)
    (hle : m ≤ 8068) (hsize : ciphertextBytesFromEnvelope e = size)
    (hlen : base64Length size = base64Length (m + 16)) : Sized e := by
  obtain ⟨k, hk⟩ := dvd_of_ciphertextBytes hsize
  have hsz : size + ciphertextPadding e.ct = 3 * k := by
    rw [ciphertextBytesFromEnvelope, hk] at hsize
    have h' : (size + ciphertextPadding e.ct : Rat) = 3 * k := by
      push_cast at hsize
      linarith
    exact_mod_cast h'
  rw [base64Length, base64Length] at hlen
  have hge : (size : Rat) - 16 ≤ m := by
    rw [← hm, ← hsize]
    exact le_max_right _ _
  have hbound : size ≤ m + 16 := by
    have : (size : Rat) ≤ (m + 16 : Nat) := by push_cast; linarith
    exact_mod_cast this
  refine ⟨⟨k, hk⟩, by omega, ?_⟩
  rw [hsize]
  exact_mod_cast (by omega : size ≤ 8084)

/-! ## Fetches -/

theorem shuffleFrom_perm (ints : Nat → Nat) (i : Nat) (all : List α) :
    (shuffleFrom ints i all).Perm all := by
  induction i generalizing all with
  | zero => exact .refl _
  | succ i ih => exact (ih _).trans (swap_perm _ _ _)

theorem shuffle_perm (ints : Nat → Nat) (all : List α) : (shuffle ints all).Perm all :=
  shuffleFrom_perm ints _ all

theorem getOrCreateDecoySeed_inherited {r : Fin 32 → UInt8} {s : Store}
    (h : roomId ∈ inheritedNames) : getOrCreateDecoySeed r s roomId = (.error .typeError, s) := by
  have hread := (Dictionary.read_eq_inherited (d := s.decoySeeds)).mpr h
  unfold getOrCreateDecoySeed
  split
  · rfl
  · rename_i row hrow
    cases hread.symm.trans hrow
  · rename_i hrow
    cases hread.symm.trans hrow

theorem getOrCreateDecoySeed_ok (r : Fin 32 → UInt8) (s : Store)
    (h : roomId ∉ inheritedNames) : ∃ seed s', getOrCreateDecoySeed r s roomId = (.ok seed, s') := by
  unfold getOrCreateDecoySeed
  split
  · exact absurd (Dictionary.read_eq_inherited.mp ‹_›) h
  · exact ⟨_, _, rfl⟩
  · exact ⟨_, _, rfl⟩

section Fetches
variable (parse : JsString → Option Int) (now : Int) (defaultDecoys : Rat) (random : Randomness) (s : Store)
  (body : Json Rat) (roomId clue : JsString)

/-- The drop under the clue that has not expired. -/
def liveAt : List OpaqueEnvelope := (s.envelope? clue).toList.filter fun e => !expired parse now e

/-- A fetch answers with what is there and with decoys, in some order, and every decoy has the
fields and the field lengths of a real envelope whose ciphertext is as large. -/
def LooksReal : Prop := ∃ real decoys all, (fetchByClue parse now s clue).1 = .ok real ∧
    (handleFetch now parse defaultDecoys random s body).1 = .ok (fetched all decoys.length) ∧
    all.Perm (real.map OpaqueEnvelope.input ++ decoys) ∧
    ∀ d ∈ decoys, ∃ size : Nat, LooksSealed size d ∧ ∀ e ∈ real, ciphertextBytesFromEnvelope e = size

/-- The names are not those that every object inherits, the answer fits into an array, and decoys
are made for envelopes of the right sizes only. -/
def FetchSafe : Prop := clue ∉ inheritedNames ∧ roomId ∉ inheritedNames ∧
    (liveAt parse now s clue).length + desiredDecoys defaultDecoys (body.field "decoyCount") ≤
      MAX_ARRAY_LENGTH ∧
    (0 < desiredDecoys defaultDecoys (body.field "decoyCount") → ∀ e ∈ liveAt parse now s clue, Sized e)

variable {parse now defaultDecoys random s body roomId clue}

theorem isNull_eq_false {name : String} {text : JsString} (h : body.strField name = some text) :
    isNull body = false := by
  cases body with
  | null => cases h
  | _ => rfl

theorem fetched_inj {all all' : List (Json Rat)} {k' : Nat} (h : fetched all k = fetched all' k') :
    all = all' ∧ k = k' := by
  have hbody := congrArg Reply.body h
  simp only [fetched, Json.obj.injEq, cons.injEq, Prod.mk.injEq, Json.arr.injEq, Json.num.injEq] at hbody
  exact ⟨hbody.1.2, by exact_mod_cast hbody.2.1.2⟩

theorem spread_eq {real decoys : List α} (h : real.length + decoys.length ≤ MAX_ARRAY_LENGTH) :
    spread real decoys = real ++ decoys :=
  take_of_length_le (by rwa [length_append])

theorem fits_iff (length : Nat) (decoyCount : Option (Json Rat)) :
    length + desiredDecoys defaultDecoys decoyCount ≤ MAX_ARRAY_LENGTH ↔
      length + ⌈desiredDecoys defaultDecoys decoyCount⌉₊ ≤ MAX_ARRAY_LENGTH := by
  have hnonneg : 0 ≤ desiredDecoys defaultDecoys decoyCount := le_max_left _ _
  rw [add_comm, ← Nat.ceil_le, Nat.ceil_add_natCast hnonneg, add_comm]

theorem length_spread_le (real decoys : List α) : (spread real decoys).length ≤ MAX_ARRAY_LENGTH :=
  length_take_le _ _

theorem liveAt_eq_of_mem (he : e ∈ liveAt parse now s clue) : liveAt parse now s clue = [e] := by
  have hlen : (liveAt parse now s clue).length ≤ 1 := by
    refine (length_filter_le _ _).trans ?_
    cases s.envelope? clue <;> simp
  obtain ⟨a, ha⟩ := length_eq_one_iff.mp (Nat.le_antisymm hlen (length_pos_of_mem he))
  rw [ha, mem_singleton] at he
  rw [ha, he]

section Named
variable (hroom : body.strField "roomId" = some roomId) (hclue : body.strField "clue" = some clue)
include hroom hclue

variable (parse now defaultDecoys random s) in
theorem handleFetch_of_names (hc : clue ∉ inheritedNames) (hr : roomId ∉ inheritedNames) :
    ∃ seed, (handleFetch now parse defaultDecoys random s body).1 =
      (makeDecoys now seed (liveAt parse now s clue).head?
        (desiredDecoys defaultDecoys (body.field "decoyCount"))).map fun decoys =>
          fetched (shuffle random.ints (spread ((liveAt parse now s clue).map OpaqueEnvelope.input) decoys))
            decoys.length := by
  have hfetch : (fetchByClue parse now s clue).1 = .ok (liveAt parse now s clue) := fetchByClue_fst hc
  obtain ⟨seed, s₂, hseed⟩ := getOrCreateDecoySeed_ok random.seed (fetchByClue parse now s clue).2 hr
  refine ⟨seed, ?_⟩
  have hpair : fetchByClue parse now s clue =
      (.ok (liveAt parse now s clue), (fetchByClue parse now s clue).2) := Prod.ext hfetch rfl
  simp only [handleFetch, isNull_eq_false hroom, hroom, hclue]
  rw [hpair]
  simp only [hseed]
  cases makeDecoys now seed (liveAt parse now s clue).head?
    (desiredDecoys defaultDecoys (body.field "decoyCount")) with
  | error e => rfl
  | ok decoys => rfl

theorem names_of_looksReal (h : LooksReal parse now defaultDecoys random s body clue) :
    clue ∉ inheritedNames ∧ roomId ∉ inheritedNames := by
  obtain ⟨real, decoys, all, hfetch, hreply, -⟩ := h
  have hc : clue ∉ inheritedNames := by
    intro hc
    rw [fetchByClue_inherited hc] at hfetch
    cases hfetch
  refine ⟨hc, fun hr => ?_⟩
  have hpair : fetchByClue parse now s clue = (.ok real, (fetchByClue parse now s clue).2) := Prod.ext hfetch rfl
  simp only [handleFetch, isNull_eq_false hroom, hroom, hclue] at hreply
  rw [hpair] at hreply
  simp only [getOrCreateDecoySeed_inherited hr] at hreply
  cases hreply

theorem looksReal_of_safe (h : FetchSafe parse now defaultDecoys s body roomId clue) :
    LooksReal parse now defaultDecoys random s body clue := by
  obtain ⟨hc, hr, hfits, hsized⟩ := h
  obtain ⟨seed, hreply⟩ := handleFetch_of_names parse now defaultDecoys random s hroom hclue hc hr
  have hpush : desiredDecoys defaultDecoys (body.field "decoyCount") ≤ MAX_ARRAY_LENGTH :=
    (le_add_of_nonneg_left (Nat.cast_nonneg _)).trans hfits
  have finish : ∀ decoys, makeDecoys now seed (liveAt parse now s clue).head?
      (desiredDecoys defaultDecoys (body.field "decoyCount")) = .ok decoys →
      (∀ d ∈ decoys, ∃ size, LooksSealed size d ∧
        ∀ e ∈ liveAt parse now s clue, ciphertextBytesFromEnvelope e = size) →
      LooksReal parse now defaultDecoys random s body clue := by
    intro decoys hmake hlooks
    have hall : ((liveAt parse now s clue).map OpaqueEnvelope.input).length + decoys.length ≤
        MAX_ARRAY_LENGTH := by
      rw [length_map, length_makeDecoys hmake]
      exact (fits_iff _ _).mp hfits
    rw [hmake] at hreply
    refine ⟨_, decoys, _, fetchByClue_fst hc, hreply, ?_, hlooks⟩
    rw [spread_eq hall]
    exact shuffle_perm _ _
  by_cases hd : 0 < desiredDecoys defaultDecoys (body.field "decoyCount")
  · cases hlive : liveAt parse now s clue with
    | nil =>
      obtain ⟨decoys, hmake, -, hlooks⟩ := makeDecoys_looks now seed max_refBytes_none (by decide) hpush
      rw [hlive] at finish
      exact finish decoys hmake fun d hd => ⟨_, hlooks d hd, by simp⟩
    | cons e rest =>
      have he : e ∈ liveAt parse now s clue := hlive ▸ mem_cons_self
      rw [liveAt_eq_of_mem he] at finish hsized
      obtain ⟨m, size, hm, hle, hsize, hlen⟩ := sized_bucket (hsized hd e mem_cons_self)
      obtain ⟨decoys, hmake, -, hlooks⟩ := makeDecoys_looks now seed hm hle hpush
      refine finish decoys hmake fun d hd => ⟨size, (hlooks d hd).congr hlen, ?_⟩
      simpa using hsize
  · exact finish [] (makeDecoys_none hd) (by simp)

theorem safe_of_looksReal (h : LooksReal parse now defaultDecoys random s body clue) :
    FetchSafe parse now defaultDecoys s body roomId clue := by
  obtain ⟨hc, hr⟩ := names_of_looksReal hroom hclue h
  obtain ⟨real, decoys, all, hfetch, hreply, hperm, hlooks⟩ := h
  rw [fetchByClue_fst hc] at hfetch
  obtain rfl : liveAt parse now s clue = real := Except.ok.inj hfetch
  obtain ⟨seed, hreply'⟩ := handleFetch_of_names parse now defaultDecoys random s hroom hclue hc hr
  rw [hreply'] at hreply
  cases hmake : makeDecoys now seed (liveAt parse now s clue).head?
      (desiredDecoys defaultDecoys (body.field "decoyCount")) with
  | error thrown =>
    rw [hmake] at hreply
    cases hreply
  | ok made =>
    rw [hmake] at hreply
    obtain ⟨hall, hcount⟩ := fetched_inj (Except.ok.inj hreply)
    have hperm' := (shuffle_perm random.ints _).symm.trans (hall ▸ hperm)
    have hfits : ((liveAt parse now s clue).map OpaqueEnvelope.input).length + made.length ≤
        MAX_ARRAY_LENGTH := by
      have hlen := hperm'.length_eq
      rw [length_append, ← hcount] at hlen
      exact hlen ▸ length_spread_le _ _
    -- The decoys of the answer are those that were made, up to order.
    have hsame : made.Perm decoys := by
      rw [spread_eq hfits] at hperm'
      exact (perm_append_left_iff _).mp hperm'
    rw [length_map, length_makeDecoys hmake] at hfits
    refine ⟨hc, hr, (fits_iff _ _).mpr hfits, fun hd e he => ?_⟩
    rw [liveAt_eq_of_mem he, head?_cons] at hmake
    obtain ⟨m, hm, h1, hle⟩ := makeDecoys_bound hd hmake
    obtain ⟨made', hmake', hlen, hmade⟩ := makeDecoys_looks now seed hm hle
      (Nat.ceil_le.mp ((Nat.le_add_left _ _).trans hfits))
    obtain rfl : made = made' := Except.ok.inj (hmake.symm.trans hmake')
    obtain ⟨d, hdm⟩ := exists_mem_of_length_pos (l := made) (by
      rw [hlen]
      exact Nat.ceil_pos.mpr hd)
    obtain ⟨size, hlook, hsize⟩ := hlooks d (hsame.mem_iff.mp hdm)
    exact sized_of_bucket hm h1 hle (hsize e he) (hlook.base64Length_eq (hmade d hdm))

end Named

/-- For every store of accepted envelopes and every fetch: the fetch succeeds and its decoys look
like real envelopes of the same ciphertext size exactly when it is safe. -/
theorem looksReal_iff (hroom : body.strField "roomId" = some roomId) (hclue : body.strField "clue" = some clue) :
    LooksReal parse now defaultDecoys random s body clue ↔
      FetchSafe parse now defaultDecoys s body roomId clue :=
  ⟨safe_of_looksReal hroom hclue, looksReal_of_safe hroom hclue⟩

end Fetches

/-! ## Samples -/

theorem sampleInput_accepted (h : ct ≠ []) :
    isOpaqueEnvelope (sampleInput ct "2030-01-01T00:00:00.000Z") = true := by
  cases ct with
  | nil => exact absurd rfl h
  | cons a as => rfl

def sampleFetch : Json Rat :=
  .obj [(jsString "roomId", .str (jsString "room")), (jsString "clue", .str (jsString "AAAA")),
    (jsString "decoyCount", .num 2)]

theorem sampleFetch_roomId : sampleFetch.strField "roomId" = some (jsString "room") := rfl

theorem sampleFetch_clue : sampleFetch.strField "clue" = some (jsString "AAAA") := rfl

theorem sampleFetch_desired : desiredDecoys 0 (sampleFetch.field "decoyCount") = 2 := by
  have hfield : sampleFetch.field "decoyCount" = some (.num 2) := rfl
  rw [hfield, desiredDecoys]
  norm_num

def noRandomness : Randomness := ⟨fun _ => 0, fun _ => 0⟩

theorem sample_sent (h : ct ≠ []) :
    ∃ s e, handleSend sampleParse 0 emptyState (sampleBody ct "2030-01-01T00:00:00.000Z") =
        (.ok (sent e), s) ∧ e.ct = ct ∧ liveAt sampleParse 0 s (jsString "AAAA") = [e] := by
  let e : OpaqueEnvelope := ⟨_, sampleInput_accepted h⟩
  have hin : OpaqueEnvelope.ofJson?
      ((sampleBody ct "2030-01-01T00:00:00.000Z").field "envelope") = some e :=
    dif_pos (sampleInput_accepted h)
  have hexp : expired sampleParse 0 e = false := by
    have hat : e.expiresAt = jsString "2030-01-01T00:00:00.000Z" := rfl
    rw [expired, hat]
    decide
  have hclue : e.clue = jsString "AAAA" := rfl
  have hok : (insertDrop 0 emptyState e).isOk = true := insertDrop_isOk.mpr ⟨rfl, by rw [hclue]; decide⟩
  cases hi : insertDrop 0 emptyState e with
  | error thrown =>
    rw [hi] at hok
    cases hok
  | ok s =>
    refine ⟨s, e, ?_, rfl, ?_⟩
    · have hnull : isNull (sampleBody ct "2030-01-01T00:00:00.000Z") = false := rfl
      have hroom : ((sampleBody ct "2030-01-01T00:00:00.000Z").strField "roomId").all
          (fun text => text.length = 0) = false := rfl
      simp only [handleSend, hnull, hroom, hin, hexp, hi]
      rfl
    · rw [liveAt, (insertDrop_ok hi).2.2, if_pos hclue.symm]
      simp [hexp]

theorem toBase64_ne_nil {bytes : Bytes} (h : bytes.length ≠ 0) : toBase64 bytes ≠ [] := by
  intro hnil
  have hlen := length_toBase64 bytes
  rw [hnil, base64Length, length_nil] at hlen
  omega

/-- A text in the smallest bucket: the decoys look like its envelope. -/
theorem looksReal_smallest_bucket : ∃ s e, handleSend sampleParse 0 emptyState
        (sampleBody (toBase64 (List.replicate 1040 0)) "2030-01-01T00:00:00.000Z") = (.ok (sent e), s) ∧
      liveAt sampleParse 0 s (jsString "AAAA") = [e] ∧
      LooksReal sampleParse 0 0 noRandomness s sampleFetch (jsString "AAAA") := by
  have hne : toBase64 (List.replicate 1040 0) ≠ [] := toBase64_ne_nil (by rw [length_replicate]; decide)
  obtain ⟨s, e, hsend, hct, hlive⟩ := sample_sent hne
  refine ⟨s, e, hsend, hlive, (looksReal_iff sampleFetch_roomId sampleFetch_clue).mpr ?_⟩
  have hfits : (liveAt sampleParse 0 s (jsString "AAAA")).length +
      desiredDecoys 0 (sampleFetch.field "decoyCount") ≤ MAX_ARRAY_LENGTH := by
    rw [hlive, sampleFetch_desired, length_singleton, MAX_ARRAY_LENGTH]
    norm_num
  refine ⟨by decide, by decide, hfits, fun _ e' he' => ?_⟩
  rw [hlive, mem_singleton] at he'
  subst he'
  have hlen : e'.ct.length = 4 * 347 := by rw [hct, length_toBase64, length_replicate]; rfl
  refine ⟨⟨347, hlen⟩, by omega, ?_⟩
  rw [ciphertextBytes_eq hlen (by decide)]
  exact_mod_cast (by omega : 3 * 347 - ciphertextPadding e'.ct ≤ 8084)

/-- A text in the next bucket, of 16384 bytes, is accepted, and a fetch of it with decoys fails. -/
theorem decoys_of_second_bucket_throw : ∃ s e, handleSend sampleParse 0 emptyState
        (sampleBody (toBase64 (List.replicate 16400 0)) "2030-01-01T00:00:00.000Z") = (.ok (sent e), s) ∧
      liveAt sampleParse 0 s (jsString "AAAA") = [e] ∧
      (handleFetch 0 sampleParse 0 noRandomness s sampleFetch).1 = .error .rangeError := by
  have hne : toBase64 (List.replicate 16400 0) ≠ [] := toBase64_ne_nil (by rw [length_replicate]; decide)
  obtain ⟨s, e, hsend, hct, hlive⟩ := sample_sent hne
  refine ⟨s, e, hsend, hlive, ?_⟩
  obtain ⟨seed, hreply⟩ := handleFetch_of_names sampleParse 0 0 noRandomness s sampleFetch_roomId
    sampleFetch_clue (by decide) (by decide)
  have hlen : e.ct.length = 4 * 5467 := by rw [hct, length_toBase64, length_replicate]; rfl
  have hp := ciphertextPadding_le e.ct
  have hbig : 8068 < refBytes (some e) := by
    rw [refBytes, ciphertextBytes_eq hlen (by decide)]
    have : 16399 ≤ 3 * 5467 - ciphertextPadding e.ct := by omega
    have : (16399 : Rat) ≤ (3 * 5467 - ciphertextPadding e.ct : Nat) := by exact_mod_cast this
    linarith
  have hd : 0 < desiredDecoys 0 (sampleFetch.field "decoyCount") := by
    rw [sampleFetch_desired]
    norm_num
  rw [hreply, hlive, head?_cons, makeDecoys_error hd hbig]
  rfl

end Blackout.DeadDrop
