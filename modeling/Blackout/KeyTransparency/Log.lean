import Blackout.Lib.Base64
import Blackout.Lib.Merkle

/-!
# The key-transparency log (`services/keyTransparency.ts`)

An append-only Merkle log of identity keys after RFC 6962: `leafHash`, `nodeHash`, the tree hash
`mth`, the audit path, the log with its root and inclusion proofs, and the pure verifier
`verifyInclusion`.

The hash is a parameter `H` (`sha256` in the code, `Blackout.sha256` here). Counters of the verifier
are JavaScript numbers: `>>` works on their low 32 bits, as a signed integer (`shr1`), and `%` keeps
the sign of the dividend. A value `none` of the verifier's loop means that the code does not return.
-/

namespace Blackout.KeyTransparency

section Hash
variable (H : Bytes → Bytes)

def nodeInput (left right : Bytes) : Bytes := 0x01 :: (left ++ right)

def leafHash (data : Bytes) : Bytes := H (0x00 :: data)

def nodeHash (left right : Bytes) : Bytes := H (nodeInput left right)

end Hash

structure KeyEntry where
  userId : String
  masterKey : String
  publishedAt : Int
  deriving DecidableEq, Repr

/-! ## Entries as bytes -/

def hexDigit (n : Nat) : Char :=
  if n < 10 then Char.ofNat (48 + n) else Char.ofNat (87 + n)

def jsonChar (c : Char) : List Char :=
  if c = '"' then ['\\', '"']
  else if c = '\\' then ['\\', '\\']
  else if c.toNat = 8 then ['\\', 'b']
  else if c.toNat = 9 then ['\\', 't']
  else if c.toNat = 10 then ['\\', 'n']
  else if c.toNat = 12 then ['\\', 'f']
  else if c.toNat = 13 then ['\\', 'r']
  else if c.toNat < 32 then ['\\', 'u', '0', '0', hexDigit (c.toNat / 16), hexDigit (c.toNat % 16)]
  else [c]

def jsonString (s : String) : String := "\"" ++ String.ofList (s.toList.flatMap jsonChar) ++ "\""

/-- `Buffer.from(JSON.stringify({ userId, masterKey, publishedAt }), 'utf8')`. -/
def encodeEntry (entry : KeyEntry) : Bytes :=
  ("\x7b\"userId\":" ++ jsonString entry.userId ++ ",\"masterKey\":" ++ jsonString entry.masterKey ++
    ",\"publishedAt\":" ++ toString entry.publishedAt ++ "\x7d").toUTF8.toList

structure TreeRoot where
  treeSize : Int
  rootHash : String
  deriving DecidableEq, Repr

structure InclusionProof where
  leafIndex : Int
  treeSize : Int
  auditPath : List String
  leafHash : String
  deriving DecidableEq, Repr

/-! ## The tree hash and the audit path -/

/-- `while (k * 2 < n) k *= 2`. -/
def doubleBelow : Nat → Nat → Nat → Nat
  | 0, k, _ => k
  | fuel + 1, k, n => if k * 2 < n then doubleBelow fuel (k * 2) n else k

/-- The source throws for `n < 2`; every caller has checked it. -/
def largestPowerOfTwoLessThan (n : Nat) (_h : 2 ≤ n) : Nat := doubleBelow n 1 n

theorem doubleBelow_spec {fuel i n : Nat} (h1 : 2 ^ i < n) (h2 : n ≤ 2 ^ (i + fuel)) :
    ∃ j, doubleBelow fuel (2 ^ i) n = 2 ^ j ∧ 2 ^ j < n ∧ n ≤ 2 ^ (j + 1) := by
  induction fuel generalizing i with
  | zero => rw [Nat.add_zero] at h2; omega
  | succ fuel ih =>
    rw [doubleBelow, ← Nat.pow_succ]
    split
    · rename_i h
      exact ih h (by rw [show i + 1 + fuel = i + (fuel + 1) by omega]; exact h2)
    · exact ⟨i, rfl, h1, by omega⟩

theorem largestPowerOfTwoLessThan_eq {n : Nat} (h : 2 ≤ n) : largestPowerOfTwoLessThan n h = Merkle.split n := by
  obtain ⟨j, hj, h1, h2⟩ := @doubleBelow_spec n 0 n (by omega)
    (by rw [Nat.zero_add]; exact Nat.lt_two_pow_self.le)
  rw [largestPowerOfTwoLessThan, show 1 = 2 ^ 0 from rfl, hj, Merkle.split_unique h1 h2]

theorem length_halves {leaves : List Bytes} (h : 2 ≤ leaves.length) :
    (leaves.take (largestPowerOfTwoLessThan leaves.length h)).length < leaves.length ∧
      (leaves.drop (largestPowerOfTwoLessThan leaves.length h)).length < leaves.length := by
  have hlt := Merkle.split_lt h
  have hpos := Merkle.split_pos leaves.length
  rw [largestPowerOfTwoLessThan_eq, List.length_take, List.length_drop]
  omega

section Tree
variable (H : Bytes → Bytes)

/-- The tree hash. -/
def mth (leaves : List Bytes) : Bytes :=
  if h0 : leaves.length = 0 then H []
  else if h1 : leaves.length = 1 then leafHash H (leaves.headD [])
  else
    let k := largestPowerOfTwoLessThan leaves.length (by omega)
    nodeHash H (mth (leaves.take k)) (mth (leaves.drop k))
termination_by leaves.length
decreasing_by
  · exact (length_halves _).1
  · exact (length_halves _).2

/-- The siblings on the way from a leaf to the root. -/
def auditPath (m : Nat) (leaves : List Bytes) : Except String (List Bytes) :=
  if h0 : leaves.length = 0 then .error "empty tree"
  else if h1 : leaves.length = 1 then .ok []
  else
    let k := largestPowerOfTwoLessThan leaves.length (by omega)
    if m < k then do
      let path ← auditPath m (leaves.take k)
      return path ++ [mth H (leaves.drop k)]
    else do
      let path ← auditPath (m - k) (leaves.drop k)
      return path ++ [mth H (leaves.take k)]
termination_by leaves.length
decreasing_by
  · exact (length_halves _).1
  · exact (length_halves _).2

end Tree

/-! ## The log -/

/-- The entries with their leaves. -/
structure KeyTransparencyLog where
  leaves : List Bytes
  entries : List KeyEntry
  leaves_eq : leaves = entries.map encodeEntry
  size_lt : leaves.length < 2 ^ 32

namespace KeyTransparencyLog

def empty : KeyTransparencyLog := ⟨[], [], rfl, by decide⟩

/-- `this.leaves.push(encodeEntry(entry)); this.entries.push(entry)`. A push to a full array
throws. -/
def push (log : KeyTransparencyLog) (entry : KeyEntry) : Except String KeyTransparencyLog :=
  if h : log.leaves.length + 1 < 2 ^ 32 then
    .ok ⟨log.leaves ++ [encodeEntry entry], log.entries ++ [entry], by simp [log.leaves_eq], by simpa using h⟩
  else .error "Invalid array length"

def appendAll (log : KeyTransparencyLog) (es : List KeyEntry) : Except String KeyTransparencyLog :=
  es.foldlM push log

def size (log : KeyTransparencyLog) : Nat := log.leaves.length

variable (H : Bytes → Bytes)

def root (log : KeyTransparencyLog) : TreeRoot :=
  { treeSize := log.leaves.length
    rootHash := toBase64url (if log.leaves.length = 0 then H [] else mth H log.leaves) }

def inclusionProof (log : KeyTransparencyLog) (leafIndex : Nat) : Except String InclusionProof :=
  if leafIndex ≥ log.leaves.length then
    .error s!"leafIndex {leafIndex} out of range [0, {log.leaves.length})"
  else do
    let path ← auditPath H leafIndex log.leaves
    return { leafIndex := leafIndex
             treeSize := log.leaves.length
             auditPath := path.map toBase64url
             leafHash := toBase64url (KeyTransparency.leafHash H (log.leaves.getD leafIndex [])) }

end KeyTransparencyLog

/-! ## The verifier -/

/-- `x >> 1`: the low 32 bits of `x` as a signed integer, halved downwards. -/
def shr1 (x : Int) : Int := x.bmod (2 ^ 32) / 2

/-- `while (fn % 2 === 0) { fn = fn >> 1; sn = sn >> 1; }`. After the first shift `fn` has at most
31 bits, so a loop that is still running after 64 rounds has `fn = 0` and never ends. -/
def skipEven : Nat → Int → Int → Option (Int × Int)
  | 0, _, _ => none
  | fuel + 1, fn, sn =>
    if fn.tmod 2 = 0 then skipEven fuel (shr1 fn) (shr1 sn) else some (fn, sn)

/-- The loop of the verifier. -/
def walk (H : Bytes → Bytes) (rootHash : String) : List String → Bytes → Int → Int → Option Bool
  | [], hash, _, sn => some (sn = 0 ∧ toBase64url hash = rootHash)
  | sibling :: rest, hash, fn, sn =>
    if sn = 0 then some false
    else
      let sib := fromBase64url sibling
      if fn.tmod 2 = 1 ∨ fn = sn then
        if fn.tmod 2 = 0 then
          match skipEven 64 fn sn with
          | none => none
          | some (fn, sn) => walk H rootHash rest (nodeHash H sib hash) (shr1 fn) (shr1 sn)
        else walk H rootHash rest (nodeHash H sib hash) (shr1 fn) (shr1 sn)
      else walk H rootHash rest (nodeHash H hash sib) (shr1 fn) (shr1 sn)

def verifyInclusion (H : Bytes → Bytes) (proof : InclusionProof) (expectedRoot : TreeRoot) : Option Bool :=
  if proof.treeSize ≠ expectedRoot.treeSize then some false
  else if proof.leafIndex < 0 ∨ proof.leafIndex ≥ proof.treeSize then some false
  else
    walk H expectedRoot.rootHash proof.auditPath (fromBase64url proof.leafHash) proof.leafIndex
      (proof.treeSize - 1)

end Blackout.KeyTransparency
