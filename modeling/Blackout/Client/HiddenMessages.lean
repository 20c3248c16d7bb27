import Blackout.Lib.Crc
import Blackout.Protocol.RecoveryFile

/-!
# Hidden image messages (`steganography/SteganographyEncoder.ts`)

The payload holds the CRC-32 of the plaintext beside the ciphertext. What stands outside the
ciphertext is the same for two messages of one length exactly when the CRC polynomial divides their
difference (`outside_eq_iff`).
-/

namespace Blackout.Client

open Protocol Utf16 Polynomial

def STEGO_MAGIC : Bytes := utf8Encode (jsString "BKO1")

/-- One turn of the inner loop of `crcTable`. -/
def crcStep (c : UInt32) : UInt32 := if c &&& 1 ≠ 0 then (0xedb88320 : UInt32) ^^^ (c >>> 1) else c >>> 1

/-- An entry of the table, for a byte `i`. -/
def crcTable (i : UInt32) : UInt32 := crcStep^[8] i

def crc32 (bytes : Bytes) : UInt32 :=
  bytes.foldl (fun crc byte => crcTable ((crc ^^^ byte.toUInt32) &&& 0xff) ^^^ (crc >>> 8))
    0xffffffff ^^^ 0xffffffff

/-- `crypto.subtle`: PBKDF2 over the passphrase and the salt, AES-CBC over key, IV and plaintext. -/
structure SubtleCrypto where
  deriveKey : Bytes → Bytes → Bytes
  encrypt : Bytes → Bytes → Bytes → Bytes

variable (c : SubtleCrypto) (salt iv : Bytes) (passphrase message : JsString)

def cipherBytes : Bytes := c.encrypt (c.deriveKey (utf8Encode passphrase) salt) iv (utf8Encode message)

/-- The payload for the random salt and IV that were drawn. -/
def buildEncryptedPayload : Bytes :=
  STEGO_MAGIC ++ 1 :: (salt ++ (iv ++ (u32be (crc32 (utf8Encode message)).toNat ++
    cipherBytes c salt iv passphrase message)))

/-- The payload without the ciphertext at its end. -/
def outsideCiphertext : Bytes :=
  let payload := buildEncryptedPayload c salt iv passphrase message
  payload.take (payload.length - (cipherBytes c salt iv passphrase message).length)

theorem outsideCiphertext_eq : outsideCiphertext c salt iv passphrase message =
    STEGO_MAGIC ++ 1 :: (salt ++ (iv ++ u32be (crc32 (utf8Encode message)).toNat)) := by
  have h : buildEncryptedPayload c salt iv passphrase message =
      (STEGO_MAGIC ++ 1 :: (salt ++ (iv ++ u32be (crc32 (utf8Encode message)).toNat))) ++
        cipherBytes c salt iv passphrase message := by
    simp [buildEncryptedPayload]
  rw [outsideCiphertext, h, List.length_append, Nat.add_sub_cancel, List.take_left]

theorem u32be_inj {x y : UInt32} : u32be x.toNat = u32be y.toNat ↔ x = y := by
  refine ⟨fun h => ?_, fun h => h ▸ rfl⟩
  have hx := x.toNat_lt
  have hy := y.toNat_lt
  simp only [u32be, List.cons.injEq, ← UInt8.toNat_inj, UInt8.toNat_ofNat'] at h
  exact UInt32.toNat_inj.1 (by omega)

/-! ## The checksum as a remainder -/

/-- The polynomial of CRC-32. -/
noncomputable def crcPolynomial : (ZMod 2)[X] :=
  X ^ 32 + ∑ k ∈ ({26, 23, 22, 16, 12, 11, 10, 8, 7, 5, 4, 2, 1, 0} : Finset ℕ), X ^ k

/-- The bits of a text's UTF-8 encoding as coefficients, the first as the highest. -/
noncomputable def textPolynomial (message : JsString) : (ZMod 2)[X] :=
  Crc.message ((utf8Encode message).map UInt8.toBitVec)

theorem generator_eq : Crc.generator 0xedb88320#32 = crcPolynomial := by
  have hbits : ∀ k < 32, (0xedb88320#32).getMsbD k =
      decide (k ∈ ({26, 23, 22, 16, 12, 11, 10, 8, 7, 5, 4, 2, 1, 0} : Finset ℕ)) := by
    decide
  rw [Crc.generator, crcPolynomial]
  congr 1
  ext k
  rw [Crc.coeff_poly, finsetSum_coeff]
  simp only [coeff_X_pow, Finset.sum_ite_eq]
  by_cases hk : k < 32
  · simp only [hbits k hk, decide_eq_true_eq]
  · rw [BitVec.getMsbD_of_ge _ k (by omega), if_neg Bool.false_ne_true, if_neg]
    simp only [Finset.mem_insert, Finset.mem_singleton]
    omega

theorem toBitVec_crcStep (c : UInt32) : (crcStep c).toBitVec = Crc.step 0xedb88320#32 c.toBitVec := by
  have hlow : c &&& 1 ≠ 0 ↔ c.toBitVec.getLsbD 0 = true := by
    have hone : (c &&& 1).toBitVec = BitVec.setWidth 32 (BitVec.ofBool (c.toBitVec.getLsbD 0)) := by
      rw [UInt32.toBitVec_and]
      exact BitVec.and_one_eq_setWidth_ofBool_getLsbD
    rw [ne_eq, ← UInt32.toBitVec_inj, hone]
    cases c.toBitVec.getLsbD 0 <;> decide
  rw [crcStep, Crc.step]
  simp only [hlow]
  split <;> simp

theorem toBitVec_crcTable (i : UInt32) : (crcTable i).toBitVec = (Crc.step 0xedb88320#32)^[8] i.toBitVec := by
  rw [crcTable]
  generalize 8 = n
  induction n generalizing i with
  | zero => rfl
  | succ n ih => rw [Function.iterate_succ_apply, Function.iterate_succ_apply, ih, toBitVec_crcStep]

theorem toBitVec_foldl (init : UInt32) (bytes : Bytes) :
    (bytes.foldl (fun crc byte => crcTable ((crc ^^^ byte.toUInt32) &&& 0xff) ^^^ (crc >>> 8))
      init).toBitVec = Crc.register 0xedb88320#32 init.toBitVec (bytes.map UInt8.toBitVec) := by
  induction bytes generalizing init with
  | nil => rfl
  | cons byte bytes ih =>
    have hbyte : (crcTable ((init ^^^ byte.toUInt32) &&& 0xff) ^^^ (init >>> 8)).toBitVec =
        Crc.update 0xedb88320#32 init.toBitVec byte.toBitVec := by
      rw [UInt32.toBitVec_xor, toBitVec_crcTable, Crc.update]
      simp
    rw [List.foldl_cons, ih, hbyte]
    rfl

theorem crc32_eq_iff {a b : Bytes} : crc32 a = crc32 b ↔
    Crc.register 0xedb88320#32 0xffffffff#32 (a.map UInt8.toBitVec) =
      Crc.register 0xedb88320#32 0xffffffff#32 (b.map UInt8.toBitVec) := by
  rw [crc32, crc32, UInt32.xor_left_inj, ← UInt32.toBitVec_inj, toBitVec_foldl, toBitVec_foldl]
  rfl

/-- For two messages of one length, what stands outside the ciphertext is the same exactly when the
CRC polynomial divides the difference of the texts. For texts of up to four bytes that is when they
are the same. -/
theorem outside_eq_iff (message' : JsString)
    (hlen : (utf8Encode message).length = (utf8Encode message').length) :
    (outsideCiphertext c salt iv passphrase message = outsideCiphertext c salt iv passphrase message' ↔
      crcPolynomial ∣ textPolynomial message - textPolynomial message') ∧
    ((utf8Encode message).length ≤ 4 →
      (outsideCiphertext c salt iv passphrase message = outsideCiphertext c salt iv passphrase message' ↔
        utf8Encode message = utf8Encode message')) := by
  have hsame : outsideCiphertext c salt iv passphrase message =
      outsideCiphertext c salt iv passphrase message' ↔
        crc32 (utf8Encode message) = crc32 (utf8Encode message') := by
    simp only [outsideCiphertext_eq, List.append_cancel_left_eq, List.cons.injEq, true_and, u32be_inj]
  have hmap : ((utf8Encode message).map UInt8.toBitVec).length =
      ((utf8Encode message').map UInt8.toBitVec).length := by
    simpa using hlen
  rw [hsame]
  refine ⟨?_, fun hshort => ⟨fun h => ?_, fun h => h ▸ rfl⟩⟩
  · rw [crc32_eq_iff, Crc.register_eq_iff (by decide) (by decide) _ hmap, generator_eq]
    rfl
  · exact List.map_injective_iff.mpr (fun _ _ => UInt8.toBitVec_inj.mp)
      (Crc.register_inj (by decide) (by decide) _ hmap (by simpa using by omega) (crc32_eq_iff.mp h))

theorem outside_eq_iff_sample :
    ¬ crcPolynomial ∣ textPolynomial (jsString "a") - textPolynomial (jsString "b") := by
  intro h
  have hsame := (outside_eq_iff ⟨fun _ _ => [], fun _ _ plain => plain⟩ [] [] [] (jsString "a")
    (jsString "b") rfl).1.mpr h
  revert hsame
  decide +kernel

/-- Two texts of one byte, told apart without the key. -/
theorem outside_reveals_text :
    let c : SubtleCrypto := ⟨fun _ _ => [], fun _ _ plain => plain⟩
    let zeros : Bytes := List.replicate 16 0
    (utf8Encode (jsString "a")).length = (utf8Encode (jsString "b")).length ∧
      outsideCiphertext c zeros zeros [] (jsString "a") ≠ outsideCiphertext c zeros zeros [] (jsString "b") := by
  decide +kernel

end Blackout.Client
