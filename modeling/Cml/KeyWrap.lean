import Mathlib.Algebra.Group.Int
import Mathlib.Algebra.Group.Nat.Basic
import Mathlib.Data.List.Infix

set_option autoImplicit false

namespace Cml

def intBytes (n : Int) : List UInt8 :=
  let u := (n % 2 ^ 32).toNat
  [u % 256, u / 256 % 256, u / 65536 % 256, u / 16777216].map UInt8.ofNat

def readInt : List UInt8 → Int
  | b0 :: b1 :: b2 :: b3 :: _ =>
      let u := b0.toNat + 256 * b1.toNat + 65536 * b2.toNat + 16777216 * b3.toNat
      if u < 2 ^ 31 then u else u - 2 ^ 32
  | _ => 0

def toSizeT (n : Int) : Nat :=
  (n % 2 ^ 64).toNat

def toInt (n : Nat) : Int :=
  let u : Nat := n % 2 ^ 32
  if u < 2 ^ 31 then (u : Int) else (u : Int) - 2 ^ 32

/-- Modelled from the spec: `ADD_WITH_OVERFLOW_CHECK` of `common/macro.h` is not in the sources.
A `size_t` sum that stops the caller instead of wrapping. -/
def addWithOverflowCheck (a b : Nat) : Option Nat :=
  if a + b < 2 ^ 64 then some (a + b) else none

/-- The framing of `ssl_wrap_key` once `EVP_Seal*` has run: the length stored in `*wrapped_key_len`,
and the blob `tmpkeylen`, `outlen`, IV, encrypted key, ciphertext. -/
def sslWrapKey (ivBuf tmpkey out : List UInt8) : Option (Int × List UInt8) :=
  let tmpkeylen : Int := tmpkey.length
  let outlen : Int := out.length
  (addWithOverflowCheck 4 (toSizeT tmpkeylen)).bind fun len =>
  (addWithOverflowCheck len ivBuf.length).bind fun len =>
  (addWithOverflowCheck len 4).bind fun len =>
  (addWithOverflowCheck len (toSizeT outlen)).map fun len =>
    (toInt len, intBytes tmpkeylen ++ intBytes outlen ++ ivBuf ++ tmpkey ++ out)

structure UnwrapFrame where
  tmpkeylen : Int
  keylen : Int
  ivBuf : Int
  tmpkey : Int
  key : Int
deriving DecidableEq, Repr

/-- The framing of `ssl_unwrap_key` for a cipher with `ivLen`-byte IVs: both length checks in
`size_t`, the header `int`s converted to it; `none` when one fails. -/
def sslUnwrapKey (ivLen : Nat) (wrappedKey : List UInt8) : Option UnwrapFrame :=
  let wrappedKeyLen := wrappedKey.length
  if wrappedKeyLen < 2 * 4 + ivLen then none
  else
    let tmpkeylen := readInt wrappedKey
    let keylen := readInt (wrappedKey.drop 4)
    if wrappedKeyLen ≠ (2 * 4 + ivLen + toSizeT tmpkeylen + toSizeT keylen) % 2 ^ 64 then none
    else some { tmpkeylen, keylen, ivBuf := 8, tmpkey := 8 + ivLen, key := 8 + ivLen + tmpkeylen }

def slice (buf : List UInt8) (off len : Int) : List UInt8 :=
  (buf.drop off.toNat).take len.toNat

theorem uint8_toNat_ofNat (n : Nat) : (UInt8.ofNat n).toNat = n % 256 := by
  simp [UInt8.ofNat, UInt8.toNat, BitVec.toNat_ofNat]

@[simp] theorem intBytes_length (n : Int) : (intBytes n).length = 4 := rfl

theorem digits_recombine (u : Nat) (below : u < 2 ^ 32) :
    u % 256 + 256 * (u / 256 % 256) + 65536 * (u / 65536 % 256) +
      16777216 * (u / 16777216 % 256) = u := by
  omega

theorem readInt_intBytes (n : Int) (low : -2 ^ 31 ≤ n) (high : n < 2 ^ 31)
    (rest : List UInt8) : readInt (intBytes n ++ rest) = n := by
  simp only [intBytes, readInt, List.map_cons, List.map_nil, List.cons_append, List.nil_append,
    uint8_toNat_ofNat, Nat.mod_mod]
  rw [digits_recombine _ (by omega)]
  split_ifs <;> omega

theorem toSizeT_of_lt (n : Nat) (fits : n < 2 ^ 64) : toSizeT n = n := by
  simp only [toSizeT]
  omega

theorem toInt_of_lt (n : Nat) (fits : n < 2 ^ 31) : toInt n = n := by
  simp only [toInt]
  split_ifs <;> omega

theorem addWithOverflowCheck_of_lt (a b : Nat) (fits : a + b < 2 ^ 64) :
    addWithOverflowCheck a b = some (a + b) :=
  if_pos fits

theorem slice_append (front middle back : List UInt8) (off : Int) (offset : front.length = off) :
    slice (front ++ middle ++ back) off middle.length = middle := by
  subst offset
  simp [slice, List.append_assoc, List.drop_left', List.take_left']

/-- Unwrap's framing is a left inverse of wrap's for every set of field lengths whose total fits an
`int`: both checks pass and the header and slices come back as written. -/
theorem unwrap_parses_wrap_blob (ivBuf tmpkey out : List UInt8)
    (fits : 8 + ivBuf.length + tmpkey.length + out.length ≤ 2 ^ 31 - 1) :
    ∃ blob, sslWrapKey ivBuf tmpkey out = some (blob.length, blob) ∧
      sslUnwrapKey ivBuf.length blob =
        some ⟨tmpkey.length, out.length, 8, 8 + ivBuf.length, 8 + ivBuf.length + tmpkey.length⟩ ∧
      slice blob 8 ivBuf.length = ivBuf ∧
      slice blob (8 + ivBuf.length) tmpkey.length = tmpkey ∧
      slice blob (8 + ivBuf.length + tmpkey.length) out.length = out := by
  let blob := intBytes tmpkey.length ++ intBytes out.length ++ ivBuf ++ tmpkey ++ out
  have size : blob.length = 8 + ivBuf.length + tmpkey.length + out.length := by
    simp only [blob, List.length_append, intBytes_length]
  have keyLen := toSizeT_of_lt tmpkey.length (by omega)
  have outLen := toSizeT_of_lt out.length (by omega)
  refine ⟨blob, ?_, ?_, ?_, ?_, ?_⟩
  · simp only [sslWrapKey, keyLen, outLen]
    rw [addWithOverflowCheck_of_lt _ _ (by omega), Option.some_bind,
      addWithOverflowCheck_of_lt _ _ (by omega), Option.some_bind,
      addWithOverflowCheck_of_lt _ _ (by omega), Option.some_bind,
      addWithOverflowCheck_of_lt _ _ (by omega), Option.map_some', toInt_of_lt _ (by omega), size]
    congr 2
    omega
  · have first : readInt blob = tmpkey.length := by
      simp only [blob, List.append_assoc]
      exact readInt_intBytes _ (by omega) (by omega) _
    have second : readInt (blob.drop 4) = out.length := by
      simp only [blob, List.append_assoc]
      rw [List.drop_left' (intBytes_length _)]
      exact readInt_intBytes _ (by omega) (by omega) _
    simp only [sslUnwrapKey, first, second, keyLen, outLen, size]
    rw [if_neg (by omega), if_neg (by omega)]
  · have split : blob = (intBytes tmpkey.length ++ intBytes out.length) ++ ivBuf ++
        (tmpkey ++ out) := by simp [blob]
    rw [split]
    exact slice_append _ _ _ _ rfl
  · have split : blob = (intBytes tmpkey.length ++ intBytes out.length ++ ivBuf) ++ tmpkey ++
        out := by simp [blob]
    rw [split]
    exact slice_append _ _ _ _ (by simp; omega)
  · have split : blob = (intBytes tmpkey.length ++ intBytes out.length ++ ivBuf ++ tmpkey) ++
        out ++ [] := by simp [blob]
    rw [split]
    exact slice_append _ _ _ _ (by simp; omega)

theorem unwrap_parses_wrap_blob_of_short_fields :
    8 + [7, 7, 7, 7].length + [1, 2].length + [3].length ≤ 2 ^ 31 - 1 ∧
      ∃ blob, sslWrapKey [7, 7, 7, 7] [1, 2] [3] = some (blob.length, blob) ∧
        sslUnwrapKey [7, 7, 7, 7].length blob =
          some ⟨[1, 2].length, [3].length, 8, 8 + [7, 7, 7, 7].length,
            8 + [7, 7, 7, 7].length + [1, 2].length⟩ ∧
        slice blob 8 [7, 7, 7, 7].length = [7, 7, 7, 7] ∧
        slice blob (8 + [7, 7, 7, 7].length) [1, 2].length = [1, 2] ∧
        slice blob (8 + [7, 7, 7, 7].length + [1, 2].length) [3].length = [3] :=
  ⟨by decide, unwrap_parses_wrap_blob _ _ _ (by decide)⟩

/-- A header with `keylen = -100` passes both checks of a 32-byte blob, and the encrypted key
handed to `EVP_OpenInit` is the slice `[24, 132)`. -/
theorem unwrap_accepts_negative_keylen :
    (intBytes 108 ++ intBytes (-100) ++ List.replicate 24 0).length = 32 ∧
      sslUnwrapKey 16 (intBytes 108 ++ intBytes (-100) ++ List.replicate 24 0) =
        some ⟨108, -100, 8, 24, 132⟩ := by
  decide

end Cml
