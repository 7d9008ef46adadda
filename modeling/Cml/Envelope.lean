import Cml.KeyWrap

set_option autoImplicit false

namespace Cml

/-! # Key wrapping under a key pair

`ssl_wrap_key` seals a key with `EVP_Seal*` under the public key of `pkey` and frames what comes
out as one blob; `ssl_unwrap_key` parses the blob and opens it with `EVP_Open*` under the private
key. What OpenSSL computes is left open: `Envelope` gives the answers of its calls. The two
functions compose to the identity for every envelope whose opening gives back what its sealing
took in. -/

/-- What the OpenSSL calls of `ssl_wrap_key` and `ssl_unwrap_key` answer, for the cipher
`CIPHER_KEY_WRAP` and one key pair. -/
structure Envelope where
  /-- `EVP_get_cipherbyname(CIPHER_KEY_WRAP)` finds the cipher. -/
  cipherByName : Bool
  /-- `EVP_CIPHER_CTX_new` allocates a context. -/
  ctxNew : Bool
  /-- `EVP_CIPHER_iv_length` of the cipher. -/
  ivLength : Nat
  /-- `EVP_SealInit`, `EVP_SealUpdate` and `EVP_SealFinal` on a plaintext: the encrypted session
  key, the IV written into the `iv_len`-byte buffer, and the bytes the update and the final call
  write; `none` when one of them fails. -/
  sealKey : List UInt8 → Option (List UInt8 × List UInt8 × List UInt8 × List UInt8)
  /-- `EVP_OpenInit` on an encrypted session key and an IV, then `EVP_OpenUpdate` and
  `EVP_OpenFinal` on a ciphertext: the bytes the update and the final call write; `none` when one
  of them fails. -/
  openKey : List UInt8 → List UInt8 → List UInt8 → Option (List UInt8 × List UInt8)

structure WrapResult where
  res : Int
  wrapped : Option (Int × List UInt8)
deriving DecidableEq, Repr

/-- `ssl_wrap_key`: the key sealed, the ciphertext from the update and final calls, and the blob
framed by `Cml.sslWrapKey`; `none` when `ADD_WITH_OVERFLOW_CHECK` stops the process. -/
def sslWrapKeySealed (env : Envelope) (plainKey : List UInt8) : Option WrapResult :=
  if !env.cipherByName then some ⟨-1, none⟩
  else if !env.ctxNew then some ⟨-1, none⟩
  else match env.sealKey plainKey with
    | none => some ⟨-1, none⟩
    | some (tmpkey, ivBuf, updated, finaled) =>
        (sslWrapKey ivBuf tmpkey (updated ++ finaled)).map fun wrapped => ⟨0, some wrapped⟩

/-- `ssl_unwrap_key`: `res`, and the plaintext key with its length on success; the blob is framed by
`Cml.sslUnwrapKey` and opened by `EVP_OpenInit` and `EVP_OpenUpdate`. -/
def sslUnwrapKeyOpened (env : Envelope) (wrappedKey : List UInt8) : Int × Option (List UInt8) :=
  if !env.cipherByName then (-1, none)
  else match sslUnwrapKey env.ivLength wrappedKey with
    | none => (-1, none)
    | some frame =>
        if !env.ctxNew then (-1, none)
        else
          match env.openKey (slice wrappedKey frame.tmpkey frame.tmpkeylen)
              (slice wrappedKey frame.ivBuf env.ivLength) (slice wrappedKey frame.key frame.keylen) with
          | none => (-1, none)
          | some (updated, finaled) => (0, some (updated ++ finaled))

/-! ## The blob -/

section Blob

variable (ivBuf tmpkey out : List UInt8)

/-- The blob `ssl_wrap_key` writes: `tmpkeylen`, `outlen`, the IV, the encrypted session key and
the ciphertext. -/
def wrapBlob : List UInt8 :=
  intBytes tmpkey.length ++ intBytes out.length ++ ivBuf ++ tmpkey ++ out

theorem wrapBlob_length :
    (wrapBlob ivBuf tmpkey out).length = 8 + ivBuf.length + tmpkey.length + out.length := by
  simp only [wrapBlob, List.length_append, intBytes_length]

variable (fits : 8 + ivBuf.length + tmpkey.length + out.length ≤ 2 ^ 31 - 1)
include fits

theorem sslWrapKey_eq_wrapBlob :
    sslWrapKey ivBuf tmpkey out =
      some (((wrapBlob ivBuf tmpkey out).length : Int), wrapBlob ivBuf tmpkey out) := by
  have keyLen := toSizeT_of_lt tmpkey.length (by omega)
  have outLen := toSizeT_of_lt out.length (by omega)
  simp only [sslWrapKey, keyLen, outLen]
  rw [addWithOverflowCheck_of_lt _ _ (by omega), Option.some_bind,
    addWithOverflowCheck_of_lt _ _ (by omega), Option.some_bind,
    addWithOverflowCheck_of_lt _ _ (by omega), Option.some_bind,
    addWithOverflowCheck_of_lt _ _ (by omega), Option.map_some', toInt_of_lt _ (by omega),
    wrapBlob_length]
  congr 3
  omega

theorem sslUnwrapKey_wrapBlob :
    sslUnwrapKey ivBuf.length (wrapBlob ivBuf tmpkey out) =
      some ⟨tmpkey.length, out.length, 8, 8 + ivBuf.length, 8 + ivBuf.length + tmpkey.length⟩ := by
  have first : readInt (wrapBlob ivBuf tmpkey out) = tmpkey.length := by
    simp only [wrapBlob, List.append_assoc]
    exact readInt_intBytes _ (by omega) (by omega) _
  have second : readInt ((wrapBlob ivBuf tmpkey out).drop 4) = out.length := by
    simp only [wrapBlob, List.append_assoc, List.drop_left' (intBytes_length _)]
    exact readInt_intBytes _ (by omega) (by omega) _
  simp only [sslUnwrapKey, first, second, toSizeT_of_lt tmpkey.length (by omega),
    toSizeT_of_lt out.length (by omega), wrapBlob_length]
  rw [if_neg (by omega), if_neg (by omega)]

omit fits

theorem slice_wrapBlob :
    slice (wrapBlob ivBuf tmpkey out) (8 + ivBuf.length) tmpkey.length = tmpkey ∧
      slice (wrapBlob ivBuf tmpkey out) 8 ivBuf.length = ivBuf ∧
      slice (wrapBlob ivBuf tmpkey out) (8 + ivBuf.length + tmpkey.length) out.length = out := by
  refine ⟨?_, ?_, ?_⟩
  · exact slice_append (intBytes tmpkey.length ++ intBytes out.length ++ ivBuf) tmpkey out _
      (by simp; omega)
  · rw [show wrapBlob ivBuf tmpkey out =
      intBytes tmpkey.length ++ intBytes out.length ++ ivBuf ++ (tmpkey ++ out) by
        simp [wrapBlob]]
    exact slice_append _ _ _ _ rfl
  · rw [show wrapBlob ivBuf tmpkey out = wrapBlob ivBuf tmpkey out ++ [] by simp]
    exact slice_append _ out [] _ (by simp [wrapBlob]; omega)

end Blob

/-- Unwrapping inverts wrapping whenever the envelope's opening inverts its sealing and the fields
fit an `int`: `ssl_unwrap_key` returns the key `ssl_wrap_key` wrapped. -/
theorem unwrap_opens_wrapped_key (env : Envelope) (plainKey tmpkey ivBuf updated finaled : List UInt8)
    (setUp : env.cipherByName = true ∧ env.ctxNew = true)
    (sealed : env.sealKey plainKey = some (tmpkey, ivBuf, updated, finaled))
    (ivLen : ivBuf.length = env.ivLength)
    (opens : ∃ u f, env.openKey tmpkey ivBuf (updated ++ finaled) = some (u, f) ∧ u ++ f = plainKey)
    (fits : 8 + ivBuf.length + tmpkey.length + (updated ++ finaled).length ≤ 2 ^ 31 - 1) :
    ∃ blob, sslWrapKeySealed env plainKey = some ⟨0, some (blob.length, blob)⟩ ∧
      sslUnwrapKeyOpened env blob = (0, some plainKey) := by
  obtain ⟨u, f, opened, rfl⟩ := opens
  obtain ⟨keySlice, ivSlice, outSlice⟩ := slice_wrapBlob ivBuf tmpkey (updated ++ finaled)
  refine ⟨wrapBlob ivBuf tmpkey (updated ++ finaled), ?_, ?_⟩
  · simp [sslWrapKeySealed, setUp, sealed, sslWrapKey_eq_wrapBlob _ _ _ fits]
  · simp only [sslUnwrapKeyOpened, setUp, Bool.not_true, Bool.false_eq_true, ↓reduceIte, ← ivLen,
      sslUnwrapKey_wrapBlob _ _ _ fits, keySlice, ivSlice, outSlice, opened]

def plainEnvelope : Envelope where
  cipherByName := true
  ctxNew := true
  ivLength := 4
  sealKey plainKey := some ([9], [7, 7, 7, 7], plainKey, [])
  openKey _ _ ciphertext := some (ciphertext, [])

theorem unwrap_opens_wrapped_key_in_plain_envelope :
    plainEnvelope.sealKey [1, 2, 3] = some ([9], [7, 7, 7, 7], [1, 2, 3], []) ∧
      ∃ blob, sslWrapKeySealed plainEnvelope [1, 2, 3] = some ⟨0, some (blob.length, blob)⟩ ∧
        sslUnwrapKeyOpened plainEnvelope blob = (0, some [1, 2, 3]) :=
  ⟨rfl, unwrap_opens_wrapped_key plainEnvelope [1, 2, 3] [9] [7, 7, 7, 7] [1, 2, 3] []
    ⟨rfl, rfl⟩ rfl rfl ⟨[1, 2, 3], [], rfl, rfl⟩ (by decide)⟩

end Cml
