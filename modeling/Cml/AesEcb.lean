import Cml.KeyWrap

set_option autoImplicit false

namespace Cml

/-! # AES-ECB with a caller's buffer

`ssl_aes_ecb_encrypt` and `ssl_aes_ecb_decrypt` write `EVP_*Update`'s output and then
`EVP_*Final_ex`'s after it into the caller's `out` of `*outlen` bytes, once an output-size check
has passed. What OpenSSL writes follows AES-ECB with PKCS#7 padding; which calls succeed is left
open. -/

/-- Which OpenSSL calls of the AES-ECB functions succeed, and the padding byte the last decrypted
block ends with. -/
structure EvpOutcome where
  ctxNew : Bool
  ctxInit : Bool
  cipherInit : Bool
  setPadding : Bool
  update : Bool
  final : Bool
  padByte : Nat
deriving DecidableEq, Repr

def aesBlockSize : Int := 16

/-- `EVP_EncryptUpdate` on a fresh context: the whole blocks of the input; a negative length is
refused. -/
def evpEncryptUpdate (inlen : Int) : Option Int :=
  if inlen < 0 then none else some (inlen / aesBlockSize * aesBlockSize)

/-- `EVP_EncryptFinal_ex`: with padding, one PKCS#7 block, a whole one after an aligned input;
without, nothing, and a partial last block is refused. -/
def evpEncryptFinal (pad inlen : Int) : Option Int :=
  if pad ≠ 0 then some aesBlockSize else if inlen % aesBlockSize = 0 then some 0 else none

/-- `EVP_DecryptUpdate` on a fresh context: the whole blocks of the input, except that with
padding on the last one is kept back for the final call; a negative length is refused. -/
def evpDecryptUpdate (pad inlen : Int) : Option Int :=
  if inlen < 0 then none
  else if pad ≠ 0 ∧ 0 < inlen ∧ inlen % aesBlockSize = 0 then some (inlen - aesBlockSize)
  else some (inlen / aesBlockSize * aesBlockSize)

/-- `EVP_DecryptFinal_ex`: with padding, the kept-back block less its padding, refused for a partial
input or a padding byte outside `1..16`; without, nothing. -/
def evpDecryptFinal (pad inlen : Int) (padByte : Nat) : Option Int :=
  if pad ≠ 0 then
    if 0 < inlen ∧ inlen % aesBlockSize = 0 ∧ 1 ≤ padByte ∧ padByte ≤ 16 then
      some (aesBlockSize - padByte)
    else none
  else if inlen % aesBlockSize = 0 then some 0 else none

/-- What the AES-ECB functions leave: the return value, the bytes written into `out`, and
`*outlen`. -/
structure EcbResult where
  ret : Int
  written : Int
  outlen : Int
deriving DecidableEq, Repr

def ecbSetup (evp : EvpOutcome) : Bool :=
  evp.ctxNew && evp.ctxInit && evp.cipherInit && evp.setPadding

/-- The tail both functions share: `EVP_*Update` writes at `out`, `EVP_*Final_ex` after it, and
`*outlen` adds up both; a failing call ends the function with `-1`. -/
def ecbUpdateFinal (evp : EvpOutcome) (update final : Option Int) : EcbResult :=
  match evp.update, update with
  | true, some updated =>
      match evp.final, final with
      | true, some finallen => ⟨0, updated + finallen, updated + finallen⟩
      | _, _ => ⟨-1, updated, updated⟩
  | _, _ => ⟨-1, 0, 0⟩

/-- Modelled from the spec: `ADD_WITH_OVERFLOW_CHECK` of `common/macro.h` is not in the sources.
At type `int` it is the `int` sum, stopping the caller instead of overflowing. -/
def addWithOverflowCheckInt (a b : Int) : Option Int :=
  if -2 ^ 31 ≤ a + b ∧ a + b < 2 ^ 31 then some (a + b) else none

/-- The `maxlen` of `ssl_aes_ecb_encrypt`: `inlen` rounded up to the block size, `%` truncating
as C's does. -/
def encryptMaxlen (inlen : Int) : Option Int :=
  let padLen :=
    if inlen.tmod aesBlockSize ≠ 0 then aesBlockSize - inlen.tmod aesBlockSize else 0
  addWithOverflowCheckInt inlen padLen

/-- `ssl_aes_ecb_encrypt` for a caller's buffer of `outlen` bytes; `none` when
`ADD_WITH_OVERFLOW_CHECK` stops it. -/
def sslAesEcbEncrypt (evp : EvpOutcome) (inlen outlen keylen pad : Int) : Option EcbResult :=
  if keylen ≠ 16 ∧ keylen ≠ 32 then some ⟨-1, 0, outlen⟩
  else if !ecbSetup evp then some ⟨-1, 0, outlen⟩
  else
    (encryptMaxlen inlen).map fun maxlen =>
      if outlen < maxlen then ⟨-1, 0, outlen⟩
      else ecbUpdateFinal evp (evpEncryptUpdate inlen) (evpEncryptFinal pad inlen)

/-- `ssl_aes_ecb_decrypt` for a caller's buffer of `outlen` bytes. -/
def sslAesEcbDecrypt (evp : EvpOutcome) (inlen outlen keylen pad : Int) : EcbResult :=
  if keylen ≠ 16 ∧ keylen ≠ 32 then ⟨-1, 0, outlen⟩
  else if outlen < inlen then ⟨-1, 0, outlen⟩
  else if !ecbSetup evp then ⟨-1, 0, outlen⟩
  else ecbUpdateFinal evp (evpDecryptUpdate pad inlen) (evpDecryptFinal pad inlen evp.padByte)

def evpSucceeds : EvpOutcome := ⟨true, true, true, true, true, true, 1⟩

/-- One block with padding on: `maxlen` is `16`, a 16-byte buffer passes the check, and `32`
bytes are written into it. -/
theorem ecb_encrypt_pads_past_buffer :
    encryptMaxlen 16 = some 16 ∧
      sslAesEcbEncrypt evpSucceeds 16 16 16 1 = some ⟨0, 32, 32⟩ := by
  decide

end Cml
