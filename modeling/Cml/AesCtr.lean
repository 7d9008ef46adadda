import Cml.Ownership

set_option autoImplicit false

namespace Cml

/-! # AES-CTR contexts

`ssl_aes_ctr_init_encrypt` and `ssl_aes_ctr_init_decrypt` set up a cipher context for
AES-128-CTR or AES-256-CTR, which the caller feeds with `ssl_aes_ctr_encrypt` or
`ssl_aes_ctr_decrypt` as often as it likes and frees with `ssl_aes_ctr_free`. Counter mode XORs
the data with a keystream computed from the key and the initial counter block; the context keeps
how far into the keystream it is, so data given in pieces is encrypted as if given at once.
`EVP_*Final_ex` of a stream mode writes nothing and leaves the context as it is. Which OpenSSL
calls succeed is left open. -/

inductive CtrCipher where
  | aes128Ctr
  | aes256Ctr
deriving DecidableEq, Repr

/-- Byte `n` of the keystream a cipher computes under the key bytes from the initial counter
block. -/
abbrev Keystream := CtrCipher → List UInt8 → List UInt8 → Nat → UInt8

def aesCtrIvLength : Int := 16

/-- An `EVP_CIPHER_CTX` set up for AES-CTR: cipher, key, counter block, the direction its
`EVP_*Init_ex` chose, and the keystream bytes used so far. -/
structure CtrCtx where
  cipher : CtrCipher
  key : List UInt8
  iv : List UInt8
  encrypt : Bool
  pos : Nat
deriving DecidableEq, Repr

inductive CtrObj where
  | ctx
deriving DecidableEq, Repr

structure CtrInitAnswers where
  ctxNew : Bool
  ctxInit : Bool
  cipherInit : Bool
deriving DecidableEq, Repr

/-- The cipher `keylen` selects: `EVP_aes_128_ctr` for 16 bytes, `EVP_aes_256_ctr` for 32, and
none otherwise. -/
def ctrCipherOfKeylen (keylen : Int) : Option CtrCipher :=
  if keylen = 16 then some .aes128Ctr else if keylen = 32 then some .aes256Ctr else none

/-- `ssl_aes_ctr_init_encrypt` (`encrypt` set) and `ssl_aes_ctr_init_decrypt`: the context at the
start of the keystream, or `NULL`, and what happens to it; `out:` frees it. -/
def sslAesCtrInit (encrypt : Bool) (key : List UInt8) (keylen : Int) (iv : List UInt8)
    (ivlen : Int) (a : CtrInitAnswers) : Option CtrCtx × List (Own CtrObj) :=
  match ctrCipherOfKeylen keylen with
  | none => (none, [])
  | some cipher =>
      if ivlen ≠ aesCtrIvLength then (none, [])
      else if !a.ctxNew then (none, [])
      else if !a.ctxInit then (none, [.take .ctx, .free .ctx])
      else if !a.cipherInit then (none, [.take .ctx, .free .ctx])
      else (some ⟨cipher, key, iv, encrypt, 0⟩, [.take .ctx, .give .ctx])

/-- `ssl_aes_ctr_init_encrypt`. -/
def sslAesCtrInitEncrypt (key : List UInt8) (keylen : Int) (iv : List UInt8) (ivlen : Int)
    (a : CtrInitAnswers) : Option CtrCtx × List (Own CtrObj) :=
  sslAesCtrInit true key keylen iv ivlen a

/-- `ssl_aes_ctr_init_decrypt`. -/
def sslAesCtrInitDecrypt (key : List UInt8) (keylen : Int) (iv : List UInt8) (ivlen : Int)
    (a : CtrInitAnswers) : Option CtrCtx × List (Own CtrObj) :=
  sslAesCtrInit false key keylen iv ivlen a

/-- `ssl_aes_ctr_free`. -/
def sslAesCtrFree : List (Own CtrObj) := [.free .ctx]

theorem sslAesCtrInit_ctx (encrypt : Bool) (key : List UInt8) (keylen : Int) (iv : List UInt8)
    (ivlen : Int) (a : CtrInitAnswers) (ctx : CtrCtx)
    (made : (sslAesCtrInit encrypt key keylen iv ivlen a).1 = some ctx) :
    ctrCipherOfKeylen keylen = some ctx.cipher ∧ ctx = ⟨ctx.cipher, key, iv, encrypt, 0⟩ := by
  unfold sslAesCtrInit at made
  cases cipherOf : ctrCipherOfKeylen keylen with
  | none => simp only [cipherOf] at made; cases made
  | some cipher =>
      simp only [cipherOf] at made
      split_ifs at made
      cases made
      exact ⟨rfl, rfl⟩

/-! ## Encrypting and decrypting -/

/-- The keystream from byte `n` on XORed onto data. -/
def xorKeystream (ks : Nat → UInt8) : Nat → List UInt8 → List UInt8
  | _, [] => []
  | n, b :: rest => (b ^^^ ks n) :: xorKeystream ks (n + 1) rest

theorem xorKeystream_append (ks : Nat → UInt8) (n : Nat) (first rest : List UInt8) :
    xorKeystream ks n (first ++ rest) =
      xorKeystream ks n first ++ xorKeystream ks (n + first.length) rest := by
  induction first generalizing n with
  | nil => rfl
  | cons b first ih =>
      show (b ^^^ ks n) :: xorKeystream ks (n + 1) (first ++ rest) = _
      rw [ih, List.length_cons, Nat.add_right_comm n 1, Nat.add_assoc]
      rfl

theorem uint8_xor_xor_cancel (a b : UInt8) : a ^^^ b ^^^ b = a := by
  show UInt8.xor (UInt8.xor a b) b = a
  cases a
  simp only [UInt8.xor, BitVec.xor_assoc, BitVec.xor_self, BitVec.xor_zero]

theorem xorKeystream_xorKeystream (ks : Nat → UInt8) (n : Nat) (data : List UInt8) :
    xorKeystream ks n (xorKeystream ks n data) = data := by
  induction data generalizing n with
  | nil => rfl
  | cons b rest ih => simp only [xorKeystream, ih, uint8_xor_xor_cancel]

structure CtrCryptAnswers where
  update : Bool
  final : Bool
deriving DecidableEq, Repr

/-- What `ssl_aes_ctr_encrypt` or `ssl_aes_ctr_decrypt` leaves: the return value, the bytes written
into `out`, and the context. -/
structure CtrResult where
  ret : Int
  out : List UInt8
  ctx : CtrCtx
deriving DecidableEq, Repr

/-- `ssl_aes_ctr_encrypt` (`encrypt` set) and `ssl_aes_ctr_decrypt`: `EVP_*Update` refuses a context
set up the other way, else XORs the keystream on; `EVP_*Final_ex` writes nothing. -/
def sslAesCtrCrypt (ks : Keystream) (encrypt : Bool) (ctx : CtrCtx) (input : List UInt8)
    (a : CtrCryptAnswers) : CtrResult :=
  if !a.update || ctx.encrypt != encrypt then ⟨-1, [], ctx⟩
  else
    let out := xorKeystream (ks ctx.cipher ctx.key ctx.iv) ctx.pos input
    let next := { ctx with pos := ctx.pos + input.length }
    if !a.final then ⟨-1, out, next⟩ else ⟨0, out, next⟩

/-- `ssl_aes_ctr_encrypt`. -/
def sslAesCtrEncrypt (ks : Keystream) (ctx : CtrCtx) (input : List UInt8)
    (a : CtrCryptAnswers) : CtrResult :=
  sslAesCtrCrypt ks true ctx input a

/-- `ssl_aes_ctr_decrypt`. -/
def sslAesCtrDecrypt (ks : Keystream) (ctx : CtrCtx) (input : List UInt8)
    (a : CtrCryptAnswers) : CtrResult :=
  sslAesCtrCrypt ks false ctx input a

/-- Calls of one of the two functions, one after another on one context, each with its input
and answers. -/
def ctrCalls (crypt : CtrCtx → List UInt8 → CtrCryptAnswers → CtrResult) :
    CtrCtx → List (List UInt8 × CtrCryptAnswers) → List CtrResult
  | _, [] => []
  | ctx, (input, a) :: rest =>
      let result := crypt ctx input a
      result :: ctrCalls crypt result.ctx rest

theorem sslAesCtrCrypt_ok (ks : Keystream) (encrypt : Bool) (ctx : CtrCtx) (input : List UInt8)
    (a : CtrCryptAnswers) (ok : (sslAesCtrCrypt ks encrypt ctx input a).ret = 0) :
    (sslAesCtrCrypt ks encrypt ctx input a).out =
        xorKeystream (ks ctx.cipher ctx.key ctx.iv) ctx.pos input ∧
      (sslAesCtrCrypt ks encrypt ctx input a).ctx = { ctx with pos := ctx.pos + input.length } := by
  unfold sslAesCtrCrypt at ok ⊢
  split_ifs at ok ⊢
  · cases ok
  · cases ok
  · exact ⟨rfl, rfl⟩

theorem ctrCalls_out (ks : Keystream) (encrypt : Bool) :
    ∀ (ctx : CtrCtx) (calls : List (List UInt8 × CtrCryptAnswers)),
      (∀ result ∈ ctrCalls (sslAesCtrCrypt ks encrypt) ctx calls, result.ret = 0) →
      ((ctrCalls (sslAesCtrCrypt ks encrypt) ctx calls).map CtrResult.out).flatten =
        xorKeystream (ks ctx.cipher ctx.key ctx.iv) ctx.pos (calls.map Prod.fst).flatten
  | _, [], _ => rfl
  | ctx, (input, a) :: rest, ok => by
      have first := sslAesCtrCrypt_ok ks encrypt ctx input a (ok _ (List.mem_cons_self _ _))
      have later := ctrCalls_out ks encrypt _ rest fun result mem => ok result (List.mem_cons_of_mem _ mem)
      rw [first.2] at later
      simp only [ctrCalls, List.map_cons, List.flatten_cons, first.1, first.2, later,
        xorKeystream_append]

/-- The AES-CTR round trip: plaintext encrypted in any pieces and the ciphertext decrypted in any
other pieces, under one key and IV, comes back whenever every call returns `0`. -/
theorem aes_ctr_decrypts_rechunked_stream (ks : Keystream) (key iv : List UInt8)
    (keylen ivlen : Int) (initEncrypt initDecrypt : CtrInitAnswers) (enc dec : CtrCtx)
    (encMade : (sslAesCtrInitEncrypt key keylen iv ivlen initEncrypt).1 = some enc)
    (decMade : (sslAesCtrInitDecrypt key keylen iv ivlen initDecrypt).1 = some dec)
    (plain cipher : List (List UInt8 × CtrCryptAnswers))
    (encrypted : ∀ result ∈ ctrCalls (sslAesCtrEncrypt ks) enc plain, result.ret = 0)
    (decrypted : ∀ result ∈ ctrCalls (sslAesCtrDecrypt ks) dec cipher, result.ret = 0)
    (rechunked : (cipher.map Prod.fst).flatten =
      ((ctrCalls (sslAesCtrEncrypt ks) enc plain).map CtrResult.out).flatten) :
    ((ctrCalls (sslAesCtrDecrypt ks) dec cipher).map CtrResult.out).flatten =
      (plain.map Prod.fst).flatten := by
  obtain ⟨encCipher, encShape⟩ := sslAesCtrInit_ctx true key keylen iv ivlen initEncrypt enc encMade
  obtain ⟨decCipher, decShape⟩ := sslAesCtrInit_ctx false key keylen iv ivlen initDecrypt dec decMade
  have sameCipher : dec.cipher = enc.cipher := Option.some.inj (decCipher.symm.trans encCipher)
  have ciphertext : ((ctrCalls (sslAesCtrEncrypt ks) enc plain).map CtrResult.out).flatten =
      xorKeystream (ks enc.cipher enc.key enc.iv) enc.pos (plain.map Prod.fst).flatten :=
    ctrCalls_out ks true enc plain encrypted
  have sameStream : ks dec.cipher dec.key dec.iv = ks enc.cipher enc.key enc.iv ∧ dec.pos = enc.pos := by
    rw [decShape, encShape, sameCipher]
    exact ⟨rfl, rfl⟩
  calc ((ctrCalls (sslAesCtrDecrypt ks) dec cipher).map CtrResult.out).flatten
      = xorKeystream (ks dec.cipher dec.key dec.iv) dec.pos (cipher.map Prod.fst).flatten :=
        ctrCalls_out ks false dec cipher decrypted
    _ = xorKeystream (ks enc.cipher enc.key enc.iv) enc.pos
          (xorKeystream (ks enc.cipher enc.key enc.iv) enc.pos (plain.map Prod.fst).flatten) := by
        rw [rechunked, ciphertext, sameStream.1, sameStream.2]
    _ = (plain.map Prod.fst).flatten := xorKeystream_xorKeystream _ _ _

def sampleKeystream : Keystream := fun _ key _ n => key.headD 0 + n.toUInt8

theorem aes_ctr_decrypts_rechunked_stream_in_sample :
    ((ctrCalls (sslAesCtrDecrypt sampleKeystream) ⟨.aes128Ctr, [7], [1], false, 0⟩
        [([6, 10, 10], ⟨true, true⟩), ([14], ⟨true, true⟩)]).map CtrResult.out).flatten =
      [1, 2, 3, 4] :=
  aes_ctr_decrypts_rechunked_stream sampleKeystream [7] [1] 16 16 ⟨true, true, true⟩
    ⟨true, true, true⟩ _ _ rfl rfl [([1, 2], ⟨true, true⟩), ([3, 4], ⟨true, true⟩)] _
    (by decide) (by decide) (by decide)

end Cml
