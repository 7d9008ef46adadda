import Mathlib.Data.List.Infix

set_option autoImplicit false

namespace Cml

/-! # Signature and certificate verification

`ssl_verify_signature_from_digest`, `ssl_verify_signature_from_buf`, `ssl_verify_signature` and
`ssl_verify_certificate` over what the OpenSSL calls answer. A path either returns a code or
stops the process: at a failing `ASSERT`, or at the `fclose(NULL)` of `ssl_hash_buf`'s error
paths. -/

inductive Crash where
  | assertFailed
  | fcloseNull
deriving DecidableEq, Repr

inductive PkeyType where
  | rsaPss
  | rsa
  | other
deriving DecidableEq, Repr

structure Pkey where
  id : Nat
  type : PkeyType
deriving DecidableEq, Repr

/-- What the OpenSSL calls of the signature functions answer, over byte strings: the certificate's
key, `EVP_PKEY_verify` under a key, and the digest `EVP_DigestFinal` hands back. -/
structure Openssl where
  certPubkey : List UInt8 → Option Pkey
  pkeyCtxNew : Bool
  verifyInit : Int
  digestByName : String → Bool
  setRsaPadding : Int
  setSignatureMd : Int
  setRsaMgf1Md : Int
  setRsaPssSaltlen : Int
  pkeyVerify : Pkey → List UInt8 → List UInt8 → Int
  mdCtxNew : Bool
  digestUpdate : Bool
  digestFinal : String → List UInt8 → Option (List UInt8)

/-- `ssl_set_pkey_ctx_rsa_pss`: `-1` at the first setter that does not answer `1`. -/
def sslSetPkeyCtxRsaPss (o : Openssl) : Int :=
  if o.setRsaPadding ≠ 1 then -1
  else if o.setSignatureMd ≠ 1 then -1
  else if o.setRsaMgf1Md ≠ 1 then -1
  else if o.setRsaPssSaltlen ≠ 1 then -1
  else 0

def verifyRet (verified : Int) : Int :=
  if verified ≠ 1 then (if verified = -1 then -2 else -1) else 0

def verifyWithKey (o : Openssl) (key : Pkey) (sigBuf hash : List UInt8) (digestAlgo : String) :
    Int :=
  if !o.pkeyCtxNew then -2
  else if o.verifyInit ≠ 1 then -2
  else if !o.digestByName digestAlgo then -2
  else match key.type with
    | .rsaPss =>
        if 0 > sslSetPkeyCtxRsaPss o then sslSetPkeyCtxRsaPss o
        else verifyRet (o.pkeyVerify key sigBuf hash)
    | .rsa => if o.setSignatureMd ≠ 1 then -2 else verifyRet (o.pkeyVerify key sigBuf hash)
    | .other => -1

/-- `ssl_verify_signature_from_digest`. The certificate and signature buffers are never `NULL`;
the digest is `none` for a `NULL` pointer, and its length is `hash_len`. -/
def sslVerifySignatureFromDigest (o : Openssl) (certBuf sigBuf : List UInt8)
    (hash : Option (List UInt8)) (digestAlgo : String) : Except Crash Int :=
  match hash with
  | none => .error .assertFailed
  | some hash =>
      if ¬ 0 < certBuf.length then .ok (-1)
      else if ¬ 0 < sigBuf.length then .ok (-1)
      else if ¬ 0 < hash.length then .ok (-1)
      else match o.certPubkey certBuf with
        | none => .ok (-2)
        | some key => .ok (verifyWithKey o key sigBuf hash digestAlgo)

/-- `ssl_hash_buf`: the digest, `none` for a `NULL` result. The two error paths after the digest
lookup call `fclose` on the `FILE *` that was never opened. -/
def sslHashBuf (o : Openssl) (buf : List UInt8) (digestAlgo : String) :
    Except Crash (Option (List UInt8)) :=
  if !o.digestByName digestAlgo then .ok none
  else if !o.mdCtxNew then .error .fcloseNull
  else if !o.digestUpdate then .error .fcloseNull
  else .ok (o.digestFinal digestAlgo buf)

/-- `ssl_verify_signature_from_buf`: the data is hashed and the digest checked; a negative code
becomes `-2`. The certificate it parses and frees has no effect on the result. -/
def sslVerifySignatureFromBuf (o : Openssl) (certBuf sigBuf buf : List UInt8)
    (digestAlgo : String) : Except Crash Int := do
  let hash ← sslHashBuf o buf digestAlgo
  let ret ← sslVerifySignatureFromDigest o certBuf sigBuf hash digestAlgo
  pure (if 0 > ret then -2 else ret)

/-- `ssl_hash_file` over the file's contents, `none` when `fopen` fails: the digest, `none` for a
`NULL` result. Every error path closes the file. -/
def sslHashFile (o : Openssl) (file : Option (List UInt8)) (hashAlgo : String) :
    Option (List UInt8) :=
  match file with
  | none => none
  | some contents =>
      if !o.digestByName hashAlgo then none
      else if !o.mdCtxNew then none
      else if contents ≠ [] ∧ !o.digestUpdate then none
      else o.digestFinal hashAlgo contents

/-! ## The read loop of `ssl_hash_file` -/

/-- `ssl_verify_signature` over the three files as `file_read` and `fopen` see them, `none` for
a file that cannot be read. -/
def sslVerifySignature (o : Openssl) (certFile sigFile signedFile : Option (List UInt8))
    (digestAlgo : String) : Except Crash Int :=
  match certFile, sigFile, sslHashFile o signedFile digestAlgo with
  | none, _, _ => .ok (-1)
  | some _, none, _ => .ok (-1)
  | some _, some _, none => .ok (-1)
  | some certBuf, some sigBuf, some hash =>
      sslVerifySignatureFromDigest o certBuf sigBuf (some hash) digestAlgo

/-- What the OpenSSL calls of `ssl_verify_certificate` answer: the store set-up, the reads, whether
`sk_X509_push` took each further certificate, and `X509_verify_cert`. -/
structure X509Outcome where
  storeNew : Bool
  storeCtxNew : Bool
  loadLocations : Bool
  readFilename : Int
  readTestCert : Bool
  chainNew : Bool
  chainPushes : List Bool
  storeCtxInit : Bool
  verifyCert : Int
deriving DecidableEq, Repr

/-- `ssl_verify_certificate`. -/
def sslVerifyCertificate (x : X509Outcome) : Int :=
  if !x.storeNew then -2
  else if !x.storeCtxNew then -2
  else if !x.loadLocations then -2
  else if x.readFilename ≤ 0 then -2
  else if !x.readTestCert then -2
  else if !x.chainNew then -2
  else if !x.chainPushes.all id then -2
  else if !x.storeCtxInit then -2
  else if x.verifyCert = 1 then 0
  else if x.verifyCert = 0 then -1
  else -2

/-! ## The `ignore_time` callback -/

def x509VErrCertNotYetValid : Int := 9

def x509VErrCertHasExpired : Int := 10

/-- `cb_verify_ignore_time`, given `ok` and the error `X509_STORE_CTX_get_error` reads. -/
def cbVerifyIgnoreTime (ok error : Int) : Int :=
  if error = x509VErrCertHasExpired ∨ error = x509VErrCertNotYetValid then 1 else ok

/-- The verify callback of the store `ssl_verify_certificate` sets up: `cb_verify_ignore_time`
when `ignore_time` is set, `null_callback` otherwise. -/
def sslVerifyCb (ignoreTime : Bool) : Int → Int → Int :=
  if ignoreTime then cbVerifyIgnoreTime else fun ok _ => ok

def opensslSha256 : Openssl where
  certPubkey _ := some ⟨0, .rsa⟩
  pkeyCtxNew := true
  verifyInit := 1
  digestByName name := name == "sha256"
  setRsaPadding := 1
  setSignatureMd := 1
  setRsaMgf1Md := 1
  setRsaPssSaltlen := 1
  pkeyVerify _ _ _ := 1
  mdCtxNew := true
  digestUpdate := true
  digestFinal _ _ := some (List.replicate 32 0)

/-- `ssl_verify_signature_from_buf` stops the process: at `ASSERT(hash)` for an unknown digest or a
failed `EVP_DigestFinal`, and at `fclose(NULL)` when `EVP_MD_CTX_new` fails. -/
theorem verify_from_buf_crashes :
    sslVerifySignatureFromBuf opensslSha256 [1] [2] [3] "sha3-999" = .error .assertFailed ∧
      sslVerifySignatureFromBuf { opensslSha256 with mdCtxNew := false } [1] [2] [3] "sha256" =
        .error .fcloseNull ∧
      sslVerifySignatureFromBuf { opensslSha256 with digestFinal := fun _ _ => none } [1] [2] [3]
        "sha256" = .error .assertFailed := by
  refine ⟨rfl, rfl, rfl⟩

end Cml
