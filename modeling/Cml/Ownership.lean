import Cml.Envelope
import Cml.Verify

set_option autoImplicit false

namespace Cml

/-! # Who frees what

The OpenSSL-based functions of the ssl layer create objects (cipher contexts, buffers,
certificates, BIOs) or get them from calls that return a new object, and free them at one cleanup
label or hand them to their caller. OpenSSL's conventions say which call returns an object its
caller must free, which copies its argument and which takes its argument over. Each function is
followed here through the objects it answers for, on every path and for every answer of the calls
it makes: what it frees, what it hands on, and what it loses. -/

/-- What a function does with an object it answers for. -/
inductive Own (α : Type) where
  /-- It creates the object, or a call hands it a new one to free. -/
  | take (obj : α)
  /-- It frees the object. -/
  | free (obj : α)
  /-- The object passes to another owner: the caller, through an out-parameter, or an object
  that frees it along with itself. -/
  | give (obj : α)
deriving DecidableEq, Repr

namespace Own

variable {α : Type} [DecidableEq α]

/-- The objects a function answers for after a trace, from those it answered for before; `none`
when the trace frees or gives away an object it does not hold. -/
def held : List α → List (Own α) → Option (List α)
  | owned, [] => some owned
  | owned, take obj :: rest => held (obj :: owned) rest
  | owned, free obj :: rest => if obj ∈ owned then held (owned.erase obj) rest else none
  | owned, give obj :: rest => if obj ∈ owned then held (owned.erase obj) rest else none

@[simp] theorem held_nil (owned : List α) : held owned [] = some owned := rfl

theorem held_append (owned : List α) (first rest : List (Own α)) :
    held owned (first ++ rest) = (held owned first).bind fun owned => held owned rest := by
  induction first generalizing owned with
  | nil => rfl
  | cons event first ih =>
      cases event with
      | take obj => exact ih _
      | free obj | give obj =>
          simp only [List.cons_append, held]
          split
          · exact ih _
          · rfl

end Own

/-! ## Wrapping and unwrapping keys -/

inductive KeyObj where
  | ctx
  | tmpkey
  | ivBuf
  | out
  | blob
deriving DecidableEq, Repr

/-- `ssl_wrap_key` with its objects: the context, the three `mem_alloc` buffers `cleanup:` frees,
and the blob it hands on; `none` when `ADD_WITH_OVERFLOW_CHECK` stops the process. -/
def sslWrapKeyOwned (env : Envelope) (plainKey : List UInt8) :
    Option (Int × List (Own KeyObj)) :=
  let opened : List (Own KeyObj) := [.take .ctx, .take .tmpkey, .take .ivBuf, .take .out]
  let cleanup : List (Own KeyObj) := [.free .tmpkey, .free .ivBuf, .free .out, .free .ctx]
  if !env.cipherByName then some (-1, [])
  else if !env.ctxNew then some (-1, [])
  else match env.sealKey plainKey with
    | none => some (-1, opened ++ cleanup)
    | some (tmpkey, ivBuf, updated, finaled) =>
        (sslWrapKey ivBuf tmpkey (updated ++ finaled)).map fun _ =>
          (0, opened ++ [.take .blob, .give .blob] ++ cleanup)

/-- `ssl_unwrap_key` with its objects: the context, which `cleanup:` frees, and the output buffer
handed to the caller on success. -/
def sslUnwrapKeyOwned (env : Envelope) (wrappedKey : List UInt8) : Int × List (Own KeyObj) :=
  if !env.cipherByName then (-1, [])
  else match sslUnwrapKey env.ivLength wrappedKey with
    | none => (-1, [])
    | some frame =>
        if !env.ctxNew then (-1, [])
        else
          match env.openKey (slice wrappedKey frame.tmpkey frame.tmpkeylen)
              (slice wrappedKey frame.ivBuf env.ivLength) (slice wrappedKey frame.key frame.keylen) with
          | none => (-1, [.take .ctx, .take .out, .free .ctx])
          | some _ => (0, [.take .ctx, .take .out, .give .out, .free .ctx])

structure SymCipher where
  cipherByName : Bool
  ctxNew : Bool
  /-- `mem_alloc0` of the output buffer, which the source checks. -/
  outAlloc : Bool
  /-- `EVP_EncryptInit_ex` under a KEK, then `EVP_EncryptUpdate` and `EVP_EncryptFinal_ex` on an
  input: the bytes the update and the final call write; `none` when one of them fails. -/
  encrypt : List UInt8 → List UInt8 → Option (List UInt8 × List UInt8)
  /-- The same for `EVP_DecryptInit_ex`, `EVP_DecryptUpdate` and `EVP_DecryptFinal_ex`. -/
  decrypt : List UInt8 → List UInt8 → Option (List UInt8 × List UInt8)

/-- The body `ssl_wrap_key_sym` and `ssl_unwrap_key_sym` share: `res`, the output, and the objects;
`cleanup:` frees the context only. -/
def symKeyCrypt (cipher : SymCipher)
    (crypt : List UInt8 → List UInt8 → Option (List UInt8 × List UInt8)) (kek input : List UInt8) :
    Int × Option (List UInt8) × List (Own KeyObj) :=
  if !cipher.cipherByName then (-1, none, [])
  else if !cipher.ctxNew then (-1, none, [])
  else if !cipher.outAlloc then (-1, none, [.take .ctx, .free .ctx])
  else match crypt kek input with
    | none => (-1, none, [.take .ctx, .take .out, .free .ctx])
    | some (updated, finaled) =>
        (0, some (updated ++ finaled), [.take .ctx, .take .out, .give .out, .free .ctx])

/-- `ssl_wrap_key_sym`. -/
def sslWrapKeySym (cipher : SymCipher) (kek plainKey : List UInt8) :
    Int × Option (List UInt8) × List (Own KeyObj) :=
  symKeyCrypt cipher cipher.encrypt kek plainKey

/-- `ssl_unwrap_key_sym`. -/
def sslUnwrapKeySym (cipher : SymCipher) (kek wrappedKey : List UInt8) :
    Int × Option (List UInt8) × List (Own KeyObj) :=
  symKeyCrypt cipher cipher.decrypt kek wrappedKey

/-! ## Verifying a certificate -/

inductive X509Obj where
  | store
  | context
  | stackbio
  | testCert
  | chainstack
  | chainCert
deriving DecidableEq, Repr

def verifyCertificateEnd (set : List X509Obj) : List (Own X509Obj) :=
  ([X509Obj.context, .store, .stackbio, .chainstack, .testCert].filter (· ∈ set)).map .free

/-- The loop over the further certificates: each one read is the function's until `sk_X509_push`
takes it, and a refusal leaves for `end:` still holding it. -/
def chainLoop : List Bool → List (Own X509Obj)
  | [] => []
  | true :: rest => .take .chainCert :: .give .chainCert :: chainLoop rest
  | false :: _ => [.take .chainCert]

def verifyCertificateStop (ret : Int) (set : List X509Obj) (loop : List (Own X509Obj)) :
    Int × List (Own X509Obj) :=
  (ret, set.map .take ++ loop ++ verifyCertificateEnd set)

/-- `ssl_verify_certificate` with its objects; a failing `BIO_new` is folded into `readFilename`, as
`BIO_read_filename` fails on a `NULL` BIO. -/
def sslVerifyCertificateOwned (x : X509Outcome) : Int × List (Own X509Obj) :=
  let opened := [X509Obj.store, .context, .stackbio, .testCert, .chainstack]
  if !x.storeNew then verifyCertificateStop (-2) [] []
  else if !x.storeCtxNew then verifyCertificateStop (-2) [.store] []
  else if !x.loadLocations then verifyCertificateStop (-2) [.store, .context] []
  else if x.readFilename ≤ 0 then verifyCertificateStop (-2) [.store, .context, .stackbio] []
  else if !x.readTestCert then verifyCertificateStop (-2) [.store, .context, .stackbio] []
  else if !x.chainNew then verifyCertificateStop (-2) [.store, .context, .stackbio, .testCert] []
  else if !x.chainPushes.all id then verifyCertificateStop (-2) opened (chainLoop x.chainPushes)
  else if !x.storeCtxInit then verifyCertificateStop (-2) opened (chainLoop x.chainPushes)
  else
    verifyCertificateStop (if x.verifyCert = 1 then 0 else if x.verifyCert = 0 then -1 else -2)
      opened (chainLoop x.chainPushes)

@[simp] theorem verifyCertificateStop_res (ret : Int) (set : List X509Obj)
    (loop : List (Own X509Obj)) : (verifyCertificateStop ret set loop).1 = ret := rfl

theorem chainLoop_held (pushes : List Bool) :
    ∀ owned, Own.held owned (chainLoop pushes) =
      some (if pushes.all id then owned else .chainCert :: owned) := by
  induction pushes with
  | nil => intro owned; rfl
  | cons pushed rest ih =>
      intro owned
      cases pushed
      · rfl
      · simp only [chainLoop, Own.held, List.mem_cons_self, ↓reduceIte, List.erase_cons_head, ih,
          List.all_cons, id, Bool.true_and]

theorem sslVerifyCertificateOwned_res (x : X509Outcome) :
    (sslVerifyCertificateOwned x).1 = sslVerifyCertificate x := by
  simp only [sslVerifyCertificateOwned, sslVerifyCertificate, apply_ite Prod.fst,
    verifyCertificateStop_res]

theorem sslVerifyCertificateOwned_held (x : X509Outcome) :
    Own.held [] (sslVerifyCertificateOwned x).2 =
      some (if x.storeNew = true ∧ x.storeCtxNew = true ∧ x.loadLocations = true ∧
          0 < x.readFilename ∧ x.readTestCert = true ∧ x.chainNew = true ∧
          x.chainPushes.all id = false then [.chainCert] else []) := by
  obtain ⟨storeNew, storeCtxNew, loadLocations, readFilename, readTestCert, chainNew, pushes,
    storeCtxInit, verifyCert⟩ := x
  have looped : ∀ ret, Own.held [] (verifyCertificateStop ret
      [.store, .context, .stackbio, .testCert, .chainstack] (chainLoop pushes)).2 =
        some (if pushes.all id then [] else [.chainCert]) := by
    intro ret
    simp only [verifyCertificateStop, Own.held_append, chainLoop_held]
    cases pushes.all id <;> rfl
  simp only [sslVerifyCertificateOwned]
  cases storeNew
  · rfl
  cases storeCtxNew
  · rfl
  cases loadLocations
  · rfl
  by_cases unread : readFilename ≤ 0
  · simp only [Bool.not_true, Bool.false_eq_true, unread, ↓reduceIte, true_and,
      show ¬ 0 < readFilename by omega, false_and]
    rfl
  simp only [Bool.not_true, Bool.false_eq_true, unread, ↓reduceIte, true_and,
    show 0 < readFilename by omega]
  cases readTestCert
  · rfl
  cases chainNew
  · rfl
  cases all : pushes.all id
  · simpa [all] using looped (-2)
  · cases storeCtxInit <;> simpa [all] using looped _

/-- `ssl_verify_certificate` frees or hands to the chain every object it takes, except a certificate
`sk_X509_push` refuses, which no pointer of `end:` names. -/
theorem verify_certificate_loses_refused_chain_cert (x : X509Outcome) :
    (sslVerifyCertificateOwned x).1 = sslVerifyCertificate x ∧
      Own.held [] (sslVerifyCertificateOwned x).2 =
        some (if x.storeNew = true ∧ x.storeCtxNew = true ∧ x.loadLocations = true ∧
            0 < x.readFilename ∧ x.readTestCert = true ∧ x.chainNew = true ∧
            x.chainPushes.all id = false then [.chainCert] else []) :=
  ⟨sslVerifyCertificateOwned_res x, sslVerifyCertificateOwned_held x⟩

/-! ## Self-signing a certificate request -/

/-- One call of straight-line code with one error label: its answer, what the function does with
its objects when the call succeeds, and what it does before jumping to the label when it fails. -/
structure Step (α : Type) where
  ok : Bool
  done : List (Own α)
  failed : List (Own α)

/-- The calls in order up to the first failure: whether all succeeded, and what was done to the
objects on the way. -/
def runSteps {α : Type} : List (Step α) → Bool × List (Own α)
  | [] => (true, [])
  | step :: rest =>
      if step.ok then (runSteps rest).map id (step.done ++ ·) else (false, step.failed)

inductive CsrObj where
  | csrBio
  | csrX509
  | keyBio
  | keyEvpPriv
  | keyRsa
  | certX509
  | keyEvpPub
  | certName
  | extStack
  | certBio
deriving DecidableEq, Repr

structure SelfSignAnswers where
  csrBio : Bool
  readCsr : Bool
  keyBio : Bool
  pkeyNew : Bool
  readRsa : Bool
  assignRsa : Bool
  loadTpmKey : Bool
  x509New : Bool
  setVersion : Bool
  setSerial : Bool
  notBefore : Bool
  notAfter : Bool
  reqPubkey : Bool
  setPubkey : Bool
  subjectName : Bool
  nameDup : Bool
  setSubject : Bool
  setIssuer : Bool
  extensions : Option (List Bool)
  sign : Bool
  certBio : Bool
  writeCert : Bool
deriving Repr

def selfSignSteps (a : SelfSignAnswers) (tpmkey : Bool) : List (Step CsrObj) :=
  let key : List (Step CsrObj) :=
    if !tpmkey then
      [⟨a.keyBio, [.take .keyBio], []⟩, ⟨a.pkeyNew, [.take .keyEvpPriv], []⟩,
        ⟨a.readRsa, [.take .keyRsa], []⟩, ⟨a.assignRsa, [.give .keyRsa], [.free .keyRsa]⟩]
    else [⟨a.loadTpmKey, [.take .keyEvpPriv], []⟩]
  [⟨a.csrBio, [.take .csrBio], []⟩, ⟨a.readCsr, [.take .csrX509], []⟩] ++ key ++
    [⟨a.x509New, [.take .certX509], []⟩, ⟨a.setVersion, [], []⟩, ⟨a.setSerial, [], []⟩,
      ⟨a.notBefore, [], []⟩, ⟨a.notAfter, [], []⟩, ⟨a.reqPubkey, [.take .keyEvpPub], []⟩,
      ⟨a.setPubkey, [], []⟩, ⟨a.subjectName, [], []⟩, ⟨a.nameDup, [.take .certName], []⟩,
      ⟨a.setSubject, [], []⟩, ⟨a.setIssuer, [], []⟩,
      ⟨true, if a.extensions.isSome then [.take .extStack] else [], []⟩,
      ⟨(a.extensions.getD []).all id, [], []⟩, ⟨a.sign, [], []⟩,
      ⟨a.certBio, [.take .certBio], []⟩, ⟨a.writeCert, [], []⟩]

def selfSignError (done : List (Own CsrObj)) : List (Own CsrObj) :=
  ([CsrObj.csrBio, .certBio, .keyBio, .keyEvpPriv, .certX509, .csrX509, .keyEvpPub, .extStack].filter
    fun obj => Own.take obj ∈ done).map .free

/-- `ssl_self_sign_csr`: `0` when every call succeeds, `-1` otherwise, and the objects. -/
def sslSelfSignCsr (a : SelfSignAnswers) (tpmkey : Bool) : Int × List (Own CsrObj) :=
  let run := runSteps (selfSignSteps a tpmkey)
  (if run.1 then 0 else -1, run.2 ++ selfSignError run.2)

/-! ## Certificate requests -/

inductive ReqObj where
  | req
  | exts
  | keyUsage
  | extKeyUsage
  | altName
  | uriUuid
deriving DecidableEq, Repr

structure ExtAnswers where
  conf : Bool
  add : Bool
deriving DecidableEq, Repr

/-- `add_ext_req` in its caller: the extension is the caller's until `sk_X509_EXTENSION_push` takes
it; a refused push returns `-1` still holding it. -/
def addExtReq (ext : ReqObj) (answers : ExtAnswers) : List (Step ReqObj) :=
  [⟨answers.conf, [.take ext], []⟩, ⟨answers.add, [.give ext], []⟩]

structure MkreqAnswers where
  reqNew : Bool
  setVersion : Bool
  setPubkey : Bool
  subjectName : Bool
  entryC : Bool
  entryO : Bool
  entryOU : Bool
  entryCN : Bool
  extsNew : Bool
  keyUsage : ExtAnswers
  extKeyUsage : ExtAnswers
  altName : ExtAnswers
  addExtensions : Bool
  digestByName : Bool
  sign : Bool
deriving Repr

def mkreqSteps (a : MkreqAnswers) : List (Step ReqObj) :=
  [⟨a.reqNew, [.take .req], []⟩, ⟨a.setVersion, [], []⟩, ⟨a.setPubkey, [], []⟩,
      ⟨a.subjectName, [], []⟩, ⟨a.entryC, [], []⟩, ⟨a.entryO, [], []⟩, ⟨a.entryOU, [], []⟩,
      ⟨a.entryCN, [], []⟩, ⟨a.extsNew, [.take .exts], []⟩] ++
    addExtReq .keyUsage a.keyUsage ++ addExtReq .extKeyUsage a.extKeyUsage ++
    [⟨true, [.take .uriUuid], []⟩] ++ addExtReq .altName a.altName ++
    [⟨a.addExtensions, [], []⟩, ⟨true, [.free .exts], []⟩, ⟨a.digestByName, [], []⟩,
      ⟨a.sign, [], []⟩]

/-- `ssl_mkreq`: whether it returns the request, which then passes to its caller, and the objects.
The `error:` label frees the request when it was created. -/
def sslMkreq (a : MkreqAnswers) : Bool × List (Own ReqObj) :=
  let run := runSteps (mkreqSteps a)
  (run.1, run.2 ++
    bif run.1 then [.give .req] else bif run.2.contains (.take .req) then [.free .req] else [])

inductive CertObj where
  | cert
  | basicConstraints
  | keyUsage
  | keyIdentifier
deriving DecidableEq, Repr

/-- `ssl_add_ext_cert` in its caller: `X509_add_ext` copies the extension, which is then freed; a
failed `X509_add_ext` returns `-1` still holding it. -/
def sslAddExtCert (ext : CertObj) (answers : ExtAnswers) : List (Step CertObj) :=
  [⟨answers.conf, [.take ext], []⟩, ⟨answers.add, [.free ext], []⟩]

structure MkcertAnswers where
  x509New : Bool
  setVersion : Bool
  setSerial : Bool
  notBefore : Bool
  notAfter : Bool
  setPubkey : Bool
  subjectName : Bool
  entryC : Bool
  entryST : Bool
  entryL : Bool
  entryO : Bool
  entryOU1 : Bool
  entryOU2 : Bool
  entryCN : Bool
  setIssuer : Bool
  basicConstraints : ExtAnswers
  keyUsage : ExtAnswers
  keyIdentifier : ExtAnswers
  sign : Bool

def mkcertSteps (a : MkcertAnswers) : List (Step CertObj) :=
  [⟨a.x509New, [.take .cert], []⟩, ⟨a.setVersion, [], []⟩, ⟨a.setSerial, [], []⟩,
      ⟨a.notBefore, [], []⟩, ⟨a.notAfter, [], []⟩, ⟨a.setPubkey, [], []⟩,
      ⟨a.subjectName, [], []⟩, ⟨a.entryC, [], []⟩, ⟨a.entryST, [], []⟩, ⟨a.entryL, [], []⟩,
      ⟨a.entryO, [], []⟩, ⟨a.entryOU1, [], []⟩, ⟨a.entryOU2, [], []⟩, ⟨a.entryCN, [], []⟩,
      ⟨a.setIssuer, [], []⟩] ++
    sslAddExtCert .basicConstraints a.basicConstraints ++ sslAddExtCert .keyUsage a.keyUsage ++
    sslAddExtCert .keyIdentifier a.keyIdentifier ++ [⟨a.sign, [], []⟩]

/-- `ssl_mkcert`: whether it returns the certificate, which then passes to its caller, and the
objects. Its `error:` label, and the failed `X509_sign`, return `NULL` and free nothing. -/
def sslMkcert (a : MkcertAnswers) : Bool × List (Own CertObj) :=
  let run := runSteps (mkcertSteps a)
  (run.1, run.2 ++ bif run.1 then [.give .cert] else [])

end Cml
