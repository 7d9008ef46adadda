import Cml.Ownership

set_option autoImplicit false

namespace Cml

/-! # Who frees what in the file functions

The ssl functions that read and write files: `ssl_verify_signature`, which reads the
certificate and the signature into buffers and hashes the signed file; the three PKCS#12 token
functions, which read, create and rewrite a token file; and `ssl_create_csr`, which writes a
certificate request and its key, with the `ssl_mkkeypair` it calls. Each is followed through the
objects it answers for, on every path and for every answer of the calls it makes. -/

/-! ## Signature files -/

inductive SigBuf where
  | certBuf
  | sigBuf
  | hash
deriving DecidableEq, Repr

/-- `ssl_verify_signature` with the buffers it answers for, each taken as it is allocated; no
path frees one. -/
def sslVerifySignatureOwned (o : Openssl) (certFile sigFile signedFile : Option (List UInt8))
    (digestAlgo : String) : Except Crash Int × List (Own SigBuf) :=
  match certFile, sigFile, sslHashFile o signedFile digestAlgo with
  | none, _, _ => (.ok (-1), [.take .certBuf])
  | some _, none, _ => (.ok (-1), [.take .certBuf, .take .sigBuf])
  | some _, some _, none => (.ok (-1), [.take .certBuf, .take .sigBuf])
  | some certBuf, some sigBuf, some hash =>
      (sslVerifySignatureFromDigest o certBuf sigBuf (some hash) digestAlgo,
        [.take .certBuf, .take .sigBuf, .take .hash])

/-! ## PKCS#12 tokens -/

inductive TokenObj where
  | passphr
  | file
  | certFile
  | p12
  | newP12
  | pkey
  | cert
deriving DecidableEq, Repr

structure ReadTokenAnswers where
  fopen : Bool
  d2i : Bool
  verifyMac : Bool
  parse : Bool
deriving DecidableEq, Repr

def readTokenSteps (a : ReadTokenAnswers) : List (Step TokenObj) :=
  [⟨a.fopen, [.take .file], []⟩,
    ⟨a.d2i, [.free .file, .take .p12], [.free .file]⟩, ⟨a.verifyMac, [], []⟩,
    ⟨a.parse, [.take .pkey, .give .pkey, .take .cert, .give .cert], []⟩]

/-- `ssl_read_pkcs12_token`: whether it returns `0`, and the objects. The `end:` label frees the
structure when it was read, and the passphrase copy. -/
def sslReadPkcs12TokenOwned (a : ReadTokenAnswers) : Bool × List (Own TokenObj) :=
  let run := runSteps (readTokenSteps a)
  (run.1, .take .passphr :: run.2 ++ (bif run.2.contains (.take .p12) then [.free .p12] else []) ++
    [.free .passphr])

structure CreateTokenAnswers where
  mkkeypair : Bool
  mkcert : Bool
  create : Bool
  setMac : Bool
  fopen : Bool
  i2d : Bool
  certFile : Bool
  certFopen : Bool
  writeCert : Bool
deriving DecidableEq, Repr

def createTokenSteps (a : CreateTokenAnswers) : List (Step TokenObj) :=
  [⟨a.mkkeypair, [.take .pkey], []⟩, ⟨a.mkcert, [.take .cert], []⟩, ⟨a.create, [.take .p12], []⟩,
      ⟨a.setMac, [], []⟩, ⟨a.fopen, [.take .file], []⟩, ⟨a.i2d, [.free .file], [.free .file]⟩] ++
    bif a.certFile then
      [⟨a.certFopen, [.take .certFile], []⟩, ⟨a.writeCert, [.free .certFile], [.free .certFile]⟩]
    else []

def createTokenCleanup (done : List (Own TokenObj)) : List (Own TokenObj) :=
  ([TokenObj.pkey, .cert, .p12].filter fun obj => done.contains (.take obj)).map .free ++
    [.free .passphr]

/-- `ssl_create_pkcs12_token`: whether it returns `0`, and the objects. -/
def sslCreatePkcs12TokenOwned (a : CreateTokenAnswers) : Bool × List (Own TokenObj) :=
  let run := runSteps (createTokenSteps a)
  (run.1, .take .passphr :: run.2 ++ createTokenCleanup run.2)

structure NewpassAnswers where
  passwords : Bool
  fopenRead : Bool
  d2i : Bool
  parse : Bool
  create : Bool
  fopenWrite : Bool
  i2d : Bool
deriving DecidableEq, Repr

def newpassSteps (a : NewpassAnswers) : List (Step TokenObj) :=
  [⟨a.passwords, [], []⟩, ⟨a.fopenRead, [.take .file], []⟩,
    ⟨a.d2i, [.free .file, .take .p12], [.free .file]⟩,
    ⟨a.parse, [.take .pkey, .take .cert, .free .p12], []⟩, ⟨a.create, [.take .newP12], []⟩,
    ⟨a.fopenWrite, [.take .file], []⟩, ⟨a.i2d, [.free .file], [.free .file]⟩]

def newpassCleanup (done : List (Own TokenObj)) : List (Own TokenObj) :=
  bif done.contains (.free .p12) then
    bif done.contains (.take .newP12) then [.free .newP12] else []
  else bif done.contains (.take .p12) then [.free .p12] else []

/-- `ssl_newpass_pkcs12_token`: whether it returns `0`, and the objects. -/
def sslNewpassPkcs12TokenOwned (a : NewpassAnswers) : Bool × List (Own TokenObj) :=
  let run := runSteps (newpassSteps a)
  (run.1, run.2 ++ newpassCleanup run.2)

/-! ## Certificate signing requests -/

inductive CsrFileObj where
  | keygenCtx
  | pkey
  | req
  | reqFile
  | keyFile
deriving DecidableEq, Repr

structure MkkeypairAnswers where
  keyType : Bool
  ctxNew : Bool
  keygenInit : Bool
  keygenBits : Bool
  keygen : Bool
deriving DecidableEq, Repr

def mkkeypairSteps (a : MkkeypairAnswers) : List (Step CsrFileObj) :=
  [⟨a.keyType, [], []⟩, ⟨a.ctxNew, [.take .keygenCtx], []⟩, ⟨a.keygenInit, [], []⟩,
    ⟨a.keygenBits, [], []⟩, ⟨a.keygen, [.take .pkey], []⟩]

/-- `ssl_mkkeypair`: whether it returns a key pair, which then passes to its caller, and the
objects. The `out:` label frees the context; the two checks before it return `NULL` at once. -/
def sslMkkeypairOwned (a : MkkeypairAnswers) : Bool × List (Own CsrFileObj) :=
  let run := runSteps (mkkeypairSteps a)
  (run.1, run.2 ++ (bif run.2.contains (.take .keygenCtx) then [.free .keygenCtx] else []) ++
    bif run.1 then [.give .pkey] else [])

structure CreateCsrAnswers where
  tpmkey : Bool
  mkkeypair : MkkeypairAnswers
  loadKey : Bool
  mkreq : Bool
  reqFopen : Bool
  writeReq : Bool
  keyFopen : Bool
  passphrase : Bool
  cipher : Bool
  writeKey : Bool
deriving DecidableEq, Repr

def createCsrSteps (a : CreateCsrAnswers) : List (Step CsrFileObj) :=
  (bif !a.tpmkey then [⟨(sslMkkeypairOwned a.mkkeypair).1, [.take .pkey], []⟩]
    else [⟨a.loadKey, [.take .pkey], []⟩]) ++
  [⟨a.mkreq, [.take .req], []⟩, ⟨a.reqFopen, [.take .reqFile], []⟩,
    ⟨a.writeReq, [.free .reqFile], [.free .reqFile]⟩] ++
  bif !a.tpmkey then
    [⟨a.keyFopen, [.take .keyFile], []⟩] ++
      (bif a.passphrase then [⟨a.cipher, [], [.free .keyFile]⟩] else []) ++
      [⟨a.writeKey, [.free .keyFile], [.free .keyFile]⟩]
  else []

/-- `ssl_create_csr`: whether it returns `0`, and the objects. The success path and the `error:`
label both free the key pair and the request when they were made. -/
def sslCreateCsrOwned (a : CreateCsrAnswers) : Bool × List (Own CsrFileObj) :=
  let run := runSteps (createCsrSteps a)
  (run.1, run.2 ++ ([CsrFileObj.pkey, .req].filter fun obj => run.2.contains (.take obj)).map .free)

end Cml
