import Cml.KeyWrap

set_option autoImplicit false

namespace Cml

/-! # PKCS#12 soft tokens

`ssl_create_pkcs12_token` writes a fresh key pair and a self-signed certificate into a password
protected PKCS#12 file, `ssl_read_pkcs12_token` opens it, and `ssl_newpass_pkcs12_token` rewrites
it in place under a new password. The token lives in a file, so the three functions form a small
store: what one writes, the next reads. OpenSSL's PKCS#12 code and the C library's file calls are
parameters; runs of password changes act on the token as a store keyed by its current password
for every PKCS#12 implementation that keeps the promises of `Pkcs12Ops.Sound`. -/

abbrev Disk := String → Option (List UInt8)

structure FileOps where
  /-- `fopen(path, "rb")` succeeds on an existing file. -/
  openRead : String → Bool
  /-- `fopen(path, "wb")` succeeds, creating the file or truncating it to nothing. -/
  openWrite : String → Bool
  /-- The number of bytes a write into the file gets out before it fails; `none` when it
  succeeds. -/
  writeFails : String → Option Nat

/-- `fopen(path, "rb")` and a read of the whole file: `none` when `fopen` fails. -/
def FileOps.read (io : FileOps) (disk : Disk) (path : String) : Option (List UInt8) :=
  if io.openRead path then disk path else none

/-- `fopen(path, "wb")`, one write and `fclose`: the disk after and whether the write succeeded;
`none` when `fopen` fails. A failed write leaves what it got out. -/
def FileOps.write (io : FileOps) (disk : Disk) (path : String) (bytes : List UInt8) :
    Option (Disk × Bool) :=
  if !io.openWrite path then none
  else match io.writeFails path with
    | none => some (Function.update disk path (some bytes), true)
    | some written => some (Function.update disk path (some (bytes.take written)), false)

/-- What OpenSSL answers to the token functions, over its own key, certificate and PKCS#12
types. -/
structure Pkcs12Ops (Key Cert P12 : Type) where
  /-- `ssl_mkkeypair(rsa_padding)`: a fresh key pair, `NULL` on failure. -/
  mkkeypair : Option Key
  /-- `ssl_mkcert(pkey, common_name)`: a self-signed certificate for the key. -/
  mkcert : Key → String → Option Cert
  /-- `PKCS12_create(pass, TEST_FRIENDLY_NAME, pkey, cert, NULL, 0, 0, 0, 0, 0)`. -/
  create : String → Key → Option Cert → Option P12
  /-- `PKCS12_set_mac(p12, pass, -1, NULL, 0, PKCS12_DEFAULT_ITER, NULL)`, in place. -/
  setMac : P12 → String → Option P12
  /-- The bytes `i2d_PKCS12_fp` writes. -/
  toDer : P12 → List UInt8
  /-- `d2i_PKCS12_fp` on a file's bytes. -/
  ofDer : List UInt8 → Option P12
  /-- `PKCS12_verify_mac(p12, pass, -1) == 1`. -/
  verifyMac : P12 → String → Bool
  /-- `PKCS12_parse(p12, pass, ...)`: the key and the certificate, which may be `NULL`. -/
  parse : P12 → String → Option (Key × Option Cert)
  /-- The bytes `PEM_write_X509` writes. -/
  pemX509 : Cert → List UInt8

section Token

variable {Key Cert P12 : Type} (ops : Pkcs12Ops Key Cert P12) (io : FileOps)

/-- `ssl_read_pkcs12_token`: `0` with the key and the certificate the token holds, `-1` for a
password its MAC does not verify, `-2` when the file cannot be opened, loaded or parsed. -/
def sslReadPkcs12Token (disk : Disk) (tokenFile passphrase : String) :
    Int × Option (Key × Option Cert) :=
  match io.read disk tokenFile with
  | none => (-2, none)
  | some bytes =>
      match ops.ofDer bytes with
      | none => (-2, none)
      | some p12 =>
          if !ops.verifyMac p12 passphrase then (-1, none)
          else match ops.parse p12 passphrase with
            | none => (-2, none)
            | some parsed => (0, some parsed)

/-- The structure `ssl_create_pkcs12_token` builds before it touches a file: key pair, certificate,
structure and MAC, each failure ending the function. -/
def createdToken (passphrase userName : String) : Option (Cert × P12) := do
  let pkey ← ops.mkkeypair
  let cert ← ops.mkcert pkey userName
  let p12 ← ops.create passphrase pkey (some cert)
  let p12 ← ops.setMac p12 passphrase
  pure (cert, p12)

/-- `ssl_create_pkcs12_token`: the result and the disk after. The token is written to
`token_file`, then the certificate to `cert_file` when one is given. -/
def sslCreatePkcs12Token (disk : Disk) (tokenFile : String) (certFile : Option String)
    (passphrase userName : String) : Int × Disk :=
  match createdToken ops passphrase userName with
  | none => (-1, disk)
  | some (cert, p12) =>
      match io.write disk tokenFile (ops.toDer p12) with
      | none => (-1, disk)
      | some (written, false) => (-1, written)
      | some (written, true) =>
          match certFile with
          | none => (0, written)
          | some certFile =>
              match io.write written certFile (ops.pemX509 cert) with
              | none => (-1, written)
              | some (after, ok) => (if ok then 0 else -1, after)

/-- The structure `ssl_newpass_pkcs12_token` writes back: the token read, loaded and parsed under
the old password, and recreated under the new one. -/
def repassedToken (disk : Disk) (tokenFile oldpass newpass : String) : Option P12 := do
  let bytes ← io.read disk tokenFile
  let p12 ← ops.ofDer bytes
  let (pkey, cert) ← ops.parse p12 oldpass
  ops.create newpass pkey cert

/-- `ssl_newpass_pkcs12_token`: `NULL` passwords are refused, and the token is rewritten in place
under the new password. -/
def sslNewpassPkcs12Token (disk : Disk) (tokenFile : String) (oldpass newpass : Option String) :
    Int × Disk :=
  match oldpass, newpass with
  | some oldpass, some newpass =>
      match repassedToken ops io disk tokenFile oldpass newpass with
      | none => (-1, disk)
      | some p12 =>
          match io.write disk tokenFile (ops.toDer p12) with
          | none => (-1, disk)
          | some (written, ok) => (if ok then 0 else -1, written)
  | _, _ => (-1, disk)

/-- Password changes one after another on the token file, each from an old password to a new
one: the result of each call, and the disk after the last. -/
def newpassRun (disk : Disk) (tokenFile : String) : List (String × String) → List Int × Disk
  | [] => ([], disk)
  | (oldpass, newpass) :: rest =>
      let here := sslNewpassPkcs12Token ops io disk tokenFile (some oldpass) (some newpass)
      let later := newpassRun here.2 tokenFile rest
      (here.1 :: later.1, later.2)

/-- What a run of password changes is for: a change from the current password succeeds and moves it,
any other fails; the results and the final password. -/
def passwordChanges (pass : String) : List (String × String) → List Int × String
  | [] => ([], pass)
  | (oldpass, newpass) :: rest =>
      let later := passwordChanges (if oldpass = pass then newpass else pass) rest
      ((if oldpass = pass then 0 else -1) :: later.1, later.2)

/-! ## What PKCS#12 promises -/

def Opens (p12 : P12) (pass : String) (key : Key) (cert : Option Cert) : Prop :=
  ops.parse p12 pass = some (key, cert) ∧ ∀ other, ops.verifyMac p12 other = true ↔ other = pass

/-- What the round trips need of OpenSSL: DER loads back, `PKCS12_parse` fails where the MAC does
not verify, and a structure opens under the password it was created or re-MACed with. -/
structure Pkcs12Ops.Sound : Prop where
  ofDer_toDer : ∀ p12, ops.ofDer (ops.toDer p12) = some p12
  parse_of_verifyMac : ∀ p12 pass, ops.verifyMac p12 pass = false → ops.parse p12 pass = none
  create : ∀ pass key cert p12, ops.create pass key cert = some p12 → Opens ops p12 pass key cert
  setMac : ∀ p12 pass key cert mac, Opens ops p12 pass key cert → ops.setMac p12 pass = some mac →
    Opens ops mac pass key cert

/-- The token file holds a PKCS#12 structure that opens under `pass`, and only under it, to
`key` and `cert`. -/
def HoldsToken (disk : Disk) (tokenFile pass : String) (key : Key) (cert : Option Cert) : Prop :=
  ∃ p12, disk tokenFile = some (ops.toDer p12) ∧ Opens ops p12 pass key cert

def FileOps.Succeeds (tokenFile : String) : Prop :=
  io.openRead tokenFile = true ∧ io.openWrite tokenFile = true ∧ io.writeFails tokenFile = none

/-! ## Reading -/

variable {ops}

theorem sslReadPkcs12Token_of_holdsToken (sound : Pkcs12Ops.Sound ops) {disk : Disk}
    {tokenFile pass : String} {key : Key} {cert : Option Cert}
    (holds : HoldsToken ops disk tokenFile pass key cert) (readable : io.openRead tokenFile = true)
    (passphrase : String) :
    sslReadPkcs12Token ops io disk tokenFile passphrase =
      if passphrase = pass then (0, some (key, cert)) else (-1, none) := by
  obtain ⟨p12, stored, parsed, macs⟩ := holds
  have verified : ops.verifyMac p12 passphrase = decide (passphrase = pass) := by
    rw [Bool.eq_iff_iff, macs, decide_eq_true_iff]
  by_cases same : passphrase = pass
  · subst same
    simp [sslReadPkcs12Token, FileOps.read, readable, stored, sound.ofDer_toDer, verified,
      parsed]
  · simp [sslReadPkcs12Token, FileOps.read, readable, stored, sound.ofDer_toDer, verified, same]

/-! ## Writing -/

theorem write_succeeds {path : String} (opened : io.openWrite path = true)
    (whole : io.writeFails path = none) (disk : Disk) (bytes : List UInt8) :
    io.write disk path bytes = some (Function.update disk path (some bytes), true) := by
  simp [FileOps.write, opened, whole]

theorem sslNewpassPkcs12Token_of_holdsToken (sound : Pkcs12Ops.Sound ops) {disk : Disk}
    {tokenFile oldpass : String} {key : Key} {cert : Option Cert}
    (holds : HoldsToken ops disk tokenFile oldpass key cert) (ok : io.Succeeds tokenFile)
    (newpass : String) (recreated : ∃ p12, ops.create newpass key cert = some p12) :
    (sslNewpassPkcs12Token ops io disk tokenFile (some oldpass) (some newpass)).1 = 0 ∧
      HoldsToken ops (sslNewpassPkcs12Token ops io disk tokenFile (some oldpass) (some newpass)).2
        tokenFile newpass key cert := by
  obtain ⟨p12, stored, parsed, -⟩ := holds
  obtain ⟨fresh, created⟩ := recreated
  have repassed : repassedToken ops io disk tokenFile oldpass newpass = some fresh := by
    simp [repassedToken, FileOps.read, ok.1, stored, sound.ofDer_toDer, parsed, created]
  simp only [sslNewpassPkcs12Token, repassed, write_succeeds io ok.2.1 ok.2.2, if_true]
  exact ⟨trivial, fresh, by simp, sound.create _ _ _ _ created⟩

theorem sslNewpassPkcs12Token_of_wrong (sound : Pkcs12Ops.Sound ops) {disk : Disk}
    {tokenFile pass : String} {key : Key} {cert : Option Cert}
    (holds : HoldsToken ops disk tokenFile pass key cert) (oldpass : String) (wrong : oldpass ≠ pass)
    (newpass : Option String) :
    sslNewpassPkcs12Token ops io disk tokenFile (some oldpass) newpass = (-1, disk) := by
  obtain ⟨p12, stored, -, macs⟩ := holds
  have refused : ops.parse p12 oldpass = none :=
    sound.parse_of_verifyMac _ _ (Bool.eq_false_iff.mpr fun verified => wrong ((macs _).mp verified))
  cases newpass with
  | none => rfl
  | some newpass =>
      have repassed : repassedToken ops io disk tokenFile oldpass newpass = none := by
        cases readable : io.openRead tokenFile <;>
          simp [repassedToken, FileOps.read, readable, stored, sound.ofDer_toDer, refused]
      simp only [sslNewpassPkcs12Token, repassed]

theorem newpassRun_eq_passwordChanges (sound : Pkcs12Ops.Sound ops) {tokenFile : String}
    {key : Key} {cert : Option Cert} (ok : io.Succeeds tokenFile)
    (recreated : ∀ newpass, ∃ p12, ops.create newpass key cert = some p12)
    (changes : List (String × String)) :
    ∀ disk pass, HoldsToken ops disk tokenFile pass key cert →
      (newpassRun ops io disk tokenFile changes).1 = (passwordChanges pass changes).1 ∧
        HoldsToken ops (newpassRun ops io disk tokenFile changes).2 tokenFile
          (passwordChanges pass changes).2 key cert := by
  induction changes with
  | nil => exact fun disk pass holds => ⟨rfl, holds⟩
  | cons change rest ih =>
      intro disk pass holds
      obtain ⟨oldpass, newpass⟩ := change
      by_cases right : oldpass = pass
      · subst right
        obtain ⟨zero, moved⟩ :=
          sslNewpassPkcs12Token_of_holdsToken io sound holds ok newpass (recreated newpass)
        obtain ⟨results, after⟩ := ih _ _ moved
        simp only [newpassRun, passwordChanges, if_true, zero, results]
        exact ⟨trivial, after⟩
      · have same := sslNewpassPkcs12Token_of_wrong io sound holds oldpass right (some newpass)
        obtain ⟨results, after⟩ := ih _ _ holds
        simp only [newpassRun, passwordChanges, right, if_false, same, results]
        exact ⟨trivial, after⟩

end Token

/-! ## The token store -/

section Store

variable {Key Cert P12 : Type} {ops : Pkcs12Ops Key Cert P12} (io : FileOps)

/-- Over any run of password changes, right or wrong, each answers `0` exactly when its old password
is the current one, and the token then opens under the last password set and no other. -/
theorem password_changes_keep_token (sound : Pkcs12Ops.Sound ops) {disk : Disk}
    {tokenFile pass : String} {key : Key} {cert : Option Cert}
    (holds : HoldsToken ops disk tokenFile pass key cert) (ok : io.Succeeds tokenFile)
    (recreated : ∀ newpass, ∃ p12, ops.create newpass key cert = some p12)
    (changes : List (String × String)) (password : String) :
    (newpassRun ops io disk tokenFile changes).1 = (passwordChanges pass changes).1 ∧
      sslReadPkcs12Token ops io (newpassRun ops io disk tokenFile changes).2 tokenFile password =
        if password = (passwordChanges pass changes).2 then (0, some (key, cert))
        else (-1, none) := by
  obtain ⟨results, after⟩ := newpassRun_eq_passwordChanges io sound ok recreated changes _ _ holds
  exact ⟨results, sslReadPkcs12Token_of_holdsToken io sound after ok.1 password⟩

end Store

/-! ## A PKCS#12 implementation for the examples -/

def charBytes (c : Char) : List UInt8 := intBytes c.toNat

def bytesChars : List UInt8 → Option (List Char)
  | b0 :: b1 :: b2 :: b3 :: rest =>
      (bytesChars rest).map (Char.ofNat (readInt [b0, b1, b2, b3]).toNat :: ·)
  | [] => some []
  | _ => none

theorem bytesChars_flatMap (chars : List Char) :
    bytesChars (chars.flatMap charBytes) = some chars := by
  induction chars with
  | nil => rfl
  | cons c rest ih =>
      have valid : c.toNat < 2 ^ 31 := by
        have := c.valid
        simp only [UInt32.isValidChar, Nat.isValidChar] at this
        simp only [Char.toNat]
        omega
      obtain ⟨b0, b1, b2, b3, four⟩ : ∃ b0 b1 b2 b3, charBytes c = [b0, b1, b2, b3] :=
        ⟨_, _, _, _, rfl⟩
      have code : readInt [b0, b1, b2, b3] = c.toNat := by
        rw [← four, ← List.append_nil (charBytes c)]
        exact readInt_intBytes _ (by omega) (by omega) []
      change bytesChars (charBytes c ++ rest.flatMap charBytes) = _
      rw [four]
      change bytesChars (b0 :: b1 :: b2 :: b3 :: rest.flatMap charBytes) = _
      simp only [bytesChars, ih, code, Option.map_some', Int.toNat_natCast, Char.ofNat_toNat]

def samplePkcs12 : Pkcs12Ops Unit Unit (String × Bool) where
  mkkeypair := some ()
  mkcert _ _ := some ()
  create pass _ cert := some (pass, cert.isSome)
  setMac p12 _ := some p12
  toDer p12 := (if p12.2 then 1 else 0) :: p12.1.data.flatMap charBytes
  ofDer
    | flag :: rest => (bytesChars rest).map fun chars => (⟨chars⟩, flag == 1)
    | [] => none
  verifyMac p12 pass := p12.1 == pass
  parse p12 pass := if p12.1 = pass then some ((), if p12.2 then some () else none) else none
  pemX509 _ := [0]

theorem samplePkcs12_sound : samplePkcs12.Sound where
  ofDer_toDer := by
    rintro ⟨pass, flag⟩
    cases flag <;> simp [samplePkcs12, bytesChars_flatMap]
  parse_of_verifyMac := by
    rintro ⟨pass, flag⟩ other refused
    have differs : pass ≠ other := by simpa [samplePkcs12] using refused
    simp [samplePkcs12, differs]
  create := by
    rintro pass key cert p12 created
    simp only [samplePkcs12, Option.some.injEq] at created
    subst created
    refine ⟨by cases cert <;> simp [samplePkcs12], fun other => ?_⟩
    simp only [samplePkcs12, beq_iff_eq]
    exact eq_comm
  setMac := by
    rintro p12 pass key cert mac opens set
    simp only [samplePkcs12, Option.some.injEq] at set
    exact set ▸ opens

def sampleFiles : FileOps := ⟨fun _ => true, fun _ => true, fun _ => none⟩

def sampleTokenDisk : Disk :=
  Function.update (fun _ => none) "token.p12" (some (samplePkcs12.toDer ("pin", true)))

theorem password_changes_keep_token_in_sample :
    HoldsToken samplePkcs12 sampleTokenDisk "token.p12" "pin" () (some ()) ∧
      (newpassRun samplePkcs12 sampleFiles sampleTokenDisk "token.p12"
          [("pin", "a"), ("pin", "b"), ("a", "c")]).1 =
        (passwordChanges "pin" [("pin", "a"), ("pin", "b"), ("a", "c")]).1 ∧
      sslReadPkcs12Token samplePkcs12 sampleFiles
          (newpassRun samplePkcs12 sampleFiles sampleTokenDisk "token.p12"
            [("pin", "a"), ("pin", "b"), ("a", "c")]).2 "token.p12" "c" =
        if "c" = (passwordChanges "pin" [("pin", "a"), ("pin", "b"), ("a", "c")]).2 then
          (0, some ((), some ()))
        else (-1, none) :=
  have holds : HoldsToken samplePkcs12 sampleTokenDisk "token.p12" "pin" () (some ()) :=
    ⟨("pin", true), rfl, samplePkcs12_sound.create "pin" () (some ()) _ rfl⟩
  ⟨holds, password_changes_keep_token sampleFiles samplePkcs12_sound holds ⟨rfl, rfl, rfl⟩
    (fun _ => ⟨_, rfl⟩) _ "c"⟩

end Cml
