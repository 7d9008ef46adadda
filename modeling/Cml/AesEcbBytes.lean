import Cml.AesEcb

set_option autoImplicit false

namespace Cml

/-! # AES-ECB over bytes

The bytes `ssl_aes_ecb_encrypt` and `ssl_aes_ecb_decrypt` write, as OpenSSL's EVP layer computes
AES-ECB with PKCS#7 padding: `EVP_*Update` runs AES over the whole blocks it has, and
`EVP_*Final_ex` pads the rest on encryption, or checks and strips the padding of the block it
kept back on decryption. The AES block function is a parameter. How many bytes are written is
what the model over lengths says, with the padding byte `EVP_DecryptFinal_ex` reads taken from
the bytes; and decryption gives back what encryption took in. -/

/-- AES on one 16-byte block under a key: the block functions of `EVP_aes_128_ecb` and
`EVP_aes_256_ecb`. -/
structure AesBlock where
  encrypt : List UInt8 → List UInt8 → List UInt8
  decrypt : List UInt8 → List UInt8 → List UInt8

/-- What AES is: under every key, decryption undoes encryption on 16-byte blocks, and both keep
a block 16 bytes long. -/
structure AesBlock.Inverse (aes : AesBlock) : Prop where
  length_encrypt : ∀ key block, block.length = 16 → (aes.encrypt key block).length = 16
  length_decrypt : ∀ key block, block.length = 16 → (aes.decrypt key block).length = 16
  decrypt_encrypt : ∀ key block, block.length = 16 → aes.decrypt key (aes.encrypt key block) = block

def ecbBlocks (f : List UInt8 → List UInt8) : Nat → List UInt8 → List UInt8
  | 0, _ => []
  | n + 1, data => f (data.take 16) ++ ecbBlocks f n (data.drop 16)

theorem ecbBlocks_length (f : List UInt8 → List UInt8)
    (keeps : ∀ block, block.length = 16 → (f block).length = 16) :
    ∀ (n : Nat) (data : List UInt8), 16 * n ≤ data.length → (ecbBlocks f n data).length = 16 * n
  | 0, _, _ => rfl
  | n + 1, data, room => by
      have first : (data.take 16).length = 16 := by simp only [List.length_take]; omega
      rw [ecbBlocks, List.length_append, keeps _ first,
        ecbBlocks_length f keeps n _ (by simp only [List.length_drop]; omega)]
      omega

theorem ecbBlocks_append (f : List UInt8 → List UInt8) :
    ∀ (n : Nat) (first rest : List UInt8), 16 * n ≤ first.length →
      ecbBlocks f n (first ++ rest) = ecbBlocks f n first
  | 0, _, _, _ => rfl
  | n + 1, first, rest, room => by
      rw [ecbBlocks, ecbBlocks, List.take_append_of_le_length (by omega),
        List.drop_append_of_le_length (by omega),
        ecbBlocks_append f n _ _ (by simp only [List.length_drop]; omega)]

theorem ecbBlocks_decrypt_encrypt (aes : AesBlock) (inverse : aes.Inverse) (key : List UInt8) :
    ∀ (n : Nat) (data : List UInt8), 16 * n ≤ data.length →
      ecbBlocks (aes.decrypt key) n (ecbBlocks (aes.encrypt key) n data) = data.take (16 * n)
  | 0, _, _ => rfl
  | n + 1, data, room => by
      have first : (data.take 16).length = 16 := by simp only [List.length_take]; omega
      have encrypted := inverse.length_encrypt key _ first
      rw [ecbBlocks, ecbBlocks, List.take_left' encrypted, List.drop_left' encrypted,
        inverse.decrypt_encrypt key _ first,
        ecbBlocks_decrypt_encrypt aes inverse key n _ (by simp only [List.length_drop]; omega),
        show 16 * (n + 1) = 16 + 16 * n by omega, List.take_add]

/-- PKCS#7 padding of the rest of the input, fewer than 16 bytes, to a whole block: as many
bytes as are missing, each holding that number. -/
def pkcs7Pad (rest : List UInt8) : List UInt8 :=
  rest ++ List.replicate (16 - rest.length) (16 - rest.length).toUInt8

/-- The check and strip `EVP_DecryptFinal_ex` makes on the last block, decrypted: its last byte
`n` must be in `1..16` and the last `n` bytes all `n`; they are dropped. -/
def pkcs7Unpad (block : List UInt8) : Option (List UInt8) :=
  let last := block[15]?.getD 0
  if 1 ≤ last.toNat ∧ last.toNat ≤ 16 ∧ (block.drop (16 - last.toNat)).all (· == last) then
    some (block.take (16 - last.toNat))
  else none

theorem pkcs7Pad_length (rest : List UInt8) (short : rest.length < 16) :
    (pkcs7Pad rest).length = 16 := by
  simp only [pkcs7Pad, List.length_append, List.length_replicate]
  omega

theorem pkcs7Unpad_pad (rest : List UInt8) (short : rest.length < 16) :
    pkcs7Unpad (pkcs7Pad rest) = some rest := by
  have last : (pkcs7Pad rest)[15]?.getD 0 = (16 - rest.length).toUInt8 := by
    rw [pkcs7Pad, List.getElem?_append_right (by omega), List.getElem?_replicate,
      if_pos (by omega), Option.getD_some]
  have count : ((16 - rest.length).toUInt8).toNat = 16 - rest.length := by
    show (UInt8.ofNat _).toNat = _
    rw [uint8_toNat_ofNat]
    omega
  have padded : (pkcs7Pad rest).drop rest.length =
      List.replicate (16 - rest.length) (16 - rest.length).toUInt8 :=
    List.drop_left' rfl
  have kept : (pkcs7Pad rest).take rest.length = rest := List.take_left' rfl
  simp only [pkcs7Unpad, last, count, show 16 - (16 - rest.length) = rest.length by omega, padded,
    List.all_replicate, beq_self_eq_true, ite_self, and_true, kept]
  exact if_pos ⟨by omega, by omega⟩

/-! ## The EVP calls -/

/-- `EVP_EncryptUpdate` on a fresh context: the whole blocks of the input, encrypted. -/
def evpEncryptUpdateBytes (aes : AesBlock) (key input : List UInt8) : List UInt8 :=
  ecbBlocks (aes.encrypt key) (input.length / 16) input

/-- `EVP_EncryptFinal_ex` over bytes: with padding, the rest filled up by PKCS#7 and encrypted;
without, nothing, and a rest is refused. -/
def evpEncryptFinalBytes (aes : AesBlock) (key : List UInt8) (pad : Int) (input : List UInt8) :
    Option (List UInt8) :=
  let rest := input.drop (16 * (input.length / 16))
  if pad ≠ 0 then some (aes.encrypt key (pkcs7Pad rest)) else if rest = [] then some [] else none

/-- `EVP_DecryptUpdate` on a fresh context: the whole blocks of the input, decrypted, except that
with padding on the last one is kept back for the final call. -/
def evpDecryptUpdateBytes (aes : AesBlock) (key : List UInt8) (pad : Int) (input : List UInt8) :
    List UInt8 :=
  if pad ≠ 0 ∧ 0 < input.length ∧ input.length % 16 = 0 then
    ecbBlocks (aes.decrypt key) (input.length / 16 - 1) input
  else ecbBlocks (aes.decrypt key) (input.length / 16) input

/-- `EVP_DecryptFinal_ex` over bytes: with padding, the kept-back block decrypted, its padding
checked and dropped; without, nothing, and a partial block is refused. -/
def evpDecryptFinalBytes (aes : AesBlock) (key : List UInt8) (pad : Int) (input : List UInt8) :
    Option (List UInt8) :=
  if pad ≠ 0 then
    if 0 < input.length ∧ input.length % 16 = 0 then
      pkcs7Unpad (aes.decrypt key (input.drop (input.length - 16)))
    else none
  else if input.length % 16 = 0 then some [] else none

/-- What the AES-ECB functions leave, with the bytes written into `out`. -/
structure EcbBytes where
  ret : Int
  out : List UInt8
  outlen : Int
deriving DecidableEq, Repr

def EcbBytes.counts (result : EcbBytes) : EcbResult :=
  ⟨result.ret, result.out.length, result.outlen⟩

/-- The tail both functions share, over bytes: `EVP_*Update` writes at `out`, `EVP_*Final_ex`
after it. -/
def ecbUpdateFinalBytes (evp : EvpOutcome) (update : List UInt8) (final : Option (List UInt8)) :
    EcbBytes :=
  match evp.update with
  | true =>
      match evp.final, final with
      | true, some finished => ⟨0, update ++ finished, update.length + finished.length⟩
      | _, _ => ⟨-1, update, update.length⟩
  | false => ⟨-1, [], 0⟩

/-- `ssl_aes_ecb_encrypt` over the input bytes and the key, for a caller's buffer of `outlen`
bytes; `none` when `ADD_WITH_OVERFLOW_CHECK` stops it. -/
def sslAesEcbEncryptBytes (aes : AesBlock) (evp : EvpOutcome) (key input : List UInt8)
    (outlen keylen pad : Int) : Option EcbBytes :=
  if keylen ≠ 16 ∧ keylen ≠ 32 then some ⟨-1, [], outlen⟩
  else if !ecbSetup evp then some ⟨-1, [], outlen⟩
  else
    (encryptMaxlen input.length).map fun maxlen =>
      if outlen < maxlen then ⟨-1, [], outlen⟩
      else ecbUpdateFinalBytes evp (evpEncryptUpdateBytes aes key input)
        (evpEncryptFinalBytes aes key pad input)

/-- `ssl_aes_ecb_decrypt` over the input bytes and the key, for a caller's buffer of `outlen`
bytes. -/
def sslAesEcbDecryptBytes (aes : AesBlock) (evp : EvpOutcome) (key input : List UInt8)
    (outlen keylen pad : Int) : EcbBytes :=
  if keylen ≠ 16 ∧ keylen ≠ 32 then ⟨-1, [], outlen⟩
  else if outlen < input.length then ⟨-1, [], outlen⟩
  else if !ecbSetup evp then ⟨-1, [], outlen⟩
  else ecbUpdateFinalBytes evp (evpDecryptUpdateBytes aes key pad input)
    (evpDecryptFinalBytes aes key pad input)

/-! ## The counts -/

section Counts

variable (aes : AesBlock) (inverse : aes.Inverse) (key : List UInt8)

theorem ecbUpdateFinalBytes_counts (evp : EvpOutcome) (update : List UInt8)
    (final : Option (List UInt8)) :
    (ecbUpdateFinalBytes evp update final).counts =
      ecbUpdateFinal evp (some (update.length : Int)) (final.map fun bytes => (bytes.length : Int)) := by
  unfold ecbUpdateFinalBytes ecbUpdateFinal
  cases evp.update <;> cases evp.final <;> cases final <;>
    simp only [EcbBytes.counts, List.length_append, Option.map_some', Option.map_none',
      List.length_nil] <;> push_cast <;> rfl

include inverse in
theorem evpEncryptUpdateBytes_length (input : List UInt8) :
    (evpEncryptUpdateBytes aes key input).length = 16 * (input.length / 16) :=
  ecbBlocks_length _ (inverse.length_encrypt key) _ _ (Nat.mul_div_le _ _)

theorem evpEncryptRest_length (input : List UInt8) :
    (input.drop (16 * (input.length / 16))).length = input.length % 16 := by
  rw [List.length_drop]
  omega

include inverse in
theorem evpEncryptFinalBytes_length (pad : Int) (input : List UInt8) :
    (evpEncryptFinalBytes aes key pad input).map (fun bytes => (bytes.length : Int)) =
      evpEncryptFinal pad input.length := by
  have rest := evpEncryptRest_length input
  unfold evpEncryptFinalBytes evpEncryptFinal aesBlockSize
  by_cases padded : pad ≠ 0
  · rw [if_pos padded, if_pos padded, Option.map_some',
      inverse.length_encrypt key _ (pkcs7Pad_length _ (by omega))]
    rfl
  · rw [if_neg padded, if_neg padded]
    by_cases aligned : input.length % 16 = 0
    · rw [if_pos (List.eq_nil_of_length_eq_zero (by omega)), if_pos (by omega)]
      rfl
    · rw [if_neg (fun empty => by rw [empty] at rest; simp at rest; omega), if_neg (by omega)]
      rfl

include inverse in
theorem sslAesEcbEncryptBytes_counts (evp : EvpOutcome) (input : List UInt8)
    (outlen keylen pad : Int) :
    (sslAesEcbEncryptBytes aes evp key input outlen keylen pad).map EcbBytes.counts =
      sslAesEcbEncrypt evp input.length outlen keylen pad := by
  unfold sslAesEcbEncryptBytes sslAesEcbEncrypt
  split_ifs
  · rfl
  · rfl
  · rw [Option.map_map]
    refine Option.map_congr fun maxlen _ => ?_
    dsimp only [Function.comp_def]
    split_ifs
    · rfl
    · have update : evpEncryptUpdate input.length =
          some ((evpEncryptUpdateBytes aes key input).length : Int) := by
        rw [evpEncryptUpdateBytes_length aes inverse, evpEncryptUpdate, aesBlockSize,
          if_neg (by omega)]
        congr 1
        omega
      rw [ecbUpdateFinalBytes_counts, evpEncryptFinalBytes_length aes inverse, update]

theorem ecbUpdateFinal_congr (evp other : EvpOutcome) (update : Option Int)
    (final otherFinal : Option Int) (sameUpdate : evp.update = other.update)
    (sameFinal : (if evp.final then final else none) = if other.final then otherFinal else none) :
    ecbUpdateFinal evp update final = ecbUpdateFinal other update otherFinal := by
  unfold ecbUpdateFinal
  rw [← sameUpdate]
  cases evp.update <;> cases update <;> try rfl
  revert sameFinal
  cases evp.final <;> cases other.final <;> intro same <;> simp only [if_true, if_false,
    Bool.false_eq_true] at same <;> first | rfl | (subst same; rfl)

/-- The answers of the model over lengths read off the bytes: the padding byte `EVP_DecryptFinal_ex`
reads, and its failing when the padding bytes before it differ. -/
def ecbDecryptAnswers (evp : EvpOutcome) (pad : Int) (input : List UInt8) : EvpOutcome :=
  let block := aes.decrypt key (input.drop (input.length - 16))
  let last := block[15]?.getD 0
  { evp with
    padByte := last.toNat
    final := evp.final && (pad == 0 || (block.drop (16 - last.toNat)).all (· == last)) }

include inverse in
theorem evpDecryptUpdateBytes_length (pad : Int) (input : List UInt8) :
    evpDecryptUpdate pad input.length =
      some ((evpDecryptUpdateBytes aes key pad input).length : Int) := by
  have keeps := inverse.length_decrypt key
  unfold evpDecryptUpdate evpDecryptUpdateBytes aesBlockSize
  rw [if_neg (by omega)]
  by_cases held : pad ≠ 0 ∧ 0 < input.length ∧ input.length % 16 = 0
  · rw [if_pos (by omega), if_pos held, ecbBlocks_length _ keeps _ _ (by omega)]
    congr 1
    omega
  · rw [if_neg (by omega), if_neg held, ecbBlocks_length _ keeps _ _ (by omega)]
    congr 1
    omega

theorem pkcs7Unpad_counts (block : List UInt8) (sized : block.length = 16) (final : Bool) :
    (if final then (pkcs7Unpad block).map fun bytes => (bytes.length : Int) else none) =
      if (final && (block.drop (16 - (block[15]?.getD 0).toNat)).all (· == block[15]?.getD 0))
      then
        if 1 ≤ (block[15]?.getD 0).toNat ∧ (block[15]?.getD 0).toNat ≤ 16 then
          some (16 - ((block[15]?.getD 0).toNat : Int))
        else none
      else none := by
  unfold pkcs7Unpad
  dsimp only
  generalize block[15]?.getD 0 = last
  by_cases range : 1 ≤ last.toNat ∧ last.toNat ≤ 16
  · have counted : ((block.take (16 - last.toNat)).length : Int) = 16 - (last.toNat : Int) := by
      rw [List.length_take]
      omega
    cases final <;> cases (block.drop (16 - last.toNat)).all (· == last) <;>
      simp only [range, and_self, and_true, and_false, if_true, if_false, Bool.true_and,
        Bool.false_and, Bool.false_eq_true, Option.map_some', Option.map_none', counted]
  · have outside : ¬(1 ≤ last.toNat ∧ last.toNat ≤ 16 ∧
        (block.drop (16 - last.toNat)).all (· == last) = true) :=
      fun inside => range ⟨inside.1, inside.2.1⟩
    rw [if_neg outside, if_neg range]
    cases final <;> simp only [Option.map_none', ite_self]

include inverse in
theorem evpDecryptFinalBytes_shadow (evp : EvpOutcome) (pad : Int) (input : List UInt8) :
    (if evp.final then (evpDecryptFinalBytes aes key pad input).map fun bytes => (bytes.length : Int)
      else none) =
      if (ecbDecryptAnswers aes key evp pad input).final then
        evpDecryptFinal pad input.length (ecbDecryptAnswers aes key evp pad input).padByte
      else none := by
  have aligned : (input.length : Int) % 16 = 0 ↔ input.length % 16 = 0 := by omega
  unfold evpDecryptFinalBytes evpDecryptFinal ecbDecryptAnswers aesBlockSize
  dsimp only
  by_cases padded : pad = 0
  · by_cases divides : input.length % 16 = 0 <;> cases evp.final <;> simp [padded, aligned, divides]
  have notZero : (pad == 0) = false := by simp [padded]
  simp only [notZero, Bool.false_or, if_pos padded, ne_eq, padded, not_false_eq_true, if_true]
  by_cases whole : 0 < input.length ∧ input.length % 16 = 0
  · have block : (aes.decrypt key (input.drop (input.length - 16))).length = 16 :=
      inverse.length_decrypt key _ (by rw [List.length_drop]; omega)
    rw [if_pos whole, pkcs7Unpad_counts _ block]
    generalize aes.decrypt key (input.drop (input.length - 16)) = kept
    have within : (0 < (input.length : Int) ∧ (input.length : Int) % 16 = 0 ∧
        1 ≤ (kept[15]?.getD 0).toNat ∧ (kept[15]?.getD 0).toNat ≤ 16) ↔
        (1 ≤ (kept[15]?.getD 0).toNat ∧ (kept[15]?.getD 0).toNat ≤ 16) := by
      omega
    simp only [within]
  · rw [if_neg whole, if_neg (show ¬(0 < (input.length : Int) ∧ (input.length : Int) % 16 = 0 ∧
      _) by omega)]
    cases evp.final <;> simp

include inverse in
theorem sslAesEcbDecryptBytes_counts (evp : EvpOutcome) (input : List UInt8)
    (outlen keylen pad : Int) :
    (sslAesEcbDecryptBytes aes evp key input outlen keylen pad).counts =
      sslAesEcbDecrypt (ecbDecryptAnswers aes key evp pad input) input.length outlen keylen pad := by
  unfold sslAesEcbDecryptBytes sslAesEcbDecrypt
  have setUp : ecbSetup (ecbDecryptAnswers aes key evp pad input) = ecbSetup evp := rfl
  rw [setUp]
  split_ifs
  · rfl
  · rfl
  · rfl
  · rw [ecbUpdateFinalBytes_counts, ← evpDecryptUpdateBytes_length aes inverse]
    exact ecbUpdateFinal_congr _ _ _ _ _ rfl (evpDecryptFinalBytes_shadow aes inverse key evp pad input)

end Counts

/-- The model over bytes refines the model over lengths: for every AES, key, input and answer, both
functions leave the counts the length model gives, decryption under the answers the bytes fix. -/
theorem aes_ecb_bytes_refine_lengths (aes : AesBlock) (inverse : aes.Inverse) (key : List UInt8)
    (evp : EvpOutcome) (input : List UInt8) (outlen keylen pad : Int) :
    (sslAesEcbEncryptBytes aes evp key input outlen keylen pad).map EcbBytes.counts =
        sslAesEcbEncrypt evp input.length outlen keylen pad ∧
      (sslAesEcbDecryptBytes aes evp key input outlen keylen pad).counts =
        sslAesEcbDecrypt (ecbDecryptAnswers aes key evp pad input) input.length outlen keylen
          pad :=
  ⟨sslAesEcbEncryptBytes_counts aes inverse key evp input outlen keylen pad,
    sslAesEcbDecryptBytes_counts aes inverse key evp input outlen keylen pad⟩

def reverseBlocks : AesBlock := ⟨fun _ block => block.reverse, fun _ block => block.reverse⟩

theorem reverseBlocks_inverse : reverseBlocks.Inverse where
  length_encrypt _ block sized := by rw [← sized]; exact List.length_reverse block
  length_decrypt _ block sized := by rw [← sized]; exact List.length_reverse block
  decrypt_encrypt _ block _ := List.reverse_reverse block

theorem aes_ecb_bytes_refine_lengths_for_reversal :
    (sslAesEcbEncryptBytes reverseBlocks evpSucceeds [7] [1, 2, 3] 16 16 1).map EcbBytes.counts =
        sslAesEcbEncrypt evpSucceeds 3 16 16 1 ∧
      (sslAesEcbDecryptBytes reverseBlocks evpSucceeds [7] [1, 2, 3] 16 16 1).counts =
        sslAesEcbDecrypt (ecbDecryptAnswers reverseBlocks [7] evpSucceeds 1 [1, 2, 3]) 3 16 16 1 :=
  aes_ecb_bytes_refine_lengths reverseBlocks reverseBlocks_inverse [7] evpSucceeds [1, 2, 3] 16 16 1

/-! ## Decryption inverts encryption -/

theorem ecbUpdateFinalBytes_ok (evp : EvpOutcome) (update : List UInt8)
    (final : Option (List UInt8)) (succeeded : (ecbUpdateFinalBytes evp update final).ret = 0) :
    ∃ finished, final = some finished ∧
      (ecbUpdateFinalBytes evp update final).out = update ++ finished := by
  revert succeeded
  unfold ecbUpdateFinalBytes
  cases evp.update <;> cases evp.final <;> cases final <;> simp

theorem sslAesEcbEncryptBytes_ok (aes : AesBlock) (key : List UInt8) (evp : EvpOutcome)
    (input : List UInt8) (outlen keylen pad : Int) (result : EcbBytes)
    (encrypted : sslAesEcbEncryptBytes aes evp key input outlen keylen pad = some result)
    (succeeded : result.ret = 0) :
    (keylen = 16 ∨ keylen = 32) ∧ ∃ finished, evpEncryptFinalBytes aes key pad input = some finished ∧
      result.out = evpEncryptUpdateBytes aes key input ++ finished := by
  unfold sslAesEcbEncryptBytes at encrypted
  split_ifs at encrypted with unsupported
  · cases encrypted
    simp at succeeded
  · cases encrypted
    simp at succeeded
  · obtain ⟨maxlen, -, made⟩ := Option.map_eq_some'.1 encrypted
    split_ifs at made
    · subst made
      simp at succeeded
    · subst made
      exact ⟨by omega, ecbUpdateFinalBytes_ok _ _ _ succeeded⟩

section RoundTrip

variable (aes : AesBlock) (inverse : aes.Inverse) (key input : List UInt8)

include inverse in
theorem ecbBlocks_decrypt_update (finished : List UInt8) :
    ecbBlocks (aes.decrypt key) (input.length / 16)
        (evpEncryptUpdateBytes aes key input ++ finished) =
      input.take (16 * (input.length / 16)) := by
  rw [ecbBlocks_append _ _ _ _ (evpEncryptUpdateBytes_length aes inverse key input).ge,
    evpEncryptUpdateBytes, ecbBlocks_decrypt_encrypt aes inverse key _ _ (Nat.mul_div_le _ _)]

include inverse in
theorem decrypt_encrypted_unpadded (finished : List UInt8)
    (final : evpEncryptFinalBytes aes key 0 input = some finished) :
    evpDecryptUpdateBytes aes key 0 (evpEncryptUpdateBytes aes key input ++ finished) =
        input.take (16 * (input.length / 16)) ∧
      evpDecryptFinalBytes aes key 0 (evpEncryptUpdateBytes aes key input ++ finished) =
        some (input.drop (16 * (input.length / 16))) := by
  have rest := evpEncryptRest_length input
  unfold evpEncryptFinalBytes at final
  dsimp only at final
  rw [if_neg (not_not_intro rfl)] at final
  split_ifs at final with empty
  cases final
  rw [empty] at rest ⊢
  have length : (evpEncryptUpdateBytes aes key input ++ []).length = 16 * (input.length / 16) := by
    rw [List.append_nil, evpEncryptUpdateBytes_length aes inverse]
  unfold evpDecryptUpdateBytes evpDecryptFinalBytes
  rw [if_neg (fun held => held.1 rfl), if_neg (not_not_intro rfl), length, if_pos (by omega),
    Nat.mul_div_cancel_left _ (by decide)]
  exact ⟨ecbBlocks_decrypt_update aes inverse key input [], rfl⟩

include inverse in
theorem decrypt_encrypted_padded (pad : Int) (padded : pad ≠ 0) (finished : List UInt8)
    (final : evpEncryptFinalBytes aes key pad input = some finished) :
    evpDecryptUpdateBytes aes key pad (evpEncryptUpdateBytes aes key input ++ finished) =
        input.take (16 * (input.length / 16)) ∧
      evpDecryptFinalBytes aes key pad (evpEncryptUpdateBytes aes key input ++ finished) =
        some (input.drop (16 * (input.length / 16))) := by
  have whole := evpEncryptUpdateBytes_length aes inverse key input
  have rest := evpEncryptRest_length input
  unfold evpEncryptFinalBytes at final
  dsimp only at final
  rw [if_pos padded] at final
  cases final
  have padded16 := pkcs7Pad_length (input.drop (16 * (input.length / 16))) (by omega)
  have block := inverse.length_encrypt key _ padded16
  have length : (evpEncryptUpdateBytes aes key input ++
      aes.encrypt key (pkcs7Pad (input.drop (16 * (input.length / 16))))).length =
        16 * (input.length / 16) + 16 := by
    rw [List.length_append, whole, block]
  unfold evpDecryptUpdateBytes evpDecryptFinalBytes
  rw [if_pos ⟨padded, by omega, by omega⟩, if_pos padded, if_pos ⟨by omega, by omega⟩, length,
    show (16 * (input.length / 16) + 16) / 16 - 1 = input.length / 16 by omega,
    Nat.add_sub_cancel, List.drop_left' whole, inverse.decrypt_encrypt key _ padded16,
    pkcs7Unpad_pad _ (by omega)]
  exact ⟨ecbBlocks_decrypt_update aes inverse key input _, rfl⟩

include inverse in
theorem decrypt_encrypted (pad : Int) (finished : List UInt8)
    (final : evpEncryptFinalBytes aes key pad input = some finished) :
    evpDecryptUpdateBytes aes key pad (evpEncryptUpdateBytes aes key input ++ finished) =
        input.take (16 * (input.length / 16)) ∧
      evpDecryptFinalBytes aes key pad (evpEncryptUpdateBytes aes key input ++ finished) =
        some (input.drop (16 * (input.length / 16))) := by
  by_cases padded : pad = 0
  · subst padded
    exact decrypt_encrypted_unpadded aes inverse key input finished final
  · exact decrypt_encrypted_padded aes inverse key input pad padded finished final

end RoundTrip

/-- `ssl_aes_ecb_decrypt` gives back what `ssl_aes_ecb_encrypt` took in, whenever encryption returned
`0` and decryption's buffer holds the ciphertext and its calls succeed. -/
theorem aes_ecb_decrypt_inverts_encrypt (aes : AesBlock) (inverse : aes.Inverse)
    (key : List UInt8) (encrypting decrypting : EvpOutcome) (input : List UInt8)
    (outlen room keylen pad : Int) (result : EcbBytes)
    (encrypted : sslAesEcbEncryptBytes aes encrypting key input outlen keylen pad = some result)
    (succeeded : result.ret = 0)
    (answered : ecbSetup decrypting = true ∧ decrypting.update = true ∧ decrypting.final = true)
    (fits : result.out.length ≤ room) :
    sslAesEcbDecryptBytes aes decrypting key result.out room keylen pad =
      ⟨0, input, input.length⟩ := by
  obtain ⟨supported, finished, final, out⟩ :=
    sslAesEcbEncryptBytes_ok aes key encrypting input outlen keylen pad result encrypted succeeded
  obtain ⟨update, last⟩ := decrypt_encrypted aes inverse key input pad finished final
  unfold sslAesEcbDecryptBytes ecbUpdateFinalBytes
  rw [if_neg (by omega), if_neg (by omega), answered.1, if_neg (by decide), answered.2.1,
    answered.2.2, out, update, last]
  dsimp only
  rw [List.take_append_drop]
  congr 1
  rw [List.length_take, List.length_drop]
  omega

theorem aes_ecb_decrypt_inverts_encrypt_for_reversal :
    sslAesEcbDecryptBytes reverseBlocks evpSucceeds [7] (List.replicate 13 13 ++ [3, 2, 1]) 16 16 1 =
      ⟨0, [1, 2, 3], 3⟩ :=
  aes_ecb_decrypt_inverts_encrypt reverseBlocks reverseBlocks_inverse [7] evpSucceeds evpSucceeds
    [1, 2, 3] 16 16 16 1 ⟨0, List.replicate 13 13 ++ [3, 2, 1], 16⟩ (by decide) rfl (by decide)
    (by decide)

end Cml
