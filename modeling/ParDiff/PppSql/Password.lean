import ParDiff.Lib.BlockCipher
import ParDiff.Lib.Text

/-!
# Passwords of the PPP plugin

`src/plugin.c` and `src/str.c` of pppd-sql.  A password in the table is plain, a hash, or
a text of hexadecimal digits for the password under AES.  For PAP the plugin compares it
with what the peer sent, for CHAP it decrypts it.

The comparison goes over the stored digits.  It neither asks whether they are digits nor
how long the other side is, so under AES it lets in passwords that are not the stored one.
-/

namespace ParDiff.PppSql

open Lib Lib.Text Lib.BlockCipher

abbrev Bytes := List UInt8

def maxSecretLen : Nat := 256
def sizeAes : Nat := 16
def sizeMd5 : Nat := 16
def sizeCrypt : Nat := 13

/-- What the plugin uses of OpenSSL. -/
structure Crypto where
  fcrypt : (passwd salt : Bytes) → Option Bytes
  md5 : Bytes → Bytes
  encrypt : (key block : Bytes) → Bytes
  decrypt : (key block : Bytes) → Bytes

/-- AES is a permutation of the blocks. -/
structure Crypto.Documented (lib : Crypto) : Prop where
  aes : ∀ key, Inverts sizeAes (lib.decrypt key) (lib.encrypt key)

/-- `pppd__htoi`. -/
def htoi (character : UInt8) : Int :=
  if 48 ≤ character ∧ character ≤ 57 then character.toNat - 48
  else if 65 ≤ character ∧ character ≤ 70 then character.toNat - 65 + 10
  else if 97 ≤ character ∧ character ≤ 102 then character.toNat - 97 + 10
  else -1

/-- The numbers that two characters each stand for. -/
def hexValues : Bytes → List Int
  | a :: b :: s => (htoi a * 16 + htoi b) :: hexValues s
  | _ => []

/-- The loop that compares every number with a byte of the memory from the buffer on. -/
def sameBytes (secretName memory : Bytes) : Bool :=
  (hexValues secretName).isPrefixOf (memory.map fun byte => (byte.toNat : Int))

/-- A text into the front of a buffer of zeros. -/
def intoBuffer (size : Nat) (text : Bytes) : Bytes :=
  text ++ List.replicate (size - text.length) 0

/-- The key: short ones are filled with zeros, long ones are cut. -/
def passwdKey (key : Bytes) : Bytes :=
  intoBuffer sizeAes (if key.length < sizeAes then key else key.take sizeAes)

/-- `EVP_EncryptUpdate` and `EVP_EncryptFinal_ex` with `EVP_aes_128_ecb`. -/
def evpEncrypt (lib : Crypto) (key text : Bytes) : Bytes :=
  blockwise sizeAes (lib.encrypt key) (pad sizeAes text)

/-- `EVP_DecryptUpdate` and `EVP_DecryptFinal_ex`. -/
def evpDecrypt (lib : Crypto) (key text : Bytes) : Option Bytes :=
  if text.length % sizeAes = 0 then unpad sizeAes (blockwise sizeAes (lib.decrypt key) text)
  else none

/-- `strcasecmp (a, b) == 0`. -/
def strcaseeq (a b : Str) : Bool := a.map Char.toLower == b.map Char.toLower

def crypted (lib : Crypto) (beyond passwd secretName key : Bytes) : Bool :=
  if secretName.length < sizeCrypt * 2 then false
  else
    match lib.fcrypt passwd key with
    | none => false
    | some hash => sameBytes secretName (hash ++ beyond)

def hashed (lib : Crypto) (beyond passwd secretName : Bytes) : Bool :=
  if secretName.length < sizeMd5 * 2 then false
  else sameBytes secretName (lib.md5 passwd ++ beyond)

def encrypted (lib : Crypto) (beyond passwd secretName key : Bytes) : Bool :=
  if secretName.length < (passwd.length / 16 + 1) * 16 then false
  else
    sameBytes secretName
      (intoBuffer (maxSecretLen / 2) (evpEncrypt lib (passwdKey key) passwd) ++ beyond)

/-- `pppd__verify_password` returns zero.  The memory behind the buffers is `beyond`. -/
def verifyPassword (lib : Crypto) (beyond passwd secretName : Bytes) (encryption : Str)
    (key : Bytes) : Bool :=
  !(strcaseeq encryption "NONE".toList && passwd != secretName) &&
    !(strcaseeq encryption "CRYPT".toList && !crypted lib beyond passwd secretName key) &&
    !(strcaseeq encryption "MD5".toList && !hashed lib beyond passwd secretName) &&
    !(strcaseeq encryption "AES".toList && !encrypted lib beyond passwd secretName key)

/-- `pppd__decrypt_password`. -/
def decryptPassword (lib : Crypto) (secretName : Bytes) (encryption : Str) (key : Bytes) :
    Option Bytes :=
  if strcaseeq encryption "NONE".toList || strcaseeq encryption "CRYPT".toList ||
      strcaseeq encryption "MD5".toList then some secretName
  else if strcaseeq encryption "AES".toList then
    evpDecrypt lib (passwdKey key) ((hexValues secretName).map fun v => UInt8.ofNat (v % 256).toNat)
  else some secretName

/-! ## Stored texts -/

/-- The text spells the bytes in hexadecimal. -/
structure Spells (text bytes : Bytes) : Prop where
  length : text.length = 2 * bytes.length
  values : hexValues text = bytes.map fun byte => (byte.toNat : Int)

theorem toNat_injective : Function.Injective fun byte : UInt8 => (byte.toNat : Int) := by
  intro a b h
  exact UInt8.toNat_inj.1 (Int.ofNat.inj h)

theorem sameBytes_iff {text bytes memory : Bytes} (h : Spells text bytes) :
    sameBytes text memory = true ↔ bytes <+: memory := by
  rw [sameBytes, h.values, List.isPrefixOf_iff_prefix, List.prefix_map_iff]
  constructor
  · rintro ⟨l, hl, heq⟩
    rwa [List.map_injective_iff.2 toNat_injective heq]
  · intro hprefix
    exact ⟨bytes, hprefix, rfl⟩

theorem ofNat_values {text bytes : Bytes} (h : Spells text bytes) :
    (hexValues text).map (fun v => UInt8.ofNat (v % 256).toNat) = bytes := by
  rw [h.values, List.map_map]
  calc bytes.map ((fun v : Int => UInt8.ofNat (v % 256).toNat) ∘ fun byte => (byte.toNat : Int))
      = bytes.map id := by
        apply List.map_congr_left
        intro byte _
        have hlt := byte.toNat_lt
        have hmod : ((byte.toNat : Int) % 256).toNat = byte.toNat := by omega
        simp [hmod]
    _ = bytes := List.map_id _

/-! ## AES -/

section Aes

variable {lib : Crypto} (hlib : lib.Documented) {encryption : Str}
  (hencryption : encryption.map Char.toLower = "aes".toList)

include hencryption

theorem strcaseeq_aes :
    strcaseeq encryption "NONE".toList = false ∧ strcaseeq encryption "CRYPT".toList = false ∧
      strcaseeq encryption "MD5".toList = false ∧ strcaseeq encryption "AES".toList = true := by
  simp only [strcaseeq, hencryption]
  decide

theorem verifyPassword_aes (lib : Crypto) (beyond passwd secretName key : Bytes) :
    verifyPassword lib beyond passwd secretName encryption key =
      encrypted lib beyond passwd secretName key := by
  obtain ⟨hnone, hcrypt, hmd5, haes⟩ := strcaseeq_aes hencryption
  rw [verifyPassword, hnone, hcrypt, hmd5, haes]
  simp

theorem decryptPassword_aes (lib : Crypto) (secretName key : Bytes) :
    decryptPassword lib secretName encryption key =
      evpDecrypt lib (passwdKey key)
        ((hexValues secretName).map fun v => UInt8.ofNat (v % 256).toNat) := by
  obtain ⟨hnone, hcrypt, hmd5, haes⟩ := strcaseeq_aes hencryption
  rw [decryptPassword, hnone, hcrypt, hmd5, haes]
  rfl

omit hencryption
include hlib

theorem evpDecrypt_evpEncrypt (key secret : Bytes) :
    evpDecrypt lib key (evpEncrypt lib key secret) = some secret := by
  have hpad : sizeAes ∣ (pad sizeAes secret).length := dvd_length_pad (by decide) secret
  have hlength : (evpEncrypt lib key secret).length % sizeAes = 0 := by
    rw [evpEncrypt, length_blockwise (by decide) (hlib.aes key) hpad]
    exact Nat.mod_eq_zero_of_dvd hpad
  rw [evpDecrypt, if_pos hlength, evpEncrypt, blockwise_blockwise (by decide) (hlib.aes key) hpad,
    unpad_pad (by decide) (by decide)]

omit hlib in
/-- A text that is longer than the one in the buffer goes on with zeros. -/
theorem prefix_intoBuffer_iff {size : Nat} {a b beyond : Bytes} (ha : a.length ≤ size) :
    a <+: intoBuffer size b ++ beyond ↔
      a <+: b ∨ ∃ r, r ≠ [] ∧ a = b ++ r ∧ ∀ byte ∈ r, byte = 0 := by
  rw [intoBuffer, List.append_assoc]
  constructor
  · intro h
    rcases List.prefix_or_prefix_of_prefix h (List.prefix_append b _) with hab | ⟨r, rfl⟩
    · exact .inl hab
    · rw [List.prefix_append_right_inj] at h
      rw [List.length_append] at ha
      have hzeros : r <+: List.replicate (size - b.length) 0 :=
        List.prefix_of_prefix_length_le h (List.prefix_append _ _) (by simp; omega)
      by_cases hr : r = []
      · exact .inl (by simp [hr])
      · exact .inr ⟨r, hr, rfl, fun _ hbyte => List.eq_of_mem_replicate (hzeros.subset hbyte)⟩
  · rintro (hab | ⟨r, -, rfl, hr⟩)
    · exact hab.trans (List.prefix_append _ _)
    · rw [List.length_append] at ha
      rw [List.prefix_append_right_inj]
      have hzeros : r <+: List.replicate (size - b.length) 0 :=
        List.prefix_replicate_iff.2 ⟨by omega, List.eq_replicate_of_mem hr⟩
      exact hzeros.trans (List.prefix_append _ _)

include hencryption

/-- **Passwords under AES.**  For CHAP the plugin gets the stored password back.  For PAP
it lets in the stored password, every one that goes on behind its padding as far as the
length check allows, and one whose ciphertext the stored one continues with zeros. -/
theorem aes_passwords {secret text key : Bytes}
    (htext : Spells text (evpEncrypt lib (passwdKey key) secret))
    (hstored : text.length < maxSecretLen) :
    decryptPassword lib text encryption key = some secret ∧
      ∀ passwd beyond, passwd.length < maxSecretLen / 2 →
        (verifyPassword lib beyond passwd text encryption key = true ↔
          passwd = secret ∨
            (pad sizeAes secret <+: passwd ∧ passwd.length / 16 ≤ 2 * (secret.length / 16) + 1) ∨
            ∃ rest, rest ≠ [] ∧ pad sizeAes secret = pad sizeAes passwd ++ rest ∧
              ∀ byte ∈ blockwise sizeAes (lib.encrypt (passwdKey key)) rest, byte = 0) := by
  constructor
  · rw [decryptPassword_aes hencryption, ofNat_values htext, evpDecrypt_evpEncrypt hlib]
  · intro passwd beyond hpasswd
    have hpadSecret : sizeAes ∣ (pad sizeAes secret).length := dvd_length_pad (by decide) secret
    have hpadPasswd : sizeAes ∣ (pad sizeAes passwd).length := dvd_length_pad (by decide) passwd
    have hsecret : (evpEncrypt lib (passwdKey key) secret).length = (secret.length / 16 + 1) * 16 := by
      rw [evpEncrypt, length_blockwise (by decide) (hlib.aes _) hpadSecret]
      exact length_pad (by decide) secret
    have hlength := htext.length
    rw [hsecret] at hlength
    have hcheck : ¬text.length < (passwd.length / 16 + 1) * 16 ↔
        passwd.length / 16 ≤ 2 * (secret.length / 16) + 1 := by omega
    have hsame : sameBytes text (intoBuffer (maxSecretLen / 2)
          (evpEncrypt lib (passwdKey key) passwd) ++ beyond) = true ↔
        (passwd = secret ∨ pad sizeAes secret <+: passwd) ∨
          ∃ rest, rest ≠ [] ∧ pad sizeAes secret = pad sizeAes passwd ++ rest ∧
            ∀ byte ∈ blockwise sizeAes (lib.encrypt (passwdKey key)) rest, byte = 0 := by
      rw [sameBytes_iff htext, prefix_intoBuffer_iff (by
          rw [hsecret]
          simp only [maxSecretLen] at hstored ⊢
          omega),
        evpEncrypt, evpEncrypt, blockwise_prefix_iff (by decide) (hlib.aes _) hpadSecret hpadPasswd,
        pad_prefix_iff (by decide) (by decide),
        exists_continuation_iff (by decide) (hlib.aes _) hpadSecret hpadPasswd
          fun r => ∀ byte ∈ r, byte = 0]
    have hself : passwd = secret → passwd.length / 16 ≤ 2 * (secret.length / 16) + 1 := by
      rintro rfl
      omega
    have hshorter : ∀ rest, pad sizeAes secret = pad sizeAes passwd ++ rest →
        passwd.length / 16 ≤ 2 * (secret.length / 16) + 1 := by
      intro rest heq
      have hle := congrArg List.length heq
      rw [List.length_append, length_pad (by decide), length_pad (by decide)] at hle
      simp only [sizeAes] at hle
      omega
    rw [verifyPassword_aes hencryption, encrypted]
    by_cases hlong : text.length < (passwd.length / 16 + 1) * 16
    · have hnot : ¬passwd.length / 16 ≤ 2 * (secret.length / 16) + 1 :=
        fun h => hcheck.2 h hlong
      rw [if_pos hlong]
      constructor
      · intro h
        exact absurd h (by simp)
      · rintro (heq | ⟨-, hle⟩ | ⟨rest, -, heq, -⟩)
        · exact absurd (hself heq) hnot
        · exact absurd hle hnot
        · exact absurd (hshorter rest heq) hnot
    · rw [if_neg hlong, hsame, or_assoc]
      simp only [hcheck.1 hlong, and_true]

end Aes

/-! bob's password under the key `sesame`. -/

def utf8 (s : String) : Bytes := s.toList.map fun c => UInt8.ofNat c.toNat

def bobsCiphertext : Bytes :=
  [188, 86, 242, 107, 124, 105, 89, 68, 37, 60, 173, 102, 254, 165, 224, 47]

/-- AES on the two blocks at hand. -/
def swapBlocks (block : Bytes) : Bytes :=
  if block = pad sizeAes (utf8 "bob") then bobsCiphertext
  else if block = bobsCiphertext then pad sizeAes (utf8 "bob")
  else block

def twoBlockAes : Crypto := ⟨fun _ _ => none, id, fun _ => swapBlocks, fun _ => swapBlocks⟩

theorem twoBlockAes_documented : twoBlockAes.Documented where
  aes _ block hblock := by
    simp only [twoBlockAes, swapBlocks]
    by_cases hplain : block = pad sizeAes (utf8 "bob")
    · subst hplain
      decide
    · by_cases hcipher : block = bobsCiphertext
      · subst hcipher
        decide
      · simp [hplain, hcipher, hblock]

def bobsText : Bytes := utf8 "bc56f26b7c695944253cad66fea5e02f"

theorem bobsText_spells :
    Spells bobsText (evpEncrypt twoBlockAes (passwdKey (utf8 "sesame")) (utf8 "bob")) := by
  have hblock := blockwise_cons (show 0 < sizeAes by decide) swapBlocks
    (show (pad sizeAes (utf8 "bob")).length = sizeAes by decide) []
  rw [List.append_nil, blockwise_nil (by decide), List.append_nil] at hblock
  rw [evpEncrypt, twoBlockAes, hblock]
  exact ⟨by decide, by decide⟩

theorem bobs_passwords :
    decryptPassword twoBlockAes bobsText "AES".toList (utf8 "sesame") = some (utf8 "bob") ∧
      ∀ passwd beyond, passwd.length < maxSecretLen / 2 →
        (verifyPassword twoBlockAes beyond passwd bobsText "AES".toList (utf8 "sesame") = true ↔
          passwd = utf8 "bob" ∨
            (pad sizeAes (utf8 "bob") <+: passwd ∧
              passwd.length / 16 ≤ 2 * ((utf8 "bob").length / 16) + 1) ∨
            ∃ rest, rest ≠ [] ∧ pad sizeAes (utf8 "bob") = pad sizeAes passwd ++ rest ∧
              ∀ byte ∈ blockwise sizeAes
                (twoBlockAes.encrypt (passwdKey (utf8 "sesame"))) rest, byte = 0) :=
  aes_passwords twoBlockAes_documented (by decide) bobsText_spells (by decide)

end ParDiff.PppSql
