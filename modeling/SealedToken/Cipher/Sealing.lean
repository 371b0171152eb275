import SealedToken.Cipher.Aes
import SealedToken.Cipher.Gcm
import SealedToken.Text.Utf8

namespace SealedToken

inductive CipherFault
  | keySize
  | nonceSize
  deriving DecidableEq, Repr

def CipherFault.message : CipherFault → Text
  | .keySize => "AESGCM key must be 128, 192, or 256 bits."
  | .nonceSize => "Nonce must be between 8 and 128 bytes"

inductive SealFault
  | encoding (fault : Utf8.EncodeFault)
  | cipher (fault : CipherFault)
  deriving DecidableEq, Repr

def SealFault.message : SealFault → Text
  | .encoding f => "Failed to encode plaintext: " ++ f.message
  | .cipher f => "Encryption failed: " ++ f.message

inductive UnsealFault
  | hex (fault : Hex.Fault)
  | tagMismatch
  | cipher (fault : CipherFault)
  | decoding (fault : Utf8.DecodeFault)
  deriving DecidableEq, Repr

def UnsealFault.message : UnsealFault → Text
  | .hex f => "Invalid hex encoding: " ++ f.message
  | .tagMismatch => "Authentication tag mismatch"
  | .cipher f => "Decryption failed: " ++ f.message
  | .decoding f => "Failed to decode decrypted data: " ++ f.message

def cipherFault? (key nonce : Bytes) : Option CipherFault :=
  if key.length ≠ 16 ∧ key.length ≠ 24 ∧ key.length ≠ 32 then some .keySize
  else if nonce.length < 8 ∨ 128 < nonce.length then some .nonceSize
  else none

def sealBytes (key nonce plaintext : Bytes) : Except SealFault Bytes :=
  match cipherFault? key nonce with
  | some f => .error (.cipher f)
  | none =>
    let keys := Aes.schedule key
    .ok (Gcm.close (Aes.encrypt keys) nonce plaintext)

def sealText (key nonce : Bytes) (plaintext : Text) : Except SealFault Bytes :=
  match Utf8.encode plaintext with
  | .error f => .error (.encoding f)
  | .ok bs => sealBytes key nonce bs

def unsealBytes (key nonce ciphertext : Bytes) : Except UnsealFault Bytes :=
  match cipherFault? key nonce with
  | some f => .error (.cipher f)
  | none =>
    let keys := Aes.schedule key
    match Gcm.open? (Aes.encrypt keys) nonce ciphertext with
    | some bs => .ok bs
    | none => .error .tagMismatch

def unsealText (key nonce ciphertext : Bytes) : Except UnsealFault Text :=
  match unsealBytes key nonce ciphertext with
  | .error f => .error f
  | .ok bs =>
    match Utf8.decode bs with
    | .ok t => .ok t
    | .error f => .error (.decoding f)

def unhex (t : Text) : Except UnsealFault Bytes :=
  match Hex.decode t with
  | .ok bs => .ok bs
  | .error f => .error (.hex f)

theorem unsealBytes_eq_ok_iff {key nonce c p : Bytes} :
    unsealBytes key nonce c = .ok p ↔ sealBytes key nonce p = .ok c := by
  unfold unsealBytes sealBytes
  cases cipherFault? key nonce with
  | some f => simp
  | none =>
    simp only [Except.ok.injEq]
    rw [← Gcm.open?_eq_some_iff]
    split <;> simp_all

end SealedToken
