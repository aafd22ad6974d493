import DeviceAuth.Curve.Key
import DeviceAuth.Json.Form
import DeviceAuth.Kdf
import DeviceAuth.Text.Decoded

/-!
# Envelopes

Messages between device and server are sealed end to end. For every request the device draws an
ephemeral key pair; the secret it shares with the server's key, stretched with the first shared
information, gives one key to encrypt and one to authenticate with, for the request and for its
response. The tag covers the ephemeral key, the body and the second shared information; a response
has no ephemeral key, so that neither kind of message passes for the other.
-/

set_option autoImplicit false

namespace DeviceAuth

/-- What an envelope is bound to. -/
inductive Scope where
  | application
  | activation
deriving DecidableEq, Repr

namespace Scope

instance : Named Scope where
  all := [application, activation]
  name
    | application => "Application"
    | activation => "Activation"

instance : JsonForm Scope := ⟨fun s => Json.ofText (Named.name s), Json.named?⟩

end Scope

/-- A sealed message. -/
structure Cryptogram where
  /-- The ephemeral public key of a request. -/
  key : Option Bytes
  /-- The initialisation vector and the ciphertext. -/
  body : Bytes
  mac : Bytes
deriving DecidableEq

/-! ## Sealing -/

namespace Envelope

/-- The keys of a shared secret. -/
def keys (shared : Octets 32) (info1 : Bytes) : SealingKeys := SealingKeys.derive shared.bytes info1

/-- What the tag is made over. -/
def authenticated (ephemeral body info2 : Bytes) : Bytes := ephemeral ++ body ++ info2

/-- The tag of a body. -/
def tag (k : SealingKeys) (ephemeral body info2 : Bytes) : Bytes :=
  (hmac k.authentication.bytes (authenticated ephemeral body info2)).bytes

/-- The body of a message. -/
def body (k : SealingKeys) (iv : Octets 16) (plaintext : Bytes) : Bytes :=
  iv.bytes ++ Cbc.encryptFilled k.encryption iv plaintext

/-- Seal a message under a fresh initialisation vector; a response has no ephemeral key. -/
def close (k : SealingKeys) (key : Option Bytes) (info2 plaintext : Bytes) : Core Cryptogram := do
  let iv ← Core.draw 16
  let sealed := body k iv plaintext
  return ⟨key, sealed, tag k (key.getD []) sealed info2⟩

/-- What a message seals. -/
def contents (k : SealingKeys) (ephemeral info2 : Bytes) (c : Cryptogram) : Except Reason Bytes :=
  if c.body.length < 32 then .error .envelopeSize
  else if (tag k ephemeral c.body info2).matching c.mac then
    Cbc.decrypt k.encryption (c.body.take 16) (c.body.drop 16) .counted
  else .error .envelopeTag

end Envelope

/-! ## The device's side -/

/-- Seals requests and opens their responses. -/
structure Encryptor where
  /-- The server's public key, looked at only when a request is sealed. -/
  publicKey : Bytes
  info1 : Bytes
  info2 : Bytes
  /-- The keys of the last request. -/
  keys : Option SealingKeys := none
deriving DecidableEq

namespace Encryptor

/-- Whether a response can be opened. -/
def isReady (e : Encryptor) : Bool := e.keys.isSome

/-- The encryptor with other first shared information, for the requests to come. -/
def withInfo1 (e : Encryptor) (info : Bytes) : Encryptor := { e with info1 := info }

/-- The encryptor with other second shared information, for the messages to come. -/
def withInfo2 (e : Encryptor) (info : Bytes) : Encryptor := { e with info2 := info }

/-- Seal a request. -/
def encryptRequest (plaintext : Bytes) : Change Encryptor Cryptogram := do
  let e ← Change.object
  let server ← (PublicKey.ofBytes e.publicKey : Except Reason PublicKey)
  let ephemeral ← KeyPair.generate
  let k := Envelope.keys (ephemeral.sharedSecret server) e.info1
  let c ← Envelope.close k (some ephemeral.publicKey.bytes) e.info2 plaintext
  Change.become { e with keys := some k }
  return c

/-- Open the response to the last request. -/
def decryptResponse (e : Encryptor) (c : Cryptogram) : Core Bytes := do
  match e.keys with
  | none => Core.wrongState .nothingEncrypted
  | some k => (Envelope.contents k [] e.info2 c : Except Reason Bytes)

def describe (e : Encryptor) : String :=
  Text.Description.record "EciesEncryptor"
    [("public_key", Text.quoted (Text.Base64.encode e.publicKey)),
     ("has_envelope_key", Text.Description.bool e.isReady)]

end Encryptor

/-! ## The server's side -/

/-- Opens requests and seals their responses. -/
structure Decryptor where
  pair : KeyPair
  info1 : Bytes
  info2 : Bytes
  /-- The keys of the last request that was opened. -/
  keys : Option SealingKeys := none

namespace Decryptor

/-- The decryptor with other first shared information. -/
def withInfo1 (d : Decryptor) (info : Bytes) : Decryptor := { d with info1 := info }

/-- The decryptor with other second shared information. -/
def withInfo2 (d : Decryptor) (info : Bytes) : Decryptor := { d with info2 := info }

/-- Open a request. -/
def decryptRequest (c : Cryptogram) : Change Decryptor Bytes := do
  let d ← Change.object
  let key ← match c.key with
    | some key => pure key
    | none => Core.refuse .envelopeKey
  let ephemeral ← (PublicKey.ofBytes key : Except Reason PublicKey)
  let k := Envelope.keys (d.pair.sharedSecret ephemeral) d.info1
  let plaintext ← (Envelope.contents k key d.info2 c : Except Reason Bytes)
  Change.become { d with keys := some k }
  return plaintext

/-- Seal the response to the last request. -/
def encryptResponse (d : Decryptor) (plaintext : Bytes) : Core Cryptogram := do
  match d.keys with
  | none => Core.wrongState .nothingDecrypted
  | some k => Envelope.close k none d.info2 plaintext

end Decryptor

/-! ## Messages on the wire -/

/-- A sealed request as it is sent. -/
structure WireRequest where
  ephemeralKey : String
  data : String
  mac : String
deriving DecidableEq

/-- A sealed response as it is sent. -/
structure WireResponse where
  data : String
  mac : String
deriving DecidableEq

namespace Cryptogram

/-- The request that sends a message, which must have an ephemeral key. -/
def toRequest (c : Cryptogram) : Except Failure WireRequest :=
  match c.key with
  | none => .error (.wrongParameter .ephemeralKeyMissing)
  | some key =>
    .ok ⟨Text.Base64.encode key, Text.Base64.encode c.body, Text.Base64.encode c.mac⟩

/-- The response that sends a message, without its ephemeral key. -/
def toResponse (c : Cryptogram) : WireResponse :=
  ⟨Text.Base64.encode c.body, Text.Base64.encode c.mac⟩

/-- The message of a request. -/
def ofRequest (request : WireRequest) : Except Reason Cryptogram := do
  return ⟨some (← Text.Base64.decode request.ephemeralKey), ← Text.Base64.decode request.data,
    ← Text.Base64.decode request.mac⟩

/-- The message of a response. -/
def ofResponse (response : WireResponse) : Except Reason Cryptogram := do
  return ⟨none, ← Text.Base64.decode response.data, ← Text.Base64.decode response.mac⟩

end Cryptogram

namespace WireRequest

def describe (request : WireRequest) : String :=
  Text.Description.record "EciesEncryptedRequest"
    [("ephemeral_public_key", Text.quoted request.ephemeralKey),
     ("encrypted_data", Text.quoted request.data), ("mac", Text.quoted request.mac)]

def layout : Json.Layout := ⟨["ephemeralPublicKey", "encryptedData", "mac"], 3⟩

instance : JsonForm WireRequest where
  toJson request := Json.record
    [("ephemeralPublicKey", toJson request.ephemeralKey), ("encryptedData", toJson request.data),
     ("mac", toJson request.mac)]
  ofJson? value := do
    match ← layout.fields? value with
    | [key, data, mac] =>
      return ⟨← Json.required? key, ← Json.required? data, ← Json.required? mac⟩
    | _ => none

end WireRequest

namespace WireResponse

def describe (response : WireResponse) : String :=
  Text.Description.record "EciesEncryptedResponse"
    [("encrypted_data", Text.quoted response.data), ("mac", Text.quoted response.mac)]

def layout : Json.Layout := ⟨["encryptedData", "mac"], 2⟩

instance : JsonForm WireResponse where
  toJson response := Json.record
    [("encryptedData", toJson response.data), ("mac", toJson response.mac)]
  ofJson? value := do
    match ← layout.fields? value with
    | [data, mac] => return ⟨← Json.required? data, ← Json.required? mac⟩
    | _ => none

end WireResponse

end DeviceAuth
