import DeviceAuth.Core
import DeviceAuth.Hash.Hmac
import DeviceAuth.Json.Form
import DeviceAuth.Text.Base64

/-!
# Tokens

A token lets a request pass without a signature. Its data, a name, an identifier and a secret, is
kept in a store under the name; a handle to a token holds a copy of the data and knows the store it
came from. Handles outlive their store: a handle makes headers only while its store is there and
allows it.

Stores are numbered in the order they are opened, and a number is never used again, so a handle of a
closed store does not come to life with a later one.
-/

set_option autoImplicit false

namespace DeviceAuth

/-- The data of a token. -/
structure TokenData where
  name : String
  identifier : String
  secret : Bytes
deriving DecidableEq

namespace TokenData

/-- Whether no part is empty. -/
def isValid (data : TokenData) : Bool :=
  !data.name.isEmpty && !data.identifier.isEmpty && !data.secret.isEmpty

def describe (data : TokenData) : String :=
  Text.Description.record "TokenData"
    [("name", Text.quoted data.name), ("identifier", Text.quoted data.identifier),
     ("secret", Text.redacted)]

def layout : Json.Layout := ⟨["name", "identifier", "secret"], 3⟩

instance : JsonForm TokenData where
  toJson data := Json.record
    [("name", toJson data.name), ("identifier", toJson data.identifier),
     ("secret", toJson data.secret)]
  ofJson? value := do
    match ← layout.fields? value with
    | [name, identifier, secret] =>
      return ⟨← Json.required? name, ← Json.required? identifier, ← Json.required? secret⟩
    | _ => none

end TokenData

/-! ## Stores -/

/-- A store of tokens, no two with one name. -/
structure TokenStore where
  tokens : List TokenData := []
  /-- Whether its tokens may make headers. -/
  available : Bool := true
deriving DecidableEq

namespace TokenStore

/-- The data under a name. -/
def get? (store : TokenStore) (name : String) : Option TokenData :=
  store.tokens.find? fun data => data.name = name

/-- Whether there is data under a name. -/
def contains (store : TokenStore) (name : String) : Bool := (store.get? name).isSome

/-- The store with the data under a name left out. -/
def erase (store : TokenStore) (name : String) : TokenStore :=
  { store with tokens := store.tokens.filter fun data => data.name ≠ name }

/-- The store with data put under its name. -/
def insert (store : TokenStore) (data : TokenData) : TokenStore :=
  { store with tokens := data :: (store.erase data.name).tokens }

/-- The store without tokens. -/
def clear (store : TokenStore) : TokenStore := { store with tokens := [] }

/-- How many tokens there are. -/
def size (store : TokenStore) : Nat := store.tokens.length

end TokenStore

/-- The stores that are open. -/
structure TokenStores where
  /-- How many stores were ever opened. -/
  count : Nat := 0
  stores : List (Nat × TokenStore) := []
deriving DecidableEq

namespace TokenStores

/-- The store with a number, if it is open. -/
def get? (all : TokenStores) (number : Nat) : Option TokenStore := all.stores.lookup number

/-- Open a store. -/
def openStore (all : TokenStores) : Nat × TokenStores :=
  (all.count, ⟨all.count + 1, (all.count, {}) :: all.stores⟩)

/-- Close a store. -/
def close (all : TokenStores) (number : Nat) : TokenStores :=
  { all with stores := all.stores.filter fun entry => entry.1 ≠ number }

/-- Change an open store. -/
def modify (all : TokenStores) (number : Nat) (f : TokenStore → TokenStore) : TokenStores :=
  { all with stores := all.stores.map fun entry =>
      if entry.1 = number then (entry.1, f entry.2) else entry }

end TokenStores

/-! ## Handles -/

/-- A ready header of a request. -/
structure Header where
  name : String
  value : String
deriving DecidableEq

/-- A handle to a token. -/
structure Token where
  data : TokenData
  /-- The number of the store it came from. -/
  store : Nat
deriving DecidableEq

namespace Token

/-- The name of the header a token makes. -/
def headerName : String := "X-PowerAuth-Token"

/-- The protocol version a header shows. -/
def version : String := "3.1"

/-- Whether two handles are of the same token. -/
def same (a b : Token) : Bool :=
  a.data.name = b.data.name && a.data.identifier = b.data.identifier

/-- Whether a header can be made now. -/
def canMakeHeader (token : Token) (all : TokenStores) : Bool :=
  token.data.isValid && ((all.get? token.store).map TokenStore.available).getD false

/-- The digest in a header. -/
def digest (data : TokenData) (nonce : Bytes) (timestamp : String) : Octets 32 :=
  hmac data.secret (nonce ++ Bytes.ofText "&" ++ Bytes.ofText timestamp)

/-- The header with a nonce and a time. -/
def headerFor (data : TokenData) (nonce : Bytes) (time : Int) : Header :=
  let timestamp := toString time
  ⟨headerName,
    "PowerAuth token_id=\"" ++ data.identifier ++ "\", token_digest=\""
      ++ Text.Base64.encode (digest data nonce timestamp).bytes ++ "\", nonce=\""
      ++ Text.Base64.encode nonce ++ "\", timestamp=\"" ++ timestamp ++ "\", version=\"" ++ version
      ++ "\""⟩

/-- Make a header. -/
def header (token : Token) (all : TokenStores) : Core Header := do
  match all.get? token.store with
  | none => Core.wrongState .storeGone
  | some store => do
    unless store.available do Core.wrongState .storeUnavailable
    unless token.data.isValid do Core.wrongState .tokenInvalid
    let nonce ← Core.draw 16
    return headerFor token.data nonce.bytes (← Core.now)

def describe (token : Token) (all : TokenStores) : String :=
  Text.Description.record "Token"
    [("name", Text.quoted token.data.name), ("identifier", Text.quoted token.data.identifier),
     ("store_alive", Text.Description.bool (all.get? token.store).isSome)]

end Token

namespace TokenStores

/-- Put data into a store. -/
def put (number : Nat) (data : TokenData) : Change TokenStores Token := do
  unless data.isValid do Core.wrongParameter .tokenIncomplete
  Core.note (.tokenStored data.name)
  Change.become ((← Change.object).modify number fun store => store.insert data)
  return ⟨data, number⟩

/-- A handle to the token under a name. -/
def token? (all : TokenStores) (number : Nat) (name : String) : Option Token := do
  return ⟨← (← all.get? number).get? name, number⟩

/-- Remove the token under a name. -/
def remove (number : Nat) (name : String) : Change TokenStores Unit := do
  let all ← Change.object
  let known := ((all.get? number).map fun store => store.contains name).getD false
  Change.become (all.modify number fun store => store.erase name)
  if known then Core.note (.tokenRemoved name)

end TokenStores

end DeviceAuth
