import DeviceAuth.Binding
import DeviceAuth.Build
import DeviceAuth.Token
import DeviceAuth.Vault
import DeviceAuth.Proofs.Effects
import DeviceAuth.Proofs.Cipher.Aes
import DeviceAuth.Proofs.Cipher.Cbc
import DeviceAuth.Proofs.Bytes
import DeviceAuth.Proofs.KeyWrap
import DeviceAuth.Proofs.Record.Form
import DeviceAuth.Proofs.Text.Radix
import DeviceAuth.Proofs.Curve.Prime
import DeviceAuth.Proofs.Curve.Field
import DeviceAuth.Proofs.Curve.Group
import DeviceAuth.Proofs.Curve.Key
import DeviceAuth.Proofs.Curve.Ecdsa
import DeviceAuth.Proofs.Session.Atomicity
import DeviceAuth.Proofs.Session.Counter
import DeviceAuth.Proofs.Session.Agreement
import DeviceAuth.Proofs.Record.Canonical
import DeviceAuth.Proofs.Session.Storage
import DeviceAuth.Proofs.Session.Blocked
import DeviceAuth.Proofs.Session.Recovery
import DeviceAuth.Proofs.Session.Remembered
import DeviceAuth.Proofs.Session.Phases
import DeviceAuth.Proofs.Session.Identity
import DeviceAuth.Proofs.Vault
import DeviceAuth.Proofs.Envelope.Sealing
import DeviceAuth.Proofs.Envelope.Channel
import DeviceAuth.Proofs.Envelope.Legs
import DeviceAuth.Proofs.Envelope.Cuts
import DeviceAuth.Proofs.Request
import DeviceAuth.Proofs.Text.Canonical
import DeviceAuth.Proofs.Code.Grammar
import DeviceAuth.Proofs.Checksum
import DeviceAuth.Proofs.Code.Mistyped
import DeviceAuth.Proofs.Checks
import DeviceAuth.Proofs.Session.Faults
import DeviceAuth.Proofs.Session.ErrorOrder
import DeviceAuth.Proofs.Session.Parallel
import DeviceAuth.Proofs.Session.External
import DeviceAuth.Proofs.Envelope.Scopes
import DeviceAuth.Proofs.Token.Stores
import DeviceAuth.Proofs.Json.Forms
import DeviceAuth.Proofs.Text.Quoted
import DeviceAuth.Proofs.Description.Secrets
import DeviceAuth.Proofs.Description.Runs
import DeviceAuth.Proofs.Description.Exposure
import DeviceAuth.Proofs.Cipher.Inverse
import DeviceAuth.Proofs.KeyWrap.Canonical
import DeviceAuth.Proofs.Envelope.Opening
import DeviceAuth.Proofs.Status
import DeviceAuth.Proofs.Signature
import DeviceAuth.Proofs.Session.Signing
import DeviceAuth.Proofs.Signature.Layers
import DeviceAuth.Proofs.Session.Upgrade
import DeviceAuth.Proofs.Session.Offline
import DeviceAuth.Proofs.Session.SecondFactor
import DeviceAuth.Proofs.Text.Base64
import DeviceAuth.Proofs.Code.Typing
import DeviceAuth.Proofs.Envelope.Wire
import DeviceAuth.Proofs.Code.Signed
import DeviceAuth.Proofs.Cipher.Messages
import DeviceAuth.Proofs.Kdf.Stretching
import DeviceAuth.Proofs.Session.KeysApart
import DeviceAuth.Proofs.Signature.Header
