import Rs256Cose.Asn1.Der
import Rs256Cose.Asn1.ObjectIdentifier
import Rs256Cose.Bytes
import Rs256Cose.Cbor.ByteString
import Rs256Cose.Cbor.Head
import Rs256Cose.Cbor.Item
import Rs256Cose.CommandLine.Error
import Rs256Cose.CommandLine.Invocation
import Rs256Cose.CommandLine.Reading
import Rs256Cose.CommandLine.Word
import Rs256Cose.Commands.Inspect
import Rs256Cose.Commands.Options
import Rs256Cose.Commands.Result
import Rs256Cose.Commands.Sign
import Rs256Cose.Error
import Rs256Cose.Files.Directories
import Rs256Cose.Files.Error
import Rs256Cose.Files.Path
import Rs256Cose.Files.Tree
import Rs256Cose.Host
import Rs256Cose.KeyTool
import Rs256Cose.Keys.Error
import Rs256Cose.Keys.Library
import Rs256Cose.Keys.Private
import Rs256Cose.Keys.Public
import Rs256Cose.Keys.Reference
import Rs256Cose.Keys.Storage
import Rs256Cose.Log
import Rs256Cose.Log.Severity
import Rs256Cose.Main
import Rs256Cose.Message.Basic
import Rs256Cose.Message.Draft
import Rs256Cose.Message.ToBeSigned
import Rs256Cose.Message.Verification
import Rs256Cose.Message.Wire
import Rs256Cose.Profile
import Rs256Cose.Program
import Rs256Cose.Proofs.Asn1.Der
import Rs256Cose.Proofs.Asn1.Length
import Rs256Cose.Proofs.Buffers
import Rs256Cose.Proofs.Cbor.ByteString
import Rs256Cose.Proofs.Cbor.Checked
import Rs256Cose.Proofs.Cbor.Head
import Rs256Cose.Proofs.Cbor.Item
import Rs256Cose.Proofs.Cbor.Sequence
import Rs256Cose.Proofs.Cbor.Spelling
import Rs256Cose.Proofs.Cbor.Truncation
import Rs256Cose.Proofs.CommandLine.Invocation
import Rs256Cose.Proofs.CommandLine.Switch
import Rs256Cose.Proofs.Commands.Checking
import Rs256Cose.Proofs.Commands.Ending
import Rs256Cose.Proofs.Commands.Failure
import Rs256Cose.Proofs.Commands.Frame
import Rs256Cose.Proofs.Commands.KeyForms
import Rs256Cose.Proofs.Commands.Leftovers
import Rs256Cose.Proofs.Commands.Run
import Rs256Cose.Proofs.Commands.Sign
import Rs256Cose.Proofs.Commands.Stopping
import Rs256Cose.Proofs.Commands.Verify
import Rs256Cose.Proofs.Files.Growth
import Rs256Cose.Proofs.Files.Path
import Rs256Cose.Proofs.KeyTool
import Rs256Cose.Proofs.Keys.Export
import Rs256Cose.Proofs.Keys.Identity
import Rs256Cose.Proofs.Keys.Provision
import Rs256Cose.Proofs.Keys.Public
import Rs256Cose.Proofs.Keys.Storage
import Rs256Cose.Proofs.Message.Binding
import Rs256Cose.Proofs.Message.Decoding
import Rs256Cose.Proofs.Message.Drafting
import Rs256Cose.Proofs.Message.Rejection
import Rs256Cose.Proofs.Message.Signing
import Rs256Cose.Proofs.Message.Sizing
import Rs256Cose.Proofs.Message.ToBeSigned
import Rs256Cose.Proofs.Message.Truncation
import Rs256Cose.Proofs.Message.Validation
import Rs256Cose.Proofs.Message.Verification
import Rs256Cose.Proofs.Message.Wire
import Rs256Cose.Proofs.Message.Writing
import Rs256Cose.Proofs.Numbers
import Rs256Cose.Proofs.Places
import Rs256Cose.Proofs.Rsa.Power
import Rs256Cose.Proofs.Rsa.Primality
import Rs256Cose.Proofs.Rsa.Signature
import Rs256Cose.Proofs.Steps
import Rs256Cose.Proofs.Text.Base64
import Rs256Cose.Proofs.Text.Pem
import Rs256Cose.Rsa.Key
import Rs256Cose.Rsa.Pkcs1
import Rs256Cose.Settings.Basic
import Rs256Cose.Settings.Bindings
import Rs256Cose.Settings.Interpolation
import Rs256Cose.Sha256
import Rs256Cose.Signature
import Rs256Cose.Supplied
import Rs256Cose.Text.Base64
import Rs256Cose.Text.Blank
import Rs256Cose.Text.Digit
import Rs256Cose.Text.Pem
import Rs256Cose.Text.Printable
import Rs256Cose.Text.Quoted
import Rs256Cose.Text.UpperCase
