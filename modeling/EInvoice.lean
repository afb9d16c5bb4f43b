import EInvoice.Failure
import EInvoice.Text.Printable
import EInvoice.Text.Quoted
import EInvoice.Text.Blank
import EInvoice.Text.Case
import EInvoice.Text.Digits
import EInvoice.Clock.Time
import EInvoice.Clock.Layout
import EInvoice.Decimal.Basic
import EInvoice.Invoice.Identifier
import EInvoice.Invoice.Fields
import EInvoice.Invoice.Totals
import EInvoice.Xml.Node
import EInvoice.Xml.Writer
import EInvoice.Invoice.Tree
import EInvoice.Invoice.Document
import EInvoice.Xml.Name
import EInvoice.Xml.Token
import EInvoice.Xml.Reader
import EInvoice.Xml.Search
import EInvoice.Invoice.Reading
import EInvoice.Invoice.Lot
import EInvoice.Text.Utf8
import EInvoice.Net.Address
import EInvoice.Net.Url
import EInvoice.Soap.Envelope
import EInvoice.Soap.Response
import EInvoice.Transport.Route
import EInvoice.Asn1.Der
import EInvoice.Crypto.Base64
import EInvoice.Crypto.Blocks
import EInvoice.Crypto.Rsa
import EInvoice.Crypto.Sha1
import EInvoice.Crypto.Sha256
import EInvoice.Net.ContentType
import EInvoice.Net.Http
import EInvoice.Pki.Certificate
import EInvoice.Pki.Name
import EInvoice.Pki.Pem
import EInvoice.Pki.PrivateKey
import EInvoice.Pki.PublicKey
import EInvoice.Security.Credential
import EInvoice.Security.Revocation
import EInvoice.Security.Signature
import EInvoice.Security.Trust
import EInvoice.Security.Validator
import EInvoice.Security.Validity
import EInvoice.Transport.Request
import EInvoice.Sorting.Quicksort
import EInvoice.Xml.Canonical
import EInvoice.Log.Level
import EInvoice.Log.Record
import EInvoice.Transport.Exchange
import EInvoice.Assembly.Qr
import EInvoice.Assembly.Assembler
import EInvoice.Archive.Crc32
import EInvoice.Archive.Inflate
import EInvoice.Archive.ZipRead
import EInvoice.Archive.Lot
import EInvoice.Archive.BitWriter
import EInvoice.Archive.ZipWrite
import EInvoice.Crypto.Sha512
import EInvoice.Crypto.Hmac
import EInvoice.Crypto.Des
import EInvoice.Crypto.Rc2
import EInvoice.Crypto.Ed25519
import EInvoice.Asn1.Schema
import EInvoice.Pki.Pkcs12
import EInvoice.Pki.Ecdsa
import EInvoice.Pki.Issuer
import EInvoice.Pki.KeyPair
import EInvoice.Keystore.Files
import EInvoice.Keystore.Bundle
import EInvoice.Yaml.Scanner
import EInvoice.Yaml.Parser
import EInvoice.Yaml.Resolve
import EInvoice.Yaml.Node
import EInvoice.Yaml.Decode
import EInvoice.Clock.Duration
import EInvoice.Config.Environment
import EInvoice.Config.Settings
import EInvoice.Sifen.Settings
import EInvoice.Sifen.Lifecycle
import EInvoice.Sifen.Basic
import EInvoice.Sifen.Metrics
import EInvoice.Sifen.Session
import EInvoice.Transport.Tls
import EInvoice.Deflate.Code
import EInvoice.Deflate.Huffman
import EInvoice.Deflate.Tokens
import EInvoice.Deflate.BlockWriter
import EInvoice.Deflate.Fast.Basic
import EInvoice.Deflate.Fast.OneTable
import EInvoice.Deflate.Fast.TwoCandidates
import EInvoice.Deflate.Fast.ShortLong
import EInvoice.Deflate.Lazy
import EInvoice.Deflate.Stream
import EInvoice.Proofs.Basic
import EInvoice.Proofs.Identifier
import EInvoice.Proofs.Signing
import EInvoice.Proofs.Lifecycle
import EInvoice.Proofs.Utf8
import EInvoice.Proofs.Base64
import EInvoice.Proofs.LotPayload
import EInvoice.Proofs.Markup
import EInvoice.Proofs.Reread
import EInvoice.Proofs.Rsa
import EInvoice.Proofs.Calendar
import EInvoice.Proofs.Prefixes
import EInvoice.Proofs.DocumentReading
import EInvoice.Proofs.Envelope
import EInvoice.Proofs.SignedRoot
import EInvoice.Proofs.Submission
import EInvoice.Proofs.Dialect
import EInvoice.Proofs.RequestValues
import EInvoice.Proofs.Metrics
import EInvoice.Proofs.Verify
import EInvoice.Proofs.SignedTrees
import EInvoice.Proofs.LotAssembly
import EInvoice.Proofs.Routing
import EInvoice.Proofs.SignEffect
import EInvoice.Proofs.DecimalValue
import EInvoice.Proofs.DecimalText
import EInvoice.Proofs.DocumentTotals
import EInvoice.Proofs.WrittenTotals
import EInvoice.Proofs.ItemLines
import EInvoice.Proofs.QrLink
import EInvoice.Proofs.ConfiguredClient
import EInvoice.Proofs.ReadTrees
import EInvoice.Proofs.PlainWriting
import EInvoice.Proofs.ResultFields
import EInvoice.Proofs.CredentialChain
import EInvoice.Proofs.TrustDecision
import EInvoice.Proofs.RevocationVerdict
import EInvoice.Proofs.RevocationCache
import EInvoice.Proofs.ExponentRange
import EInvoice.Proofs.StableWriting
import EInvoice.Proofs.VatRounding
