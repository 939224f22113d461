import ConfigLayers.Catalog.Basic
import ConfigLayers.Catalog.Configured
import ConfigLayers.Credential.Provider
import ConfigLayers.Credential.Scheme
import ConfigLayers.DefaultResources
import ConfigLayers.Deprecation
import ConfigLayers.Document.Declared
import ConfigLayers.Document.Loader
import ConfigLayers.Document.Source
import ConfigLayers.Duration
import ConfigLayers.Endpoint
import ConfigLayers.Error
import ConfigLayers.Json.Basic
import ConfigLayers.Json.Printer
import ConfigLayers.Json.Quoted
import ConfigLayers.Json.Reader
import ConfigLayers.KnownType
import ConfigLayers.Notice
import ConfigLayers.Number.Binary64
import ConfigLayers.Number.Decimal
import ConfigLayers.Number.Integer
import ConfigLayers.Pattern.CharSet
import ConfigLayers.Pattern.Matcher
import ConfigLayers.Pattern.Parser
import ConfigLayers.Pattern.Syntax
import ConfigLayers.Proofs.Deprecation
import ConfigLayers.Proofs.Document.Elements
import ConfigLayers.Proofs.Document.Notices
import ConfigLayers.Proofs.Document.Reread
import ConfigLayers.Proofs.Document.Splicing
import ConfigLayers.Proofs.Document.Walk
import ConfigLayers.Proofs.Store.Atomicity
import ConfigLayers.Proofs.Store.Finality
import ConfigLayers.Proofs.Store.Fresh
import ConfigLayers.Proofs.Store.Interleaving
import ConfigLayers.Proofs.Store.Layering
import ConfigLayers.Proofs.Store.Meaning
import ConfigLayers.Proofs.Store.Operations
import ConfigLayers.Proofs.Store.Overlay
import ConfigLayers.Proofs.Store.Overrides
import ConfigLayers.Proofs.Store.Provenance
import ConfigLayers.Proofs.Store.Rebuild
import ConfigLayers.Proofs.Store.Redirection
import ConfigLayers.Proofs.Store.Resaving
import ConfigLayers.Proofs.Store.RoundTrip
import ConfigLayers.Proofs.Store.Secrecy
import ConfigLayers.Proofs.Store.Selected
import ConfigLayers.Proofs.Store.Setting
import ConfigLayers.Proofs.Substitution.Depth
import ConfigLayers.Proofs.Substitution.FixedPoint
import ConfigLayers.Proofs.Text.Blank
import ConfigLayers.Proofs.Text.Utf8
import ConfigLayers.Proofs.Xml.Reading
import ConfigLayers.Proofs.Xml.Reread
import ConfigLayers.Proofs.Xml.Written
import ConfigLayers.Range
import ConfigLayers.Redaction
import ConfigLayers.Resolver
import ConfigLayers.Resource
import ConfigLayers.Session
import ConfigLayers.Store.Basic
import ConfigLayers.Store.Dump
import ConfigLayers.Store.Layer
import ConfigLayers.Store.Load
import ConfigLayers.Store.Password
import ConfigLayers.Store.Read
import ConfigLayers.Store.Typed
import ConfigLayers.Store.Write
import ConfigLayers.Substitution
import ConfigLayers.Table
import ConfigLayers.Text.Blank
import ConfigLayers.Text.Case
import ConfigLayers.Text.CaseTable
import ConfigLayers.Text.CodeRanges
import ConfigLayers.Text.Digit
import ConfigLayers.Text.Printable
import ConfigLayers.Text.Quoted
import ConfigLayers.Text.Utf8
import ConfigLayers.Text.Word
import ConfigLayers.Traced
import ConfigLayers.Url
import ConfigLayers.Value
import ConfigLayers.World.Basic
import ConfigLayers.World.FileTree
import ConfigLayers.World.Path
import ConfigLayers.Xml.Basic
import ConfigLayers.Xml.Declarations
import ConfigLayers.Xml.Encoding
import ConfigLayers.Xml.Parser
import ConfigLayers.Xml.Printer
import ConfigLayers.Xml.Scan
import ConfigLayers.Yaml.Printer
import ConfigLayers.Yaml.Scalar
import ConfigLayers.Proofs.Document.Faults
import ConfigLayers.Proofs.Document.Nesting
import ConfigLayers.Proofs.Document.Ending
import ConfigLayers.Proofs.Document.Agreement
import ConfigLayers.Proofs.Table
import ConfigLayers.Proofs.Json.Reread
import ConfigLayers.Proofs.World.Replacing
import ConfigLayers.Proofs.Credential.Buffer
import ConfigLayers.Proofs.Credential.Reading
import ConfigLayers.Proofs.Store.Password
import ConfigLayers.Proofs.Document.Missing
import ConfigLayers.Proofs.Store.Defaults
import ConfigLayers.Proofs.Catalog.Items
import ConfigLayers.Proofs.Catalog.Configured
import ConfigLayers.Proofs.Store.Reapplying
import ConfigLayers.Proofs.Range.Iteration
import ConfigLayers.Proofs.Text.Split
import ConfigLayers.Proofs.Text.Digit
import ConfigLayers.Proofs.Range.Items
import ConfigLayers.Proofs.Number.Integer
import ConfigLayers.Proofs.Text.Case
import ConfigLayers.Proofs.Duration
import ConfigLayers.Proofs.Value.Suffix
import ConfigLayers.Proofs.Number.Digits
import ConfigLayers.Proofs.Range.Reread
import ConfigLayers.Proofs.Substitution.Lookups
import ConfigLayers.Proofs.Store.Record
import ConfigLayers.Proofs.Number.Numeral
import ConfigLayers.Proofs.Value.Integer
import ConfigLayers.Proofs.Text.Lower
import ConfigLayers.Proofs.Store.Duration
import ConfigLayers.Proofs.Refusal
import ConfigLayers.Proofs.Endpoint
import ConfigLayers.Proofs.Substitution.Limit
import ConfigLayers.Proofs.Catalog.Order
import ConfigLayers.Proofs.Session
