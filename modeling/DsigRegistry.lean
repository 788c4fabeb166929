import DsigRegistry.Algorithm
import DsigRegistry.AlgorithmRegistry.Basic
import DsigRegistry.AlgorithmRegistry.Bootstrap
import DsigRegistry.Base64
import DsigRegistry.Bootstrap.BundledDocument
import DsigRegistry.Bootstrap.Defaults
import DsigRegistry.Bootstrap.Options
import DsigRegistry.Bootstrap.Provider
import DsigRegistry.Bootstrap.Report
import DsigRegistry.Catalog.Basic
import DsigRegistry.Catalog.Builtin
import DsigRegistry.Category
import DsigRegistry.Configuration
import DsigRegistry.Dictionary
import DsigRegistry.Digest
import DsigRegistry.Digest.Md5
import DsigRegistry.Digest.Ripemd160
import DsigRegistry.Digest.Sha1
import DsigRegistry.Digest.Sha2
import DsigRegistry.Digest.Word
import DsigRegistry.Error
import DsigRegistry.FileSystem
import DsigRegistry.Implementation
import DsigRegistry.ImplementationId
import DsigRegistry.Journal
import DsigRegistry.Key.Basic
import DsigRegistry.Key.Resolver
import DsigRegistry.Namespace
import DsigRegistry.PrefixTable
import DsigRegistry.RegistrationError
import DsigRegistry.Registry
import DsigRegistry.Resolution
import DsigRegistry.Resource.Basic
import DsigRegistry.Resource.LocalFile
import DsigRegistry.Signature.Basic
import DsigRegistry.Signature.Policy
import DsigRegistry.Stub
import DsigRegistry.Text.Blank
import DsigRegistry.Text.Quoted
import DsigRegistry.Text.Split
import DsigRegistry.Text.Utf8
import DsigRegistry.Transform.Base64
import DsigRegistry.Transform.Basic
import DsigRegistry.Transform.Canonicalization
import DsigRegistry.Transform.Pipeline
import DsigRegistry.Unicode.CombiningClass
import DsigRegistry.Unicode.Composite
import DsigRegistry.Unicode.Direction
import DsigRegistry.Unicode.Joining
import DsigRegistry.Unicode.Mark
import DsigRegistry.Unicode.Normalization
import DsigRegistry.Unicode.Visible
import DsigRegistry.Url.Basic
import DsigRegistry.Url.DomainMapping
import DsigRegistry.Url.DomainName
import DsigRegistry.Url.FilePath
import DsigRegistry.Url.Host
import DsigRegistry.Url.Parser
import DsigRegistry.Url.Percent
import DsigRegistry.Url.Punycode
import DsigRegistry.Xml.Document
import DsigRegistry.Xml.Markup
import DsigRegistry.Xml.Reference
import DsigRegistry.Xml.Scope
import DsigRegistry.Proofs.Traced
import DsigRegistry.Proofs.Bootstrap
import DsigRegistry.Proofs.Call
import DsigRegistry.Proofs.Lifecycle
import DsigRegistry.Proofs.Application
import DsigRegistry.Proofs.Gate
import DsigRegistry.Proofs.Isolation
import DsigRegistry.Proofs.History
import DsigRegistry.Proofs.Chain
import DsigRegistry.Proofs.Reach
import DsigRegistry.Proofs.OwnName
import DsigRegistry.Proofs.LocalFile
import DsigRegistry.Proofs.Pipeline
import DsigRegistry.Proofs.Hmac
import DsigRegistry.Proofs.Blank
import DsigRegistry.Proofs.Accounting
import DsigRegistry.Proofs.SectionOrder
import DsigRegistry.Proofs.Verdict
import DsigRegistry.Proofs.Serialization
import DsigRegistry.Proofs.Log
import DsigRegistry.Proofs.Dispatch
import DsigRegistry.Proofs.PrefixTable
import DsigRegistry.Proofs.CatalogHistory
import DsigRegistry.Proofs.Utf8
import DsigRegistry.Proofs.Base64
import DsigRegistry.Proofs.Decoding
import DsigRegistry.Proofs.WrittenDocument
import DsigRegistry.Proofs.ReadingText
import DsigRegistry.Proofs.ReadingMarkup
import DsigRegistry.Proofs.ReadingNames
import DsigRegistry.Proofs.ReadingDocument
import DsigRegistry.Proofs.CharacterData
import DsigRegistry.Proofs.Words
import DsigRegistry.Proofs.CanonicalizationSteps
import DsigRegistry.Proofs.BlankAttributes
import DsigRegistry.Proofs.Walking
import DsigRegistry.Proofs.Segments
import DsigRegistry.Proofs.Spelling
import DsigRegistry.Proofs.AbsolutePath
import DsigRegistry.Proofs.BasePath
import DsigRegistry.Proofs.KeyLookup
import DsigRegistry.Proofs.Secrecy
import DsigRegistry.Proofs.OtherScheme
import DsigRegistry.Proofs.SameDocument
import DsigRegistry.Proofs.MissingCanonicalizer
import DsigRegistry.Proofs.BundledDocument
import DsigRegistry.Proofs.Requests
import DsigRegistry.Proofs.DefaultTables
