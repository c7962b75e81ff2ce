import ProxyProfile.Command.Arguments
import ProxyProfile.Command.Basic
import ProxyProfile.Command.Help
import ProxyProfile.Decimal.Binary64
import ProxyProfile.Decimal.Digits
import ProxyProfile.Decimal.Reading
import ProxyProfile.Decimal.Shortest
import ProxyProfile.Decimal.Width
import ProxyProfile.Error
import ProxyProfile.Json.Merge
import ProxyProfile.Json.Printer
import ProxyProfile.Json.Reader
import ProxyProfile.Json.Value
import ProxyProfile.Kernel.Dns
import ProxyProfile.Kernel.Document
import ProxyProfile.Kernel.Experimental
import ProxyProfile.Kernel.Inbounds
import ProxyProfile.Kernel.Mixin
import ProxyProfile.Kernel.Outbounds
import ProxyProfile.Kernel.Posture
import ProxyProfile.Kernel.Route
import ProxyProfile.Kernel.Rule
import ProxyProfile.Kernel.Scope
import ProxyProfile.Main
import ProxyProfile.Pattern.Basic
import ProxyProfile.Pattern.CaseOrbit
import ProxyProfile.Pattern.Category
import ProxyProfile.Pattern.Feature
import ProxyProfile.Pattern.Filter
import ProxyProfile.Pattern.Property
import ProxyProfile.Pattern.Reader
import ProxyProfile.Pattern.Runs
import ProxyProfile.Pattern.Script
import ProxyProfile.Pattern.Weight
import ProxyProfile.Plugin.Basic
import ProxyProfile.Plugin.Host
import ProxyProfile.Plugin.Registry
import ProxyProfile.Profile.Basic
import ProxyProfile.Profile.Dns
import ProxyProfile.Profile.Inbound
import ProxyProfile.Profile.Outbound
import ProxyProfile.Profile.Route
import ProxyProfile.Profile.Rule
import ProxyProfile.Proofs.Calling
import ProxyProfile.Proofs.Colliding
import ProxyProfile.Proofs.Comparison
import ProxyProfile.Proofs.Dangling
import ProxyProfile.Proofs.Delivering
import ProxyProfile.Proofs.Distinctness
import ProxyProfile.Proofs.Enforcing
import ProxyProfile.Proofs.Expansion
import ProxyProfile.Proofs.Failing
import ProxyProfile.Proofs.Firing
import ProxyProfile.Proofs.Guarding
import ProxyProfile.Proofs.Handing
import ProxyProfile.Proofs.Independence
import ProxyProfile.Proofs.Indexing
import ProxyProfile.Proofs.Ingestion
import ProxyProfile.Proofs.Listing
import ProxyProfile.Proofs.Marking
import ProxyProfile.Proofs.Mentioning
import ProxyProfile.Proofs.Merging
import ProxyProfile.Proofs.Naming
import ProxyProfile.Proofs.Overlaying
import ProxyProfile.Proofs.Picking
import ProxyProfile.Proofs.Registering
import ProxyProfile.Proofs.Renaming
import ProxyProfile.Proofs.Rereading
import ProxyProfile.Proofs.Strictness
import ProxyProfile.Proofs.Stripping
import ProxyProfile.Proofs.Tagging
import ProxyProfile.Reference
import ProxyProfile.Script.Basic
import ProxyProfile.Script.Envelope
import ProxyProfile.Script.Shell
import ProxyProfile.Settings
import ProxyProfile.Storage.Basic
import ProxyProfile.Storage.Directory
import ProxyProfile.Storage.Memory
import ProxyProfile.Store.List
import ProxyProfile.Store.Subscriptions
import ProxyProfile.Subscription.Basic
import ProxyProfile.Subscription.Body
import ProxyProfile.Subscription.Index
import ProxyProfile.Subscription.Selection
import ProxyProfile.Subscription.Update
import ProxyProfile.Text.Base64
import ProxyProfile.Text.Blank
import ProxyProfile.Text.Utf8
import ProxyProfile.Toml.Date
import ProxyProfile.Toml.Reader
import ProxyProfile.Toml.Text
import ProxyProfile.Tree
import ProxyProfile.Yaml.Event
import ProxyProfile.Yaml.Place
import ProxyProfile.Yaml.Reader
import ProxyProfile.Yaml.Scalar
import ProxyProfile.Yaml.Token
import ProxyProfile.Yaml.Token.Lexer
import ProxyProfile.Yaml.Token.Mark
import ProxyProfile.Yaml.Token.Scalar
import ProxyProfile.Yaml.Writer
import ProxyProfile.Proofs.Abstaining
import ProxyProfile.Proofs.Bracketing
import ProxyProfile.Proofs.Following
import ProxyProfile.Proofs.Sequencing
import ProxyProfile.Proofs.Encoding
import ProxyProfile.Proofs.Detecting
import ProxyProfile.Proofs.Rephrasing
import ProxyProfile.Proofs.Surviving
import ProxyProfile.Proofs.Saving
import ProxyProfile.Proofs.Overruling
import ProxyProfile.Proofs.Filing
import ProxyProfile.Proofs.Scripting
import ProxyProfile.Proofs.Renewing
import ProxyProfile.Proofs.Selecting
import ProxyProfile.Proofs.Padding
import ProxyProfile.Proofs.Relocating
import ProxyProfile.Proofs.Placing
import ProxyProfile.Proofs.Itemizing
import ProxyProfile.Proofs.Spelling
import ProxyProfile.Proofs.Deriving
import ProxyProfile.Proofs.Decoding
import ProxyProfile.Proofs.Answering
import ProxyProfile.Proofs.Leading
import ProxyProfile.Proofs.Climbing
import ProxyProfile.Proofs.Fetching
import ProxyProfile.Proofs.Searching
