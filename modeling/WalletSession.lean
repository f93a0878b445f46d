import WalletSession.AccountId
import WalletSession.AddChain.Check
import WalletSession.AddChain.Parameters
import WalletSession.Address
import WalletSession.Caveat.EthAccounts
import WalletSession.Caveat.PermittedChains
import WalletSession.Caveat.Removal
import WalletSession.Caveat.Value
import WalletSession.ChainId
import WalletSession.ChainName
import WalletSession.Command.Arguments
import WalletSession.Command.Run
import WalletSession.Decimal.Shortest
import WalletSession.Eip155
import WalletSession.Emitter
import WalletSession.FilePath
import WalletSession.Json.Basic
import WalletSession.Json.Cursor
import WalletSession.Json.Decode
import WalletSession.Json.DecodeError
import WalletSession.Json.Number
import WalletSession.Json.Printer
import WalletSession.Json.Reader
import WalletSession.Json.SyntaxError
import WalletSession.Keccak
import WalletSession.KeyMap
import WalletSession.Main
import WalletSession.Numeral
import WalletSession.Permission.Basic
import WalletSession.Permission.Check
import WalletSession.Proofs.Eip155
import WalletSession.Proofs.Json.RoundTrip
import WalletSession.Proofs.KeyMap
import WalletSession.Proofs.KeyMap.Total
import WalletSession.Proofs.Numeral
import WalletSession.Proofs.Scope.Flatten
import WalletSession.Proofs.Scope.Granted
import WalletSession.Proofs.Scope.Merge
import WalletSession.Proofs.Scope.NormalForm
import WalletSession.Proofs.Scope.RoundTrip
import WalletSession.Proofs.ScopeName
import WalletSession.Proofs.Subscriptions.Lifecycle
import WalletSession.Proofs.Subscriptions.Ownership
import WalletSession.Proofs.Subscriptions.Run
import WalletSession.Proofs.Subscriptions.Step
import WalletSession.Proofs.Subscriptions.Tally
import WalletSession.Report
import WalletSession.Rpc.ErrorCode
import WalletSession.Rpc.Notification
import WalletSession.Scope.Buckets
import WalletSession.Scope.Merge
import WalletSession.Scope.Negotiation
import WalletSession.Scope.Object
import WalletSession.Scope.Support
import WalletSession.Scope.Validity
import WalletSession.ScopeInfo
import WalletSession.ScopeName
import WalletSession.Session.Request
import WalletSession.Session.ScopedProperties
import WalletSession.Settings.Basic
import WalletSession.Settings.ChainSelection
import WalletSession.Settings.Failure
import WalletSession.Settings.Layer
import WalletSession.Settings.Load
import WalletSession.Settings.Value
import WalletSession.Settings.VariableValue
import WalletSession.Subscriptions.Basic
import WalletSession.Subscriptions.Change
import WalletSession.Subscriptions.Registry
import WalletSession.Subscriptions.Routing
import WalletSession.Surroundings
import WalletSession.Text.Blank
import WalletSession.Text.Infix
import WalletSession.Text.Printable
import WalletSession.Text.Quoted
import WalletSession.Text.RangeSet
import WalletSession.Text.Split
import WalletSession.Toml.Document
import WalletSession.Toml.Scalar
import WalletSession.Toml.Scanner
import WalletSession.Web.DomainName
import WalletSession.Web.DomainTable
import WalletSession.Web.Host
import WalletSession.Web.HttpAddress
import WalletSession.Web.NormalForm
import WalletSession.Web.NormalFormTable
import WalletSession.Web.Percent
import WalletSession.Web.Punycode
import WalletSession.Proofs.ChainReading
import WalletSession.Proofs.Permission
import WalletSession.Proofs.Caveat
import WalletSession.Proofs.Subscriptions.Listeners
import WalletSession.Proofs.Subscriptions.Roster
import WalletSession.Proofs.Subscriptions.Routing
import WalletSession.Proofs.Scope.Support
import WalletSession.Proofs.Scope.Buckets
import WalletSession.Proofs.Session.Strict
import WalletSession.Proofs.Scope.MergedSupport
import WalletSession.Proofs.Subscriptions.Failures
import WalletSession.Proofs.Caveat.Removal
import WalletSession.Proofs.Identifiers
import WalletSession.Proofs.Session.RoundTrip
import WalletSession.Proofs.Permission.RoundTrip
import WalletSession.Proofs.WireTypes
import WalletSession.Proofs.Permission.Stored
import WalletSession.Proofs.Distinct
import WalletSession.Proofs.Address
import WalletSession.Proofs.Caveat.EthAccounts
import WalletSession.Proofs.Caveat.AccountRemoval
import WalletSession.Proofs.Caveat.PermittedChains
import WalletSession.Proofs.Session.ScopedProperties
import WalletSession.Proofs.Caveat.WrittenAccounts
import WalletSession.Proofs.KeyMap.Union
import WalletSession.Proofs.Scope.MergeLaws
import WalletSession.Proofs.Caveat.OwnAccounts
import WalletSession.Proofs.Caveat.Session
import WalletSession.Proofs.Json.Record
import WalletSession.Proofs.Scope.Declaration
import WalletSession.Proofs.AddChain
import WalletSession.Proofs.Session.Sanitize
import WalletSession.Proofs.Subscriptions.Attachment
import WalletSession.Proofs.Subscriptions.Teardown
import WalletSession.Proofs.Scope.Survival
import WalletSession.Proofs.Emitter
import WalletSession.Proofs.Emitter.History
import WalletSession.Proofs.Emitter.Reentry
import WalletSession.Proofs.ChainName
import WalletSession.Proofs.Settings
import WalletSession.Proofs.Text
import WalletSession.Proofs.Report
import WalletSession.Proofs.Hexadecimal
import WalletSession.Proofs.Settings.Variables
import WalletSession.Proofs.Settings.Resolution
import WalletSession.Proofs.Settings.Loading
import WalletSession.Proofs.Subscriptions.Representation
