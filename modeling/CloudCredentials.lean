import CloudCredentials.Ambient
import CloudCredentials.Client
import CloudCredentials.Connection.Document
import CloudCredentials.Connection.Registry
import CloudCredentials.Connection.Scope
import CloudCredentials.Connection.Settings
import CloudCredentials.CredentialFile
import CloudCredentials.Credentials
import CloudCredentials.Crypto.Rsa
import CloudCredentials.Crypto.Sha256
import CloudCredentials.Decimal.Binary64
import CloudCredentials.Decimal.Shortest
import CloudCredentials.Encoding.Base64
import CloudCredentials.Encoding.Der
import CloudCredentials.Encoding.Pem
import CloudCredentials.Error
import CloudCredentials.Http.Exchange
import CloudCredentials.Http.Header
import CloudCredentials.Json.Number
import CloudCredentials.Json.Reader
import CloudCredentials.Json.Token
import CloudCredentials.Json.Tree
import CloudCredentials.Json.Value
import CloudCredentials.Log.Filter
import CloudCredentials.Log.Journal
import CloudCredentials.Log.Record
import CloudCredentials.Log.Subscriber
import CloudCredentials.Log.Timestamp
import CloudCredentials.Project
import CloudCredentials.Proofs.Client.Calls
import CloudCredentials.Proofs.Client.Chains
import CloudCredentials.Proofs.Client.Headers
import CloudCredentials.Proofs.Client.Likeness
import CloudCredentials.Proofs.Connection.Absence
import CloudCredentials.Proofs.Connection.Acceptance
import CloudCredentials.Proofs.Connection.Documents
import CloudCredentials.Proofs.Connection.Extras
import CloudCredentials.Proofs.Connection.Scopes
import CloudCredentials.Proofs.Credentials.Decision
import CloudCredentials.Proofs.Credentials.Discovery
import CloudCredentials.Proofs.Credentials.Exchanges
import CloudCredentials.Proofs.Credentials.Roots
import CloudCredentials.Proofs.Credentials.Secrecy
import CloudCredentials.Proofs.Credentials.Slashes
import CloudCredentials.Proofs.Credentials.Sources
import CloudCredentials.Proofs.Credentials.TokenRequests
import CloudCredentials.Proofs.Credentials.Wire
import CloudCredentials.Proofs.Encoding.Base64
import CloudCredentials.Proofs.Guard.Acquisition
import CloudCredentials.Proofs.Guard.Handover
import CloudCredentials.Proofs.Guard.Nesting
import CloudCredentials.Proofs.Guard.Rejection
import CloudCredentials.Proofs.Http.Recording
import CloudCredentials.Proofs.Json.Contents
import CloudCredentials.Proofs.Json.Documents
import CloudCredentials.Proofs.Json.Grammar
import CloudCredentials.Proofs.Json.Integers
import CloudCredentials.Proofs.Json.Lexemes
import CloudCredentials.Proofs.Json.Numerals
import CloudCredentials.Proofs.Json.Records
import CloudCredentials.Proofs.Json.Strings
import CloudCredentials.Proofs.Json.Values
import CloudCredentials.Proofs.Log.Processes
import CloudCredentials.Proofs.Log.Settings
import CloudCredentials.Proofs.Project.Fallback
import CloudCredentials.Proofs.Resolver.Clients
import CloudCredentials.Proofs.Resolver.Runs
import CloudCredentials.Proofs.ServiceAccount.Assertions
import CloudCredentials.Proofs.ServiceAccount.Documents
import CloudCredentials.Proofs.ServiceAccount.Fields
import CloudCredentials.Proofs.ServiceAccount.LineBreaks
import CloudCredentials.Proofs.Session.Accounts
import CloudCredentials.Proofs.Session.Ledger
import CloudCredentials.Proofs.Session.Moments
import CloudCredentials.Proofs.Session.Recorded
import CloudCredentials.Proofs.Session.Snapshots
import CloudCredentials.Proofs.Text.Ends
import CloudCredentials.Proofs.Text.Lossy
import CloudCredentials.Proofs.Url.Form
import CloudCredentials.Proofs.Url.Query
import CloudCredentials.Proofs.World.Files
import CloudCredentials.Proofs.World.Likeness
import CloudCredentials.Proofs.World.Surroundings
import CloudCredentials.Resolver
import CloudCredentials.ServiceAccount.Assertion
import CloudCredentials.ServiceAccount.Exchange
import CloudCredentials.ServiceAccount.Key
import CloudCredentials.ServiceAccount.Source
import CloudCredentials.Session.Report
import CloudCredentials.Session.Run
import CloudCredentials.Session.Step
import CloudCredentials.Text.Alphanumeric
import CloudCredentials.Text.Blank
import CloudCredentials.Text.Bytes
import CloudCredentials.Text.Lowercase
import CloudCredentials.Text.Quoted
import CloudCredentials.Text.Separated
import CloudCredentials.Text.Shown
import CloudCredentials.Text.Uppercase
import CloudCredentials.Url.Address
import CloudCredentials.Url.Host
import CloudCredentials.Url.Percent
import CloudCredentials.Url.Punycode
import CloudCredentials.World.Action
import CloudCredentials.World.Environment
import CloudCredentials.World.Event
import CloudCredentials.World.FileSystem
