import RequestParams.Binary64.Basic
import RequestParams.Binary64.Decimal
import RequestParams.Binary64.Numeral
import RequestParams.Binary64.Scaled
import RequestParams.ByName
import RequestParams.Declaration.Basic
import RequestParams.Declaration.Compile
import RequestParams.Declaration.Shorthand
import RequestParams.Endpoint.Basic
import RequestParams.Endpoint.Documentation
import RequestParams.Endpoint.Outcome
import RequestParams.Endpoint.Plan
import RequestParams.Endpoint.Settings
import RequestParams.Endpoint.Verification
import RequestParams.Event
import RequestParams.Failure
import RequestParams.Json.Basic
import RequestParams.Json.Mismatch
import RequestParams.Json.Reader
import RequestParams.Json.Record
import RequestParams.Parameter
import RequestParams.Path
import RequestParams.Reply
import RequestParams.Request.Bag
import RequestParams.Request.Basic
import RequestParams.Request.Query
import RequestParams.Roster
import RequestParams.Router.Basic
import RequestParams.Router.History
import RequestParams.Router.Sample
import RequestParams.Router.Table
import RequestParams.Rule
import RequestParams.Text.Blank
import RequestParams.Text.Hidden
import RequestParams.Text.Quoted
import RequestParams.Text.Run
import RequestParams.Text.Utf8
import RequestParams.Value.Basic
import RequestParams.Value.Json
import RequestParams.Value.Reading
import RequestParams.Proofs.Gathering
import RequestParams.Proofs.Compiling
import RequestParams.Proofs.Shorthand
import RequestParams.Proofs.Numbers
import RequestParams.Proofs.Defaults
import RequestParams.Proofs.JsonScalars
import RequestParams.Proofs.JsonText
import RequestParams.Proofs.Members
import RequestParams.Proofs.Merging
import RequestParams.Proofs.Verification
import RequestParams.Proofs.Outcome
import RequestParams.Proofs.Dispatching
import RequestParams.Proofs.RuleDocs
import RequestParams.Proofs.Republishing
import RequestParams.Proofs.Checking
import RequestParams.Proofs.Rechecking
import RequestParams.Proofs.Forms
import RequestParams.Proofs.Registering
import RequestParams.Proofs.Paths
import RequestParams.Proofs.Documenting
import RequestParams.Proofs.Influence
import RequestParams.Proofs.CentralVerification
import RequestParams.Proofs.Disclosure
import RequestParams.Proofs.Enforcement
import RequestParams.Proofs.Misdeclaring
import RequestParams.Proofs.Layering
import RequestParams.Proofs.Joining
import RequestParams.Proofs.Repeating
import RequestParams.Proofs.Integers
import RequestParams.Proofs.Filling
import RequestParams.Proofs.Utf8
import RequestParams.Proofs.QueryText
import RequestParams.Proofs.FormHistory
import RequestParams.Proofs.JsonBehind
import RequestParams.Proofs.JsonAlike
import RequestParams.Proofs.Listing
import RequestParams.Proofs.Declaring
import RequestParams.Proofs.Sharing
