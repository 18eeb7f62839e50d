import IdentitySync.Desk.Connector
import IdentitySync.Proofs.Json.Members
import IdentitySync.Proofs.Text.Numeral
import IdentitySync.Proofs.Json.Scalar
import IdentitySync.Proofs.Json.Scan
import IdentitySync.Proofs.Json.Tagged
import IdentitySync.Proofs.Json.Sorted
import IdentitySync.Proofs.Paging.PageToken
import IdentitySync.Proofs.Desk.Answer
import IdentitySync.Proofs.Desk.Record
import IdentitySync.Proofs.Desk.Walk
import IdentitySync.Proofs.Desk.PageWalk
import IdentitySync.Proofs.Desk.AccessCall
import IdentitySync.Proofs.Desk.MemberChanges
import IdentitySync.Proofs.Desk.RacingChanges
import IdentitySync.Proofs.Desk.RoleScan
import IdentitySync.Proofs.Desk.CallLog
import IdentitySync.Proofs.Desk.RetrySafety
import IdentitySync.Proofs.Desk.WriteDiscipline
import IdentitySync.Proofs.Desk.MemberPages
import IdentitySync.Proofs.Desk.RequesterChanges
import IdentitySync.Proofs.Desk.RoleChanges
import IdentitySync.Proofs.Desk.SyncToken
import IdentitySync.Proofs.Url.Hosted
import IdentitySync.Proofs.Collection.KeyedMap
import IdentitySync.Proofs.Desk.Addressing
import IdentitySync.Proofs.Desk.PlacedFields
import IdentitySync.Proofs.Desk.TicketCreation
import IdentitySync.Proofs.Desk.WalkEnds
import IdentitySync.Proofs.Time.Calendar
import IdentitySync.Proofs.Desk.OverlongDelay
import IdentitySync.Proofs.Desk.OwnKind
import IdentitySync.Proofs.Desk.CatalogWalk
import IdentitySync.Proofs.Json.Exact
import IdentitySync.Proofs.Access.Forms
import IdentitySync.Proofs.Json.Stable
import IdentitySync.Proofs.Desk.Settled
import IdentitySync.Proofs.Desk.GrantIds
import IdentitySync.Proofs.Http.LinkHeader
import IdentitySync.Proofs.Desk.Validation
import IdentitySync.Proofs.Ticket.Check
import IdentitySync.Proofs.Desk.DeclaredFields
import IdentitySync.Proofs.Json.OpenPart
import IdentitySync.Proofs.Desk.LenientFields
import IdentitySync.Proofs.Desk.UserImage
import IdentitySync.Proofs.Desk.DefaultReporter
import IdentitySync.Proofs.Desk.FillableForms
import IdentitySync.Proofs.Url.Punycode
import IdentitySync.Proofs.Url.AsciiName
import IdentitySync.Proofs.Url.Continued
import IdentitySync.Proofs.Url.Path
import IdentitySync.Proofs.Url.BaseAddress
import IdentitySync.Proofs.Desk.Subdomain
import IdentitySync.Proofs.Desk.EndpointAddress
import IdentitySync.Proofs.Desk.Acceptance
import IdentitySync.Proofs.Http.QuotaReport
import IdentitySync.Proofs.Ticket.InTurn
import IdentitySync.Proofs.Desk.MemberScan
