import IsolatedSite.Main
import IsolatedSite.Proofs.Split
import IsolatedSite.Proofs.Utf8
import IsolatedSite.Proofs.Percent
import IsolatedSite.Proofs.Place
import IsolatedSite.Proofs.Components
import IsolatedSite.Proofs.Walk
import IsolatedSite.Proofs.Canonical
import IsolatedSite.Proofs.Search
import IsolatedSite.Proofs.Serving
import IsolatedSite.Proofs.Candidate
import IsolatedSite.Proofs.OwnPath
import IsolatedSite.Proofs.Confinement
import IsolatedSite.Proofs.Spelling
import IsolatedSite.Proofs.HeadOnly
import IsolatedSite.Proofs.Outline
import IsolatedSite.Proofs.Secrecy
import IsolatedSite.Proofs.HttpDate
import IsolatedSite.Proofs.Markup
import IsolatedSite.Proofs.Growth
import IsolatedSite.Proofs.AppendOnly
import IsolatedSite.Proofs.Links
import IsolatedSite.Proofs.LostLinks
import IsolatedSite.Proofs.Gate
import IsolatedSite.Proofs.Fields
import IsolatedSite.Proofs.Replies
import IsolatedSite.Proofs.Shape
import IsolatedSite.Proofs.Framing
import IsolatedSite.Proofs.Slash
import IsolatedSite.Proofs.Index
import IsolatedSite.Proofs.Location
import IsolatedSite.Proofs.Polling
import IsolatedSite.Proofs.Missing
import IsolatedSite.Proofs.Overlay
import IsolatedSite.Proofs.ContentType
import IsolatedSite.Proofs.Enumeration
import IsolatedSite.Proofs.Decimal
import IsolatedSite.Proofs.JsonText
import IsolatedSite.Proofs.JsonLine
import IsolatedSite.Proofs.TextLine
import IsolatedSite.Proofs.CombinedLine
import IsolatedSite.Proofs.LoggedSize
import IsolatedSite.Proofs.Clock
import IsolatedSite.Proofs.LastModified
import IsolatedSite.Proofs.TimeStamps
import IsolatedSite.Proofs.LostPlaces
import IsolatedSite.Proofs.Merging
import IsolatedSite.Proofs.Precedence
import IsolatedSite.Proofs.SourceLayers
import IsolatedSite.Proofs.HeaderSteps
import IsolatedSite.Proofs.ErrorPage
import IsolatedSite.Proofs.NamedRoot
import IsolatedSite.Proofs.General
