import SiteGate.CommandLine.Server
import SiteGate.Config.Snapshot.Json
import SiteGate.Host
import SiteGate.Http.Service
import SiteGate.Main
import SiteGate.Proofs.Config.Belief
import SiteGate.Proofs.Config.Update
import SiteGate.Proofs.Store.Provenance
import SiteGate.Proofs.Store.Site
import SiteGate.StopSignal
import SiteGate.Proofs.Config.SameFolding
import SiteGate.Proofs.Text.LowercaseStable
import SiteGate.Proofs.Config.Entries
import SiteGate.Proofs.Config.Frame
import SiteGate.Proofs.Config.DataEntry
import SiteGate.Proofs.Store.Countdowns
import SiteGate.Proofs.Store.SiteCountdowns
import SiteGate.Proofs.Site.OnTime
import SiteGate.Proofs.Site.Crew
import SiteGate.Proofs.Site.SiteCrew
import SiteGate.Proofs.Site.Attempts
import SiteGate.Proofs.Site.Failures
import SiteGate.Proofs.Text.Utf8
import SiteGate.Proofs.Config.InStep
import SiteGate.Proofs.Config.Assignment
import SiteGate.Proofs.Config.AnyOrder
import SiteGate.Proofs.Store.Update
import SiteGate.Proofs.Site.Repeated
import SiteGate.Proofs.Site.FailedUpdate
import SiteGate.Proofs.Gate.Stages
import SiteGate.Proofs.Gate.Conditional
import SiteGate.Proofs.Gate.Redirect
import SiteGate.Proofs.Http.BlockedList
import SiteGate.Proofs.Http.Guard
import SiteGate.Proofs.Files.Below
import SiteGate.Proofs.Http.StaticFiles
import SiteGate.Proofs.Http.ListedFiles
import SiteGate.Proofs.Store.BannerCount
import SiteGate.Proofs.Json.ReadBack
import SiteGate.Proofs.Config.SnapshotJson
import SiteGate.Proofs.Config.ReadableBrackets
import SiteGate.Proofs.Files.Extends
import SiteGate.Proofs.Config.Setup
import SiteGate.Proofs.CommandLine.Asking
import SiteGate.Proofs.CommandLine.Check
import SiteGate.Proofs.Gate.Pipeline
import SiteGate.Proofs.Gate.Search
import SiteGate.Proofs.Gate.Spelling
import SiteGate.Proofs.Json.Comments
import SiteGate.Proofs.Json.Elements
import SiteGate.Proofs.Config.RuleList
import SiteGate.Proofs.Config.Retouch
import SiteGate.Proofs.Config.BlockOrder
import SiteGate.Proofs.StopSignal
import SiteGate.Proofs.Config.WellFormed
import SiteGate.Proofs.Config.OneLineEdit
import SiteGate.Proofs.Site.Gating
import SiteGate.Proofs.Site.UnmatchedUpdate
import SiteGate.Proofs.Banner.Countdown
import SiteGate.Proofs.Config.ForwardText
import SiteGate.Proofs.Http.PeerAddress
import SiteGate.Proofs.Files.Added
import SiteGate.Proofs.Config.Additions
import SiteGate.Proofs.Site.Opening
