import BambuBabu.Storage.Txn
import BambuBabu.Storage.Interleave
import BambuBabu.Storage.Rely
import BambuBabu.Runs.Machine
import BambuBabu.Db.Models
import BambuBabu.Core.Config
import BambuBabu.Db.Crud
import BambuBabu.Core.Complexity
import BambuBabu.Core.Slicer
import BambuBabu.Core.Printer
import BambuBabu.Core.PrinterManager
import BambuBabu.Core.QueueProcessor
import BambuBabu.Api.Printers
import BambuBabu.Api.Jobs
import BambuBabu.Floor.Moves
import BambuBabu.Floor.Commits
import BambuBabu.Service.State
import BambuBabu.Service.Step
import BambuBabu.Service.Requests
import BambuBabu.Service.Trans
import BambuBabu.Service.Views
import BambuBabu.Service.Workers
import BambuBabu.Service.Live
import BambuBabu.Service.Threads
import BambuBabu.Correctness.SingleStart
import BambuBabu.Correctness.SlotExclusivity
import BambuBabu.Correctness.StuckSlot
import BambuBabu.Live.Client
import BambuBabu.Live.StartCall
import BambuBabu.Correctness.Interlock
import BambuBabu.Correctness.DispatchGate
import BambuBabu.Correctness.PhantomPrint
import BambuBabu.Correctness.StaleFinish
import BambuBabu.Correctness.RightFile
import BambuBabu.Correctness.StartRace
import BambuBabu.Correctness.AmbiguousStart
import BambuBabu.Correctness.RestartRecovery
import BambuBabu.Correctness.Lifecycle
import BambuBabu.Correctness.AuditTrail
import BambuBabu.Correctness.Progress
import BambuBabu.Floor.Drafts
import BambuBabu.Floor.Requests
import BambuBabu.Correctness.PlateRace
import BambuBabu.Correctness.BlockedPlate
import BambuBabu.Correctness.NoSteal
import BambuBabu.Floor.Active
import BambuBabu.Floor.Ended
import BambuBabu.Api.Uploads
import BambuBabu.Service.Intake
import BambuBabu.Correctness.ActiveQuota
import BambuBabu.Service.SlicingPool
import BambuBabu.Service.Stock
import BambuBabu.Service.Deployment
import BambuBabu.Correctness.MockSeparation
import BambuBabu.Correctness.NoLostWork
import BambuBabu.Live.Client
import BambuBabu.Live.StartCall
import BambuBabu.Live.Transport
import BambuBabu.Correctness.StartConfirmation
import BambuBabu.Correctness.FailedWindow
import BambuBabu.Correctness.FreshReadiness
import BambuBabu.Correctness.ReplacedClient
import BambuBabu.Core.Json
import BambuBabu.Live.Messages
import BambuBabu.Correctness.MalformedReports
import BambuBabu.Runs.Code
import BambuBabu.Storage.Files
import BambuBabu.Api.UploadJob
import BambuBabu.Api.Paths
import BambuBabu.Api.UploadStream
import BambuBabu.Api.UploadEnds
import BambuBabu.Correctness.UploadAtomicity
import BambuBabu.Service.Storeroom
import BambuBabu.Correctness.StorageQuota
import BambuBabu.Service.FallbackCall
import BambuBabu.Correctness.FallbackReservation
import BambuBabu.Floor.Plans
import BambuBabu.Floor.Writes
import BambuBabu.Correctness.FailedFallback
import BambuBabu.Service.FileNames
import BambuBabu.Core.Maintenance
import BambuBabu.Correctness.Retention
import BambuBabu.Correctness.Routing
import BambuBabu.Storage.Rotation
import BambuBabu.Core.Stamps
import BambuBabu.Db.Session
import BambuBabu.Correctness.BackupRotation
import BambuBabu.Text.CurlConfig
import BambuBabu.Core.Credentials
import BambuBabu.Core.Ftps
import BambuBabu.Correctness.CurlCredential
import BambuBabu.Text.Words
import BambuBabu.Correctness.SingleLine
import BambuBabu.Text.Regex
import BambuBabu.Core.Estimates
import BambuBabu.Correctness.Estimates
import BambuBabu.Text.Html
import BambuBabu.Email.Mailer
import BambuBabu.Correctness.MailContent
import BambuBabu.Floor.Chronicle
import BambuBabu.Correctness.EventLog
import BambuBabu.Service.Mailing
import BambuBabu.Correctness.LifecycleMail
import BambuBabu.Storage.Image
import BambuBabu.Api.Responses
import BambuBabu.Service.Redacted
import BambuBabu.Correctness.Privacy
import BambuBabu.Runs.Tally
import BambuBabu.Service.Scheduling
import BambuBabu.Correctness.DispatchOrder
import BambuBabu.Correctness.WayOut
import BambuBabu.Runs.Refinement
import BambuBabu.Floor.Shop
import BambuBabu.Correctness.PrintShop
import BambuBabu.Frontend.App
import BambuBabu.Correctness.Dashboard
import BambuBabu.Correctness.Admission
