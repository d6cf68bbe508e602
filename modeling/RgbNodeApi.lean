import RgbNodeApi.Lib.Files
import RgbNodeApi.Lib.Footprint
import RgbNodeApi.Lib.Text
import RgbNodeApi.Lib.History
import RgbNodeApi.Errors
import RgbNodeApi.ApiErrors
import RgbNodeApi.Config
import RgbNodeApi.Models
import RgbNodeApi.Deps
import RgbNodeApi.State
import RgbNodeApi.WalletCmd
import RgbNodeApi.WalletThread
import RgbNodeApi.Registry
import RgbNodeApi.Consignment
import RgbNodeApi.TxidSpelling
import RgbNodeApi.Lib.Unwinding
import RgbNodeApi.WalletFootprint
import RgbNodeApi.Isolation
import RgbNodeApi.Backups
import RgbNodeApi.Lib.Actor
import RgbNodeApi.Lib.ActorLaws
import RgbNodeApi.Lib.ActorSessions
import RgbNodeApi.Lib.ActorViews
import RgbNodeApi.Context
import RgbNodeApi.NodeApi
import RgbNodeApi.Service
import RgbNodeApi.Startup
import RgbNodeApi.Replies
import RgbNodeApi.Lib.ActorRuns
import RgbNodeApi.HttpSessions
import RgbNodeApi.Provenance
import RgbNodeApi.Rounds
import RgbNodeApi.KeyBinding
import RgbNodeApi.DeadThread
import RgbNodeApi.KeyHolder
import RgbNodeApi.Spelling
import RgbNodeApi.Expiration
import RgbNodeApi.Lib.Machine
import RgbNodeApi.Lib.Windows
import RgbNodeApi.Lib.Decimal
import RgbNodeApi.Lib.Duration
import RgbNodeApi.Pages
import RgbNodeApi.DurationStr
import RgbNodeApi.Accounts
import RgbNodeApi.Lib.ActorOrder
import RgbNodeApi.Lib.ActorProgress
import RgbNodeApi.Lifecycle
import RgbNodeApi.Custody
import RgbNodeApi.Released
import RgbNodeApi.Encodings
import RgbNodeApi.Envelope
import RgbNodeApi.Responses
