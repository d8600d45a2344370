import BitMesh.Channels.AnnouncedKey
import BitMesh.Channels.RecordedPayments
import BitMesh.Channels.OpenChannels
import BitMesh.Channels.RefundTimes
import BitMesh.Channels.Handshake
import BitMesh.Channels.Handlers
import BitMesh.Channels.Funding
import BitMesh.Sentry.Sessions
import BitMesh.Sentry.Standing
import BitMesh.Sentry.Portal
import BitMesh.Sentry.Service
import BitMesh.Sentry.Grace
import BitMesh.Sentry.Sockets
import BitMesh.Releases.Versioning
import BitMesh.Statistics.Sending
import BitMesh.Server.Prices
import BitMesh.Channels.SavedChannels
import BitMesh.Channels.Credit
import BitMesh.Channels.Restart
import BitMesh.Channels.Persistence
import BitMesh.WebClient.Consumer
import BitMesh.Channels.ClientState
import BitMesh.Channels.ClientPayments
import BitMesh.Channels.Rejections
import BitMesh.Channels.Declining
import BitMesh.WebClient.Escrow
import BitMesh.WebClient.Amounts
import BitMesh.WebClient.Silence
import BitMesh.Updater.Updating
import BitMesh.Utilities.Tokens
import BitMesh.Server.Watching
import BitMesh.Server.Dashboard
import BitMesh.Server.Metering
import BitMesh.Server.CashOut
import BitMesh.Channels.Routing
import BitMesh.WebClient.Mobile
import BitMesh.WebClient.LockTimes
import BitMesh.WebClient.MobileTimers
import BitMesh.CloudServer.Reading
import BitMesh.CloudServer.Posting
import BitMesh.Channels.Expiry
import BitMesh.Channels.ClientConnections
import BitMesh.DataCollection.Answers
import BitMesh.DataCollection.Counting
import BitMesh.Transport.Micropayments
