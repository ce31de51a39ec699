import ChatGateway.Bot
import ChatGateway.Config.Settings
import ChatGateway.Proofs.RateLimit.Precedence
import ChatGateway.Simulation.Run
import ChatGateway.Proofs.Cache.MessageOrder
import ChatGateway.Proofs.Client.HeartbeatOrder
import ChatGateway.Proofs.Dispatch.ReceiptOrder
import ChatGateway.Proofs.Client.Turns
import ChatGateway.Proofs.Cache.Coherence
import ChatGateway.Proofs.Cache.Reactors
import ChatGateway.Proofs.Client.Account
import ChatGateway.Proofs.Client.Accounting
import ChatGateway.Proofs.Client.Resumption
import ChatGateway.Proofs.Client.Readiness
import ChatGateway.Proofs.Cache.MemberLookup
import ChatGateway.Proofs.Cache.Redelivery
import ChatGateway.Proofs.Dispatch.EventViews
import ChatGateway.Proofs.Dispatch.InPlace
import ChatGateway.Proofs.Client.NewSession
import ChatGateway.Proofs.Client.Waits
import ChatGateway.Proofs.Client.Shutdown
import ChatGateway.Proofs.Cache.GuildRemoval
import ChatGateway.Proofs.Dispatch.Tasks
import ChatGateway.Proofs.Decode.RoundTrip
import ChatGateway.Proofs.Protocol.Outbound
import ChatGateway.Proofs.Cache.Bystanders
import ChatGateway.Proofs.Client.Acknowledgement
import ChatGateway.Proofs.Client.Reconnection
import ChatGateway.Proofs.Client.Streams
import ChatGateway.Proofs.RateLimit.Observation
import ChatGateway.Proofs.Http.CallSequence
import ChatGateway.Proofs.Cache.ReactionCount
import ChatGateway.Proofs.Client.Hearts
import ChatGateway.Proofs.Client.Ending
import ChatGateway.Proofs.Snowflake.CreationTime
