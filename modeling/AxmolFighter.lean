import AxmolFighter.Town.Invariant
import AxmolFighter.Gateway.Heartbeat
import AxmolFighter.Backend.Shutdown
import AxmolFighter.Town.View
import AxmolFighter.Battle.Vacancy
import AxmolFighter.Battle.Retry
import AxmolFighter.Battle.Inputs
import AxmolFighter.Gateway.Routing
import AxmolFighter.Gateway.Lifecycle
import AxmolFighter.Gateway.Relay
import AxmolFighter.Gateway.Answers
import AxmolFighter.Gateway.Membership
import AxmolFighter.Gateway.Replies
import AxmolFighter.Gateway.Bindings
import AxmolFighter.Game.Accounts
import AxmolFighter.Game.Offline
import AxmolFighter.Game.Departure
import AxmolFighter.Game.Responses
import AxmolFighter.Game.Selection
import AxmolFighter.Game.Authority
import AxmolFighter.Game.Challenges
import AxmolFighter.Game.Cached
import AxmolFighter.Game.Limit
import AxmolFighter.Game.Takeover
import AxmolFighter.Town.Delivery
import AxmolFighter.Succession
import AxmolFighter.Gateway.Registration
import AxmolFighter.Backend.GatewayClient
import AxmolFighter.Battle.BackendCodec
import AxmolFighter.Backend.Requests
import AxmolFighter.Backend.Replies
import AxmolFighter.Battle.Presence
import AxmolFighter.Wrapping
import AxmolFighter.ClientResponses
import AxmolFighter.Serials
import AxmolFighter.Battle.Callbacks
import AxmolFighter.Game.Entering
import AxmolFighter.Game.Joining
import AxmolFighter.Gateway.Exactness
import AxmolFighter.Net.EndOfStream
import AxmolFighter.RequestIds
import AxmolFighter.Battle.Configuration
import AxmolFighter.Game.Loading
import AxmolFighter.Exchange.Correlation
import AxmolFighter.Net.UdpServer
import AxmolFighter.Net.Transport
import AxmolFighter.Backend.Reconnect
import AxmolFighter.Net.Servers
import AxmolFighter.Battle.IoService
import AxmolFighter.Exchange.Order
import AxmolFighter.Exchange.Clients
import AxmolFighter.Battle.Timers
