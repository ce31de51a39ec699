import ChatGateway.Client.Basic

/-!
Where a client connects to. The service is asked once, before the connection loop begins, and a
client that may start no session does not connect.
-/

namespace ChatGateway.Client

/-- What the address of the gateway is extended by. -/
def gatewayQuery : String := "?v=10&encoding=json"

/-- The address to connect to, if a session may be started. -/
def address (endpoint : GatewayEndpoint) : Except ClientError String :=
  if endpoint.sessionStartLimit.remaining = 0 then
    .error (.sessionStartLimit endpoint.sessionStartLimit.resetAfter)
  else .ok (endpoint.url ++ gatewayQuery)

/-- Asks the service for the address, to which it responds. -/
def locate (c : Client) (response : Option Response) : Client × Except ClientError String :=
  let pause := Call.gatewayEndpoint.pause c.limiter c.timeOfDay
  let (limiter, outcome) := Call.gatewayEndpoint.perform c.limiter c.config.token c.timeOfDay
    (c.timeOfDay + pause) response
  let c := { c with limiter, clock := c.clock + pause }
  let c := match outcome.request with
    | some request => c.record (.requested request)
    | none => c
  (c, outcome.result.bind address)

end ChatGateway.Client
