import ChatGateway.Entity.Message
import ChatGateway.Error
import ChatGateway.Http.Address
import ChatGateway.Json.Printer
import ChatGateway.Protocol.Endpoint
import ChatGateway.RateLimit.Limiter

/-!
Calls of the web interface. A call waits as long as its bucket demands, is sent once, and the
answer, whatever it is, is taken in by the limiter before it is looked at.
-/

namespace ChatGateway

structure Request where
  method : String
  url : String
  headers : List (String × String)
  body : Option String
  deriving DecidableEq, Repr

structure Response where
  status : Nat
  headers : Headers
  body : String
  deriving Repr

/-- A call and the form of the answer that it wants. -/
structure Call (α : Type) where
  method : String
  route : String
  object : Option Snowflake
  kind : BucketKind
  body : Option Json
  decode : Decoder α

namespace Call

def userAgent : String := "DiscordBot (https://github.com/ember-rs/ember, 0.1.0)"

def gatewayEndpoint : Call GatewayEndpoint :=
  ⟨"GET", "/gateway/bot", none, .global, none, GatewayEndpoint.decode⟩

def currentUser : Call User := ⟨"GET", "/users/@me", none, .global, none, User.decode⟩

def createMessage (channel : Snowflake) (content : String) : Call Message where
  method := "POST"
  route := "/channels/" ++ channel.text ++ "/messages"
  object := some channel
  kind := .channel
  body := some (.object [("content", .string content)])
  decode := Message.decode

variable {α : Type}

/-- Whether a text can be the value of a header. -/
def headerSafe (text : String) : Bool :=
  text.toList.all fun c => c = '\t' || 0x20 ≤ c.toNat && c ≠ '\x7f'

/-- The request of a call; a token that no header can hold makes none. -/
def request? (call : Call α) (token : String) : Option Request :=
  if headerSafe token then
    some {
      method := call.method
      url := Address.ofRoute call.route
      headers := ("authorization", "Bot " ++ token)
        :: (if call.body.isSome then [("content-type", "application/json")] else [])
        ++ [("user-agent", userAgent), ("x-ratelimit-precision", "millisecond")]
      body := call.body.map Json.render }
  else none

def delay (call : Call α) (limiter : RateLimiter) (now : Float) :
    Except ClientError (Option Duration) :=
  (limiter.delay call.object call.kind now).mapError .rateLimit

/-- The milliseconds that a call waits at a time of day in milliseconds. -/
def pause (call : Call α) (limiter : RateLimiter) (now : Int) : Nat :=
  match call.delay limiter (unixSeconds now) with
  | .ok wait => Duration.pause wait
  | .error _ => 0

/-- What an answer means for its call. -/
def judge (call : Call α) (response : Response) : Except ClientError α :=
  if response.status = 401 then .error (.authentication response.body)
  else if 400 ≤ response.status ∧ response.status < 600 then
    .error (.http (some response.status) false)
  else match Decoder.ofText call.decode response.body with
    | .ok a => .ok a
    | .error _ => .error (.http none true)

/-- Takes in the answer to a call, `none` when there was none. -/
def conclude (call : Call α) (limiter : RateLimiter) (now : Float) (answer : Option Response) :
    RateLimiter × Except ClientError α :=
  match answer with
  | none => (limiter, .error (.http none false))
  | some response =>
    match limiter.observe response.headers call.object call.kind now with
    | .error e => (limiter, .error (.rateLimit e))
    | .ok limiter => (limiter, call.judge response)

/-- What became of a call: how long it had to wait, what was sent, and how it ended. -/
structure Outcome (α : Type) where
  waited : Option Duration
  request : Option Request
  result : Except ClientError α

/-- Makes a call at `now`, a time of day in milliseconds. After its wait, at `later`, it is answered
by `answer`. -/
def perform (call : Call α) (limiter : RateLimiter) (token : String) (now later : Int)
    (answer : Option Response) : RateLimiter × Outcome α :=
  match call.delay limiter (unixSeconds now) with
  | .error e => (limiter, ⟨none, none, .error e⟩)
  | .ok wait =>
    match call.request? token with
    | none => (limiter, ⟨wait, none, .error (.http none false)⟩)
    | some request =>
      let (limiter, result) := call.conclude limiter (unixSeconds later) answer
      (limiter, ⟨wait, some request, result⟩)

end Call

end ChatGateway
