import ChatGateway.Client.Connection

/-!
The frame path. Frames are taken in one at a time, in the order of receipt; while one of them waits
or sends, no other is read. What a frame asks for is sent through the rate limit, and a frame whose
answer cannot be sent costs the connection. A frame at which a count overflows breaks off, and takes
the connection loop with it.
-/

namespace ChatGateway

/-- What is read from a connection. -/
inductive Item where
  | text (text : String)
  /-- Something else that holds no frame. -/
  | other
  | close (farewell : Option Farewell)
  /-- The connection failed or ended without a close. -/
  | lost

namespace Client

def finish (c : Client) (outcome : FrameOutcome) : Client :=
  let c := { c with framePath := .idle }.record (.answered outcome)
  match c.stage, outcome with
  | .reading, .reconnect => c.leave (.reconnect 0)
  | _, _ => c

/-- Goes on to send something. -/
def submit (c : Client) (command : Command) (purpose : Purpose) : Client :=
  { c with framePath := .sending c.clearance (.command command) purpose }

/-- How the client describes itself. -/
def properties : IdentityProperties := ⟨"linux", "EmberClient.rs", "EmberClient.rs"⟩

def identify (c : Client) (purpose : Purpose) : Client :=
  (c.enter .identifying).submit
    (.identify {
      token := c.config.token
      intents := c.config.intents
      properties
      compress := c.config.compress
      largeThreshold := c.config.largeThreshold })
    purpose

def resume (c : Client) (sessionId : String) (purpose : Purpose) : Client :=
  (c.enter .resuming).submit
    (.resume { token := c.config.token, sessionId, seq := c.session.sequence }) purpose

def hello (c : Client) (data : Json) : Client :=
  match Decoder.ofValue Hello.decode data with
  | .error _ => c.finish .reconnect
  | .ok hello =>
    let c := { c with
      session.interval := hello.heartbeatInterval, session.acked := true }.ensureHeart
    match c.session.reconnecting, c.session.sessionId with
    | true, some sessionId =>
      { c.enter .resuming with
        framePath := .grace (c.after c.config.resumeGrace.toNat) sessionId }
    | _, _ => c.identify .greeting

/-- Takes in that the session is void. If it can be taken up, that is tried at once; otherwise a new
session follows after a while. -/
def invalidate (c : Client) (resumable : Bool) : Client :=
  match resumable, c.session.sessionId with
  | true, some sessionId => c.resume sessionId .answer
  | _, _ => { c with framePath := .cooldown (c.after c.config.invalidSessionDelay.toNat) }

/-- Takes over from an event what the session has to know. -/
def keepBooks (c : Client) (name : String) (data : Json) : Client :=
  match name with
  | "READY" =>
    let sessionId := (data.get? "session_id").bind (·.string?)
    { c with session.sessionId := sessionId }.enter .ready
  | "RESUMED" => c.enter .ready
  | _ => c

def handle (c : Client) : List Event → Client
  | [] => c.finish .proceed
  | event :: rest =>
    let c := c.record (.handled event)
    match c.handlers.onEvent event with
    | some command => c.submit command (.handler rest)
    | none => c.handle rest

/-- Starts the command handler on a message. -/
def spawnReply (c : Client) (message : Message) : Client :=
  match c.handlers.onMessage with
  | none => c
  | some _ =>
    { c with
      replies := c.replies ++ [⟨c.spawned, .fresh message⟩]
      spawned := c.spawned + 1 }

/-- Breaks off the work on a frame. The connection stays as it is, but nobody reads from it. -/
def breakOff (c : Client) : Client :=
  let c := { c with framePath := .idle }.record .brokeOff
  match c.stage with
  | .reading => { c with stage := .broken, orders := [] }
  | _ => c

def dispatch (c : Client) (name : String) (data : Json) : Client :=
  if c.cache.overflows name data then c.breakOff
  else
    let (dispatcher, cache, delivery) := c.dispatcher.dispatch c.cache name data
    let c := { c with dispatcher, cache }
    let c := match delivery.command with
      | some message => c.spawnReply message
      | none => c
    c.handle delivery.events

/-- Takes in a frame. Its number counts whatever the frame holds. -/
def take (c : Client) (frame : Frame) : Client :=
  let c := { c with session := c.session.number frame.sequence }.record (.took frame)
  match frame.opcode? with
  | some .hello => c.hello frame.data
  | some .heartbeatAck => { c with session.acked := true }.finish .proceed
  | some .heartbeat => c.submit (.heartbeat c.session.sequence) .answer
  | some .reconnect => c.finish .reconnect
  | some .invalidSession => c.invalidate (frame.data.bool?.getD false)
  | some .dispatch =>
    match frame.event with
    | some name => (c.keepBooks name frame.data).dispatch name frame.data
    | none => c.finish .proceed
  | _ => c.finish .proceed

/-- Takes in what a connection gives between two frames. Texts that are no frames are skipped. -/
def receive (c : Client) (item : Item) : Client :=
  match c.stage, c.framePath with
  | .reading, .idle =>
    match item with
    | .text text =>
      match Frame.ofText text with
      | .ok frame => c.take frame
      | .error _ => c
    | .other => c
    | .close farewell =>
      (c.changeLink fun link => { link with dismissed := true }).leave
        (.ofFarewell c.config farewell)
    | .lost => c.leave (.lost c.config)
  | _, _ => c

/-- What follows on a send of the frame path. A greeting that was answered ends the reconnection. -/
def sent (c : Client) (purpose : Purpose) (result : Except ClientError Unit) : Client :=
  match purpose, result with
  | .greeting, .ok () => { c with session.reconnecting := false }.finish .proceed
  | .answer, .ok () => c.finish .proceed
  | .greeting, .error _ | .answer, .error _ => c.finish .reconnect
  | .handler rest, _ => c.handle rest

/-- Goes on with the frame that is being worked on, if its wait is over. -/
def proceed (c : Client) : Client :=
  match c.framePath with
  | .idle => c
  | .grace due sessionId => if due ≤ c.clock then c.resume sessionId .greeting else c
  | .cooldown due =>
    if due ≤ c.clock then { c with session := c.session.forget }.identify .answer else c
  | .sending due what purpose =>
    if due ≤ c.clock then
      let (c, result) := c.write purpose.writer what
      c.sent purpose result
    else c

end Client

end ChatGateway
