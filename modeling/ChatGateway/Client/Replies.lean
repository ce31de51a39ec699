import ChatGateway.Client.Frames

/-!
Work beside the frame path: the sends of callers, and the command handler, which runs once for each
message that is created, answers it from the cache as it is by then, and does not look at what
becomes of its answer.
-/

namespace ChatGateway.Client

def send (c : Client) (what : Outgoing) : Client :=
  { c with
    sends := c.sends ++ [⟨c.spawned, c.clearance, what⟩]
    spawned := c.spawned + 1 }

def complete (c : Client) (id : Nat) : Client :=
  match c.sends.find? fun send => send.id = id with
  | none => c
  | some send =>
    if send.due ≤ c.clock then
      let c := { c with sends := c.sends.filter fun send => send.id ≠ id }
      let (c, result) := c.write .caller send.what
      c.record (.returned id result)
    else c

def returned? (c : Client) (id : Nat) : Option (Except ClientError Unit) :=
  c.log.findSome? fun entry =>
    match entry.what with
    | .returned send result => if send = id then some result else none
    | _ => none

def reply? (c : Client) (id : Nat) : Option Reply := c.replies.find? fun reply => reply.id = id

def endReply (c : Client) (id : Nat) : Client :=
  { c with replies := c.replies.filter fun reply => reply.id ≠ id }

/-- Runs the command handler on its message. An answer waits for the rate limit of the channel. -/
def runReply (c : Client) (id : Nat) : Client :=
  match c.reply? id with
  | some ⟨_, .fresh message⟩ =>
    let c := c.record (.commanded message)
    match c.handlers.onMessage.bind fun handler => handler c.cache message with
    | none => c.endReply id
    | some content =>
      let call := Call.createMessage message.channelId content
      match call.delay c.limiter (unixSeconds c.timeOfDay) with
      | .error _ => c.endReply id
      | .ok wait =>
        let due := c.clock + Duration.pause wait
        { c with replies := c.replies.map fun reply =>
            if reply.id = id then { reply with stage := .calling due call } else reply }
  | _ => c

/-- Sends the answer of the command handler, to which the service responds, if its wait is over. -/
def respond (c : Client) (id : Nat) (response : Option Response) : Client :=
  match c.reply? id with
  | some ⟨_, .calling due call⟩ =>
    if due ≤ c.clock then
      let c := c.endReply id
      match call.request? c.config.token with
      | none => c
      | some request =>
        let c := c.record (.requested request)
        { c with limiter := (call.conclude c.limiter (unixSeconds c.timeOfDay) response).1 }
    else c
  | _ => c

end ChatGateway.Client
