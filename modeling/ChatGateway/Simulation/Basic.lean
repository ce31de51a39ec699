import ChatGateway.Client.Locate
import ChatGateway.Client.Step
import ChatGateway.Protocol.Location

/-!
A client in virtual time. Time moves only when nobody has anything left to do, and then to the next
timer. A timer of virtual time, unlike a wait of a client, is over after thirty years at the latest.
The surroundings are scripted: a gateway for each connection, responses of the service, and
interventions of a user.
-/

namespace ChatGateway

/-- What a scripted gateway does. -/
inductive Act where
  | wait (milliseconds : Nat)
  /-- Lets the client read something; with a loss, the connection breaks. -/
  | give (item : Item)

/-- The gateway's end of a connection. -/
structure Server where
  /-- Heartbeats are acknowledged at once. -/
  acknowledges : Bool
  /-- How many heartbeats have arrived and are not acknowledged yet. -/
  owed : Nat := 0
  script : List Act
  /-- When the script goes on. -/
  due : Nat
  /-- What the client has not read yet, the oldest first. -/
  inbox : List Item := []

inductive Attempt where
  | refuse
  | serve (acknowledges : Bool) (script : List Act)

structure Connect where
  time : Nat
  url : String
  accepted : Bool

/-- What a user does to a running client. -/
inductive Deed where
  | shutdown
  | requestReconnect
  | send (what : Outgoing)
  | nothing

/-- A deed and the milliseconds before it. -/
structure Intervention where
  after : Nat
  deed : Deed

structure Simulation where
  client : Client
  /-- Where the client connects to. -/
  url : String := ""
  /-- What becomes of the next attempts; after them, attempts are refused. -/
  attempts : List Attempt := []
  server : Option Server := none
  /-- The responses to the next requests; after them, requests fail. -/
  responses : List (Option Response) := []
  interventions : List Intervention := []
  /-- When the next intervention is due. -/
  due : Nat := 0
  /-- The send that the next intervention waits for. -/
  awaited : Option Nat := none
  /-- The attempts that were made, the newest first. -/
  connects : List Connect := []

/-- Lets the wait be over by a time. -/
def FramePath.wakeBy (time : Nat) : FramePath → FramePath
  | .idle => .idle
  | .grace due sessionId => .grace (min due time) sessionId
  | .cooldown due => .cooldown (min due time)
  | .sending due what purpose => .sending (min due time) what purpose

def Stage.wakeBy (time : Nat) : Stage → Stage
  | .waiting due retry => .waiting (min due time) retry
  | stage => stage

def Beat.wakeBy (time : Nat) : Beat → Beat
  | .sleeping due => .sleeping (min due time)
  | .sending due what => .sending (min due time) what
  | beat => beat

def ReplyStage.wakeBy (time : Nat) : ReplyStage → ReplyStage
  | .fresh message => .fresh message
  | .calling due call => .calling (min due time) call

/-- Lets all waits be over by a time. -/
def Client.wakeBy (c : Client) (time : Nat) : Client :=
  { c with
    framePath := c.framePath.wakeBy time
    stage := c.stage.wakeBy time
    loops := c.loops.map fun loop => { loop with beat := loop.beat.wakeBy time }
    sends := c.sends.map fun send => { send with due := min send.due time }
    replies := c.replies.map fun reply => { reply with stage := reply.stage.wakeBy time } }

namespace Simulation

def clock (s : Simulation) : Nat := s.client.clock

/-- The gateway's answer to a heartbeat. -/
def acknowledgement : Item := .text "\x7b\"op\":11\x7d"

def isHeartbeat : Entry → Bool
  | ⟨_, .wrote _ _ (.command (.heartbeat _))⟩ => true
  | _ => false

/-- The milliseconds of the longest timer, thirty years of 365 days. -/
def longestSleep : Nat := 946080000000

/-- The time at which a sleep that begins now is over. -/
def after (s : Simulation) (milliseconds : Nat) : Nat := s.clock + min milliseconds longestSleep

/-- Takes over a client, all of whose sleeps are over in time. -/
def hold (s : Simulation) (client : Client) : Simulation :=
  { s with client := client.wakeBy (client.clock + longestSleep) }

/-- Makes a move of the client, and counts the heartbeats in it that the gateway answers. -/
def act (s : Simulation) (move : Move) : Simulation :=
  let s' := s.hold (s.client.step move)
  let news := s'.client.log.take (s'.client.log.length - s.client.log.length)
  let server := s.server.map fun server =>
    if server.acknowledges then { server with owed := server.owed + news.countP isHeartbeat }
    else server
  { s' with server }

def connect (s : Simulation) : Simulation :=
  if Location.isValid s.url then
    let attempts := s.attempts.drop 1
    match s.attempts.head? with
    | some (.serve acknowledges script) =>
      { s with
        attempts
        server := some { acknowledges, script, due := s.clock }
        connects := ⟨s.clock, s.url, true⟩ :: s.connects }.act .opened
    | _ =>
      { s with attempts, connects := ⟨s.clock, s.url, false⟩ :: s.connects }.act .refused
  else s.act .refused

def read? (s : Simulation) : Option Simulation :=
  match s.client.stage, s.client.framePath, s.server with
  | .reading, .idle, some server =>
    match server.inbox with
    | item :: inbox => some ({ s with server := some { server with inbox } }.act (.receive item))
    | [] => none
  | _, _, _ => none

/-- What the gateway does at one instant: what it lets the client read, what is left of its script,
and when that goes on. -/
def burst (now : Nat) : List Act → List Item × List Act × Nat
  | [] => ([], [], now)
  | .wait 0 :: script => burst now script
  | .wait milliseconds :: script => ([], script, now + min milliseconds longestSleep)
  | .give item :: script =>
    let (items, script, due) := burst now script
    (item :: items, script, due)

def isLoss : Item → Bool
  | .lost => true
  | _ => false

def isClose : Item → Bool
  | .close _ => true
  | _ => false

/-- Lets the gateway answer heartbeats and go on with its script. -/
def serve? (s : Simulation) : Option Simulation :=
  match s.server with
  | none => none
  | some server =>
    if 0 < server.owed then
      let inbox := server.inbox ++ List.replicate server.owed acknowledgement
      some { s with server := some { server with owed := 0, inbox } }
    else if server.script.isEmpty || s.clock < server.due then none
    else
      let (items, script, due) := burst s.clock server.script
      let inbox := server.inbox ++ items
      let s := { s with server := some { server with script, due, inbox } }
      let s := if items.any isClose then s.act .dismiss else s
      some (if items.any isLoss then s.act .cut else s)

/-- Makes a request of the client, whose response is the next one. -/
def respond (s : Simulation) (id : Nat) : Simulation :=
  let before := s.client.log.length
  let s' := s.act (.respond id s.responses.head?.join)
  if before < s'.client.log.length then { s' with responses := s.responses.drop 1 } else s'

/-- Lets the interventions go on, the next one after its time. -/
def resumeInterventions (s : Simulation) : Simulation :=
  { s with
    awaited := none
    due := s.after ((s.interventions.head?.map (·.after)).getD 0) }

def complete (s : Simulation) (id : Nat) : Simulation :=
  let s := s.act (.complete id)
  if s.awaited = some id && (s.client.returned? id).isSome then s.resumeInterventions else s

/-- Does what a user does. -/
def carryOut (s : Simulation) : Deed → Simulation
  | .shutdown => s.act .shutdown
  | .requestReconnect => s.act .requestReconnect
  | .send what =>
    let id := s.client.spawned
    { s.act (.send what) with awaited := some id }.complete id
  | .nothing => s

/-- Carries out interventions as long as the next one follows at the same instant. -/
def intervene (s : Simulation) : List Intervention → Simulation
  | [] => s
  | next :: rest =>
    let s := { s with interventions := rest }.resumeInterventions.carryOut next.deed
    if s.awaited.isNone && s.due ≤ s.clock then s.intervene rest else s

def intervene? (s : Simulation) : Option Simulation :=
  if s.interventions.isEmpty || s.awaited.isSome || s.clock < s.due then none
  else some (s.intervene s.interventions)

end Simulation

end ChatGateway
