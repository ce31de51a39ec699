import ChatGateway.Dispatcher
import ChatGateway.Http.Call
import ChatGateway.Protocol.Frame
import ChatGateway.Session.Basic

/-!
A client as a state machine: the session, what runs along with it, and a log of what happened. The
parts of a client take turns. Every point at which one of them waits is a state of its own, so that
the others can act in between: the frame path, the connection loop, the heartbeat loops, the sends
of callers and the answers to commands. Time is a clock that moves between the turns.
-/

namespace ChatGateway

/-- What is written to a connection. -/
inductive Outgoing where
  | command (command : Command)
  | text (text : String)
  deriving DecidableEq, Repr

def Outgoing.frame : Outgoing → String
  | .command what => what.text
  | .text what => what

inductive Writer where
  | heartbeat
  /-- The answer to a frame. -/
  | frames
  /-- The event handler. -/
  | handler
  | caller
  deriving DecidableEq, Repr

inductive FrameOutcome where
  | proceed
  /-- The connection is to be replaced. -/
  | reconnect
  deriving DecidableEq, Repr

inductive Occurrence where
  | moved (before after : Phase)
  | wrote (connection : Nat) (writer : Writer) (what : Outgoing)
  /-- A connection was left, with a farewell that says why or with a plain one. -/
  | hungUp (connection : Nat) (farewell : Option Farewell)
  | took (frame : Frame)
  | answered (outcome : FrameOutcome)
  /-- The work on a frame broke off. -/
  | brokeOff
  /-- The event handler was given an event. -/
  | handled (event : Event)
  /-- The command handler was given a message. -/
  | commanded (message : Message)
  | requested (request : Request)
  /-- A heartbeat loop came to its next heartbeat, after an acknowledgement of the last one or
  without. -/
  | ticked (loop : Nat) (acked : Bool)
  /-- The send of a caller came to its end. -/
  | returned (send : Nat) (result : Except ClientError Unit)

structure Entry where
  time : Nat
  what : Occurrence

/-- Where a heartbeat loop stands. -/
inductive Beat where
  /-- About to look up the interval. -/
  | starting
  | sleeping (due : Nat)
  /-- Waits until the session is not reconnecting. -/
  | paused
  | sending (due : Nat) (what : Outgoing)
  deriving DecidableEq, Repr

structure HeartbeatLoop where
  id : Nat
  beat : Beat
  /-- The loop has been told to stop. -/
  stopped : Bool
  deriving DecidableEq, Repr

/-- What the frame path sends something for. -/
inductive Purpose where
  /-- In answer to a greeting. -/
  | greeting
  /-- In answer to another frame. -/
  | answer
  /-- For the event handler, which has some more events before it. -/
  | handler (rest : List Event)

/-- Who writes what is sent for a purpose. -/
def Purpose.writer : Purpose → Writer
  | .greeting | .answer => .frames
  | .handler _ => .handler

/-- What the frame path is at. -/
inductive FramePath where
  | idle
  /-- Waits before it takes up a session. -/
  | grace (due : Nat) (sessionId : String)
  /-- Waits before it starts a new session in place of a void one. -/
  | cooldown (due : Nat)
  /-- Waits for the rate limit. -/
  | sending (due : Nat) (what : Outgoing) (purpose : Purpose)

/-- What the connection loop is at. -/
inductive Stage where
  /-- The loop has not begun. -/
  | dormant
  /-- A connection is being opened; there is no retry for the first one. -/
  | opening (retry : Option Retry)
  | waiting (due : Nat) (retry : Retry)
  /-- A connection is open. -/
  | reading
  /-- A connection has been given up and is being closed. -/
  | leaving (exit : Exit)
  | ended (result : Except ClientError Unit)
  /-- The loop broke off with the work on a frame. -/
  | broken

/-- The send of a caller, which waits for the rate limit. -/
structure Send where
  id : Nat
  due : Nat
  what : Outgoing

/-- What the command handler is at with one message. -/
inductive ReplyStage where
  | fresh (message : Message)
  /-- Waits for the rate limit of its answer. -/
  | calling (due : Nat) (call : Call Message)

structure Reply where
  id : Nat
  stage : ReplyStage

/-- What is done about events and messages besides keeping them. -/
structure Handlers where
  /-- What the event handler sends when it is given an event. -/
  onEvent : Event → Option Command
  /-- What the command handler, if there is one, answers to a message. -/
  onMessage : Option (Cache → Message → Option String)

def Handlers.none : Handlers := ⟨fun _ => .none, .none⟩

structure Client where
  config : Config
  handlers : Handlers
  cache : Cache
  dispatcher : Dispatcher
  limiter : RateLimiter := .empty
  session : Session := {}
  framePath : FramePath := .idle
  stage : Stage := .dormant
  /-- What the connection loop has been asked to do and has not done, the oldest first. -/
  orders : List Order := []
  loops : List HeartbeatLoop := []
  sends : List Send := []
  replies : List Reply := []
  /-- How many connections there have been. -/
  connections : Nat := 0
  /-- How many loops, sends and answers there have been; the number of the next one. -/
  spawned : Nat := 0
  /-- Milliseconds. -/
  clock : Nat := 0
  /-- The time of day at which the clock was zero, in milliseconds. -/
  epoch : Int := 0
  /-- What happened, the newest first. -/
  log : List Entry := []

namespace Client

/-- A client that has done nothing. -/
def fresh (config : Config) (handlers : Handlers) : Client where
  config
  handlers
  cache := .empty config.messageCacheCount.toNat
  dispatcher := .fresh config.deferredQueueCapacity.toNat

def timeOfDay (c : Client) : Int := c.epoch + c.clock

def record (c : Client) (what : Occurrence) : Client :=
  { c with log := ⟨c.clock, what⟩ :: c.log }

def enter (c : Client) (phase : Phase) : Client :=
  if c.session.phase = phase then c
  else { c.record (.moved c.session.phase phase) with session.phase := phase }

/-- The time at which a wait that begins now is over. -/
def after (c : Client) (milliseconds : Nat) : Nat := c.clock + milliseconds

/-- The time at which something that is sent now has waited for the rate limit. -/
def clearance (c : Client) : Nat := c.clock + c.limiter.pause .global c.timeOfDay

def write (c : Client) (writer : Writer) (what : Outgoing) : Client × Except ClientError Unit :=
  match c.session.link with
  | none => (c, .error .notConnected)
  | some link =>
    if link.broken then (c, .error .webSocket)
    else (c.record (.wrote link.connection writer what), .ok ())

def changeLink (c : Client) (f : Link → Link) : Client :=
  { c with session.link := c.session.link.map f }

/-- Gives up the writing end, with a farewell to a gateway that still hears it. -/
def detach (c : Client) (farewell : Option Farewell) : Client :=
  match c.session.link with
  | none => c
  | some link =>
    let c := { c with session.link := none }
    if link.broken || link.dismissed then c else c.record (.hungUp link.connection farewell)

/-- Notes that the connection is to be replaced. -/
def markReconnecting (c : Client) : Client :=
  { c with session.reconnecting := true }.enter .reconnecting

/-- Hands an order to the connection loop; nobody takes it after the loop has ended or broken off.
-/
def order (c : Client) (order : Order) : Client :=
  match c.stage with
  | .ended _ | .broken => c
  | _ => { c with orders := c.orders ++ [order] }

def requestReconnect (c : Client) : Client := c.markReconnecting.order .reconnect

end Client

end ChatGateway
