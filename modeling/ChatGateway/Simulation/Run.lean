import ChatGateway.Simulation.Schedule

/-!
What can be asked of a simulated client: single steps, each with everything that it leads to, and
whole runs.
-/

namespace ChatGateway.Simulation

/-- A simulation that begins at a time of day. -/
def fresh (config : Config) (handlers : Handlers) (epoch : Int) : Simulation where
  client := { Client.fresh config handlers with epoch }

def isIdle (s : Simulation) : Bool :=
  match s.client.framePath with
  | .idle => true
  | _ => false

/-- Makes a move, and lets everything happen that follows from it at the same instant. -/
def perform (s : Simulation) (move : Move) : Simulation := (s.act move).settle

/-- Waits until the frame path has nothing left to do. -/
def finishFrame (s : Simulation) : Simulation := s.advance isIdle none fuel

/-- Whether the work on some frame broke off. -/
def hasBroken (s : Simulation) : Bool :=
  s.client.log.any fun
    | ⟨_, .brokeOff⟩ => true
    | _ => false

/-- What became of the last frame. -/
def lastOutcome (s : Simulation) : FrameOutcome :=
  (s.client.log.findSome? fun
    | ⟨_, .answered outcome⟩ => some outcome
    | _ => none).getD .proceed

def frame (s : Simulation) (frame : Frame) : Simulation × FrameOutcome :=
  let s := (s.act (.frame frame)).finishFrame
  (s, s.lastOutcome)

def event (s : Simulation) (name : String) (data : Json) : Simulation :=
  (s.hold (s.client.dispatch name data)).finishFrame

def send (s : Simulation) (what : Outgoing) : Simulation × Except ClientError Unit :=
  let id := s.client.spawned
  let s := (s.act (.send what)).advance (fun s => (s.client.returned? id).isSome) none fuel
  (s, (s.client.returned? id).getD (.ok ()))

def hasEnded (s : Simulation) : Bool :=
  match s.client.stage with
  | .ended _ | .broken => true
  | _ => false

def result? (s : Simulation) : Option (Except ClientError Unit) :=
  match s.client.stage with
  | .ended result => some result
  | _ => none

def run (s : Simulation) (limit : Nat) : Simulation :=
  (s.act .start).resumeInterventions.advance hasEnded (some limit) fuel

/-- Asks the service where to connect, and runs the connection loop. -/
def connectAndRun (s : Simulation) (limit : Nat) : Simulation × Option (Except ClientError Unit) :=
  let (client, place) := s.client.locate s.responses.head?.join
  let s := { s.hold client with responses := s.responses.drop 1 }
  match place with
  | .error e => (s, some (.error e))
  | .ok url =>
    let s := { s with url }.run limit
    (s, s.result?)

end ChatGateway.Simulation
