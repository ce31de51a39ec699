import ChatGateway.Dispatcher

/-!
A dispatcher with both of its handlers. The event handler is called while a frame is taken in. The
command handler is not: a message that is created starts a task, which runs at some later time
between two frames. Either handler is shown the cache as it is when it is called, either can break
off, and neither can change the cache.
-/

namespace ChatGateway

structure Attendants (σ : Type) where
  onEvent : Cache → Handler σ
  /-- The command handler, if there is one. -/
  onMessage : Option (Cache → Message → ExceptT Panic (StateM σ) Unit)

/-- What handlers act on, and the tasks of the command handler, which are known by their messages.
-/
structure Surroundings (σ : Type) where
  state : σ
  /-- The tasks that were started, in the order in which they were. -/
  started : List Message
  /-- Those of them that have not run. -/
  waiting : List Message

variable {σ : Type}

def Surroundings.act {α : Type} (work : ExceptT Panic (StateM σ) α) :
    ExceptT Panic (StateM (Surroundings σ)) α :=
  ExceptT.mk fun around =>
    let (answer, state) := work.run.run around.state
    (answer, { around with state })

namespace Attendants

def start (attendants : Attendants σ) (message : Option Message) :
    ExceptT Panic (StateM (Surroundings σ)) Unit :=
  match attendants.onMessage, message with
  | some _, some message => modify fun around => { around with
      started := around.started ++ [message]
      waiting := around.waiting ++ [message] }
  | _, _ => pure ()

/-- Runs a task that waits, by its place among them. One that breaks off is over, too. -/
def runTask (attendants : Attendants σ) (cache : Cache) (place : Nat) :
    ExceptT Panic (StateM (Surroundings σ)) Unit := do
  let around ← get
  match attendants.onMessage, around.waiting[place]? with
  | some handler, some message =>
    set { around with waiting := around.waiting.eraseIdx place }
    tryCatch (Surroundings.act (handler cache message)) fun _ => pure ()
  | _, _ => pure ()

end Attendants

namespace Dispatcher

/-- Takes in a frame with both handlers. The command handler is started before the event handler is
called. -/
def attend (dispatcher : Dispatcher) (attendants : Attendants σ) (cache : Cache) (name : String)
    (data : Json) : ExceptT Panic (StateM (Surroundings σ)) (Dispatcher × Cache) := do
  let (_, next, delivery) := dispatcher.dispatch cache name data
  attendants.start delivery.command
  Surroundings.act (dispatcher.receive (attendants.onEvent next) cache name data)

/-- What happens next: a frame comes in, or a task runs. -/
inductive Turn where
  | frame (name : String) (data : Json)
  | task (place : Nat)

def Turn.frame? : Turn → Option (String × Json)
  | .frame name data => some (name, data)
  | .task _ => none

def takeTurn (dispatcher : Dispatcher) (attendants : Attendants σ) (cache : Cache) :
    Turn → ExceptT Panic (StateM (Surroundings σ)) (Dispatcher × Cache)
  | .frame name data => dispatcher.attend attendants cache name data
  | .task place => do
    attendants.runTask cache place
    return (dispatcher, cache)

/-- Takes in frames and runs tasks, one after another. A frame that breaks off is over. -/
def takeTurns (dispatcher : Dispatcher) (attendants : Attendants σ) (cache : Cache) :
    List Turn → ExceptT Panic (StateM (Surroundings σ)) (Dispatcher × Cache)
  | [] => return (dispatcher, cache)
  | turn :: rest => do
    let (dispatcher, cache) ← tryCatch (dispatcher.takeTurn attendants cache turn)
      fun _ => pure (dispatcher, cache)
    dispatcher.takeTurns attendants cache rest

end Dispatcher

end ChatGateway
