import ChatGateway.Event.Application

/-!
Handing events to a handler. The cache takes in every frame in the order of receipt. A handler sees
events only once the session is ready; until then they wait in a bounded queue, from which the
newest ones beyond its capacity are missing. The event that makes the session ready lets the queue
out first. A frame at which a count overflows breaks off before anybody sees anything of it.
-/

namespace ChatGateway

/-- Which events a handler has not seen yet. -/
structure Dispatcher where
  ready : Bool
  deferred : List Event
  capacity : Nat

/-- What one frame leads to: the events for the handler in order, and the message for the command
handler, which does not wait for the session to be ready. -/
structure Delivery where
  events : List Event
  command : Option Message

/-- How a call breaks off. -/
structure Panic where
  message : String
  deriving DecidableEq, Repr

/-- A count has no room for one more. -/
def Panic.overflow : Panic := ⟨"attempt to add with overflow"⟩

/-- An event handler: what a call does to the state of things around it, and whether the call breaks
off. -/
abbrev Handler (σ : Type) := Event → ExceptT Panic (StateM σ) Unit

namespace Handler

variable {σ : Type}

/-- Calls a handler. A call that breaks off is over; what it has done by then stays. -/
def invoke (handler : Handler σ) (event : Event) : ExceptT Panic (StateM σ) Unit :=
  tryCatch (handler event) fun _ => pure ()

/-- Calls a handler on events, one after another. -/
def invokeAll (handler : Handler σ) : List Event → ExceptT Panic (StateM σ) Unit
  | [] => pure ()
  | event :: rest => do
    handler.invoke event
    handler.invokeAll rest

end Handler

namespace Dispatcher

/-- A dispatcher that keeps up to `capacity` events, and at least one. -/
def fresh (capacity : Nat) : Dispatcher := ⟨false, [], max 1 capacity⟩

def defer (dispatcher : Dispatcher) (event : Event) : Dispatcher :=
  if dispatcher.deferred.length < dispatcher.capacity then
    { dispatcher with deferred := dispatcher.deferred ++ [event] }
  else dispatcher

/-- Passes an event on, or keeps it. -/
def deliver (dispatcher : Dispatcher) (event : Event) : Dispatcher × List Event :=
  match event with
  | .ready _ =>
    ({ dispatcher with ready := true, deferred := [] }, dispatcher.deferred ++ [event])
  | _ => if dispatcher.ready then (dispatcher, [event]) else (dispatcher.defer event, [])

/-- The message that a command handler is started on. -/
def command? : Event → Option Message
  | .messageCreate message => some message
  | _ => none

/-- Takes in the frame of an event. -/
def dispatch (dispatcher : Dispatcher) (cache : Cache) (name : String) (data : Json) :
    Dispatcher × Cache × Delivery :=
  match cache.apply name data with
  | none => (dispatcher, cache, ⟨[], none⟩)
  | some (cache, event) =>
    let (dispatcher, events) := dispatcher.deliver event
    (dispatcher, cache, ⟨events, command? event⟩)

/-- Takes in the frame of an event, and calls a handler on the events that it is to see now. -/
def receive {σ : Type} (dispatcher : Dispatcher) (handler : Handler σ) (cache : Cache)
    (name : String) (data : Json) : ExceptT Panic (StateM σ) (Dispatcher × Cache) := do
  if cache.overflows name data then throw .overflow
  let (dispatcher, cache, delivery) := dispatcher.dispatch cache name data
  handler.invokeAll delivery.events
  return (dispatcher, cache)

/-- Takes in frames in the order of receipt. One that breaks off is over, and has done nothing. -/
def receiveAll {σ : Type} (dispatcher : Dispatcher) (handler : Handler σ) (cache : Cache) :
    List (String × Json) → ExceptT Panic (StateM σ) (Dispatcher × Cache)
  | [] => return (dispatcher, cache)
  | (name, data) :: rest => do
    let (dispatcher, cache) ← tryCatch (dispatcher.receive handler cache name data)
      fun _ => pure (dispatcher, cache)
    dispatcher.receiveAll handler cache rest

end Dispatcher

end ChatGateway
