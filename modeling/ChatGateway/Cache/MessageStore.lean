import ChatGateway.Entity.Message

/-!
A bounded store of messages: a table of the messages and a queue of their identifiers, oldest
first. A message that is known is replaced at its place; a new one goes to the end of the queue,
and when the store is full the oldest one leaves it.
-/

namespace ChatGateway

structure MessageStore where
  table : Table Snowflake Message
  queue : List Snowflake
  capacity : Nat

namespace MessageStore

/-- A store for `capacity` messages, and at least one. -/
def empty (capacity : Nat) : MessageStore := ⟨.empty, [], max 1 capacity⟩

def get? (store : MessageStore) (id : Snowflake) : Option Message := store.table.get? id

def toList (store : MessageStore) : List Message := store.queue.filterMap store.get?

/-- Takes the oldest message out of a full store. -/
def makeRoom (store : MessageStore) : MessageStore :=
  match store.queue with
  | oldest :: rest =>
    if store.capacity ≤ store.queue.length then
      { store with table := store.table.erase oldest, queue := rest }
    else store
  | [] => store

def insert (store : MessageStore) (message : Message) : MessageStore :=
  if (store.get? message.id).isSome then
    { store with table := store.table.insert message.id message }
  else
    let store := store.makeRoom
    { store with
      table := store.table.insert message.id message
      queue := store.queue ++ [message.id] }

def erase (store : MessageStore) (id : Snowflake) : MessageStore :=
  if (store.get? id).isSome then
    { store with table := store.table.erase id, queue := store.queue.filter (· != id) }
  else store

def eraseAll (store : MessageStore) : List Snowflake → MessageStore × List Message
  | [] => (store, [])
  | id :: rest =>
    let (after, removed) := (store.erase id).eraseAll rest
    (after, (store.get? id).toList ++ removed)

def modify (store : MessageStore) (id : Snowflake) (f : Message → Message) : MessageStore :=
  { store with table := store.table.modify id f }

def size (store : MessageStore) : Nat := store.table.size

theorem get?_modify (store : MessageStore) (id other : Snowflake) (f : Message → Message) :
    (store.modify id f).get? other
      = if other = id then (store.get? other).map f else store.get? other :=
  Table.get?_modify ..

@[simp] theorem queue_modify (store : MessageStore) (id : Snowflake) (f : Message → Message) :
    (store.modify id f).queue = store.queue := rfl

end MessageStore

end ChatGateway
