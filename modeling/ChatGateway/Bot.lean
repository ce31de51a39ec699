import ChatGateway.Cache.Basic
import ChatGateway.Event
import ChatGateway.Protocol.Command
import ChatGateway.Text.Blank

/-!
A small bot: it shows what it plays once the session is ready, and answers two commands.
-/

namespace ChatGateway.Bot

def presence : Presence := Presence.playing "with the gateway"

def onEvent : Event → Option Command
  | .ready _ => some (.presence presence)
  | _ => none

def number (n : Nat) : String := String.ofList (Decimal.write n)

def report (cache : Cache) : String :=
  number cache.guilds.size ++ " guild(s), " ++ number cache.channels.size ++ " channel(s), "
    ++ number cache.messages.size ++ " message(s) cached"

/-- The answer to a message. Only messages that start with an exclamation mark are commands, and
those of bots are not answered. -/
def reply? (cache : Cache) (message : Message) : Option String :=
  match message.content.toList with
  | '!' :: command =>
    if (message.author.map (·.bot)).getD false then none
    else if Text.trim command = "ping".toList then some "pong"
    else if Text.trim command = "cache".toList then some (report cache)
    else none
  | _ => none

end ChatGateway.Bot
