import ChatGateway.Entity.Message

/-!
Counting reactions. The reactions of a message are records of an emoji and a count; a record with
the same emoji is looked for from the front. A count is a word of 32 bits, and one more than the
last number of them cannot be counted.
-/

namespace ChatGateway.Reactions

/-- One more reaction in a record, if there is room for it. -/
def countUp? (byMe : Bool) (known : Reaction) : Option Reaction :=
  if known.count.toNat + 1 < UInt32.size then
    some { known with count := known.count + 1, me := known.me || byMe }
  else none

/-- One more reaction with an emoji. The count of its record overflows if that has no room. -/
def add (emoji : Emoji) (byMe : Bool) : List Reaction → Option (List Reaction)
  | [] => some [{ count := 1, me := byMe, emoji }]
  | known :: rest =>
    if known.emoji.sameAs emoji then (countUp? byMe known).map (· :: rest)
    else (add emoji byMe rest).map (known :: ·)

/-- One reaction with an emoji less; the last one takes the record away. -/
def remove (emoji : Emoji) (byMe : Bool) : List Reaction → List Reaction
  | [] => []
  | known :: rest =>
    if known.emoji.sameAs emoji then
      if known.count ≤ 1 then rest
      else { known with count := known.count - 1, me := known.me && !byMe } :: rest
    else known :: remove emoji byMe rest

end ChatGateway.Reactions
