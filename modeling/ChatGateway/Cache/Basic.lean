import ChatGateway.Cache.MessageStore
import ChatGateway.Cache.Reactions
import ChatGateway.Notice.Channel
import ChatGateway.Notice.Guild
import ChatGateway.Notice.Message

/-!
A picture of the remote state: the current user, guilds, channels, the members of guilds, and the
messages that arrived last. A guild is stored without its channels, which are entries of their
own; its members are stored twice, in the guild and as entries of their own.

Every operation is a function from a cache to the next one, with what it answers beside it. One of
them can break off, and then changes nothing.
-/

namespace ChatGateway

/-- Members are addressed by their guild and their user. -/
structure MemberKey where
  guild : Snowflake
  user : Snowflake
  deriving DecidableEq, Repr

namespace MemberKey

instance : Ord MemberKey := ⟨compareLex (compareOn guild) (compareOn user)⟩

instance : Std.TransOrd MemberKey :=
  inferInstanceAs (Std.TransCmp (compareLex (compareOn guild) (compareOn user)))

instance : Std.LawfulEqOrd MemberKey where
  eq_of_compare {a b} h := by
    obtain ⟨hg, hu⟩ := compareLex_eq_eq.1 h
    have guilds : a.guild = b.guild := eq_of_compareOn hg
    have users : a.user = b.user := eq_of_compareOn hu
    cases a
    cases b
    simp_all

end MemberKey

structure Cache where
  currentUser : Option User
  guilds : Table Snowflake Guild
  channels : Table Snowflake Channel
  members : Table MemberKey Member
  messages : MessageStore

namespace Cache

/-- A cache that holds nothing yet and will hold `capacity` messages, and at least one. -/
def empty (capacity : Nat) : Cache := ⟨none, .empty, .empty, .empty, .empty capacity⟩

/-! ### Look-ups -/

def guild? (cache : Cache) (id : Snowflake) : Option Guild := cache.guilds.get? id

def channel? (cache : Cache) (id : Snowflake) : Option Channel := cache.channels.get? id

def member? (cache : Cache) (guild user : Snowflake) : Option Member :=
  cache.members.get? ⟨guild, user⟩

def message? (cache : Cache) (id : Snowflake) : Option Message := cache.messages.get? id

def guildChannels (cache : Cache) (guild : Snowflake) : List Channel :=
  cache.channels.values.filter fun channel => channel.guildId == some guild

def messageIds (cache : Cache) : List Snowflake := cache.messages.queue

def isCurrentUser (cache : Cache) (id : Snowflake) : Bool :=
  (cache.currentUser.map (·.id)) == some id

/-! ### The current user -/

def setCurrentUser (cache : Cache) (user : User) : Cache := { cache with currentUser := some user }

/-- An update replaces the current user only if it is about that user. -/
def updateCurrentUser (cache : Cache) (user : User) : Cache :=
  if cache.isCurrentUser user.id then cache.setCurrentUser user else cache

/-! ### Channels -/

def upsertChannel (cache : Cache) (channel : Channel) : Cache :=
  { cache with channels := cache.channels.insert channel.id channel }

def removeChannel (cache : Cache) (id : Snowflake) : Cache × Option Channel :=
  ({ cache with channels := cache.channels.erase id }, cache.channel? id)

/-- Records when a message was pinned last. A channel that is not known becomes known by its
identifier; the guild of a known one stays unless the update names one. -/
def updateChannelPins (cache : Cache) (update : ChannelPinsUpdate) : Cache × Channel :=
  let known := (cache.channel? update.channelId).getD { id := update.channelId }
  let channel := { known with
    lastPinTimestamp := update.lastPinTimestamp
    guildId := update.guildId <|> known.guildId }
  ({ cache with channels := cache.channels.insert update.channelId channel }, channel)

/-! ### Guilds -/

/-- The guild with its name put on its channels and members. -/
def tag (guild : Guild) : Guild :=
  { guild with
    channels := guild.channels.map fun channel => { channel with guildId := some guild.id }
    members := guild.members.map fun _ member => { member with guildId := some guild.id } }

/-- Stores a guild, its channels and its members. -/
def insertGuild (cache : Cache) (guild : Guild) : Cache × Guild :=
  let guild := tag guild
  let channels := guild.channels.map fun channel => (channel.id, channel)
  let members := guild.members.entries.map fun (user, member) => (⟨guild.id, user⟩, member)
  ({ cache with
    channels := cache.channels.insertAll channels
    members := cache.members.insertAll members
    guilds := cache.guilds.insert guild.id { guild with channels := [] } }, guild)

/-- Replaces a guild. An update without members keeps the members that are known. -/
def updateGuild (cache : Cache) (guild : Guild) : Cache × Guild :=
  let members := match cache.guild? guild.id with
    | some known => if guild.members.isEmpty then known.members else guild.members
    | none => guild.members
  let guild := { guild with members, channels := [] }
  ({ cache with guilds := cache.guilds.insert guild.id guild }, guild)

def removeGuild (cache : Cache) (id : Snowflake) : Cache × Option Guild :=
  ({ cache with
    guilds := cache.guilds.erase id
    channels := cache.channels.filter fun _ channel => channel.guildId != some id
    members := cache.members.filter fun key _ => key.guild != id }, cache.guild? id)

def modifyGuild (cache : Cache) (id : Snowflake) (f : Guild → Guild) : Cache :=
  { cache with guilds := cache.guilds.modify id f }

def setGuildEmojis (cache : Cache) (guild : Snowflake) (emojis : List Emoji) : Cache :=
  cache.modifyGuild guild fun g => { g with emojis }

def upsertRole (cache : Cache) (guild : Snowflake) (role : Role) : Cache :=
  cache.modifyGuild guild fun g => { g with roles := g.roles.insert role.id role }

def removeRole (cache : Cache) (guild role : Snowflake) : Cache × Option Role :=
  (cache.modifyGuild guild fun g => { g with roles := g.roles.erase role },
    (cache.guild? guild).bind fun g => g.roles.get? role)

/-! ### Members -/

/-- Stores a member of a guild. One without a user cannot be addressed and is not stored. -/
def upsertMember (cache : Cache) (guild : Snowflake) (member : Member) : Cache × Member :=
  let member := { member with guildId := some guild }
  match member.id? with
  | none => (cache, member)
  | some user =>
    let cache := cache.modifyGuild guild fun g => { g with members := g.members.insert user member }
    ({ cache with members := cache.members.insert ⟨guild, user⟩ member }, member)

def removeMember (cache : Cache) (guild user : Snowflake) : Cache × Option Member :=
  let after := cache.modifyGuild guild fun g => { g with members := g.members.erase user }
  ({ after with members := after.members.erase ⟨guild, user⟩ }, cache.member? guild user)

/-- New roles for a member, and a new nickname if there is one. A member that is not known becomes
known. -/
def updateMember (cache : Cache) (update : GuildMemberUpdate) : Cache × Member :=
  let known := (cache.member? update.guildId update.user.id).getD {}
  cache.upsertMember update.guildId { known with
    user := some update.user
    roles := update.roles
    nick := update.nick <|> known.nick }

/-! ### Messages -/

def insertMessage (cache : Cache) (message : Message) : Cache :=
  { cache with messages := cache.messages.insert message }

/-- A message after an update; what the update leaves out stays. -/
def patch (update : MessageUpdate) (message : Message) : Message :=
  { message with
    content := update.content.getD message.content
    editedTimestamp := update.editedTimestamp <|> message.editedTimestamp
    pinned := update.pinned.getD message.pinned
    mentionEveryone := update.mentionEveryone.getD message.mentionEveryone }

/-- Changes a message that is known, and answers it as it was and as it is. -/
def modifyMessage (cache : Cache) (id : Snowflake) (f : Message → Message) :
    Cache × Option (Message × Message) :=
  ({ cache with messages := cache.messages.modify id f },
    (cache.message? id).map fun message => (message, f message))

def updateMessage (cache : Cache) (update : MessageUpdate) : Cache × Option (Message × Message) :=
  cache.modifyMessage update.id (patch update)

def removeMessage (cache : Cache) (id : Snowflake) : Cache × Option Message :=
  ({ cache with messages := cache.messages.erase id }, cache.message? id)

/-- Removes several messages, and answers those that were known in the order of the list. -/
def removeMessages (cache : Cache) (ids : List Snowflake) : Cache × List Message :=
  let (messages, removed) := cache.messages.eraseAll ids
  ({ cache with messages }, removed)

/-- Counts a reaction to a message, unless its count overflows. -/
def addReaction (cache : Cache) (reaction : MessageReaction) (byMe : Bool) :
    Option (Cache × Option Message) :=
  match cache.message? reaction.messageId with
  | none => some (cache, none)
  | some message =>
    (Reactions.add reaction.emoji byMe message.reactions).map fun reactions =>
      let (cache, change) := cache.modifyMessage reaction.messageId fun message =>
        { message with reactions }
      (cache, change.map (·.2))

def removeReaction (cache : Cache) (reaction : MessageReaction) (byMe : Bool) :
    Cache × Option Message :=
  let (cache, change) := cache.modifyMessage reaction.messageId fun message =>
    { message with reactions := Reactions.remove reaction.emoji byMe message.reactions }
  (cache, change.map (·.2))

def clearReactions (cache : Cache) (id : Snowflake) : Cache × Option Message :=
  let (cache, change) := cache.modifyMessage id fun message => { message with reactions := [] }
  (cache, change.map (·.2))

end Cache

end ChatGateway
