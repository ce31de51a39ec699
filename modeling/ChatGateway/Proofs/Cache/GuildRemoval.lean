import ChatGateway.Proofs.Cache.Redelivery

/-!
What is left of a guild once it is gone. The parts of a guild lie in three tables: the guild itself,
its channels, and its members, which stand there a second time. What a cache holds `besides` a guild
is what the removal of the guild leaves. It is the same before and after everything that happens
within the guild (`besides_mutate`), as long as the channels that the guild came with are marked as
its own, which they stay. So the removal of a guild brings back the cache in which the guild was
created, and until then nothing outside the guild is touched (`guild_leaves_no_trace`).
-/

namespace ChatGateway

/-- Whether a mutation is about one guild only: about the guild, its roles or members, or about the
pins of one of some channels, which is said to be a channel of the guild. -/
def Mutation.within (guild : Snowflake) (channels : List Snowflake) : Mutation → Bool
  | .keep => true
  | .renewGuild renewed => renewed.id == guild
  | .putEmojis id _ | .putRole id _ | .dropRole id _ | .putMembers id _ | .dropMember id _ =>
      id == guild
  | .renewMember update => update.guildId == guild
  | .pinChannel update => update.guildId == some guild && channels.contains update.channelId
  | _ => false

namespace Cache

def besides (cache : Cache) (guild : Snowflake) : Cache := (cache.removeGuild guild).1

section Besides

variable (cache : Cache) (guild : Snowflake)

theorem besides_modifyGuild (f : Guild → Guild) :
    (cache.modifyGuild guild f).besides guild = cache.besides guild := by
  simp only [besides, removeGuild, modifyGuild, Table.erase_modify]

theorem besides_updateGuild {renewed : Guild} (hid : renewed.id = guild) :
    (cache.updateGuild renewed).1.besides guild = cache.besides guild := by
  simp only [besides, removeGuild, updateGuild, hid, Table.erase_insert]

theorem besides_upsertMembers (members : List Member) :
    (cache.upsertMembers guild members).besides guild = cache.besides guild := by
  have hrejected : (cache.members.insertAll
      ((addressed guild members).map fun e => (⟨guild, e.1⟩, e.2))).filter
        (fun key _ => key.guild != guild) =
      cache.members.filter fun key _ => key.guild != guild := by
    refine Table.filter_insertAll_of_rejected (fun e he => ?_) fun e he _ _ => ?_
    all_goals
      obtain ⟨_, -, rfl⟩ := List.mem_map.1 he
      simp
  simp only [upsertMembers_eq, besides, removeGuild, Table.erase_modify, hrejected]

theorem besides_removeMember (user : Snowflake) :
    (cache.removeMember guild user).1.besides guild = cache.besides guild := by
  have hrejected : (cache.members.erase ⟨guild, user⟩).filter (fun key _ => key.guild != guild) =
      cache.members.filter fun key _ => key.guild != guild :=
    Table.filter_erase_of_rejected fun _ _ => by simp
  simp only [removeMember, besides, removeGuild, modifyGuild, Table.erase_modify, hrejected]

/-- The pins of a channel of the guild are its own business. -/
theorem besides_updateChannelPins {update : ChannelPinsUpdate}
    (hguild : update.guildId = some guild)
    (hown : ∀ channel, cache.channel? update.channelId = some channel →
      channel.guildId = some guild) :
    (cache.updateChannelPins update).1.besides guild = cache.besides guild := by
  have hrejected :
      (cache.channels.insert update.channelId (cache.updateChannelPins update).2).filter
        (fun _ channel => channel.guildId != some guild) =
        cache.channels.filter fun _ channel => channel.guildId != some guild := by
    refine Table.filter_insert_of_rejected ?_ fun channel hknown => ?_
    · simp [updateChannelPins, hguild]
    · simp [hown channel hknown]
  exact congrArg (fun channels : Table Snowflake Channel =>
    { cache.besides guild with channels }) hrejected

/-- A guild that is stored shows only in what belongs to it, if its channels are new or its own. -/
theorem besides_insertGuild {created : Guild} (hid : created.id = guild)
    (hown : ∀ channel ∈ created.channels, ∀ known, cache.channel? channel.id = some known →
      known.guildId = some guild) :
    (cache.insertGuild created).1.besides guild = cache.besides guild := by
  subst hid
  have hchannels : (cache.channels.insertAll (channelEntries created)).filter
      (fun _ channel => channel.guildId != some created.id) =
        cache.channels.filter fun _ channel => channel.guildId != some created.id := by
    refine Table.filter_insertAll_of_rejected (fun e he => ?_) fun e he known hknown => ?_
    all_goals
      obtain ⟨tagged, htagged, rfl⟩ := List.mem_map.1 he
      obtain ⟨channel, hchannel, rfl⟩ := List.mem_map.1 htagged
    · simp
    · simp [hown channel hchannel known hknown]
  have hmembers : (cache.members.insertAll (memberEntries created)).filter
      (fun key _ => key.guild != created.id) =
        cache.members.filter fun key _ => key.guild != created.id := by
    refine Table.filter_insertAll_of_rejected (fun e he => ?_) fun e he _ _ => ?_
    all_goals
      obtain ⟨_, -, rfl⟩ := List.mem_map.1 he
      simp
  rw [insertGuild_eq]
  simp only [besides, removeGuild, hchannels, hmembers, Table.erase_insert]

/-- Where nothing belongs to a guild, everything is besides it. -/
theorem besides_eq_self (hguild : cache.guild? guild = none)
    (hchannels : ∀ id channel, cache.channel? id = some channel → channel.guildId ≠ some guild)
    (hmembers : ∀ user, cache.member? guild user = none) : cache.besides guild = cache := by
  have hguilds : cache.guilds.erase guild = cache.guilds := Table.erase_of_get?_eq_none hguild
  have hkept : cache.channels.filter (fun _ channel => channel.guildId != some guild) =
      cache.channels :=
    Table.filter_eq_self fun id channel hget => by simpa using hchannels id channel hget
  have hothers : cache.members.filter (fun key _ => key.guild != guild) = cache.members := by
    refine Table.filter_eq_self fun key member hget => ?_
    have hne : key.guild ≠ guild := by
      rintro rfl
      have hmember : cache.members.get? key = none := hmembers key.user
      rw [hmember] at hget
      cases hget
    simpa using hne
  simp only [besides, removeGuild, hguilds, hkept, hothers]

end Besides

def Marked (cache : Cache) (guild : Snowflake) (channels : List Snowflake) : Prop :=
  ∀ id ∈ channels, ∃ channel, cache.channel? id = some channel ∧ channel.guildId = some guild

section Marked

variable {cache : Cache} {guild : Snowflake} {channels : List Snowflake}

theorem Marked.of_channels_eq (h : cache.Marked guild channels) {next : Cache}
    (hnext : next.channels = cache.channels) : next.Marked guild channels := by
  intro id hid
  obtain ⟨channel, hknown, hguild⟩ := h id hid
  refine ⟨channel, ?_, hguild⟩
  rw [channel?, hnext]
  exact hknown

theorem Marked.updateChannelPins (h : cache.Marked guild channels) {update : ChannelPinsUpdate}
    (hguild : update.guildId = some guild) :
    (cache.updateChannelPins update).1.Marked guild channels := by
  intro id hid
  rw [channel?_updateChannelPins]
  split
  next => exact ⟨_, rfl, by simp [Cache.updateChannelPins, hguild]⟩
  next => exact h id hid

/-- The channels that a guild brings along are marked as its own. -/
theorem marked_insertGuild (cache : Cache) (created : Guild) :
    (cache.insertGuild created).1.Marked created.id (created.channels.map (·.id)) := by
  intro id hid
  obtain ⟨channel, hchannel, rfl⟩ := List.mem_map.1 hid
  have hentry : (channel.id, { channel with guildId := some created.id }) ∈
      channelEntries created :=
    List.mem_map.2 ⟨_, List.mem_map.2 ⟨channel, hchannel, rfl⟩, rfl⟩
  -- another channel with this identifier may have come later, but that is marked, too
  obtain ⟨stored, hstored⟩ := Table.exists_find_of_mem (List.mem_reverse.2 hentry)
  refine ⟨stored, ?_, ?_⟩
  · show (cache.channels.insertAll (channelEntries created)).get? channel.id = some stored
    rw [Table.get?_insertAll]
    exact congrArg (Option.or · _) hstored
  · obtain ⟨_, htagged, heq⟩ := List.mem_map.1 (List.mem_reverse.1 (Table.mem_of_find hstored))
    obtain ⟨_, -, rfl⟩ := List.mem_map.1 htagged
    rw [← (Prod.mk.inj heq).2]

/-- What is besides a guild stays as it is while things happen within the guild, and so do the marks
of its channels. -/
theorem besides_mutate (h : cache.Marked guild channels) {mutation : Mutation}
    (hwithin : mutation.within guild channels = true) :
    (cache.mutate mutation).besides guild = cache.besides guild ∧
      (cache.mutate mutation).Marked guild channels := by
  cases mutation with
  | keep => exact ⟨rfl, h⟩
  | renewGuild renewed =>
      exact ⟨cache.besides_updateGuild guild (eq_of_beq hwithin), h.of_channels_eq rfl⟩
  | putEmojis own _ | putRole own _ | dropRole own _ =>
      obtain rfl : own = guild := eq_of_beq hwithin
      exact ⟨cache.besides_modifyGuild own _, h.of_channels_eq rfl⟩
  | putMembers own members =>
      obtain rfl : own = guild := eq_of_beq hwithin
      refine ⟨cache.besides_upsertMembers own members, h.of_channels_eq ?_⟩
      rw [mutate, upsertMembers_eq]
  | renewMember update =>
      obtain rfl : update.guildId = guild := eq_of_beq hwithin
      let known := (cache.member? update.guildId update.user.id).getD {}
      let renewed : Member := { known with
        user := some update.user
        roles := update.roles
        nick := update.nick <|> known.nick }
      refine ⟨cache.besides_upsertMembers update.guildId [renewed], h.of_channels_eq ?_⟩
      show (cache.upsertMembers update.guildId [renewed]).channels = _
      rw [upsertMembers_eq]
  | dropMember own user =>
      obtain rfl : own = guild := eq_of_beq hwithin
      exact ⟨cache.besides_removeMember own user, h.of_channels_eq rfl⟩
  | pinChannel update =>
      obtain ⟨hguild, hchannel⟩ := Bool.and_eq_true_iff.1 hwithin
      have hguild : update.guildId = some guild := eq_of_beq hguild
      refine ⟨cache.besides_updateChannelPins guild hguild fun channel hknown => ?_,
        h.updateChannelPins hguild⟩
      obtain ⟨marked, hmarked, hown⟩ := h update.channelId (List.contains_iff_mem.1 hchannel)
      rw [hknown] at hmarked
      cases hmarked
      exact hown
  | _ => cases hwithin

end Marked

/-! ### The life of a guild -/

/-- Whether a frame is about one guild only: a change of the guild, its emojis, roles or members, in
data that name the guild, or of the pins of one of some channels, in data that name the guild, too.
Data that cannot be read name nothing else. -/
def aboutGuild (guild : Snowflake) (channels : List Snowflake) (frame : Dispatched) : Bool :=
  match EventKind.ofName? frame.1 with
  | some .guildUpdate => (read? Guild.decode frame.2).all (·.id == guild)
  | some .guildEmojisUpdate => (read? GuildEmojisUpdate.decode frame.2).all (·.guildId == guild)
  | some .guildMemberAdd => (read? GuildMemberAdd.decode frame.2).all (·.guildId == guild)
  | some .guildMemberUpdate => (read? GuildMemberUpdate.decode frame.2).all (·.guildId == guild)
  | some .guildMemberRemove => (read? GuildMemberRemove.decode frame.2).all (·.guildId == guild)
  | some .guildMembersChunk => (read? GuildMembersChunk.decode frame.2).all (·.guildId == guild)
  | some .guildRoleCreate | some .guildRoleUpdate =>
    (read? GuildRole.decode frame.2).all (·.guildId == guild)
  | some .guildRoleDelete => (read? GuildRoleDelete.decode frame.2).all (·.guildId == guild)
  | some .channelPinsUpdate => (read? ChannelPinsUpdate.decode frame.2).all fun update =>
    update.guildId == some guild && channels.contains update.channelId
  | _ => false

theorem within_read {α : Type} {decode : Decoder α} {data : Json} {guild : Snowflake}
    {channels : List Snowflake} {names : α → Bool} {ask : α → Mutation}
    (hnames : (read? decode data).all names = true)
    (hask : ∀ a, names a = true → (ask a).within guild channels = true) :
    (Mutation.read decode data ask).within guild channels = true := by
  unfold Mutation.read
  cases hread : read? decode data with
  | none => rfl
  | some a =>
      rw [hread] at hnames
      exact hask a hnames

theorem within_ofFrame {guild : Snowflake} {channels : List Snowflake} {frame : Dispatched}
    (habout : aboutGuild guild channels frame = true) :
    (Mutation.ofFrame frame).within guild channels = true := by
  unfold aboutGuild at habout
  unfold Mutation.ofFrame
  cases hkind : EventKind.ofName? frame.1 with
  | none => rfl
  | some kind =>
      rw [hkind] at habout
      cases kind with
      | guildUpdate | guildEmojisUpdate | guildMemberAdd | guildMemberUpdate | guildMemberRemove
      | guildMembersChunk | guildRoleCreate | guildRoleUpdate | guildRoleDelete
      | channelPinsUpdate => exact within_read habout fun _ hnames => hnames
      | _ => cases habout

section Life

variable {cache : Cache} {guild : Snowflake}

/-- What a cache that is like another one besides a guild still has of the other. -/
theorem keeps_of_besides_eq {now : Cache} (h : now.besides guild = cache) :
    now.currentUser = cache.currentUser ∧ now.messages = cache.messages ∧
      (∀ id, id ≠ guild → now.guild? id = cache.guild? id) ∧
      (∀ id channel, cache.channel? id = some channel → now.channel? id = some channel) ∧
      ∀ id, id ≠ guild → ∀ user, now.member? id user = cache.member? id user := by
  subst h
  refine ⟨rfl, rfl, fun id hid => ?_, fun id channel hchannel => ?_, fun id hid user => ?_⟩
  · rw [besides, guild?_removeGuild, if_neg hid]
  · have hfilter : (now.channels.filter fun _ channel => channel.guildId != some guild).get? id =
        some channel := hchannel
    rw [Table.get?_filter] at hfilter
    exact (Option.filter_eq_some_iff.1 hfilter).1
  · rw [besides, member?_removeGuild, if_neg hid]

/-- The cache after a frame of a kind that can be read. -/
theorem next_of_read (kind : EventKind) {name : String} {data : Json}
    (hkind : EventKind.ofName? name = some kind) :
    cache.next (name, data) = cache.mutate (.ofKind kind data) := by
  rw [next_eq_mutate, Mutation.ofFrame, hkind]

/-- A guild that is created where nothing of it was known and that is deleted in the end leaves the
cache exactly as it was before, whatever happened to the guild, its channels' pins, its roles and
its members meanwhile. All the while no other guild, no channel that was known, no member of another
guild and no message changes. -/
theorem guild_leaves_no_trace (cache : Cache) (guild : Snowflake) (created deleted : Json)
    (sent : Guild) (frames : List Dispatched) (hguild : cache.guild? guild = none)
    (hchannels : ∀ id channel, cache.channel? id = some channel → channel.guildId ≠ some guild)
    (hmembers : ∀ user, cache.member? guild user = none)
    (hcreated : read? Guild.decode created = some sent) (hid : sent.id = guild)
    (hnew : ∀ channel ∈ sent.channels, cache.channel? channel.id = none)
    (hframes : ∀ frame ∈ frames, aboutGuild guild (sent.channels.map (·.id)) frame = true)
    (hdeleted : (read? UnavailableGuild.decode deleted).map (·.id) = some guild) :
    cache.applyAll (("GUILD_CREATE", created) :: frames ++ [("GUILD_DELETE", deleted)]) = cache ∧
      ∀ before, before <+: frames →
        let now := cache.applyAll (("GUILD_CREATE", created) :: before)
        now.currentUser = cache.currentUser ∧ now.messages = cache.messages ∧
          (∀ id, id ≠ guild → now.guild? id = cache.guild? id) ∧
          (∀ id channel, cache.channel? id = some channel → now.channel? id = some channel) ∧
          ∀ id, id ≠ guild → ∀ user, now.member? id user = cache.member? id user := by
  subst hid
  have hstart : cache.next ("GUILD_CREATE", created) = (cache.insertGuild sent).1 := by
    rw [next_of_read .guildCreate rfl, Mutation.ofKind, Mutation.read, hcreated]
    rfl
  have hbesides : ∀ before, before <+: frames →
      (cache.applyAll (("GUILD_CREATE", created) :: before)).besides sent.id = cache := by
    intro before hbefore
    rw [applyAll_cons, hstart]
    have hafter : ((cache.insertGuild sent).1.applyAll before).besides sent.id =
        (cache.insertGuild sent).1.besides sent.id ∧
          ((cache.insertGuild sent).1.applyAll before).Marked sent.id
            (sent.channels.map (·.id)) := by
      refine applyAll_of_mutate (P := fun now => now.besides sent.id = _ ∧ now.Marked sent.id _)
        ⟨rfl, cache.marked_insertGuild sent⟩ fun frame hframe now h => ?_
      have hstep := besides_mutate h.2 (within_ofFrame (hframes frame (hbefore.subset hframe)))
      exact ⟨hstep.1.trans h.1, hstep.2⟩
    rw [hafter.1, cache.besides_insertGuild sent.id rfl, cache.besides_eq_self sent.id hguild
      hchannels hmembers]
    intro channel hchannel known hknown
    rw [hnew channel hchannel] at hknown
    cases hknown
  refine ⟨?_, fun before hbefore => keeps_of_besides_eq (hbesides before hbefore)⟩
  obtain ⟨gone, hgone, hgoneId⟩ := Option.map_eq_some_iff.1 hdeleted
  rw [applyAll_append, applyAll_cons, next_of_read .guildDelete rfl, Mutation.ofKind,
    Mutation.read, hgone]
  show ((cache.applyAll _).removeGuild gone.id).1 = cache
  rw [hgoneId]
  exact hbesides frames (List.prefix_refl frames)

/-- A guild with a channel, a member and a message, and a channel that belongs to nobody. -/
def neighbours : List Dispatched :=
  [("GUILD_CREATE", .object [("channels", .array [.object [("id", .string "10")]]),
      ("id", .string "1"),
      ("members", .array [.object [("user", .object [("id", .string "7")])]])]),
    ("CHANNEL_CREATE", .object [("id", .string "11")]),
    ("MESSAGE_CREATE", .object [("channel_id", .string "10"), ("id", .string "5")])]

/-- A guild that names one of its channels twice and has a member in common with its neighbour. -/
def newGuild : Json :=
  .object [
    ("channels", .array [.object [("id", .string "20")], .object [("id", .string "21")],
      .object [("id", .string "20"), ("name", .string "again")]]),
    ("id", .string "2"),
    ("members", .array [.object [("user", .object [("id", .string "7")])],
      .object [("user", .object [("id", .string "8")])]])]

/-- The guild is updated without members, members come, change and go, and a channel is pinned. -/
def guildLife : List Dispatched :=
  let inGuild := fun members : List (String × Json) =>
    Json.object (("guild_id", .string "2") :: members)
  let user := fun id : String => ("user", Json.object [("id", .string id)])
  [("GUILD_UPDATE", .object [("id", .string "2"), ("name", .string "renamed")]),
    ("GUILD_MEMBER_ADD", inGuild [user "9"]),
    ("GUILD_MEMBER_UPDATE", inGuild [("nick", .string "n"), user "10"]),
    ("GUILD_MEMBER_REMOVE", inGuild [user "8"]),
    ("GUILD_MEMBERS_CHUNK", .null),
    ("GUILD_ROLE_CREATE", inGuild [("role", .object [("id", .string "30")])]),
    ("CHANNEL_PINS_UPDATE", inGuild [("channel_id", .string "20")])]

theorem guild_leaves_no_trace_beside_neighbours :
    let cache := (empty 10).applyAll neighbours
    let deleted := Json.object [("id", .string "2")]
    let history := ("GUILD_CREATE", newGuild) :: guildLife ++ [("GUILD_DELETE", deleted)]
    (cache.applyAll (history.take 8)).guildChannels ⟨"2"⟩ ≠ [] ∧
      (∀ frame ∈ guildLife, aboutGuild ⟨"2"⟩ [⟨"20"⟩, ⟨"21"⟩, ⟨"20"⟩] frame = true) ∧
      cache.applyAll history = cache := by
  intro cache deleted history
  let sent := (read? Guild.decode newGuild).getD default
  have hsent : read? Guild.decode newGuild = some sent := by decide +kernel
  have hids : sent.channels.map (·.id) = [⟨"20"⟩, ⟨"21"⟩, ⟨"20"⟩] := by decide +kernel
  have hframes : ∀ frame ∈ guildLife, aboutGuild ⟨"2"⟩ [⟨"20"⟩, ⟨"21"⟩, ⟨"20"⟩] frame = true := by
    decide +kernel
  have hchannels : ∀ e ∈ cache.channels.entries, e.2.guildId ≠ some ⟨"2"⟩ := by decide +kernel
  have hmembers : ∀ e ∈ cache.members.entries, e.1.guild ≠ ⟨"2"⟩ := by decide +kernel
  refine ⟨by decide +kernel, hframes, ?_⟩
  refine (guild_leaves_no_trace cache ⟨"2"⟩ newGuild deleted sent guildLife (by decide +kernel)
    (fun id channel hknown => hchannels _ ((Table.get?_eq_some_iff ..).1 hknown)) (fun user => ?_)
    hsent (by decide +kernel) (by decide +kernel) (by rwa [hids]) (by decide +kernel)).1
  refine Option.eq_none_iff_forall_ne_some.2 fun member hmember => ?_
  exact hmembers _ ((Table.get?_eq_some_iff ..).1 hmember) rfl

end Life

end Cache

end ChatGateway
