import ChatGateway.Proofs.Cache.Mutations

/-!
What is found in a cache after an operation. Each operation has one equation for each look-up that
it has to do with, so that nobody who asks what is found afterwards has to open it.
-/

namespace ChatGateway.Cache

variable (cache : Cache) (id : Snowflake)

/-! ### Channels -/

@[simp] theorem channel?_upsertChannel (channel : Channel) :
    (cache.upsertChannel channel).channel? id =
      if id = channel.id then some channel else cache.channel? id := Table.get?_insert ..

@[simp] theorem channel?_removeChannel (gone : Snowflake) :
    (cache.removeChannel gone).1.channel? id = if id = gone then none else cache.channel? id :=
  Table.get?_erase ..

@[simp] theorem channel?_updateChannelPins (update : ChannelPinsUpdate) :
    (cache.updateChannelPins update).1.channel? id =
      if id = update.channelId then some (cache.updateChannelPins update).2
      else cache.channel? id := Table.get?_insert ..

/-! ### Guilds -/

@[simp] theorem guild?_modifyGuild (guild : Snowflake) (f : Guild → Guild) :
    (cache.modifyGuild guild f).guild? id =
      if id = guild then (cache.guild? id).map f else cache.guild? id := Table.get?_modify ..

@[simp] theorem get?_members_tag (guild : Guild) (user : Snowflake) :
    (tag guild).members.get? user = (guild.members.get? user).map fun member =>
      { member with guildId := some guild.id } := Table.get?_map ..

def channelEntries (guild : Guild) : List (Snowflake × Channel) :=
  (tag guild).channels.map fun channel => (channel.id, channel)

def memberEntries (guild : Guild) : List (MemberKey × Member) :=
  (tag guild).members.entries.map fun e => (⟨guild.id, e.1⟩, e.2)

theorem insertGuild_eq (guild : Guild) :
    (cache.insertGuild guild).1 = { cache with
      channels := cache.channels.insertAll (channelEntries guild)
      members := cache.members.insertAll (memberEntries guild)
      guilds := cache.guilds.insert guild.id { tag guild with channels := [] } } := rfl

theorem nodup_memberEntries (guild : Guild) : ((memberEntries guild).map (·.1)).Nodup := by
  rw [memberEntries, List.map_map]
  refine List.Nodup.of_map (·.user) ?_
  rw [List.map_map]
  exact (tag guild).members.nodup_keys

theorem find_memberEntries (guild : Guild) (user : Snowflake) :
    Table.find ⟨id, user⟩ (memberEntries guild) =
      if id = guild.id then (tag guild).members.get? user else none := by
  ext member
  rw [Table.find_eq_some_iff (nodup_memberEntries guild), memberEntries, List.mem_map,
    Option.ite_none_right_eq_some, Table.get?_eq_some_iff]
  constructor
  · rintro ⟨⟨other, entry⟩, hentry, heq⟩
    cases heq
    exact ⟨rfl, hentry⟩
  · rintro ⟨rfl, hentry⟩
    exact ⟨(user, member), hentry, rfl⟩

@[simp] theorem guild?_insertGuild (guild : Guild) :
    (cache.insertGuild guild).1.guild? id =
      if id = guild.id then some { tag guild with channels := [] } else cache.guild? id :=
  Table.get?_insert ..

/-- The members of a guild that is stored are found as it has them, and those that it does not list
as they were known before. -/
@[simp] theorem member?_insertGuild (guild : Guild) (user : Snowflake) :
    (cache.insertGuild guild).1.member? id user =
      if id = guild.id then ((tag guild).members.get? user).or (cache.member? id user)
      else cache.member? id user := by
  rw [member?, insertGuild_eq, Table.get?_insertAll_of_nodup _ (nodup_memberEntries guild),
    find_memberEntries]
  split
  next => rfl
  next => rfl

/-- The last one of several channels with one identifier is found. -/
theorem channel?_insertGuild (guild : Guild) {earlier later : List Channel} {channel : Channel}
    (hchannels : (tag guild).channels = earlier ++ channel :: later)
    (hlast : ∀ other ∈ later, other.id ≠ channel.id) :
    (cache.insertGuild guild).1.channel? channel.id = some channel := by
  have hlater : Table.find channel.id (later.map fun c => (c.id, c)).reverse = none := by
    refine Table.find_eq_none fun e hmem => ?_
    obtain ⟨other, hother, rfl⟩ := List.mem_map.1 (List.mem_reverse.1 hmem)
    exact hlast other hother
  rw [channel?, insertGuild_eq, Table.get?_insertAll, channelEntries, hchannels]
  simp [Table.find_append, hlater, Table.find]

@[simp] theorem guild?_updateGuild (guild : Guild) :
    (cache.updateGuild guild).1.guild? id =
      if id = guild.id then some (cache.updateGuild guild).2 else cache.guild? id :=
  Table.get?_insert ..

@[simp] theorem guild?_removeGuild (gone : Snowflake) :
    (cache.removeGuild gone).1.guild? id = if id = gone then none else cache.guild? id :=
  Table.get?_erase ..

@[simp] theorem member?_removeGuild (gone user : Snowflake) :
    (cache.removeGuild gone).1.member? id user =
      if id = gone then none else cache.member? id user := by
  show (cache.members.filter fun key _ => key.guild != gone).get? ⟨id, user⟩ = _
  rw [Table.get?_filter, member?]
  cases cache.members.get? ⟨id, user⟩ with
  | none => simp
  | some member => by_cases h : id = gone <;> simp [Option.filter, h]

/-! ### Members -/

theorem upsertMember_of_none {guild : Snowflake} {member : Member} (hnone : member.id? = none) :
    (cache.upsertMember guild member).1 = cache := by
  have htagged : { member with guildId := some guild }.id? = none := hnone
  simp [upsertMember, htagged]

section Member

variable {guild user : Snowflake} {member : Member} (huser : member.id? = some user)

include huser

theorem guild?_upsertMember :
    (cache.upsertMember guild member).1.guild? id =
      if id = guild then (cache.guild? id).map fun g =>
        { g with members := g.members.insert user { member with guildId := some guild } }
      else cache.guild? id := by
  have htagged : { member with guildId := some guild }.id? = some user := huser
  simp only [upsertMember, htagged]
  exact cache.guild?_modifyGuild ..

theorem member?_upsertMember (other : Snowflake) :
    (cache.upsertMember guild member).1.member? id other =
      if id = guild ∧ other = user then some { member with guildId := some guild }
      else cache.member? id other := by
  have htagged : { member with guildId := some guild }.id? = some user := huser
  simp only [upsertMember, htagged, member?, Table.get?_insert, MemberKey.mk.injEq]
  rfl

end Member

@[simp] theorem member?_updateMember (update : GuildMemberUpdate) (other : Snowflake) :
    (cache.updateMember update).1.member? id other =
      if id = update.guildId ∧ other = update.user.id then some (cache.updateMember update).2
      else cache.member? id other := by
  let known := (cache.member? update.guildId update.user.id).getD {}
  let patched : Member := { known with
    user := some update.user
    roles := update.roles
    nick := update.nick <|> known.nick }
  have huser : patched.id? = some update.user.id := rfl
  exact cache.member?_upsertMember id huser other

@[simp] theorem guild?_removeMember (guild user : Snowflake) :
    (cache.removeMember guild user).1.guild? id =
      if id = guild then (cache.guild? id).map fun g => { g with members := g.members.erase user }
      else cache.guild? id := cache.guild?_modifyGuild ..

@[simp] theorem member?_removeMember (guild user other : Snowflake) :
    (cache.removeMember guild user).1.member? id other =
      if id = guild ∧ other = user then none else cache.member? id other := by
  simp only [removeMember, member?, Table.get?_erase, MemberKey.mk.injEq]
  rfl

end ChatGateway.Cache
