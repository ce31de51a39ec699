import ChatGateway.Proofs.Decode.Inverses
import ChatGateway.Protocol.Frame

/-!
Whatever decodes is decoded again from what it is written as. Most types are read back from any
value of theirs. Three are read back only from values that were read: a guild, whose tables must be
keyed by their entries, the beginning of a session, which brings guilds, and a frame, whose data
must be canonical. Their decoders make only such values, so no format (`Format.all`) loses what was
read when it is written (`Format.decode_again`), however the members of objects are arranged then
and in whatever order tables are listed.
-/

namespace ChatGateway

open Record (Spells ensures_true)

variable {arrange : Json.Arrangement}

/-! ### Guilds and what brings them -/

namespace Guild

/-- A table is read from its values, in whatever order they are listed. -/
theorem keyed_ofList {α : Type} {decode : Decoder α} {encode : α → Json}
    {key : α → Option Snowflake} (h : decode.Inverts arrange encode) {t : Table Snowflake α}
    (hkeyed : t.All fun k a => key a = some k) {listed : List α} (hlisted : listed.Perm t.values) :
    keyed decode key (.ofJson (arrange (.ofList encode listed))) = .ok t := by
  have hentries : (t.values.filterMap fun a => (key a).map fun k => (k, a)) = t.entries := by
    rw [Table.values, List.filterMap_map]
    refine (List.filterMap_congr fun e he => ?_).trans List.filterMap_some
    exact congrArg (Option.map fun k => (k, e.2)) (hkeyed e.1 e.2 he)
  have hperm : (listed.filterMap fun a => (key a).map fun k => (k, a)).Perm t.entries :=
    hentries ▸ hlisted.filterMap _
  rw [keyed, h.list_ofList]
  exact congrArg Except.ok (Table.ofList_of_perm hperm)

/-- What a guild may be written as: a table does not say in which order it is listed. -/
def Writes (g : Guild) (written : Json) : Prop :=
  ∃ roles members, roles.Perm g.roles.values ∧ members.Perm g.members.values ∧
    written = .object [
      ("id", g.id.toJson),
      ("name", .string g.name),
      ("icon", .ofOption .string g.icon),
      ("owner_id", .ofOption Snowflake.toJson g.ownerId),
      ("region", .ofOption .string g.region),
      ("member_count", .ofOption (fun n => .ofNat n.toNat) g.memberCount),
      ("large", .ofOption .bool g.large),
      ("unavailable", .bool g.unavailable),
      ("roles", .ofList Role.toJson roles),
      ("members", .ofList Member.toJson members),
      ("channels", .ofList Channel.toJson g.channels),
      ("emojis", .ofList Emoji.toJson g.emojis)]

theorem writes_toJson (g : Guild) : g.Writes g.toJson :=
  ⟨_, _, List.Perm.refl _, List.Perm.refl _, rfl⟩

theorem decode_of_writes {g : Guild} (hkeyed : g.Keyed) {written : Json} (h : g.Writes written) :
    Guild.decode (.ofJson (arrange written)) = .ok g := by
  obtain ⟨roles, members, hroles, hmembers, rfl⟩ := h
  have hkeyedRoles : g.roles.All fun id role => some role.id = some id := fun id role hmem =>
    congrArg some (hkeyed.roles id role hmem)
  exact Record.decode_of_spells (by decide)
    (Spells.map (.required Snowflake.inverts)
    |>.seq (.defaulted Decoder.inverts_string)
    |>.seq (.optional Decoder.inverts_string)
    |>.seq (.optional Snowflake.inverts)
    |>.seq (.optional Decoder.inverts_string)
    |>.seq (.optional Decoder.inverts_u64)
    |>.seq (.optional Decoder.inverts_bool)
    |>.seq (.defaulted Decoder.inverts_bool)
    |>.seq (.field (keyed_ofList Role.inverts hkeyedRoles hroles))
    |>.seq (.field (keyed_ofList Member.inverts hkeyed.members hmembers))
    |>.seq (.defaulted Channel.inverts.list)
    |>.seq (.defaulted Emoji.inverts.list))

end Guild

namespace ReadyEvent

/-- What the beginning of a session may be written as, with the tables of each guild in an order of
their own. -/
def Writes (r : ReadyEvent) (written : Json) : Prop :=
  ∃ guilds, List.Forall₂ Guild.Writes r.guilds guilds ∧
    written = .object [
      ("v", .ofNat r.apiVersion.toNat),
      ("user", r.user.toJson),
      ("guilds", .array guilds),
      ("session_id", .string r.sessionId),
      ("resume_gateway_url", .ofOption .string r.resumeGatewayUrl),
      ("shard", .ofOption (.ofList (fun n => .int n.toInt)) r.shard)]

theorem writes_toJson (r : ReadyEvent) : r.Writes r.toJson :=
  ⟨_, List.forall₂_map_right_iff.2 (List.forall₂_same.2 fun g _ => g.writes_toJson), rfl⟩

theorem decode_of_writes {r : ReadyEvent} (hkeyed : ∀ g ∈ r.guilds, g.Keyed) {written : Json}
    (h : r.Writes written) : ReadyEvent.decode (.ofJson (arrange written)) = .ok r := by
  obtain ⟨guilds, hguilds, rfl⟩ := h
  have hread : List.Forall₂ (fun g value => Guild.decode (.ofJson (arrange value)) = .ok g)
      r.guilds guilds :=
    (List.forall₂_and_left _ _).2 ⟨hkeyed, hguilds⟩ |>.imp fun _ _ ⟨hg, hw⟩ =>
      Guild.decode_of_writes hg hw
  exact Record.decode_of_spells (by decide)
    (Spells.map (.required Decoder.inverts_u8)
    |>.seq (.required User.inverts)
    |>.seq (.field (Decoder.list_array hread))
    |>.seq (.required Decoder.inverts_string)
    |>.seq (.optional Decoder.inverts_string)
    |>.seq (.optional Decoder.inverts_i64.list))

end ReadyEvent

/-! ### Frames -/

namespace Frame

/-- The data of a frame are read without a type. -/
theorem canonical_of_decode {o : Outline} {f : Frame} (h : Frame.decode o = .ok f) :
    f.data.sorted = f.data := by
  have hdata : (Record.defaulted "d" Decoder.value .null).Ensures fun data =>
      data.sorted = data := by
    refine Record.ensures_defaulted (fun o data hdata => ?_) rfl
    cases hvalue : o.value with
    | error flaw =>
        rw [Decoder.value, hvalue] at hdata
        cases hdata
    | ok value =>
        rw [Decoder.value, hvalue] at hdata
        cases hdata
        exact Json.sorted_of_value hvalue
  refine Record.Ensures.of_decode (P := fun f => f.data.sorted = f.data) ?_ h
  unfold record
  refine .seq (.seq (.seq (.map (ensures_true _) ?_) hdata) (ensures_true _)) (ensures_true _)
  intro _ _ _ hdata _ _ _ _
  exact hdata

theorem decode_toJson {f : Frame} (hdata : f.data.sorted = f.data) :
    Frame.decode (.ofJson (arrange f.toJson)) = .ok f := by
  have hread : Decoder.value (.ofJson (arrange f.data)) = .ok f.data := by
    rw [Decoder.value, Json.value_ofJson, ← hdata, Json.sorted_arrange]
    rfl
  exact Record.decode_of_spells (by decide)
    (Spells.map (.required Decoder.inverts_u8)
    |>.seq (.field hread)
    |>.seq (.omissible Decoder.inverts_i64)
    |>.seq (.omissible Decoder.inverts_string))

end Frame

/-! ### All formats -/

/-- A type that is sent, with what a value of it may be written as. -/
structure Format where
  Value : Type
  decode : Decoder Value
  encode : Value → Json
  Writes : Value → Json → Prop

namespace Format

def of {α : Type} (decode : Decoder α) (encode : α → Json) : Format where
  Value := α
  decode
  encode
  Writes a written := written = encode a

def flags : Format := of Decoder.u64 fun bits => .ofNat bits.toNat

def guild : Format := ⟨Guild, Guild.decode, Guild.toJson, Guild.Writes⟩

def ready : Format := ⟨ReadyEvent, ReadyEvent.decode, ReadyEvent.toJson, ReadyEvent.Writes⟩

def all : List Format := [
  .of Snowflake.decode Snowflake.toJson, .flags, .of User.decode User.toJson,
  .of Emoji.decode Emoji.toJson, .of Member.decode Member.toJson, .of Role.decode Role.toJson,
  .of Channel.decode Channel.toJson, .of Reaction.decode Reaction.toJson,
  .of Message.decode Message.toJson, .of ActivityKind.decode ActivityKind.toJson,
  .of Activity.decode Activity.toJson, .of Status.decode Status.toJson,
  .of Presence.decode Presence.toJson, .guild,
  .of ChannelPinsUpdate.decode ChannelPinsUpdate.toJson,
  .of WebhooksUpdate.decode WebhooksUpdate.toJson, .of TypingStart.decode TypingStart.toJson,
  .of UnavailableGuild.decode UnavailableGuild.toJson, .of GuildBan.decode GuildBan.toJson,
  .of GuildEmojisUpdate.decode GuildEmojisUpdate.toJson,
  .of GuildIntegrationsUpdate.decode GuildIntegrationsUpdate.toJson,
  .of GuildMemberRemove.decode GuildMemberRemove.toJson,
  .of GuildMemberUpdate.decode GuildMemberUpdate.toJson,
  .of GuildMembersChunk.decode GuildMembersChunk.toJson, .of GuildRole.decode GuildRole.toJson,
  .of GuildRoleDelete.decode GuildRoleDelete.toJson, .of MessageUpdate.decode MessageUpdate.toJson,
  .of MessageDelete.decode MessageDelete.toJson,
  .of MessageDeleteBulk.decode MessageDeleteBulk.toJson,
  .of MessageReaction.decode MessageReaction.toJson,
  .of MessageReactionRemoveAll.decode MessageReactionRemoveAll.toJson,
  .of PresenceUpdate.decode PresenceUpdate.toJson, .ready, .of Opcode.decode Opcode.toJson,
  .of Frame.decode Frame.toJson, .of Hello.decode Hello.toJson,
  .of IdentityProperties.decode IdentityProperties.toJson, .of Identify.decode Identify.toJson,
  .of Resume.decode Resume.toJson, .of GatewayEndpoint.decode GatewayEndpoint.toJson,
  .of SessionStartLimit.decode SessionStartLimit.toJson]

structure Faithful (f : Format) : Prop where
  encodes : ∀ v, f.Writes v (f.encode v)
  rereads : ∀ {o v written}, f.decode o = .ok v → f.Writes v written →
    ∀ arrange : Json.Arrangement, f.decode (.ofJson (arrange written)) = .ok v

theorem faithful_of {α : Type} {decode : Decoder α} {encode : α → Json}
    (h : ∀ {arrange}, decode.Inverts arrange encode) : (of decode encode).Faithful where
  encodes _ := rfl
  rereads _ hwrites _ := by
    cases hwrites
    exact h.reads _

theorem faithful_guild : guild.Faithful where
  encodes := Guild.writes_toJson
  rereads hread hwrites _ := Guild.decode_of_writes (Guild.keyed_of_decode hread) hwrites

theorem faithful_ready : ready.Faithful where
  encodes := ReadyEvent.writes_toJson
  rereads hread hwrites _ :=
    ReadyEvent.decode_of_writes (ReadyEvent.keyed_of_decode hread) hwrites

theorem faithful_frame : (of Frame.decode Frame.toJson).Faithful where
  encodes _ := rfl
  rereads hread hwrites _ := by
    cases hwrites
    exact Frame.decode_toJson (Frame.canonical_of_decode hread)

theorem faithful_of_mem : ∀ f ∈ all, f.Faithful := by
  simp only [all, List.forall_mem_cons]
  exact ⟨
    faithful_of Snowflake.inverts, faithful_of Decoder.inverts_u64, faithful_of User.inverts,
    faithful_of Emoji.inverts, faithful_of Member.inverts, faithful_of Role.inverts,
    faithful_of Channel.inverts, faithful_of Reaction.inverts, faithful_of Message.inverts,
    faithful_of ActivityKind.inverts, faithful_of Activity.inverts, faithful_of Status.inverts,
    faithful_of Presence.inverts, faithful_guild, faithful_of ChannelPinsUpdate.inverts,
    faithful_of WebhooksUpdate.inverts, faithful_of TypingStart.inverts,
    faithful_of UnavailableGuild.inverts, faithful_of GuildBan.inverts,
    faithful_of GuildEmojisUpdate.inverts, faithful_of GuildIntegrationsUpdate.inverts,
    faithful_of GuildMemberRemove.inverts, faithful_of GuildMemberUpdate.inverts,
    faithful_of GuildMembersChunk.inverts, faithful_of GuildRole.inverts,
    faithful_of GuildRoleDelete.inverts, faithful_of MessageUpdate.inverts,
    faithful_of MessageDelete.inverts, faithful_of MessageDeleteBulk.inverts,
    faithful_of MessageReaction.inverts, faithful_of MessageReactionRemoveAll.inverts,
    faithful_of PresenceUpdate.inverts, faithful_ready, faithful_of Opcode.inverts, faithful_frame,
    faithful_of Hello.inverts, faithful_of IdentityProperties.inverts,
    faithful_of Identify.inverts, faithful_of Resume.inverts, faithful_of GatewayEndpoint.inverts,
    faithful_of SessionStartLimit.inverts, nofun⟩

/-- A value that was decoded is decoded again from what it is written as, be its members arranged
as they are or by name, and be its tables listed in any order. -/
theorem decode_again {f : Format} (hf : f ∈ all) {read : Json} {v : f.Value}
    (h : Decoder.ofValue f.decode read = .ok v) :
    Decoder.ofValue f.decode (f.encode v) = .ok v ∧
      ∀ written, f.Writes v written → ∀ arrange : Json.Arrangement,
        Decoder.ofValue f.decode (arrange written) = .ok v := by
  have hfaithful := faithful_of_mem f hf
  exact ⟨hfaithful.rereads h (hfaithful.encodes v) .asWritten,
    fun _ hwrites => hfaithful.rereads h hwrites⟩

/-- A guild given as an array: its roles repeat an identifier, one of its members has no user, and
the flags of the other hold a bit without a name. -/
def crowded : Json :=
  .array [.string "1", .string "den", .null, .null, .null, .null, .null, .bool false,
    .array [
      .object [("id", .string "5"), ("name", .string "early")],
      .array [.string "5", .string "late"]],
    .array [
      .object [],
      .object [("user", .object [("id", .string "7"), ("flags", .int 0x8000000000000000)])]]]

def crowdedGuild : Guild where
  id := ⟨"1"⟩
  name := "den"
  roles := .ofList [(⟨"5"⟩, { id := ⟨"5"⟩, name := "late" })]
  members := .ofList [(⟨"7"⟩, { user := some { id := ⟨"7"⟩, flags := some 0x8000000000000000 } })]

theorem decode_again_crowded :
    Decoder.ofValue Guild.decode crowded = .ok crowdedGuild ∧
      Decoder.ofValue Guild.decode crowdedGuild.toJson = .ok crowdedGuild := by
  have hread : Decoder.ofValue guild.decode crowded = .ok crowdedGuild := rfl
  exact ⟨hread, (decode_again (by simp [all]) hread).1⟩

end Format

end ChatGateway
