import ChatGateway.Entity.Message
import ChatGateway.Notice.Channel
import ChatGateway.Notice.Message
import ChatGateway.Notice.Guild
import ChatGateway.Notice.Session
import ChatGateway.Proofs.Decode.Spelling
import ChatGateway.Protocol.Command
import ChatGateway.Protocol.Endpoint

/-!
What each type is written as is read back as the same value, type by type. The fields of a record
are gone through in the order of declaration, each with the reason why its own type is read back;
that no two of them have one name is evaluated. Guilds are left out here: they are read back only
if their tables are in order.
-/

namespace ChatGateway

open Record (Spells)

variable {arrange : Json.Arrangement}

/-! ### Single values -/

namespace Decoder

theorem inverts_string : Decoder.string.Inverts arrange .string where
  reads _ := by
    rw [arrange.atom rfl]
    rfl
  solid _ := nofun

theorem inverts_bool : Decoder.bool.Inverts arrange .bool where
  reads _ := by
    rw [arrange.atom rfl]
    rfl
  solid _ := nofun

theorem natBelow_ofNat {limit : Nat} {wanted : String} {n : Nat} (h : n < limit) :
    natBelow limit wanted (.ofJson (arrange (.ofNat n))) = .ok n := by
  rw [arrange.atom rfl]
  show (if 0 ≤ (n : Int) ∧ (n : Int) < limit then Except.ok (n : Int).toNat else _) = _
  rw [if_pos (by omega), Int.toNat_natCast]

theorem inverts_u8 : u8.Inverts arrange fun n => .ofNat n.toNat where
  reads n := by
    rw [u8, natBelow_ofNat n.toNat_lt]
    exact congrArg Except.ok UInt8.ofNat_toNat
  solid _ := nofun

theorem inverts_u32 : u32.Inverts arrange fun n => .ofNat n.toNat where
  reads n := by
    rw [u32, natBelow_ofNat n.toNat_lt]
    exact congrArg Except.ok UInt32.ofNat_toNat
  solid _ := nofun

theorem inverts_u64 : u64.Inverts arrange fun n => .ofNat n.toNat where
  reads n := by
    rw [u64, natBelow_ofNat n.toNat_lt]
    exact congrArg Except.ok UInt64.ofNat_toNat
  solid _ := nofun

theorem inverts_i64 : i64.Inverts arrange fun n => .int n.toInt where
  reads n := by
    rw [arrange.atom rfl]
    show (if _ then Except.ok (Int64.ofInt n.toInt) else _) = _
    rw [if_pos ⟨n.minValue_le_toInt, n.toInt_le⟩, Int64.ofInt_toInt]
  solid _ := nofun

end Decoder

theorem Snowflake.inverts : Snowflake.decode.Inverts arrange Snowflake.toJson where
  reads _ := by
    rw [toJson, arrange.atom rfl]
    rfl
  solid _ := nofun

theorem ActivityKind.inverts : ActivityKind.decode.Inverts arrange ActivityKind.toJson where
  reads kind := by
    rw [toJson, arrange.atom rfl]
    cases kind <;> rfl
  solid _ := nofun

theorem Status.inverts : Status.decode.Inverts arrange Status.toJson where
  reads status := by
    rw [toJson, arrange.atom rfl]
    cases status <;> rfl
  solid _ := nofun

theorem Opcode.inverts : Opcode.decode.Inverts arrange Opcode.toJson where
  reads op := by
    rw [toJson, arrange.atom rfl]
    cases op <;> rfl
  solid _ := nofun

/-! ### Entities -/

theorem User.inverts : User.decode.Inverts arrange User.toJson :=
  Record.inverts (by decide) fun _ => ⟨_, rfl,
    Spells.map (.required Snowflake.inverts)
    |>.seq (.defaulted Decoder.inverts_string)
    |>.seq (.defaulted Decoder.inverts_string)
    |>.seq (.optional Decoder.inverts_string)
    |>.seq (.optional Decoder.inverts_string)
    |>.seq (.defaulted Decoder.inverts_bool)
    |>.seq (.defaulted Decoder.inverts_bool)
    |>.seq (.optional Decoder.inverts_bool)
    |>.seq (.optional Decoder.inverts_string)
    |>.seq (.optional Decoder.inverts_i64)
    |>.seq (.optional Decoder.inverts_string)
    |>.seq (.optional Decoder.inverts_bool)
    |>.seq (.optional Decoder.inverts_string)
    |>.seq (.optional Decoder.inverts_u64)
    |>.seq (.optional Decoder.inverts_i64)
    |>.seq (.optional Decoder.inverts_u64)⟩

theorem Emoji.inverts : Emoji.decode.Inverts arrange Emoji.toJson :=
  Record.inverts (by decide) fun _ => ⟨_, rfl,
    Spells.map (.optional Snowflake.inverts)
    |>.seq (.optional Decoder.inverts_string)
    |>.seq (.defaulted Decoder.inverts_bool)⟩

theorem Member.inverts : Member.decode.Inverts arrange Member.toJson :=
  Record.inverts (by decide) fun _ => ⟨_, rfl,
    Spells.map (.optional User.inverts)
    |>.seq (.optional Decoder.inverts_string)
    |>.seq (.defaulted Snowflake.inverts.list)
    |>.seq (.optional Decoder.inverts_string)
    |>.seq (.defaulted Decoder.inverts_bool)
    |>.seq (.defaulted Decoder.inverts_bool)
    |>.seq (.optional Snowflake.inverts)⟩

theorem Role.inverts : Role.decode.Inverts arrange Role.toJson :=
  Record.inverts (by decide) fun _ => ⟨_, rfl,
    Spells.map (.required Snowflake.inverts)
    |>.seq (.defaulted Decoder.inverts_string)
    |>.seq (.defaulted Decoder.inverts_u32)
    |>.seq (.defaulted Decoder.inverts_bool)
    |>.seq (.defaulted Decoder.inverts_i64)
    |>.seq (.defaulted Decoder.inverts_string)
    |>.seq (.defaulted Decoder.inverts_bool)
    |>.seq (.defaulted Decoder.inverts_bool)⟩

theorem Channel.inverts : Channel.decode.Inverts arrange Channel.toJson :=
  Record.inverts (by decide) fun _ => ⟨_, rfl,
    Spells.map (.required Snowflake.inverts)
    |>.seq (.defaulted Decoder.inverts_u8)
    |>.seq (.optional Snowflake.inverts)
    |>.seq (.optional Decoder.inverts_string)
    |>.seq (.optional Decoder.inverts_i64)
    |>.seq (.optional Decoder.inverts_string)
    |>.seq (.optional Decoder.inverts_bool)
    |>.seq (.optional Snowflake.inverts)
    |>.seq (.optional Decoder.inverts_string)
    |>.seq (.optional Snowflake.inverts)
    |>.seq (.optional Decoder.inverts_u32)⟩

theorem Reaction.inverts : Reaction.decode.Inverts arrange Reaction.toJson :=
  Record.inverts (by decide) fun _ => ⟨_, rfl,
    Spells.map (.required Decoder.inverts_u32)
    |>.seq (.defaulted Decoder.inverts_bool)
    |>.seq (.required Emoji.inverts)⟩

theorem Message.inverts : Message.decode.Inverts arrange Message.toJson :=
  Record.inverts (by decide) fun _ => ⟨_, rfl,
    Spells.map (.required Snowflake.inverts)
    |>.seq (.required Snowflake.inverts)
    |>.seq (.optional Snowflake.inverts)
    |>.seq (.optional User.inverts)
    |>.seq (.optional Member.inverts)
    |>.seq (.defaulted Decoder.inverts_string)
    |>.seq (.optional Decoder.inverts_string)
    |>.seq (.optional Decoder.inverts_string)
    |>.seq (.defaulted Decoder.inverts_bool)
    |>.seq (.defaulted Decoder.inverts_bool)
    |>.seq (.defaulted Decoder.inverts_bool)
    |>.seq (.defaulted Reaction.inverts.list)⟩

/-- The address is left out when there is none. -/
theorem Activity.inverts : Activity.decode.Inverts arrange Activity.toJson :=
  Record.inverts (by decide) fun
    | ⟨_, _, some _⟩ => ⟨_, rfl,
      Spells.map (.required Decoder.inverts_string)
      |>.seq (.required ActivityKind.inverts)
      |>.seq (.field (Decoder.inverts_string.option (some _)))⟩
    | ⟨_, _, none⟩ => ⟨_, rfl,
      Spells.map (.required Decoder.inverts_string)
      |>.seq (.required ActivityKind.inverts)
      |>.seq .absent⟩

theorem Presence.inverts : Presence.decode.Inverts arrange Presence.toJson :=
  Record.inverts (by decide) fun _ => ⟨_, rfl,
    Spells.map (.optional Decoder.inverts_u64)
    |>.seq (.required Activity.inverts.list)
    |>.seq (.required Status.inverts)
    |>.seq (.required Decoder.inverts_bool)⟩

/-! ### Notices -/

theorem ChannelPinsUpdate.inverts :
    ChannelPinsUpdate.decode.Inverts arrange ChannelPinsUpdate.toJson :=
  Record.inverts (by decide) fun _ => ⟨_, rfl,
    Spells.map (.optional Snowflake.inverts)
    |>.seq (.required Snowflake.inverts)
    |>.seq (.optional Decoder.inverts_string)⟩

theorem WebhooksUpdate.inverts : WebhooksUpdate.decode.Inverts arrange WebhooksUpdate.toJson :=
  Record.inverts (by decide) fun _ => ⟨_, rfl,
    Spells.map (.required Snowflake.inverts)
    |>.seq (.required Snowflake.inverts)⟩

theorem TypingStart.inverts : TypingStart.decode.Inverts arrange TypingStart.toJson :=
  Record.inverts (by decide) fun _ => ⟨_, rfl,
    Spells.map (.required Snowflake.inverts)
    |>.seq (.optional Snowflake.inverts)
    |>.seq (.required Snowflake.inverts)
    |>.seq (.required Decoder.inverts_u64)
    |>.seq (.optional Member.inverts)⟩

theorem MessageUpdate.inverts : MessageUpdate.decode.Inverts arrange MessageUpdate.toJson :=
  Record.inverts (by decide) fun _ => ⟨_, rfl,
    Spells.map (.required Snowflake.inverts)
    |>.seq (.required Snowflake.inverts)
    |>.seq (.optional Snowflake.inverts)
    |>.seq (.optional Decoder.inverts_string)
    |>.seq (.optional Decoder.inverts_string)
    |>.seq (.optional Decoder.inverts_bool)
    |>.seq (.optional Decoder.inverts_bool)⟩

theorem MessageDelete.inverts : MessageDelete.decode.Inverts arrange MessageDelete.toJson :=
  Record.inverts (by decide) fun _ => ⟨_, rfl,
    Spells.map (.required Snowflake.inverts)
    |>.seq (.required Snowflake.inverts)
    |>.seq (.optional Snowflake.inverts)⟩

theorem MessageDeleteBulk.inverts :
    MessageDeleteBulk.decode.Inverts arrange MessageDeleteBulk.toJson :=
  Record.inverts (by decide) fun _ => ⟨_, rfl,
    Spells.map (.required Snowflake.inverts.list)
    |>.seq (.required Snowflake.inverts)
    |>.seq (.optional Snowflake.inverts)⟩

theorem MessageReaction.inverts : MessageReaction.decode.Inverts arrange MessageReaction.toJson :=
  Record.inverts (by decide) fun _ => ⟨_, rfl,
    Spells.map (.required Snowflake.inverts)
    |>.seq (.required Snowflake.inverts)
    |>.seq (.required Snowflake.inverts)
    |>.seq (.optional Snowflake.inverts)
    |>.seq (.optional Member.inverts)
    |>.seq (.required Emoji.inverts)⟩

theorem MessageReactionRemoveAll.inverts :
    MessageReactionRemoveAll.decode.Inverts arrange MessageReactionRemoveAll.toJson :=
  Record.inverts (by decide) fun _ => ⟨_, rfl,
    Spells.map (.required Snowflake.inverts)
    |>.seq (.required Snowflake.inverts)
    |>.seq (.optional Snowflake.inverts)⟩

theorem UnavailableGuild.inverts :
    UnavailableGuild.decode.Inverts arrange UnavailableGuild.toJson :=
  Record.inverts (by decide) fun _ => ⟨_, rfl,
    Spells.map (.required Snowflake.inverts)
    |>.seq (.defaulted Decoder.inverts_bool)⟩

theorem GuildBan.inverts : GuildBan.decode.Inverts arrange GuildBan.toJson :=
  Record.inverts (by decide) fun _ => ⟨_, rfl,
    Spells.map (.required Snowflake.inverts)
    |>.seq (.required User.inverts)⟩

theorem GuildEmojisUpdate.inverts :
    GuildEmojisUpdate.decode.Inverts arrange GuildEmojisUpdate.toJson :=
  Record.inverts (by decide) fun _ => ⟨_, rfl,
    Spells.map (.required Snowflake.inverts)
    |>.seq (.required Emoji.inverts.list)⟩

theorem GuildIntegrationsUpdate.inverts :
    GuildIntegrationsUpdate.decode.Inverts arrange GuildIntegrationsUpdate.toJson :=
  Record.inverts (by decide) fun _ => ⟨_, rfl,
    Spells.map (.required Snowflake.inverts)⟩

theorem GuildMemberRemove.inverts :
    GuildMemberRemove.decode.Inverts arrange GuildMemberRemove.toJson :=
  Record.inverts (by decide) fun _ => ⟨_, rfl,
    Spells.map (.required Snowflake.inverts)
    |>.seq (.required User.inverts)⟩

theorem GuildMemberUpdate.inverts :
    GuildMemberUpdate.decode.Inverts arrange GuildMemberUpdate.toJson :=
  Record.inverts (by decide) fun _ => ⟨_, rfl,
    Spells.map (.required Snowflake.inverts)
    |>.seq (.required User.inverts)
    |>.seq (.defaulted Snowflake.inverts.list)
    |>.seq (.optional Decoder.inverts_string)⟩

theorem GuildMembersChunk.inverts :
    GuildMembersChunk.decode.Inverts arrange GuildMembersChunk.toJson :=
  Record.inverts (by decide) fun _ => ⟨_, rfl,
    Spells.map (.required Snowflake.inverts)
    |>.seq (.required Member.inverts.list)
    |>.seq (.defaulted Decoder.inverts_u32)
    |>.seq (.defaulted Decoder.inverts_u32)⟩

theorem GuildRole.inverts : GuildRole.decode.Inverts arrange GuildRole.toJson :=
  Record.inverts (by decide) fun _ => ⟨_, rfl,
    Spells.map (.required Snowflake.inverts)
    |>.seq (.required Role.inverts)⟩

theorem GuildRoleDelete.inverts : GuildRoleDelete.decode.Inverts arrange GuildRoleDelete.toJson :=
  Record.inverts (by decide) fun _ => ⟨_, rfl,
    Spells.map (.required Snowflake.inverts)
    |>.seq (.required Snowflake.inverts)⟩

theorem PresenceUpdate.inverts : PresenceUpdate.decode.Inverts arrange PresenceUpdate.toJson :=
  Record.inverts (by decide) fun _ => ⟨_, rfl,
    Spells.map (.required User.inverts)
    |>.seq (.optional Snowflake.inverts)
    |>.seq (.omissible Status.inverts)
    |>.seq (.defaulted Activity.inverts.list)⟩

/-! ### The protocol -/

theorem Hello.inverts : Hello.decode.Inverts arrange Hello.toJson :=
  Record.inverts (by decide) fun _ => ⟨_, rfl,
    Spells.map (.required Decoder.inverts_u64)⟩

theorem IdentityProperties.inverts :
    IdentityProperties.decode.Inverts arrange IdentityProperties.toJson :=
  Record.inverts (by decide) fun _ => ⟨_, rfl,
    Spells.map (.required Decoder.inverts_string)
    |>.seq (.required Decoder.inverts_string)
    |>.seq (.required Decoder.inverts_string)⟩

theorem Identify.inverts : Identify.decode.Inverts arrange Identify.toJson :=
  Record.inverts (by decide) fun _ => ⟨_, rfl,
    Spells.map (.required Decoder.inverts_string)
    |>.seq (.required Decoder.inverts_u64)
    |>.seq (.required IdentityProperties.inverts)
    |>.seq (.required Decoder.inverts_bool)
    |>.seq (.required Decoder.inverts_u8)⟩

theorem Resume.inverts : Resume.decode.Inverts arrange Resume.toJson :=
  Record.inverts (by decide) fun _ => ⟨_, rfl,
    Spells.map (.required Decoder.inverts_string)
    |>.seq (.required Decoder.inverts_string)
    |>.seq (.optional Decoder.inverts_i64)⟩

theorem SessionStartLimit.inverts :
    SessionStartLimit.decode.Inverts arrange SessionStartLimit.toJson :=
  Record.inverts (by decide) fun _ => ⟨_, rfl,
    Spells.map (.required Decoder.inverts_u64)
    |>.seq (.required Decoder.inverts_u64)
    |>.seq (.required Decoder.inverts_u64)
    |>.seq (.defaulted Decoder.inverts_u64)⟩

theorem GatewayEndpoint.inverts : GatewayEndpoint.decode.Inverts arrange GatewayEndpoint.toJson :=
  Record.inverts (by decide) fun _ => ⟨_, rfl,
    Spells.map (.required Decoder.inverts_string)
    |>.seq (.required Decoder.inverts_u64)
    |>.seq (.required SessionStartLimit.inverts)⟩

end ChatGateway
