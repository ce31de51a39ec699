import ChatGateway.Proofs.Cache.Membership
import Mathlib.Data.List.Induction

/-!
What a guild shows of its members, and what the member lookup finds. Whom a cached guild shows is
found by the lookup with the same value, in every history in which updates of guilds bring no
members (`guild_member_found`). Whom the lookup finds is shown by the guild as long as no guild that
is stored as a whole leaves out a member who is known by then (`members_mirrored_iff`); one that
does leaves an entry behind (`stale_member_found`).
-/

namespace ChatGateway

def memberless (frame : Dispatched) : Bool :=
  match EventKind.ofName? frame.1 with
  | some .guildUpdate => (Cache.read? Guild.decode frame.2).all fun guild => guild.members.isEmpty
  | _ => true

/-- A frame about a guild, with members of whom only the users are known. -/
def guildFrame (event : String) (users : List String) : Dispatched :=
  (event, .object [("id", .string "1"), ("members", .array (users.map fun user =>
    .object [("user", .object [("id", .string user)])]))])

def memberFrame (event user nick : String) : Dispatched :=
  (event, .object [("guild_id", .string "1"), ("nick", .string nick),
    ("user", .object [("id", .string user)])])

namespace Mutation

theorem eq_of_ofFrame_renewGuild {frame : Dispatched} {guild : Guild}
    (hrenew : ofFrame frame = .renewGuild guild) :
    EventKind.ofName? frame.1 = some .guildUpdate ∧
      Cache.read? Guild.decode frame.2 = some guild := by
  unfold ofFrame at hrenew
  cases hkind : EventKind.ofName? frame.1 with
  | none => simp [hkind] at hrenew
  | some kind =>
      rw [hkind] at hrenew
      cases kind with
      | guildUpdate =>
          simp only [ofKind, read] at hrenew
          split at hrenew
          next hread =>
            cases hrenew
            exact ⟨rfl, hread⟩
          next => cases hrenew
      | resumed | guildBanAdd | guildBanRemove | guildIntegrationsUpdate | presenceUpdate
      | typingStart | webhooksUpdate => cases hrenew
      | _ =>
          simp only [ofKind, read] at hrenew
          split at hrenew <;> cases hrenew

theorem isEmpty_of_memberless {frame : Dispatched} (hframe : memberless frame = true)
    (guild : Guild) (hrenew : ofFrame frame = .renewGuild guild) :
    guild.members.isEmpty = true := by
  obtain ⟨hkind, hread⟩ := eq_of_ofFrame_renewGuild hrenew
  simpa [memberless, hkind, hread] using hframe

end Mutation

namespace Cache

/-! ### Guilds that are stored as a whole -/

section Store

variable (cache : Cache) (id : Snowflake)

theorem insertGuilds_concat (guilds : List Guild) (guild : Guild) :
    cache.insertGuilds (guilds ++ [guild]) = ((cache.insertGuilds guilds).insertGuild guild).1 :=
  cache.insertGuilds_append guilds [guild]

theorem roster_insertGuilds_of_ne {guilds : List Guild} (hne : ∀ guild ∈ guilds, guild.id ≠ id) :
    (cache.insertGuilds guilds).roster id = cache.roster id := by
  induction guilds using List.reverseRecOn with
  | nil => rfl
  | append_singleton guilds guild ih =>
      have hlast : id ≠ guild.id := Ne.symm (hne guild (by simp))
      rw [insertGuilds_concat, roster_insertGuild, if_neg hlast]
      exact ih fun earlier hearlier => hne earlier (by simp [hearlier])

/-- Of several guilds with one identifier the last one is the one that is shown. -/
theorem roster_insertGuilds_of_last {before after : List Guild} {guild : Guild}
    (hlast : ∀ later ∈ after, later.id ≠ guild.id) :
    (cache.insertGuilds (before ++ guild :: after)).roster guild.id =
      ((cache.insertGuilds before).roster guild.id).deliver (tag guild).members.get? := by
  rw [List.append_cons, insertGuilds_append, roster_insertGuilds_of_ne _ _ hlast,
    insertGuilds_concat, roster_insertGuild, if_pos rfl]

theorem exists_last_of_mem {guilds : List Guild} (hmem : ∃ guild ∈ guilds, guild.id = id) :
    ∃ before last after, guilds = before ++ last :: after ∧ last.id = id ∧
      ∀ later ∈ after, later.id ≠ last.id := by
  have hfound : (guilds.reverse.find? fun guild => guild.id = id).isSome := by
    simpa using hmem
  obtain ⟨last, hlast⟩ := Option.isSome_iff_exists.1 hfound
  obtain ⟨hid, after, before, hguilds, hafter⟩ := List.find?_eq_some_iff_append.1 hlast
  have hid : last.id = id := by simpa using hid
  refine ⟨before.reverse, last, after.reverse, ?_, hid, fun later hlater => ?_⟩
  · rw [← List.reverse_inj, hguilds]
    simp
  · rw [hid]
    simpa using hafter later (List.mem_reverse.1 hlater)

end Store

/-! ### Whom a guild shows -/

def MembersListed (cache : Cache) : Prop := ∀ id, (cache.roster id).Listed

theorem MembersListed.insertGuilds {cache : Cache} (h : cache.MembersListed)
    (guilds : List Guild) : (cache.insertGuilds guilds).MembersListed := by
  induction guilds using List.reverseRecOn with
  | nil => exact h
  | append_singleton guilds guild ih =>
      intro id
      rw [insertGuilds_concat, roster_insertGuild]
      split
      next => exact Roster.listed_deliver _ _
      next => exact ih id

theorem MembersListed.mutate {cache : Cache} (h : cache.MembersListed) {mutation : Mutation}
    (hmemberless : ∀ guild, mutation = .renewGuild guild → guild.members.isEmpty) :
    (cache.mutate mutation).MembersListed := by
  intro id
  rcases roster_mutate cache hmemberless with hstored | ⟨-, hsteps⟩
  · rw [hstored]
    exact h.insertGuilds _ id
  · exact Roster.Relates.steps (fun _ _ hfound => hfound) (h id) (hsteps id)

/-- Whom a guild shows, the member lookup knows: after every history in which updates of guilds
bring no members, each member of a cached guild is found by the lookup with the same value. -/
theorem guild_member_found (capacity : Nat) (frames : List Dispatched)
    (hframes : ∀ frame ∈ frames, memberless frame = true) :
    let cache := (empty capacity).applyAll frames
    ∀ id guild, cache.guild? id = some guild →
      ∀ user member, (user, member) ∈ guild.members.entries →
        cache.member? id user = some member := by
  intro cache id guild hguild user member hentry
  have hlisted : cache.MembersListed := applyAll_of_mutate
    (fun _ _ hown => by cases hown) fun frame hframe _ h =>
      h.mutate (Mutation.isEmpty_of_memberless (hframes frame hframe))
  have hown : (cache.roster id).own = some guild.members.get? := by simp [roster, hguild]
  exact hlisted id _ hown user member ((guild.members.get?_eq_some_iff user member).2 hentry)

/-- A guild is delivered and then updated, and its members change. -/
def memberHistory : List Dispatched :=
  [memberFrame "GUILD_MEMBER_ADD" "8" "early", guildFrame "GUILD_CREATE" ["7", "8"],
    guildFrame "GUILD_UPDATE" [], memberFrame "GUILD_MEMBER_UPDATE" "8" "late",
    memberFrame "GUILD_MEMBER_REMOVE" "7" "", ("GUILD_UPDATE", .null)]

theorem guild_member_found_renamed :
    (∀ frame ∈ memberHistory, memberless frame = true) ∧
      ∃ guild member, ((empty 10).applyAll memberHistory).guild? ⟨"1"⟩ = some guild ∧
        guild.members.entries = [(⟨"8"⟩, member)] ∧ member.nick = some "late" ∧
        ((empty 10).applyAll memberHistory).member? ⟨"1"⟩ ⟨"8"⟩ = some member := by
  have hframes : ∀ frame ∈ memberHistory, memberless frame = true := by decide +kernel
  let guild := (((empty 10).applyAll memberHistory).guild? ⟨"1"⟩).getD default
  let member := (guild.members.get? ⟨"8"⟩).getD default
  have hguild : ((empty 10).applyAll memberHistory).guild? ⟨"1"⟩ = some guild := by
    decide +kernel
  have hentries : guild.members.entries = [(⟨"8"⟩, member)] := by decide +kernel
  have hnick : member.nick = some "late" := by decide +kernel
  refine ⟨hframes, guild, member, hguild, hentries, hnick, ?_⟩
  exact guild_member_found 10 memberHistory hframes ⟨"1"⟩ guild hguild ⟨"8"⟩ member
    (by rw [hentries]; exact List.mem_singleton_self _)

/-! ### Whom the lookup finds -/

/-- Whom the lookup finds in a cached guild is shown by the guild with the same value. -/
def MembersMirrored (cache : Cache) : Prop :=
  ∀ id guild, cache.guild? id = some guild → ∀ user member, cache.member? id user = some member →
    guild.members.get? user = some member

theorem membersMirrored_iff (cache : Cache) :
    cache.MembersMirrored ↔ ∀ id, (cache.roster id).Mirrored := by
  constructor
  · intro h id members hown user member hmember
    obtain ⟨guild, hguild, rfl⟩ := Option.map_eq_some_iff.1 hown
    exact h id guild hguild user member hmember
  · intro h id guild hguild user member hmember
    have hown : (cache.roster id).own = some guild.members.get? := by simp [roster, hguild]
    exact h id _ hown user member hmember

/-- Guilds that are stored as a whole leave out nobody. The last one of those with one identifier
lists everybody whom the lookup finds once the ones before it are stored. -/
def Complete (cache : Cache) (guilds : List Guild) : Prop :=
  ∀ before guild after, guilds = before ++ guild :: after →
    (∀ later ∈ after, later.id ≠ guild.id) →
      ∀ user, ((cache.insertGuilds before).member? guild.id user).isSome →
        (guild.members.get? user).isSome

theorem mirrored_insertGuilds_iff {cache : Cache} (h : cache.MembersMirrored)
    (guilds : List Guild) :
    (cache.insertGuilds guilds).MembersMirrored ↔ cache.Complete guilds := by
  rw [membersMirrored_iff] at h ⊢
  have hdeliver : ∀ before guild after, guilds = before ++ guild :: after →
      (∀ later ∈ after, later.id ≠ guild.id) →
        (((cache.insertGuilds guilds).roster guild.id).Mirrored ↔
          ∀ user, ((cache.insertGuilds before).member? guild.id user).isSome →
            (guild.members.get? user).isSome) := by
    rintro before guild after rfl hlast
    rw [roster_insertGuilds_of_last cache hlast, Roster.mirrored_deliver_iff]
    simp [roster]
  constructor
  · intro hmirrored before guild after hguilds hlast
    exact (hdeliver before guild after hguilds hlast).1 (hmirrored guild.id)
  · intro hcomplete id
    by_cases hstored : ∃ guild ∈ guilds, guild.id = id
    · obtain ⟨before, guild, after, hguilds, rfl, hlast⟩ := exists_last_of_mem id hstored
      exact (hdeliver before guild after hguilds hlast).2 (hcomplete _ _ _ hguilds hlast)
    · rw [roster_insertGuilds_of_ne cache id fun guild hmem hid => hstored ⟨guild, hmem, hid⟩]
      exact h id

/-- A frame keeps the guilds and the lookup in agreement exactly if it leaves nobody out. -/
theorem mirrored_next_iff {cache : Cache} (h : cache.MembersMirrored) {frame : Dispatched}
    (hframe : memberless frame = true) :
    (cache.next frame).MembersMirrored ↔
      cache.Complete (cache.snapshots (.ofFrame frame)) := by
  rw [next_eq_mutate, ← mirrored_insertGuilds_iff h]
  rcases roster_mutate cache (Mutation.isEmpty_of_memberless hframe) with hstored | ⟨hnone, hsteps⟩
  · simp only [membersMirrored_iff, hstored]
  · rw [hnone]
    refine iff_of_true ?_ h
    rw [membersMirrored_iff] at h ⊢
    exact fun id => Roster.Relates.steps (fun _ _ hfound => hfound) (h id) (hsteps id)

/-- Whom the lookup finds, a cached guild shows, exactly as long as nobody is left out: in a history
in which updates of guilds bring no members, the two agree at all times if and only if each frame
that stores guilds as a whole has everybody in them whom the lookup finds by then. -/
theorem members_mirrored_iff (capacity : Nat) (frames : List Dispatched)
    (hframes : ∀ frame ∈ frames, memberless frame = true) :
    (∀ before, before <+: frames → ((empty capacity).applyAll before).MembersMirrored) ↔
      ∀ before frame, before ++ [frame] <+: frames →
        let cache := (empty capacity).applyAll before
        cache.Complete (cache.snapshots (.ofFrame frame)) := by
  have hnext : ∀ before frame, before ++ [frame] <+: frames →
      ((empty capacity).applyAll before).MembersMirrored →
        (((empty capacity).applyAll (before ++ [frame])).MembersMirrored ↔
          ((empty capacity).applyAll before).Complete
            (((empty capacity).applyAll before).snapshots (.ofFrame frame))) := by
    intro before frame hbefore h
    have hframe := hframes frame (hbefore.subset (by simp))
    rw [applyAll_append, applyAll_cons]
    exact mirrored_next_iff h hframe
  constructor
  · intro hmirrored before frame hbefore
    have hstart : before <+: frames := (List.prefix_append before [frame]).trans hbefore
    exact (hnext before frame hbefore (hmirrored before hstart)).1 (hmirrored _ hbefore)
  · intro hcomplete before hbefore
    induction before using List.reverseRecOn with
    | nil => exact fun id guild hguild => by cases hguild
    | append_singleton before frame ih =>
        have hstart : before <+: frames := (List.prefix_append before [frame]).trans hbefore
        exact (hnext before frame hbefore (ih hstart)).2 (hcomplete before frame hbefore)

/-- A guild is delivered again after an outage, and one of its members has left meanwhile. -/
def redeliveredGuild : List Dispatched :=
  [guildFrame "GUILD_CREATE" ["7", "8"], guildFrame "GUILD_CREATE" ["7"]]

theorem members_mirrored_iff_redelivered :
    (∀ frame ∈ redeliveredGuild, memberless frame = true) ∧
      ¬ ∀ before frame, before ++ [frame] <+: redeliveredGuild →
        let cache := (empty 10).applyAll before
        cache.Complete (cache.snapshots (.ofFrame frame)) := by
  have hframes : ∀ frame ∈ redeliveredGuild, memberless frame = true := by decide +kernel
  refine ⟨hframes, fun hcomplete => ?_⟩
  have hmirrored := (members_mirrored_iff 10 redeliveredGuild hframes).2 hcomplete _
    (List.prefix_refl _)
  let cache := (empty 10).applyAll redeliveredGuild
  let guild := (cache.guild? ⟨"1"⟩).getD default
  let member := (cache.member? ⟨"1"⟩ ⟨"8"⟩).getD default
  have hguild : cache.guild? ⟨"1"⟩ = some guild := by decide +kernel
  have hmember : cache.member? ⟨"1"⟩ ⟨"8"⟩ = some member := by decide +kernel
  have hshown : guild.members.get? ⟨"8"⟩ = none := by decide +kernel
  rw [hmirrored ⟨"1"⟩ guild hguild ⟨"8"⟩ member hmember] at hshown
  cases hshown

/-- The lookup finds a member whom the cached guild does not have: one who is missing when the guild
is delivered again, be it alone or by a session that is ready, and one who was added before the
guild was known, whether it gets known by being delivered or by an update. -/
theorem stale_member_found :
    let stale := fun frames : List Dispatched =>
      let cache := (empty 10).applyAll frames
      (∀ frame ∈ frames, memberless frame = true) ∧
        (cache.guild? ⟨"1"⟩).map (fun guild => guild.members.get? ⟨"8"⟩) = some none ∧
        (cache.member? ⟨"1"⟩ ⟨"8"⟩).isSome
    let added := memberFrame "GUILD_MEMBER_ADD" "8" ""
    let ready : Dispatched := ("READY", .object [("guilds", .array [(guildFrame "" ["7"]).2]),
      ("session_id", .string "abc"), ("user", .object [("id", .string "9")]), ("v", .int 10)])
    stale redeliveredGuild ∧ stale [guildFrame "GUILD_CREATE" ["7", "8"], ready] ∧
      stale [added, guildFrame "GUILD_CREATE" ["7"]] ∧
      stale [added, guildFrame "GUILD_UPDATE" []] := by
  decide +kernel

end Cache

end ChatGateway
