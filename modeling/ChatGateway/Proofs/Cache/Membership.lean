import ChatGateway.Proofs.Cache.Lookups
import Mathlib.Logic.Function.Basic
import Mathlib.Logic.Relation

/-!
The two copies of a membership. A cache has the members of a guild in the guild itself, if that is
cached, and as entries of their own. For one guild the two are a `Roster`, and all that a mutation
can do to it is to store guilds as a whole, or to put in, take out and forget members in both copies
at once (`roster_mutate`). Neither makes a guild show a member that is not an entry. Storing a guild
can leave an entry behind that the guild does not show, and nothing else can.
-/

namespace ChatGateway

/-- What a cache knows of the members of one guild: by the guild itself, unless that is not cached,
and by the entries of their own. -/
@[ext] structure Roster where
  own : Option (Snowflake → Option Member)
  known : Snowflake → Option Member

namespace Roster

variable {r s : Roster}

def deliver (r : Roster) (members : Snowflake → Option Member) : Roster :=
  ⟨some members, fun user => (members user).or (r.known user)⟩

def put (r : Roster) (user : Snowflake) (member : Member) : Roster :=
  ⟨r.own.map (Function.update · user (some member)), Function.update r.known user (some member)⟩

def drop (r : Roster) (user : Snowflake) : Roster :=
  ⟨r.own.map (Function.update · user none), Function.update r.known user none⟩

def gone : Roster := ⟨none, fun _ => none⟩

/-- A change that is made to both copies at once. -/
inductive Step : Roster → Roster → Prop where
  | put (r : Roster) (user : Snowflake) (member : Member) : Step r (r.put user member)
  | drop (r : Roster) (user : Snowflake) : Step r (r.drop user)
  | leave (r : Roster) : Step r gone

def Relates (R : Option Member → Option Member → Prop) (r : Roster) : Prop :=
  ∀ members, r.own = some members → ∀ user, R (members user) (r.known user)

/-- Whom the guild shows is found among the entries. -/
def Listed : Roster → Prop :=
  Relates fun shown known => ∀ member, shown = some member → known = some member

/-- Who is found among the entries is shown by the guild, if that is cached. -/
def Mirrored : Roster → Prop :=
  Relates fun shown known => ∀ member, known = some member → shown = some member

/-- What is the same in both copies is related, so changes of both keep the relation. -/
theorem Relates.step {R : Option Member → Option Member → Prop} (hrefl : ∀ found, R found found)
    (h : r.Relates R) (hstep : Step r s) : s.Relates R := by
  intro members hown user
  cases hstep with
  | put changed member =>
      obtain ⟨old, hold, rfl⟩ := Option.map_eq_some_iff.1 hown
      simp only [Roster.put, Function.update_apply]
      split
      next => exact hrefl _
      next => exact h old hold user
  | drop changed =>
      obtain ⟨old, hold, rfl⟩ := Option.map_eq_some_iff.1 hown
      simp only [Roster.drop, Function.update_apply]
      split
      next => exact hrefl _
      next => exact h old hold user
  | leave => cases hown

theorem Relates.steps {R : Option Member → Option Member → Prop} (hrefl : ∀ found, R found found)
    (h : r.Relates R) (hsteps : Relation.ReflTransGen Step r s) : s.Relates R := by
  induction hsteps with
  | refl => exact h
  | tail _ hstep ih => exact ih.step hrefl hstep

theorem listed_deliver (r : Roster) (members : Snowflake → Option Member) :
    (r.deliver members).Listed := by
  intro own hown user member hmember
  cases hown
  simp [deliver, hmember]

/-- A guild that is stored shows everybody who is found exactly if it lists everybody who was. -/
theorem mirrored_deliver_iff (r : Roster) (members : Snowflake → Option Member) :
    (r.deliver members).Mirrored ↔ ∀ user, (r.known user).isSome → (members user).isSome := by
  constructor
  · intro h user hknown
    have hfound : ((r.deliver members).known user).isSome := by
      simp [deliver, hknown]
    obtain ⟨member, hmember⟩ := Option.isSome_iff_exists.1 hfound
    rw [h members rfl user member hmember]
    rfl
  · intro h own hown user member hmember
    cases hown
    cases hlisted : members user with
    | some listed => simpa [deliver, hlisted] using hmember
    | none =>
        have hknown : r.known user = some member := by
          simpa [deliver, hlisted] using hmember
        have hsome := h user (by rw [hknown]; rfl)
        rw [hlisted] at hsome
        cases hsome

end Roster

namespace Cache

theorem get?_insert_eq {α : Type} (t : Table Snowflake α) (k : Snowflake) (a : α) :
    (t.insert k a).get? = Function.update t.get? k (some a) := by
  ext1 k'
  rw [Table.get?_insert, Function.update_apply]

theorem get?_erase_eq {α : Type} (t : Table Snowflake α) (k : Snowflake) :
    (t.erase k).get? = Function.update t.get? k none := by
  ext1 k'
  rw [Table.get?_erase, Function.update_apply]

section Operations

variable (cache : Cache) (id : Snowflake)

def roster : Roster where
  own := (cache.guild? id).map fun guild => guild.members.get?
  known := cache.member? id

variable {cache} in
theorem roster_congr {next : Cache} (hguilds : next.guilds = cache.guilds)
    (hmembers : next.members = cache.members) : next.roster id = cache.roster id := by
  unfold roster guild? member?
  rw [hguilds, hmembers]

theorem roster_insertGuild (guild : Guild) :
    (cache.insertGuild guild).1.roster id =
      if id = guild.id then (cache.roster id).deliver (tag guild).members.get?
      else cache.roster id := by
  ext1
  · by_cases h : id = guild.id <;> simp [roster, Roster.deliver, h]
  · ext1 user
    by_cases h : id = guild.id <;> simp [roster, Roster.deliver, h]

/-- A change of a guild that leaves its members alone. -/
theorem roster_modifyGuild (guild : Snowflake) {f : Guild → Guild}
    (hf : ∀ g, (f g).members = g.members) :
    (cache.modifyGuild guild f).roster id = cache.roster id := by
  ext1
  · by_cases h : id = guild <;> simp [roster, h, Function.comp_def, hf]
  · rfl

/-- An update that brings no members leaves the members of a cached guild alone, and makes another
one known without any. -/
theorem roster_updateGuild {guild : Guild} (hnone : guild.members.isEmpty) :
    (cache.updateGuild guild).1.roster id =
      if (cache.guild? guild.id).isSome then cache.roster id
      else (cache.insertGuild guild).1.roster id := by
  have hempty : ∀ user, guild.members.get? user = none := fun user => by
    have hentries : guild.members.entries = [] := by simpa [Table.isEmpty] using hnone
    rw [Table.get?, hentries, Table.find_nil]
  have htagged : (tag guild).members.get? = guild.members.get? := by
    ext1 user
    rw [get?_members_tag, hempty, Option.map_none]
  cases hknown : cache.guild? guild.id with
  | some known =>
      have hmembers : (cache.updateGuild guild).2.members = known.members := by
        simp [updateGuild, hknown, hnone]
      ext1
      · by_cases h : id = guild.id <;> simp [roster, h, hknown, hmembers]
      · rfl
  | none =>
      have hmembers : (cache.updateGuild guild).2.members = guild.members := by
        simp [updateGuild, hknown]
      rw [roster_insertGuild]
      ext1
      · by_cases h : id = guild.id
        · simp [roster, Roster.deliver, h, hmembers, htagged]
        · simp [roster, h]
      · ext1 user
        show cache.member? id user = _
        by_cases h : id = guild.id <;> simp [roster, Roster.deliver, h, hempty]

theorem roster_removeGuild (guild : Snowflake) :
    (cache.removeGuild guild).1.roster id = if id = guild then .gone else cache.roster id := by
  ext1
  · by_cases h : id = guild <;> simp [roster, Roster.gone, h]
  · ext1 user
    by_cases h : id = guild <;> simp [roster, Roster.gone, h]

theorem roster_removeMember (guild user : Snowflake) :
    (cache.removeMember guild user).1.roster id =
      if id = guild then (cache.roster id).drop user else cache.roster id := by
  ext1
  · by_cases h : id = guild <;> simp [roster, Roster.drop, h, Function.comp_def, get?_erase_eq]
  · ext1 other
    by_cases h : id = guild <;> simp [roster, Roster.drop, h, Function.update_apply]

theorem roster_upsertMember {guild user : Snowflake} {member : Member}
    (huser : member.id? = some user) :
    (cache.upsertMember guild member).1.roster id =
      if id = guild then (cache.roster id).put user { member with guildId := some guild }
      else cache.roster id := by
  ext1
  · simp only [roster]
    rw [cache.guild?_upsertMember id huser]
    by_cases h : id = guild <;> simp [Roster.put, h, Function.comp_def, get?_insert_eq]
  · ext1 other
    simp only [roster]
    rw [cache.member?_upsertMember id huser]
    by_cases h : id = guild
    · simp [Roster.put, h, Function.update_apply]
    · simp [h]

end Operations

/-! ### Mutations on a roster -/

def insertGuilds (cache : Cache) (guilds : List Guild) : Cache :=
  guilds.foldl (fun cache guild => (cache.insertGuild guild).1) cache

theorem insertGuilds_append (cache : Cache) (first second : List Guild) :
    cache.insertGuilds (first ++ second) = (cache.insertGuilds first).insertGuilds second :=
  List.foldl_append

theorem welcome_eq (cache : Cache) (ready : ReadyEvent) :
    cache.welcome ready = (cache.insertGuilds ready.guilds).setCurrentUser ready.user := by
  unfold welcome
  induction ready.guilds generalizing cache with
  | nil => rfl
  | cons guild rest ih => exact ih (cache.insertGuild guild).1

def snapshots (cache : Cache) : Mutation → List Guild
  | .welcome ready => ready.guilds
  | .putGuild guild => [guild]
  | .renewGuild guild => if (cache.guild? guild.id).isSome then [] else [guild]
  | _ => []

theorem steps_upsertMember (cache : Cache) (id guild : Snowflake) (member : Member) :
    Relation.ReflTransGen Roster.Step (cache.roster id)
      ((cache.upsertMember guild member).1.roster id) := by
  cases huser : member.id? with
  | none => rw [cache.upsertMember_of_none huser]
  | some user =>
      rw [cache.roster_upsertMember id huser]
      split
      next => exact .single (.put ..)
      next => exact .refl

theorem steps_upsertMembers (cache : Cache) (id guild : Snowflake) (members : List Member) :
    Relation.ReflTransGen Roster.Step (cache.roster id)
      ((cache.upsertMembers guild members).roster id) := by
  unfold upsertMembers
  induction members generalizing cache with
  | nil => exact .refl
  | cons member rest ih => exact (steps_upsertMember cache id guild member).trans (ih _)

/-- A mutation stores guilds as a whole, as far as members are concerned, or changes both copies at
once, if an update of a guild brings no members. -/
theorem roster_mutate (cache : Cache) {mutation : Mutation}
    (hmemberless : ∀ guild, mutation = .renewGuild guild → guild.members.isEmpty) :
    (∀ id, (cache.mutate mutation).roster id =
      (cache.insertGuilds (cache.snapshots mutation)).roster id) ∨
    cache.snapshots mutation = [] ∧ ∀ id, Relation.ReflTransGen Roster.Step (cache.roster id)
      ((cache.mutate mutation).roster id) := by
  cases mutation with
  | welcome ready =>
      refine .inl fun id => ?_
      rw [mutate, welcome_eq]
      exact roster_congr id rfl rfl
  | putGuild guild => exact .inl fun id => rfl
  | renewGuild guild =>
      refine .inl fun id => ?_
      rw [mutate, cache.roster_updateGuild id (hmemberless guild rfl), snapshots]
      split
      next => rfl
      next => rfl
  | putEmojis guild emojis => exact .inl fun id => cache.roster_modifyGuild id guild fun _ => rfl
  | putRole guild role => exact .inl fun id => cache.roster_modifyGuild id guild fun _ => rfl
  | dropRole guild role => exact .inl fun id => cache.roster_modifyGuild id guild fun _ => rfl
  | dropGuild guild =>
      refine .inr ⟨rfl, fun id => ?_⟩
      rw [mutate, roster_removeGuild]
      split
      next => exact .single (.leave _)
      next => exact .refl
  | putMembers guild members =>
      exact .inr ⟨rfl, fun id => steps_upsertMembers cache id guild members⟩
  | renewMember update => exact .inr ⟨rfl, fun id => steps_upsertMember cache id _ _⟩
  | dropMember guild user =>
      refine .inr ⟨rfl, fun id => ?_⟩
      rw [mutate, roster_removeMember]
      split
      next => exact .single (.drop ..)
      next => exact .refl
  | renewUser user =>
      refine .inl fun id => ?_
      rw [mutate, updateCurrentUser]
      split
      next => exact roster_congr id rfl rfl
      next => rfl
  | _ => exact .inl fun id => roster_congr id rfl rfl

end Cache

end ChatGateway
