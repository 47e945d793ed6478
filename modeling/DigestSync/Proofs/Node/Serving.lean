import DigestSync.Proofs.Data.Bytes
import DigestSync.Proofs.Name.Prefix
import DigestSync.Proofs.Node.Handover

set_option autoImplicit false

/-! # Who may answer a request

The names of a party's records begin with the names under which it serves.  If no two of the
names under which the parties of a group serve and synchronise begin with one another, then
data of another party, or of the synchronisation, never answer a request for a record: the
name alone tells whose record it is, and with which number.
-/

namespace DigestSync

/-! ## Names that ask for a record -/

/-- A name asks for a record under a served name exactly if it is this name with the number. -/
theorem Node.askedFor_eq_some_iff {start name : Name} {seq : Seq} :
    askedFor start name = some seq ↔ name = start.pushNumber seq := by
  unfold askedFor
  constructor
  · intro asked
    split at asked
    · cases asked
    · rename_i rest behind
      split at asked
      · rename_i single
        obtain ⟨component, alone⟩ := List.length_eq_one_iff.mp single
        have last : rest.lastNumber? = component.toUInt64? := by
          unfold Name.lastNumber? Name.last?
          rw [alone]
          rfl
        rw [last] at asked
        have whole : rest = ⟨[Bytes.ofUInt64 seq]⟩ := by
          rw [← Bytes.toUInt64?_eq_some_iff.mp asked]
          exact congrArg Name.mk alone
        rw [Name.drop?_eq_some_iff.mp behind, whole]
        rfl
      · cases asked
  · rintro rfl
    have behind : (start.pushNumber seq).drop? start = some ⟨[Bytes.ofUInt64 seq]⟩ :=
      Name.drop?_eq_some_iff.mpr rfl
    simp only [behind]
    exact Bytes.toUInt64?_eq_some_iff.mpr rfl

/-- The hints that lead to a device with this configuration: to no place at all, to everyone, and
to the place that it is configured with. -/
def NodeConfig.hints (config : NodeConfig) : List ForwardingHint :=
  [.direct .empty, .broadcast] ++ config.locator.toList.map .direct

/-- Whichever way requests for a device's records are directed to it, their names begin with one
that it serves. -/
theorem NodeConfig.mem_served_of_mem_hints {config : NodeConfig} {hint : ForwardingHint}
    (held : hint ∈ config.hints) (device : DeviceId) :
    hint.start ++ config.actionBase device ∈ config.served device := by
  have bare : Name.empty ++ config.actionBase device = config.actionBase device := rfl
  unfold hints at held
  unfold served
  rcases List.mem_append.mp held with general | own
  · refine List.mem_append_left _ ?_
    rcases List.mem_pair.mp general with rfl | rfl
    · exact List.mem_cons_self
    · exact List.mem_cons_of_mem _ List.mem_cons_self
  · obtain ⟨place, configured, rfl⟩ := List.mem_map.mp own
    rw [Option.mem_toList] at configured
    rw [Option.mem_def.mp configured]
    show place ++ config.actionBase device ∈ _
    cases empty : place.isEmpty with
    | true =>
      have nothing : place = Name.empty := congrArg Name.mk (List.isEmpty_iff.mp empty)
      rw [nothing, bare]
      exact List.mem_append_left _ List.mem_cons_self
    | false =>
      simp only [empty, Bool.false_eq_true, if_false]
      exact List.mem_append_right _ (List.mem_singleton_self _)

/-! ## Parties that get along -/

/-- The device is at the place if it is one of a party's and the party serves there. -/
def Party.Hosts (parties : List Party) (device : DeviceId) (place : Name) : Prop :=
  ∀ party ∈ parties, party.device = device → party.config.locator = some place

instance (parties : List Party) (device : DeviceId) (place : Name) :
    Decidable (Party.Hosts parties device place) :=
  inferInstanceAs (Decidable (∀ party ∈ parties, _ → _))

/-- The parties of a group: their devices are distinct, and they name their records alike.  No
two names under which they serve or synchronise begin with one another.  At the start their
stores know none of their devices at a place that is not its own, and hold no tasks but for
records by the names that their producers give them.  The lengths of all names can be told in
64 bits. -/
structure Party.Concord (parties : List Party) : Prop where
  distinct : (parties.map Party.device).Nodup
  alike : ∀ one ∈ parties, ∀ other ∈ parties,
    one.config.actionComponent = other.config.actionComponent
  apart : ∀ one ∈ parties, ∀ other ∈ parties, ∀ start ∈ one.served, ∀ name ∈ other.served,
    start.isPrefixOf name = true → one.device = other.device ∧ start = name
  aside : ∀ one ∈ parties, ∀ other ∈ parties, ∀ start ∈ one.served,
    start.isPrefixOf other.config.sync.group = false ∧
      other.config.sync.group.isPrefixOf start = false
  fits : ∀ party ∈ parties, party.device.name.Fits ∧ ∀ place ∈ party.config.locator, place.Fits
  stores : ∀ party ∈ parties, party.store.Located (Hosts parties)
  tasks : ∀ party ∈ parties, ∀ task ∈ party.store.tasks,
    task.IsNamed party.config.actionBase

/-- The data are a record that a site's source has returned, under a name that the site serves,
or else what a party tells of its log under its group's name. -/
inductive Data.Genuine (parties : List Party) (sites : List Site) (data : Data) : Prop where
  | served {site : Site} {start : Name} {component : Bytes} {seq : Seq} (member : site ∈ sites)
      (party : site.party ∈ parties) (serves : start ∈ site.party.served)
      (named : data.name = start.push component) (number : component.toUInt64? = some seq)
      (record : (seq, data.content) ∈ site.returned)
  | told {party : Party} (member : party ∈ parties)
      (named : party.config.sync.group.isPrefixOf data.name = true)
      (located : data.Located (Party.Hosts parties))

namespace Party.Concord

variable {parties : List Party} {sites : List Site} {party : Party} {data : Data} {name : Name}

theorem eq_of_device (concord : Concord parties) {other : Party} (here : party ∈ parties)
    (there : other ∈ parties) (same : party.device = other.device) : party = other :=
  List.inj_on_of_nodup_map concord.distinct here there same

/-- A party's device is at the place that it is configured with. -/
theorem hosts (concord : Concord parties) (member : party ∈ parties) {place : Name}
    (configured : party.config.locator = some place) : Hosts parties party.device place := by
  intro other there same
  rwa [concord.eq_of_device there member same]

/-- All name the records of a device alike. -/
theorem actionBase_eq (concord : Concord parties) {other : Party} (here : party ∈ parties)
    (there : other ∈ parties) : party.config.actionBase = other.config.actionBase := by
  unfold NodeConfig.actionBase
  rw [concord.alike party here other there]

/-- A hint that leads to a party directs requests for its records to a name that it serves. -/
theorem mem_served_of_leads (member : party ∈ parties) {hint : ForwardingHint}
    (leads : hint.Leads (Hosts parties) party.device) :
    hint.start ++ party.config.actionBase party.device ∈ party.served := by
  refine NodeConfig.mem_served_of_mem_hints ?_ party.device
  unfold NodeConfig.hints
  cases hint with
  | broadcast => exact List.mem_append_left _ (List.mem_cons_of_mem _ List.mem_cons_self)
  | direct place =>
    rcases leads place rfl with rfl | own
    · exact List.mem_append_left _ List.mem_cons_self
    · refine List.mem_append_right _ (List.mem_map_of_mem ?_)
      exact Option.mem_toList.mpr (own party member rfl)

/-- Genuine data that answer a request for a party's record are the record with this number
that the party's source has returned. -/
theorem returned_of_answers (concord : Concord parties) (member : party ∈ parties)
    (genuine : data.Genuine parties sites) {start : Name} (serves : start ∈ party.served) {seq : Seq}
    (answers : data.answers (start.pushNumber seq) = true) :
    ∃ site ∈ sites, site.party.device = party.device ∧ (seq, data.content) ∈ site.returned := by
  unfold Data.answers Name.pushNumber at answers
  cases genuine with
  | served there other lies named number record =>
    rw [named] at answers
    rcases Name.isPrefixOf_push_iff.mp answers with same | shorter
    · obtain ⟨rfl, rfl⟩ := Name.push_injective same
      rw [Bytes.toUInt64?_eq_some_iff.mpr rfl] at number
      cases number
      have device := (concord.apart party member _ other _ serves _ lies
        (Name.isPrefixOf_refl _)).1
      exact ⟨_, there, device.symm, record⟩
    -- The whole request would begin a served name, so the two served names are comparable.
    · obtain ⟨-, rfl⟩ := concord.apart party member _ other _ serves _ lies
        (Name.isPrefixOf_trans (Name.isPrefixOf_push start _) shorter)
      exact absurd shorter (Name.not_push_isPrefixOf start _)
  | told other named located =>
    have aside := concord.aside party member _ other start serves
    rcases Name.isPrefixOf_or_isPrefixOf answers named with longer | shorter
    · have begins := Name.isPrefixOf_trans (Name.isPrefixOf_push start _) longer
      rw [aside.1] at begins
      cases begins
    · rcases Name.isPrefixOf_push_iff.mp shorter with same | begins
      · have begins := Name.isPrefixOf_push start (Bytes.ofUInt64 seq)
        rw [← same, aside.1] at begins
        cases begins
      · rw [aside.2] at begins
        cases begins

/-- Genuine data that answer a sync interest are told by a party. -/
theorem located_of_answers (concord : Concord parties) (member : party ∈ parties)
    (genuine : data.Genuine parties sites)
    (asks : party.config.sync.group.isPrefixOf name = true) (answers : data.answers name = true) :
    data.Located (Hosts parties) := by
  have begins := Name.isPrefixOf_trans asks answers
  cases genuine with
  | told other named located => exact located
  | @served site start component seq there other lies named number record =>
    have aside := concord.aside _ other party member _ lies
    rw [named] at begins
    rcases Name.isPrefixOf_push_iff.mp begins with same | shorter
    · have begins := Name.isPrefixOf_push start component
      rw [← same, aside.1] at begins
      cases begins
    · rw [aside.2] at shorter
      cases shorter

end Party.Concord

end DigestSync
