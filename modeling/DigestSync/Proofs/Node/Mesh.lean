import DigestSync.Proofs.Network.Broadcast
import DigestSync.Proofs.Node.Faithful
import DigestSync.Proofs.Node.Serving

set_option autoImplicit false

/-! # Records are the producers' own

A fetcher trusts the number that it has asked for, and does not look at the name of what it
gets.  Yet every record that a sink of the group is handed is one that its producer's source
has returned for this number.  For no device is known at a place that is not its own, so
requests have names that their producers serve; all data on the network are genuine; and
among genuine data only the record itself answers such a request.
-/

namespace DigestSync

variable {parties : List Party}

theorem Data.Located.congr {home : DeviceId → Name → Prop} {data other : Data}
    (located : data.Located home) (same : other.content = data.content) : other.Located home := by
  obtain ⟨records, content, all⟩ := located
  exact ⟨records, same.trans content, all⟩

/-- If a device uses its store, then it stores no place of the group's devices that is not the
device's own. -/
def MeshEvent.IsAllowed (parties : List Party) : MeshEvent → Prop
  | .change _ (.call call) => call.Located (Party.Hosts parties)
  | _ => True

/-! ## Sites -/

namespace Site

variable {site after : Site}

/-- The node of a party of the group is faithful, its log takes note of the calls on its sink,
and these are in order. -/
structure Sound (parties : List Party) (site : Site) : Prop where
  party : site.party ∈ parties
  scene : site.scene.Faithful site.party.config site.party.device (Party.Hosts parties) site.calls
  log : site.scene.node.log = site.calls.foldl ActionLog.record .empty
  inOrder : SinkCall.InOrder site.calls

/-- A later state of a site. -/
structure Grows (site after : Site) : Prop where
  party : after.party = site.party
  returned : site.returned ⊆ after.returned

/-- Every site is there again, at a later state. -/
theorem exists_grows_of_mem {sites : List Site} {place : Nat} (there : sites[place]? = some site)
    (grows : site.Grows after) {other : Site} (member : other ∈ sites) :
    ∃ later ∈ sites.set place after, other.Grows later := by
  obtain ⟨index, bound, rfl⟩ := List.getElem_of_mem member
  by_cases here : place = index
  · subst here
    obtain ⟨_, same⟩ := List.getElem?_eq_some_iff.mp there
    exact ⟨after, List.mem_set bound after, same ▸ grows⟩
  · refine ⟨_, ?_, rfl, List.Subset.refl _⟩
    rw [← List.getElem_set_ne here (by simpa using bound)]
    exact List.getElem_mem _

end Site

/-- Whatever is genuine stays so. -/
theorem Data.Genuine.grow {data : Data} {sites : List Site} {place : Nat} {site after : Site}
    (genuine : data.Genuine parties sites) (there : sites[place]? = some site)
    (grows : site.Grows after) : data.Genuine parties (sites.set place after) := by
  cases genuine with
  | told member named located => exact .told member named located
  | served member party serves named number record =>
    obtain ⟨later, inside, same, more⟩ := Site.exists_grows_of_mem there grows member
    exact .served inside (same ▸ party) (same ▸ serves) named number (more record)

/-- If the sink is handed a record of a party, then the party's source has returned it. -/
def SinkCall.IsVouched (parties : List Party) (sites : List Site) : SinkCall → Prop
  | .apply producer seq content => ∀ party ∈ parties, party.device = producer →
      ∃ site ∈ sites, site.party.device = producer ∧ (seq, content) ∈ site.returned
  | .complete _ _ _ => True

theorem SinkCall.IsVouched.grow {call : SinkCall} {sites : List Site} {place : Nat}
    {site after : Site} (vouched : call.IsVouched parties sites)
    (there : sites[place]? = some site) (grows : site.Grows after) :
    call.IsVouched parties (sites.set place after) := by
  cases call with
  | complete producer first last => trivial
  | apply producer seq content =>
    intro party member same
    obtain ⟨other, inside, device, record⟩ := vouched party member same
    obtain ⟨later, kept, whose, more⟩ := Site.exists_grows_of_mem there grows inside
    exact ⟨later, kept, whose ▸ device, more record⟩

namespace Mesh

variable {mesh : Mesh} {place : Nat} {site : Site} {now : Instant}

/-! ## What every event keeps -/

/-- The sites are those of the parties, one after another.  All of them are sound, their sinks
were handed what the producers' sources have returned, and all data are genuine, be they to be
put, cached or in a letter, where they answer the interest. -/
structure Sound (parties : List Party) (mesh : Mesh) : Prop where
  roster : mesh.sites.map Site.party = parties
  sites : ∀ site ∈ mesh.sites, site.Sound parties
  vouched : ∀ site ∈ mesh.sites, ∀ call ∈ site.calls, call.IsVouched parties mesh.sites
  outbox : ∀ face data, (face, Sending.data data) ∈ mesh.outbox → data.Genuine parties mesh.sites
  cache : ∀ entry ∈ mesh.network.cache, entry.data.Genuine parties mesh.sites
  mail : ∀ letter ∈ mesh.mail,
    letter.data.answers letter.name = true ∧ letter.data.Genuine parties mesh.sites

namespace Sound

/-! ### The network -/

theorem express (sound : mesh.Sound parties) (now : Instant) (face : Face) (name : Name) :
    (mesh.express now face name).Sound parties := by
  have done := Network.expressing_express mesh.network face name () now
  unfold Mesh.express
  generalize mesh.network.express face name () now = outcome at done
  obtain ⟨reception, network⟩ := outcome
  cases done with
  | unreachable offline waiting next cache =>
    exact { sound with cache := by rw [cache]; exact sound.cache }
  | forwarded online waiting next cache =>
    exact { sound with cache := fun entry member => sound.cache entry (cache entry member) }
  | cached entry online inside fresh foreign answers waiting next cache =>
    refine { sound with
      cache := fun other member => sound.cache other (cache other member)
      mail := ?_ }
    intro letter member
    rcases List.mem_append.mp member with old | new
    · exact sound.mail letter old
    · cases List.mem_singleton.mp new
      exact ⟨answers, sound.cache entry inside⟩

theorem put (sound : mesh.Sound parties) (now : Instant) (face : Face) {data : Data}
    (genuine : data.Genuine parties mesh.sites) : (mesh.put now face data).Sound parties := by
  refine { sound with cache := ?_, mail := ?_ }
  · intro entry member
    rcases Network.mem_cache_put.mp member with old | ⟨-, -, rfl⟩
    · exact sound.cache entry old
    · exact genuine
  · intro letter member
    rcases List.mem_append.mp member with old | new
    · exact sound.mail letter old
    · obtain ⟨one, answered, rfl⟩ := List.mem_map.mp new
      obtain ⟨-, -, matched, -⟩ := Network.mem_put.mp answered
      simp only [Waiting.isMatch, Bool.and_eq_true] at matched
      exact ⟨matched.2, genuine⟩

theorem send (sound : mesh.Sound parties) (index : Nat) :
    (mesh.react now (.send index)).Sound parties := by
  simp only [Mesh.react]
  split
  · exact sound
  · rename_i face sending listed
    have rest : Mesh.Sound parties { mesh with outbox := mesh.outbox.eraseIdx index } :=
      { sound with
        outbox := fun face data member => sound.outbox face data (List.mem_of_mem_eraseIdx member) }
    cases sending with
    | interest name => exact rest.express now face name
    | data data => exact rest.put now face (sound.outbox face data (List.mem_of_getElem? listed))

/-! ### The nodes -/

/-- Another state of a site, by which its sink is handed what its producer's source has
returned and by which only genuine data are to be put. -/
theorem withSite (sound : mesh.Sound parties) (there : mesh.sites[place]? = some site)
    {after : Site} (grows : site.Grows after) (kept : after.Sound parties)
    (vouched : ∀ call ∈ after.calls, call ∈ site.calls ∨ call.IsVouched parties mesh.sites)
    {sendings : List Sending} (genuine : ∀ data, .data data ∈ sendings →
      data.Genuine parties (mesh.sites.set place after)) :
    (mesh.withSite place after sendings).Sound parties := by
  have member := List.mem_of_getElem? there
  constructor
  case roster =>
    obtain ⟨bound, here⟩ := List.getElem?_eq_some_iff.mp there
    have inMap : place < (mesh.sites.map Site.party).length := by
      rwa [List.length_map]
    have unmoved := List.set_getElem_self inMap
    rw [List.getElem_map, here, ← grows.party] at unmoved
    show (mesh.sites.set place after).map Site.party = parties
    rw [List.map_set, unmoved]
    exact sound.roster
  case sites =>
    intro other inside
    rcases List.mem_or_eq_of_mem_set inside with old | rfl
    · exact sound.sites other old
    · exact kept
  case vouched =>
    intro other inside call made
    rcases List.mem_or_eq_of_mem_set inside with old | rfl
    · exact (sound.vouched other old call made).grow there grows
    · rcases vouched call made with old | new
      · exact (sound.vouched site member call old).grow there grows
      · exact new.grow there grows
  case outbox =>
    intro face data listed
    rcases List.mem_append.mp listed with old | new
    · exact (sound.outbox face data old).grow there grows
    · obtain ⟨sending, given, same⟩ := List.mem_map.mp new
      cases same
      exact genuine data given
  case cache => exact fun entry cached => (sound.cache entry cached).grow there grows
  case mail =>
    intro letter posted
    obtain ⟨answers, real⟩ := sound.mail letter posted
    exact ⟨answers, real.grow there grows⟩

/-- What arrives with an event is the content of genuine data, which answer the interest by
which the node has asked for it. -/
theorem exists_letter (sound : mesh.Sound parties) {scene : NodeScene} {event : NodeEvent}
    (brought : mesh.brings place scene event = true) {content : Bytes}
    (arrives : event.content? = some content) :
    ∃ letter : Letter, letter.data.content = content ∧ scene.asksBy letter.name event = true ∧
      letter.data.answers letter.name = true ∧ letter.data.Genuine parties mesh.sites := by
  unfold brings at brought
  rw [arrives] at brought
  obtain ⟨letter, posted, facts⟩ := List.any_eq_true.mp brought
  simp only [Bool.and_eq_true, decide_eq_true_eq] at facts
  exact ⟨letter, facts.1.2, facts.2, sound.mail letter posted⟩

/-- What arrives for a sync core was told by a party. -/
theorem located_of_brings (sound : mesh.Sound parties) (concord : Party.Concord parties)
    (kept : site.Sound parties) {input : PeerInput}
    (brought : mesh.brings place site.scene (.sync input) = true) :
    ∀ data ∈ input.answer?, data.Located (Party.Hosts parties) := by
  intro data answer
  have arrives : NodeEvent.content? (.sync input) = some data.content := by
    show input.answer?.map Data.content = _
    rw [show input.answer? = some data from answer]
    rfl
  obtain ⟨letter, content, asked, answers, genuine⟩ := sound.exists_letter brought arrives
  have asks : site.party.config.sync.group.isPrefixOf letter.name = true := by
    rw [← kept.scene.sync_eq]
    cases input with
    | publish seq => cases answer
    | noteChange => cases answer
    | event event =>
      cases event with
      | interest name => cases answer
      | advertDue => cases answer
      | recoverDue digest => cases answer
      | advertReply reply =>
        unfold NodeScene.asksBy at asked
        dsimp only at asked
        split at asked
        · rename_i heard
          exact SyncName.isPrefixOf_of_ofName heard
        · cases asked
      | recoverReply digest reply =>
        rw [of_decide_eq_true asked]
        exact SyncName.isPrefixOf_toName _ _
  exact (concord.located_of_answers kept.party genuine asks answers).congr content.symm

/-- A record that arrives for a fetcher of a party's records was returned by the party's
source. -/
theorem isVouched_of_brings (sound : mesh.Sound parties) (concord : Party.Concord parties)
    (kept : site.Sound parties) {event : NodeEvent}
    (brought : mesh.brings place site.scene event = true) {call : SinkCall}
    (made : call ∈ site.scene.sinkCalls now event) : call.IsVouched parties mesh.sites := by
  cases call with
  | complete producer first last => trivial
  | apply producer seq content =>
    intro party member same
    obtain ⟨spot, id, fetcher, window, rfl, there, rfl⟩ := NodeScene.exists_resolve_of_apply made
    obtain ⟨letter, rfl, asked, answers, genuine⟩ := sound.exists_letter brought rfl
    have backed := (kept.scene.pipelines _ (List.mem_of_getElem? there)).fetcher
    have serves := Party.Concord.mem_served_of_leads member (same ▸ backed.leads)
    have named : letter.name =
        (fetcher.hint.start ++ party.config.actionBase party.device).pushNumber seq := by
      unfold NodeScene.asksBy at asked
      simp only [there] at asked
      rw [of_decide_eq_true asked, concord.actionBase_eq member kept.party, same]
      show (fetcher.hint.start ++ fetcher.task.baseName).pushNumber seq = _
      rw [show fetcher.task.baseName = _ from backed.named]
    rw [named] at answers
    obtain ⟨other, inside, device, record⟩ :=
      concord.returned_of_answers member genuine serves answers
    exact ⟨other, inside, device.trans same, record⟩

theorem node (sound : mesh.Sound parties) (concord : Party.Concord parties) (place : Nat)
    (event : NodeEvent) : (mesh.react now (.node place event)).Sound parties := by
  simp only [Mesh.react]
  split
  · exact sound
  · rename_i site there
    split
    · rename_i brought
      have kept := sound.sites site (List.mem_of_getElem? there)
      have fits := (concord.fits site.party kept.party).1
      have heard : ∀ input, event = .sync input →
          ∀ data ∈ input.answer?, data.Located (Party.Hosts parties) := by
        rintro input rfl
        exact sound.located_of_brings concord kept brought
      have grows : site.Grows (site.react now event) := ⟨rfl, List.Subset.refl _⟩
      refine sound.withSite there grows ⟨kept.party, kept.scene.react fits heard, ?_,
        kept.scene.inOrder event kept.inOrder⟩ ?_ ?_
      · show (site.scene.react now event).node.log = _
        rw [NodeScene.log_react, kept.log]
        exact List.foldl_append.symm
      · intro call made
        exact (List.mem_append.mp made).imp id fun new =>
          sound.isVouched_of_brings concord kept brought new
      · intro data sent
        obtain ⟨named, located⟩ := kept.scene.of_data_mem_sendings fits heard sent
        exact .told kept.party named located
    · exact sound

theorem change (sound : mesh.Sound parties) (place : Nat) {change : NodeChange}
    (allowed : ∀ call, change = .call call → call.Located (Party.Hosts parties)) :
    (mesh.react now (.change place change)).Sound parties := by
  simp only [Mesh.react]
  split
  · exact sound
  · rename_i site there
    have kept := sound.sites site (List.mem_of_getElem? there)
    have after : Site.Sound parties { site with scene := site.scene.undergo change } :=
      ⟨kept.party, kept.scene.undergo allowed, (NodeScene.log_undergo change).trans kept.log,
        kept.inOrder⟩
    have grows : site.Grows { site with scene := site.scene.undergo change } :=
      ⟨rfl, List.Subset.refl _⟩
    exact sound.withSite there grows after (fun call => Or.inl)
      fun data sent => absurd sent List.not_mem_nil

theorem serve (sound : mesh.Sound parties) (place : Nat) (start name : Name)
    (found : Option Bytes) : (mesh.react now (.serve place start name found)).Sound parties := by
  simp only [Mesh.react]
  split
  · exact sound
  · rename_i site there
    split
    · rename_i serves
      have kept := sound.sites site (List.mem_of_getElem? there)
      unfold Mesh.serve
      split
      · rename_i seq record asked
        have named : name = start.pushNumber seq := Node.askedFor_eq_some_iff.mp asked
        have number := Bytes.toUInt64?_eq_some_iff.mpr (Eq.refl (Bytes.ofUInt64 seq))
        have grows : site.Grows (site.answer seq record) := ⟨rfl, List.subset_append_left _ _⟩
        refine sound.withSite there grows ⟨kept.party, kept.scene, kept.log, kept.inOrder⟩
          (fun call => Or.inl) ?_
        intro data sent
        cases List.mem_singleton.mp sent
        obtain ⟨bound, -⟩ := List.getElem?_eq_some_iff.mp there
        exact .served (List.mem_set bound _) kept.party serves named number
          (List.mem_append_right _ (List.mem_singleton_self _))
      · exact sound
    · exact sound

/-! ### Runs -/

theorem react (sound : mesh.Sound parties) (concord : Party.Concord parties) {event : MeshEvent}
    (allowed : event.IsAllowed parties) : (mesh.react now event).Sound parties := by
  cases event with
  | node place event => exact sound.node concord place event
  | change place change =>
    refine sound.change place ?_
    rintro call rfl
    exact allowed
  | serve place start name found => exact sound.serve place start name found
  | send index => exact sound.send index
  | interest face name => exact sound.express now face name
  | setOnline face online => exact { sound with }
  | expire id => exact { sound with }

theorem run (sound : mesh.Sound parties) (concord : Party.Concord parties)
    {events : List (Instant × MeshEvent)}
    (allowed : ∀ event ∈ events, event.2.IsAllowed parties) : (mesh.run events).Sound parties := by
  induction events generalizing mesh with
  | nil => exact sound
  | cons event rest ih =>
    obtain ⟨here, there⟩ := List.forall_mem_cons.mp allowed
    exact ih (sound.react concord here) there

end Sound

/-! ## The start -/

theorem exists_join (concord : Party.Concord parties) {party : Party} (member : party ∈ parties) :
    ∃ site, party.join = .ok site ∧ site.party = party ∧ site.Sound parties ∧ site.calls = [] := by
  obtain ⟨fits, room⟩ := concord.fits party member
  obtain ⟨scene, joined, faithful, bare⟩ := NodeScene.exists_faithful_join (concord.stores party member) fits
    (fun place configured => ⟨room place configured, concord.hosts member configured⟩)
    (concord.tasks party member) party.joined
  refine ⟨⟨party, scene, [], []⟩, ?_, rfl, ⟨member, faithful, bare, SinkCall.inOrder_nil⟩, rfl⟩
  unfold Party.join
  rw [joined]

theorem exists_mapM_join (concord : Party.Concord parties) (few : List Party)
    (among : ∀ party ∈ few, party ∈ parties) :
    ∃ sites, few.mapM Party.join = .ok sites ∧ sites.map Site.party = few ∧
      ∀ site ∈ sites, site.Sound parties ∧ site.calls = [] := by
  induction few with
  | nil => exact ⟨[], List.mapM_nil, rfl, fun site member => absurd member List.not_mem_nil⟩
  | cons party rest ih =>
    obtain ⟨here, there⟩ := List.forall_mem_cons.mp among
    obtain ⟨site, joined, same, sound, bare⟩ := exists_join concord here
    obtain ⟨sites, others, roster, facts⟩ := ih there
    refine ⟨site :: sites, ?_, ?_, List.forall_mem_cons.mpr ⟨⟨sound, bare⟩, facts⟩⟩
    · rw [List.mapM_cons, joined, others]
      rfl
    · rw [List.map_cons, same, roster]

theorem exists_gather (concord : Party.Concord parties) :
    ∃ mesh, gather parties = .ok mesh ∧ mesh.Sound parties := by
  obtain ⟨sites, joined, roster, facts⟩ :=
    exists_mapM_join concord parties fun party member => member
  refine ⟨⟨.empty, [], [], sites⟩, ?_, roster, fun site member => (facts site member).1, ?_,
    fun face data listed => absurd listed List.not_mem_nil,
    fun entry cached => absurd cached List.not_mem_nil,
    fun letter sent => absurd sent List.not_mem_nil⟩
  · unfold gather
    rw [joined]
  · intro site member call made
    rw [(facts site member).2] at made
    cases made

/-! ## What sinks are handed -/

/-- What a node sends is what it answers itself, if its source looks records up in its log. -/
theorem outbox_serve (own : site.scene.node.config = site.party.config) (start name : Name) :
    (mesh.serve place site start name
        ((Node.askedFor start name).bind site.scene.node.log.lookup)).outbox =
      mesh.outbox ++ (site.scene.node.serve start name).toList.map fun data =>
        (place, .data data) := by
  unfold serve Node.serve
  cases Node.askedFor start name with
  | none => simp
  | some seq =>
    cases found : site.scene.node.log.lookup seq with
    | none => simp [found]
    | some record => simp [found, withSite, own]

/-- The log of each node is what the calls on its sink make of it. -/
theorem log_eq_foldl_calls (concord : Party.Concord parties) {first : Mesh}
    (gathered : gather parties = .ok first) {events : List (Instant × MeshEvent)}
    (allowed : ∀ event ∈ events, event.2.IsAllowed parties) :
    ∀ site ∈ (first.run events).sites,
      site.scene.node.log = site.calls.foldl ActionLog.record .empty := by
  obtain ⟨mesh, same, started⟩ := exists_gather concord
  cases gathered.symm.trans same
  exact fun site member => ((started.run concord allowed).sites site member).log

/-- The parties of a group all start.  From then on, whatever happens in whatever order, if no
source changes a record that it has returned: every record of one of their devices that a sink
is handed is the one that this device's own source returns for the number; and a sink is told
that a range is complete only after it was handed every record of it. -/
theorem records_are_the_producers_own (concord : Party.Concord parties)
    {events : List (Instant × MeshEvent)}
    (allowed : ∀ event ∈ events, event.2.IsAllowed parties) :
    ∃ first, gather parties = .ok first ∧
      let last := first.run events
      last.sites.map Site.party = parties ∧
      ((∀ site ∈ last.sites, site.IsSteadfast) →
        ∀ site ∈ last.sites,
          (∀ other ∈ last.sites, ∀ seq content,
            .apply other.party.device seq content ∈ site.calls →
              (seq, content) ∈ other.returned ∧
                ∀ record, (seq, record) ∈ other.returned → record = content) ∧
          ∀ early producer first last late,
            site.calls = early ++ .complete producer first last :: late →
              ∀ seq, first ≤ seq → seq ≤ last →
                ∃ content, .apply producer seq content ∈ early) := by
  obtain ⟨first, gathered, started⟩ := exists_gather concord
  refine ⟨first, gathered, ?_⟩
  intro last
  have sound : last.Sound parties := started.run concord allowed
  refine ⟨sound.roster, fun steadfast site member => ⟨?_, (sound.sites site member).inOrder⟩⟩
  intro other there seq content made
  have whose := (sound.sites other there).party
  obtain ⟨giver, listed, device, record⟩ := sound.vouched site member _ made _ whose rfl
  have distinct : (last.sites.map fun site => site.party.device).Nodup := by
    have devices := concord.distinct
    rw [← sound.roster, List.map_map] at devices
    exact devices
  obtain rfl := List.inj_on_of_nodup_map distinct listed there device
  exact ⟨record, fun another also => steadfast giver listed _ also _ record rfl⟩

/-- Two devices, the second of which serves at a place of its own.  The first one has heard of
it before, and was about to fetch its first record. -/
def acquaintances : List Party :=
  let reader : DeviceId := ⟨.ofTexts ["a"]⟩
  let writer : DeviceId := ⟨.ofTexts ["b"]⟩
  let place := Name.ofTexts ["home"]
  let known := (MemoryStore.empty.updateLocator writer place).updateDeviceSeq writer 1
  let task : FetchTask := ⟨writer, NodeConfig.fast.actionBase writer, 1, 1, .normal⟩
  [⟨reader, .fast, (known.2.mergeTask task).2, 0⟩,
    ⟨writer, { NodeConfig.fast with locator := some place }, .empty, 0⟩]

/-- The first one takes up its task, and the second one serves it. -/
def delivery : List (Instant × MeshEvent) :=
  let start := Name.ofTexts ["home", "b", "actions"]
  [(1, .node 0 .look), (1, .node 0 (.begin 0)), (1, .send 0),
    (2, .serve 1 start (start.pushNumber 1) (some [7])), (2, .send 0),
    (3, .node 0 (.resolve 0 1 (some [7])))]

/-- They get along. -/
theorem concord_acquaintances : Party.Concord acquaintances where
  distinct := by decide +kernel
  alike := by decide +kernel
  apart := by decide +kernel
  aside := by decide +kernel
  fits := by decide +kernel
  stores := by
    refine List.forall_mem_cons.mpr ⟨?_, List.forall_mem_singleton.mpr MemoryStore.located_empty⟩
    have fits : (⟨.ofTexts ["b"]⟩ : DeviceId).name.Fits := by decide +kernel
    refine MemoryStore.Located.mergeTask (.updateDeviceSeq
      (MemoryStore.located_empty.updateLocator fits ?_ ?_) fits 1) _
    · decide +kernel
    · decide +kernel
  tasks := by decide +kernel

/-- The two of them, as they start. -/
def meeting : Mesh :=
  match gather acquaintances with
  | .ok mesh => mesh
  | .error _ => ⟨.empty, [], [], []⟩

/-- The first one is handed the record of the second one, which its source has returned, and is
told after it that this was all. -/
theorem records_are_the_producers_own_delivery :
    (meeting.run delivery).sites.map Site.calls =
        [[.apply ⟨.ofTexts ["b"]⟩ 1 [7], .complete ⟨.ofTexts ["b"]⟩ 1 1], []] ∧
      ∀ other ∈ (meeting.run delivery).sites, other.party.device = ⟨.ofTexts ["b"]⟩ →
        (1, [7]) ∈ other.returned := by
  have calls : (meeting.run delivery).sites.map Site.calls =
      [[.apply ⟨.ofTexts ["b"]⟩ 1 [7], .complete ⟨.ofTexts ["b"]⟩ 1 1], []] := by
    decide +kernel
  refine ⟨calls, ?_⟩
  intro other member device
  have allowed : ∀ event ∈ delivery, event.2.IsAllowed acquaintances := by
    simp [delivery, MeshEvent.IsAllowed]
  have steadfast : ∀ site ∈ (meeting.run delivery).sites, site.IsSteadfast := by
    decide +kernel
  obtain ⟨first, gathered, -, facts⟩ :=
    records_are_the_producers_own concord_acquaintances allowed
  have same : first = meeting := by
    unfold meeting
    rw [gathered]
  subst same
  have made : [.apply ⟨.ofTexts ["b"]⟩ 1 [7], .complete ⟨.ofTexts ["b"]⟩ 1 1] ∈
      (meeting.run delivery).sites.map Site.calls := by
    rw [calls]
    exact List.mem_cons_self
  obtain ⟨site, inside, listed⟩ := List.mem_map.mp made
  refine ((facts steadfast site inside).1 other member 1 [7] ?_).1
  rw [device, listed]
  exact List.mem_cons_self

end Mesh

end DigestSync
