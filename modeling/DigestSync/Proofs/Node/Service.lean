import DigestSync.Proofs.Node.Serving

set_option autoImplicit false

/-! # What is asked for is what is served

A node serves its records from a source, which finds some of them by their numbers.  Whichever
way a request for a record is directed, its name is one that the producer serves and the number
behind it, and under that name exactly this number is looked up.  No other name makes the node
look anything up, and what it puts has the name that it was asked by.
-/

namespace DigestSync

/-- What an interest brings about under a served name: the numbers that are looked up in the
source, and the data that are put. -/
structure Service where
  lookups : List Seq
  puts : List Data
deriving DecidableEq, Repr

namespace Service

/-- Serve an interest from a source. -/
def of (source : Seq → Option Bytes) (freshness : Duration) (start name : Name) : Service :=
  match Node.askedFor start name with
  | none => ⟨[], []⟩
  | some seq =>
    match source seq with
    | none => ⟨[seq], []⟩
    | some record => ⟨[seq], [⟨name, record, freshness⟩]⟩

variable {source : Seq → Option Bytes} {freshness : Duration} {start name : Name} {seq : Seq}

/-- A node with an action log serves from the log. -/
theorem puts_of_log (node : Node) (start name : Name) :
    (of node.log.lookup node.config.segmentFreshness start name).puts =
      (node.serve start name).toList := by
  unfold of Node.serve
  cases Node.askedFor start name with
  | none => rfl
  | some seq =>
    dsimp only
    cases node.log.lookup seq with
    | none => rfl
    | some record => rfl

/-- Exactly what a name asks for is looked up. -/
theorem lookups_of (source : Seq → Option Bytes) (freshness : Duration) (start name : Name) :
    (of source freshness start name).lookups = (Node.askedFor start name).toList := by
  unfold of
  cases Node.askedFor start name with
  | none => rfl
  | some seq =>
    dsimp only
    cases source seq with
    | none => rfl
    | some record => rfl

theorem mem_lookups_iff :
    seq ∈ (of source freshness start name).lookups ↔ name = start.pushNumber seq := by
  rw [lookups_of, Option.mem_toList]
  exact Node.askedFor_eq_some_iff

theorem lookups_pushNumber :
    (of source freshness start (start.pushNumber seq)).lookups = [seq] := by
  rw [lookups_of, Node.askedFor_eq_some_iff.mpr rfl]
  rfl

/-- What the source has is put under the name by which it was asked for. -/
theorem puts_pushNumber {record : Bytes} (found : source seq = some record) :
    (of source freshness start (start.pushNumber seq)).puts =
      [⟨start.pushNumber seq, record, freshness⟩] := by
  unfold of
  simp only [Node.askedFor_eq_some_iff.mpr rfl, found]

/-- Nothing is put that the source does not have. -/
theorem exists_of_mem_puts {data : Data} (put : data ∈ (of source freshness start name).puts) :
    ∃ seq, name = start.pushNumber seq ∧ source seq = some data.content ∧ data.name = name := by
  unfold of at put
  split at put
  · cases put
  · rename_i seq asked
    split at put
    · cases put
    · rename_i record found
      cases List.mem_singleton.mp put
      exact ⟨seq, Node.askedFor_eq_some_iff.mp asked, found, rfl⟩

end Service

namespace NodeConfig

/-- Whichever hint a peer follows that names records alike, it asks for a device's record by a name
that the device's node serves with the number behind it, and exactly this number is looked up there.
Under a name that is served, a number is looked up if and only if an interest has the name with this
number behind it; what the source then has is put, and nothing else, under the very name of the
interest, which it therefore answers.  This is how a node serves the records of its log. -/
theorem serves_what_is_asked_for (config : NodeConfig) (device : DeviceId)
    (source : Seq → Option Bytes) :
    let service := Service.of source config.segmentFreshness
    (∀ peer : NodeConfig, peer.actionComponent = config.actionComponent →
      ∀ hint ∈ config.hints, ∀ seq, ∃ start ∈ config.served device,
        hint.segmentName (peer.actionBase device) seq = start.pushNumber seq ∧
          (service start (hint.segmentName (peer.actionBase device) seq)).lookups = [seq]) ∧
      (∀ start ∈ config.served device, ∀ name,
        (∀ seq, seq ∈ (service start name).lookups ↔ name = start.pushNumber seq) ∧
          (∀ seq record, name = start.pushNumber seq → source seq = some record →
            (service start name).puts = [⟨name, record, config.segmentFreshness⟩]) ∧
          ∀ data ∈ (service start name).puts, data.answers name = true ∧ data.name = name ∧
            ∃ seq, name = start.pushNumber seq ∧ source seq = some data.content) ∧
      ∀ node : Node, node.config = config → ∀ start name,
        (node.serve start name).toList =
          (Service.of node.log.lookup config.segmentFreshness start name).puts := by
  intro service
  refine ⟨?_, ?_, ?_⟩
  · intro peer alike hint held seq
    have base : peer.actionBase device = config.actionBase device := by
      unfold actionBase
      rw [alike]
    have named : hint.segmentName (peer.actionBase device) seq =
        (hint.start ++ config.actionBase device).pushNumber seq := by
      rw [base]
      rfl
    refine ⟨_, mem_served_of_mem_hints held device, named, ?_⟩
    rw [named]
    exact Service.lookups_pushNumber
  · intro start _ name
    refine ⟨fun seq => Service.mem_lookups_iff, ?_, ?_⟩
    · rintro seq record rfl found
      exact Service.puts_pushNumber found
    · intro data put
      obtain ⟨seq, asked, found, named⟩ := Service.exists_of_mem_puts put
      refine ⟨?_, named, seq, asked, found⟩
      unfold Data.answers
      rw [named]
      exact Name.isPrefixOf_refl name
  · rintro node rfl start name
    exact (Service.puts_of_log node start name).symm

/-- The device `p` can be reached at a place that is also the name of its records. -/
def doubled : NodeConfig := { standard with locator := some (.ofTexts ["p", "actions"]) }

/-- A peer without a place of its own asks at that place for the record with the highest number.
The name begins with two of the names that are served; the longer one is what it is made of, and
there the number is looked up and the record put. -/
theorem serves_what_is_asked_for_doubled :
    let device : DeviceId := ⟨.ofTexts ["p"]⟩
    let source (seq : Seq) : Option Bytes := if seq = -1 then some [7] else none
    let place := Name.ofTexts ["p", "actions"]
    let name := (place ++ place).pushNumber (-1)
    ForwardingHint.direct place ∈ doubled.hints ∧
      (ForwardingHint.direct place).segmentName (standard.actionBase device) (-1) = name ∧
      (∃ start ∈ doubled.served device, name = start.pushNumber (-1) ∧
        (Service.of source doubled.segmentFreshness start name).lookups = [-1]) ∧
      place.isPrefixOf name = true ∧
      (∀ seq, seq ∉ (Service.of source doubled.segmentFreshness place name).lookups) ∧
      (Service.of source doubled.segmentFreshness (place ++ place) name).puts =
        [⟨name, [7], doubled.segmentFreshness⟩] := by
  intro device source place name
  obtain ⟨asks, serves, -⟩ := serves_what_is_asked_for doubled device source
  have held : ForwardingHint.direct place ∈ doubled.hints := by decide
  have named : (ForwardingHint.direct place).segmentName (standard.actionBase device) (-1) = name :=
    rfl
  have short : place ∈ doubled.served device := by decide
  have long : place ++ place ∈ doubled.served device := by decide
  refine ⟨held, named, named ▸ asks standard rfl _ held (-1), by decide, ?_, ?_⟩
  · intro seq
    rw [(serves place short name).1 seq]
    intro same
    have length := congrArg Name.size same
    cases length
  · exact (serves _ long name).2.1 (-1) [7] rfl rfl

end NodeConfig

end DigestSync
