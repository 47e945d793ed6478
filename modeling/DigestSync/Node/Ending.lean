import DigestSync.Node.Interleaving

set_option autoImplicit false

/-! # The end of a node

A node may be shut down between any two events.  Its pipelines and its dispatcher end where
they are, and nothing enters the manager any more.  What has entered before may still take
some of its steps, all of them or none; it depends on whether its thread goes on.

What is left is the store.  A number may have been on its way there: by a change that was
reported and not dispatched, by a task that was to be stored, or as what is left of a key
whose task was removed and not yet stored anew.
-/

namespace DigestSync

/-- The number lies in the range of an unfinished entry with the key. -/
def FetchManager.Fetches (manager : FetchManager) (key : TaskKey) (seq : Seq) : Prop :=
  ∃ task ∈ manager.worklist.liveTasks key, task.contains seq = true

namespace NodeScene

/-- Shut down the node. -/
def shutdown (scene : NodeScene) : NodeScene :=
  ⟨scene.node.shutdown, scene.volume, [], .idle⟩

/-- What has entered takes some of its steps, each at its time. -/
def drain (scene : NodeScene) (clock : List Instant) : NodeScene := clock.foldl advance scene

/-- The dispatcher is to see to the fetching of a record of a producer, and has not entered
with it. -/
inductive Drops (scene : NodeScene) (producer : DeviceId) (seq : Seq) : Prop where
  | reported {record : DeltaRecord}
      (member : record ∈ scene.dispatcher.rest ++ scene.node.queue.flatten)
      (device : record.device = producer) (missing : seq.toNat ∈ record.missing)
  | waiting {task : FetchTask} {rest : List DeltaRecord}
      (stands : scene.dispatcher = .waiting task rest)
      (key : task.key = ⟨producer, scene.node.config.actionBase producer⟩)
      (inside : task.contains seq = true)

/-- What has entered is about to store a task with the number of a record. -/
inductive Withholds (scene : NodeScene) (producer : DeviceId) (seq : Seq) : Prop where
  | storing {task : FetchTask} {hint : ForwardingHint}
      (next : scene.node.fetch.step = some (.storing task hint))
      (key : task.key = ⟨producer, scene.node.config.actionBase producer⟩)
      (inside : task.contains seq = true)
  | respanning {left : FetchTask} (next : scene.node.fetch.step = some (.respanning left))
      (key : left.key = ⟨producer, scene.node.config.actionBase producer⟩)
      (inside : left.contains seq = true)

/-- The number of a record lies in the range of the task that is stored for its producer. -/
def HasStored (scene : NodeScene) (producer : DeviceId) (seq : Seq) : Prop :=
  ∃ row, scene.volume.store.task? ⟨producer, scene.node.config.actionBase producer⟩ = some row ∧
    row.contains seq = true

/-- The record of a producer is to be fetched. -/
def IsFetching (scene : NodeScene) (producer : DeviceId) (seq : Seq) : Prop :=
  scene.node.fetch.Fetches ⟨producer, scene.node.config.actionBase producer⟩ seq

end NodeScene

end DigestSync
