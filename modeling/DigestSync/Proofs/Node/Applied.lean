import DigestSync.Node.Interleaving
import DigestSync.Proofs.Data.SortedMap
import DigestSync.Proofs.Fetch.Retrieval

set_option autoImplicit false

/-! # What a fetcher has is in the log

The log has every record that a step of an attempt hands over.  So a fetcher is honest
at all times: what has arrived by its own account is in the log.  When its attempt is
completed, all of its task is.
-/

namespace DigestSync

open FetchAction

/-! ## The log -/

namespace ActionLog

theorem appliedFrom_eq (log : ActionLog) (producer : DeviceId) :
    log.appliedFrom producer = ((log.applied.find? producer).getD .empty).entries := by
  unfold appliedFrom
  cases log.applied.find? producer <;> rfl

/-- A record that is taken is in the log, and nothing is lost. -/
theorem hasApplied_apply {log : ActionLog} {producer other : DeviceId} {seq number : Seq}
    {content : Bytes} :
    (log.apply producer seq content).HasApplied other number ↔
      log.HasApplied other number ∨ other = producer ∧ number = seq := by
  have found : (log.apply producer seq content).appliedFrom other =
      if other = producer
        then (((log.applied.find? producer).getD .empty).insert seq content).entries
        else log.appliedFrom other := by
    rw [appliedFrom_eq, appliedFrom_eq]
    unfold apply
    rw [SortedMap.find?_insert]
    split <;> rfl
  unfold HasApplied
  rw [found]
  by_cases here : other = producer
  · subst here
    rw [if_pos rfl, appliedFrom_eq]
    simp only [SortedMap.mem_insert_iff, true_and]
    constructor
    · rintro ⟨record, same | ⟨old, -⟩⟩
      · exact Or.inr (congrArg Prod.fst same)
      · exact Or.inl ⟨record, old⟩
    · rintro (⟨record, old⟩ | rfl)
      · by_cases again : number = seq
        · exact ⟨content, Or.inl (by rw [again])⟩
        · exact ⟨record, Or.inr ⟨old, again⟩⟩
      · exact ⟨content, Or.inl rfl⟩
  · rw [if_neg here]
    simp [here]

end ActionLog

/-- After an event of the fetch manager, the log has what it had and what was handed over. -/
theorem Node.hasApplied_ofFetch (node : Node) (turn : ManagerTurn) {producer : DeviceId}
    {seq : Seq} :
    (node.ofFetch turn).node.log.HasApplied producer seq ↔
      node.log.HasApplied producer seq ∨
        ∃ ticket task content, (ticket, .deliver task seq content) ∈ turn.actions ∧
          task.producer = producer := by
  unfold ofFetch
  dsimp only
  generalize node.log = log
  induction turn.actions generalizing log with
  | nil => simp
  | cons first rest ih =>
    obtain ⟨ticket, action⟩ := first
    rw [List.foldl_cons, ih]
    cases action with
    | request number interest => simp
    | finish task => simp [ActionLog.HasApplied, ActionLog.finish, ActionLog.appliedFrom]
    | deliver task number content =>
      rw [ActionLog.hasApplied_apply]
      constructor
      · rintro ((old | ⟨rfl, rfl⟩) | ⟨other, whose, what, later, same⟩)
        · exact Or.inl old
        · exact Or.inr ⟨ticket, task, content, List.mem_cons_self, rfl⟩
        · exact Or.inr ⟨other, whose, what, List.mem_cons_of_mem _ later, same⟩
      · rintro (old | ⟨other, whose, what, member, rfl⟩)
        · exact Or.inl (Or.inl old)
        · rcases List.mem_cons.mp member with here | later
          · cases here
            exact Or.inl (Or.inr ⟨rfl, rfl⟩)
          · exact Or.inr ⟨other, whose, what, later, rfl⟩

/-! ## Steps of an attempt -/

namespace Fetcher

variable {fetcher : Fetcher} {config : FetchConfig} {window : Window}

/-- Going on hands nothing over that was not handed over before. -/
theorem mem_of_deliver_proceed {actions : List FetchAction} {task : FetchTask} {seq : Seq}
    {content : Bytes}
    (member : .deliver task seq content ∈ (fetcher.proceed config window actions).actions) :
    .deliver task seq content ∈ actions := by
  rcases List.mem_append.mp member with old | new
  · exact old
  · obtain ⟨other, same, -⟩ := missing_of_mem_fill new
    cases same

theorem task_of_deliver_begin {task : FetchTask} {seq : Seq} {content : Bytes}
    (member : .deliver task seq content ∈ (fetcher.begin config).actions) :
    task = fetcher.task := by
  unfold begin at member
  dsimp only at member
  split at member
  · cases List.mem_singleton.mp member
  · cases mem_of_deliver_proceed member

theorem task_of_deliver_receive {now : Instant} {number : Seq} {answer : Option Bytes}
    {task : FetchTask} {seq : Seq} {content : Bytes}
    (member : .deliver task seq content ∈
      (fetcher.receive config window now number answer).actions) : task = fetcher.task := by
  unfold receive at member
  cases answer with
  | some record =>
    dsimp only at member
    split at member
    · rcases List.mem_cons.mp member with here | there
      · cases here
        rfl
      · cases List.mem_singleton.mp there
    · cases List.mem_singleton.mp (mem_of_deliver_proceed member)
      rfl
  | none =>
    dsimp only at member
    split at member
    · cases List.mem_singleton.mp (mem_of_deliver_proceed member)
    · cases member

end Fetcher

theorem FetchAction.mem_delivered {actions : List FetchAction} {seq : Seq}
    (member : seq ∈ delivered actions) : ∃ task content, .deliver task seq content ∈ actions := by
  obtain ⟨action, inside, handed⟩ := List.mem_filterMap.mp member
  cases action with
  | deliver task number content =>
    cases handed
    exact ⟨task, content, inside⟩
  | request number interest => cases handed
  | finish task => cases handed

/-! ## Honest fetchers and pipelines -/

variable {log later : ActionLog} {fetcher : Fetcher}

/-- The task ends below the highest number, and all records of it that have arrived are in
the log. -/
structure Fetcher.Honest (log : ActionLog) (fetcher : Fetcher) : Prop where
  low : fetcher.task.maxSeq.toNat + 1 < 2 ^ 64
  backed : ∃ trace, Ledger fetcher.task fetcher.progress trace ∧
    ∀ seq ∈ delivered trace, log.HasApplied fetcher.task.producer seq

namespace Fetcher.Honest

theorem start {task : FetchTask} (low : task.maxSeq.toNat + 1 < 2 ^ 64) (hint : ForwardingHint)
    (maxPause : Duration) (now : Instant) :
    (Fetcher.start task hint maxPause now).Honest log where
  low := low
  backed := ⟨[], Ledger.start task, by simp [delivered]⟩

theorem mono (honest : fetcher.Honest log)
    (grown : ∀ producer seq, log.HasApplied producer seq → later.HasApplied producer seq) :
    fetcher.Honest later := by
  obtain ⟨trace, ledger, backed⟩ := honest.backed
  exact ⟨honest.low, trace, ledger, fun seq member => grown _ _ (backed seq member)⟩

/-- Backing off changes nothing about what has arrived. -/
theorem failAttempt (honest : fetcher.Honest log) (resolve : DeviceId → Name) (now : Instant) :
    (fetcher.failAttempt resolve now).Honest log := ⟨honest.low, honest.backed⟩

/-- All of a complete task is in the log. -/
theorem applied_of_isComplete (honest : fetcher.Honest log) (complete : fetcher.isComplete = true)
    {seq : Seq} (inside : fetcher.task.contains seq = true) :
    log.HasApplied fetcher.task.producer seq := by
  obtain ⟨trace, ledger, backed⟩ := honest.backed
  obtain ⟨above, upto⟩ := (fetcher.task.contains_iff seq).mp inside
  exact backed seq ((ledger.arrived seq above).mp (Progress.isReceived_of_isComplete complete upto))

end Fetcher.Honest

/-- The fetcher is honest, its requests in flight are for records that have not arrived, and
a completed attempt has brought them all. -/
structure Pipeline.Honest (log : ActionLog) (pipeline : Pipeline) : Prop where
  fetcher : pipeline.fetcher.Honest log
  pending : ∀ window, pipeline.stage = .going window → pipeline.fetcher.Pending window
  completed : pipeline.stage = .over .completed → pipeline.fetcher.isComplete = true

namespace Pipeline.Honest

theorem mono {pipeline : Pipeline} (honest : pipeline.Honest log)
    (grown : ∀ producer seq, log.HasApplied producer seq → later.HasApplied producer seq) :
    pipeline.Honest later := ⟨honest.fetcher.mono grown, honest.pending, honest.completed⟩

/-- A step of an attempt leaves an honest pipeline, if the log has what it had and what the
step hands over. -/
theorem step {task : FetchTask} {trace : List FetchAction} {turn : FetchTurn}
    (outcome : Outcome task trace turn) (low : task.maxSeq.toNat + 1 < 2 ^ 64)
    (backed : ∀ seq ∈ delivered trace, later.HasApplied task.producer seq)
    (handed : ∀ seq ∈ delivered turn.actions, later.HasApplied task.producer seq)
    (id : FetcherId) : Pipeline.Honest later ⟨id, turn.fetcher, .after turn⟩ := by
  constructor
  case fetcher =>
    refine ⟨by rw [outcome.same]; exact low, trace ++ turn.actions, ?_, ?_⟩
    · rw [outcome.same]
      exact outcome.ledger
    · rw [outcome.same, delivered_append]
      intro seq member
      exact (List.mem_append.mp member).elim (backed seq) (handed seq)
  case pending =>
    intro window stands
    unfold PipelineStage.after at stands
    split at stands
    · rename_i going
      cases stands
      exact outcome.pending going
    · cases stands
  case completed =>
    intro stands
    unfold PipelineStage.after at stands
    split at stands
    · cases stands
    · rename_i ending ended
      cases stands
      exact (outcome.completed ended).1

end Pipeline.Honest

end DigestSync
