import DigestSync.Proofs.Cbor.Stream
import DigestSync.Proofs.Sync.Message
import DigestSync.Sync.History

set_option autoImplicit false

/-! # Messages cut off

A message of which the end is missing, wherever it was cut, is refused for that, although
fields that are left out may stand for nothing: how many fields and records there are is
told before them.  A core that is given such an answer merges none of it.
-/

namespace DigestSync

namespace StateMessage

open Cbor

theorem streams_readField (bound : Nat) (key : Bytes) (fields : Fields) :
    Streams (readField bound key fields) := by
  unfold readField
  split
  · exact streams_readOnce (streams_readUInt8 bound)
  · split
    · exact streams_readOnce (streams_readArray bound streams_readDeltaRecord)
    · exact (streams_skip bound _).andThen (fun _ => streams_ok fields) fun input => by
        cases skip bound _ input <;> rfl

theorem streams_read (bound : Nat) : Streams (read bound) := by
  refine (streams_readRecord bound (streams_readField bound) ⟨none, none⟩).step
    (fun input fault failed => by rw [read, failed]) ?_
  intro front tail fields rest here there
  rw [read, read, here, there]
  rcases fields with ⟨_ | version, _ | states⟩
  · exact extends_error _
  · exact extends_error _
  · exact extends_error _
  · exact extends_ok _ _

end StateMessage

namespace SyncCore

/-- An answer that holds no message leaves the store and the root as they are, and nothing
is done about it. -/
theorem handle_of_undecodable {event : SyncEvent} {data : Data} {fault : MessageFault}
    (answered : event.answer? = some data)
    (refused : StateMessage.decode data.content = .error fault) (core : SyncCore)
    (volume : Volume) (now : Instant) :
    (core.handle volume now event).volume = volume ∧
      (core.handle volume now event).core.root = core.root ∧
      (core.handle volume now event).actions = [] := by
  have dropped (core : SyncCore) : core.onAnswer volume now (some data) = ⟨core, volume, []⟩ := by
    unfold onAnswer
    rw [Option.map_some, refused]
  unfold handle
  split
  · cases event with
    | advertReply answer =>
      cases answered
      simp only [dropped, and_self]
    | recoverReply digest answer =>
      cases answered
      simp only [dropped, dropRecovery, and_self]
    | interest name => cases answered
    | advertDue => cases answered
    | recoverDue digest => cases answered
  · exact ⟨rfl, rfl, rfl⟩

end SyncCore

namespace StateMessage

/-- Whatever is missing at the end of a message, the rest of it is refused for that, and a
core that is given it as an answer changes nothing in its store. -/
theorem refuses_truncated {message : StateMessage} (fits : message.Fits) {front : Bytes}
    (cut : front <+: message.encode) (shorter : front ≠ message.encode) :
    decode front = .error (.undecodable .truncated) ∧
      ∀ (core : SyncCore) (volume : Volume) (now : Instant) (event : SyncEvent) (data : Data),
        event.answer? = some data → data.content = front →
          (core.handle volume now event).volume = volume ∧
            (core.handle volume now event).core.root = core.root ∧
            (core.handle volume now event).actions = [] := by
  have short : read front.length front = .error .truncated :=
    (streams_read front.length).eq_truncated (reads_read front.length fits) cut shorter
  have refused : decode front = .error (.undecodable .truncated) := by
    unfold decode
    rw [short]
  refine ⟨refused, ?_⟩
  intro core volume now event data answered content
  exact SyncCore.handle_of_undecodable answered (content ▸ refused) core volume now

/-- A message of one record that lacks nothing but the last byte, which says that there is no
locator, is not taken for one in which the locator is left out. -/
theorem refuses_truncated_last :
    let message := ofStates [.update ⟨.ofTexts ["b"]⟩ 3 none]
    let core := SyncCore.start ⟨.ofTexts ["a"]⟩ .standard Digest.origin 0
    let cutOff : Data := ⟨.empty, message.encode.dropLast, 0⟩
    let turn := core.handle (.ofStore .empty) 1 (.advertReply (some cutOff))
    message.encode = cutOff.content ++ [0xF6] ∧
      decode cutOff.content = .error (.undecodable .truncated) ∧ turn.volume = .ofStore .empty ∧
      turn.actions = [] := by
  intro message core cutOff turn
  have fits : message.Fits := by
    refine ⟨by decide, ?_⟩
    intro record member
    rw [List.mem_singleton.mp member]
    refine ⟨by decide +kernel, ?_⟩
    intro locator named
    cases named
  have shorter : message.encode.dropLast ≠ message.encode := by decide +kernel
  obtain ⟨refused, dropped⟩ := refuses_truncated fits (List.dropLast_prefix _) shorter
  obtain ⟨volume, -, actions⟩ :=
    dropped core (.ofStore .empty) 1 (.advertReply (some cutOff)) cutOff rfl rfl
  exact ⟨by decide +kernel, refused, volume, actions⟩

end StateMessage

end DigestSync
