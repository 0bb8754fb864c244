import Ioppytest.PacketSniffer.Sniffer
import Ioppytest.Lib.Runs

/-!
# The name of the last capture

The sniffer keeps the name of a capture that was started, for the request for the last capture. It
overwrites it with the name in a request that it refuses, too: the name is the one of a capture that
was started as long as no start is refused for another capture.
-/

namespace Ioppytest.PacketSniffer

open PyString Raising

/-- The capture id of a start that was answered with `ok`. -/
def Reply.started? (reply : Reply) : Option (Option String) :=
  match reply.request, reply.body with
  | .start (some captureId), .startReply => some captureId
  | _, _ => none

namespace Sniffer

/-- The capture id of the most recent start that was answered with `ok`. -/
def lastStarted (sniffer : Sniffer) : Option String :=
  (sniffer.replies.reverse.findSome? Reply.started?).join

/-- The name that is kept is the one of the most recent capture that was started. -/
def Remembers (sniffer : Sniffer) : Prop := sniffer.lastCaptureName = sniffer.lastStarted

/-- The input is a request to start or to stop. -/
def StartsOrStops (input : Input) : Prop :=
  (∃ captureId, input.2 = .start captureId) ∨ input.2 = .stop

/-- A start does not succeed, because a process is kept or cannot be started, and its capture is not
the one whose name is kept. -/
def Overwrites (sniffer : Sniffer) (input : Input) : Prop :=
  ∃ captureId, input.2 = .start (some captureId) ∧
    (sniffer.pcapDumperSubprocess ≠ none ∨ input.1.startError ≠ none) ∧
      captureId ≠ sniffer.lastCaptureName

variable {sniffer : Sniffer} {host : Host} {input : Input}

/-- Only what has been published counts. -/
theorem lastStarted_congr {other : Sniffer} (same : other.replies = sniffer.replies) :
    other.lastStarted = sniffer.lastStarted := by
  rw [lastStarted, lastStarted, same]

/-- A reply is the first to be looked at. -/
theorem lastStarted_publish (request : Request) (body : ReplyBody) :
    (sniffer.publish request body).lastStarted =
      ((Reply.started? ⟨request, body⟩).or
        (sniffer.replies.reverse.findSome? Reply.started?)).join := by
  unfold lastStarted publish
  rw [List.reverse_append, List.reverse_singleton, List.singleton_append, List.findSome?_cons]
  cases Reply.started? ⟨request, body⟩ <;> rfl

/-- Another reply than the one that a capture was started changes nothing. -/
theorem lastStarted_publish_other {request : Request} {body : ReplyBody}
    (other : Reply.started? ⟨request, body⟩ = none) :
    (sniffer.publish request body).lastStarted = sniffer.lastStarted := by
  rw [lastStarted_publish, other]
  rfl

/-- The name of the capture of a request to start is kept. -/
theorem next_start (captureId : Option String) :
    (sniffer.next (host, .start (some captureId))).lastCaptureName = captureId := rfl

/-- A request to start. -/
theorem start_remembers (remembers : sniffer.Remembers) (captureId : Attribute) :
    (sniffer.next (host, .start captureId)).Remembers ↔
      ¬ sniffer.Overwrites (host, .start captureId) := by
  cases captureId with
  | none =>
    refine iff_of_true ?_ fun ⟨captureId, same, _⟩ => by cases same
    exact remembers.trans (lastStarted_publish_other rfl).symm
  | some id =>
    have replies : (sniffer.next (host, .start (some id))).lastStarted =
        (Sniffer.publish { (sniffer.launch host id).1 with lastCaptureName := id }
          (.start (some id)) (sniffer.launch host id).2).lastStarted := rfl
    have overwrites : sniffer.Overwrites (host, .start (some id)) ↔
        (sniffer.launch host id).2 ≠ .startReply ∧ id ≠ sniffer.lastCaptureName := by
      rw [ne_eq, launch_started, not_and_or]
      constructor
      · rintro ⟨_, same, fails, other⟩
        cases same
        exact ⟨fails, other⟩
      · exact fun ⟨fails, other⟩ => ⟨id, rfl, fails, other⟩
    have earlier (body : ReplyBody) (other : body ≠ .startReply) :
        (Sniffer.publish { (sniffer.launch host id).1 with lastCaptureName := id }
          (.start (some id)) body).lastStarted = sniffer.lastStarted := by
      have unstarted : Reply.started? ⟨.start (some id), body⟩ = none := by
        cases body <;> first | rfl | exact absurd rfl other
      rw [lastStarted_publish_other unstarted]
      exact lastStarted_congr (launch_replies id)
    rw [overwrites, Remembers, next_start, replies]
    by_cases started : (sniffer.launch host id).2 = .startReply
    · refine iff_of_true ?_ fun wrong => wrong.1 started
      rw [started, lastStarted_publish]
      rfl
    · rw [earlier _ started, ← remembers]
      exact ⟨fun same wrong => wrong.2 same, fun kept => by_contra fun other => kept ⟨started, other⟩⟩

/-- A request keeps the name right exactly if it does not overwrite it. -/
theorem next_remembers (remembers : sniffer.Remembers) :
    (sniffer.next input).Remembers ↔ ¬ sniffer.Overwrites input := by
  obtain ⟨host, request⟩ := input
  by_cases starts : ∃ captureId, request = .start captureId
  · obtain ⟨captureId, rfl⟩ := starts
    exact start_remembers remembers captureId
  · have apart (captureId : Attribute) : request ≠ .start captureId := fun same =>
      starts ⟨captureId, same⟩
    have unstarted (body : ReplyBody) : Reply.started? ⟨request, body⟩ = none := by
      cases request with
      | start captureId => exact absurd rfl (apart captureId)
      | _ => rfl
    refine iff_of_true ?_ fun ⟨captureId, same, _⟩ => apart _ same
    by_cases stops : request = .stop
    · subst stops
      rw [next_stop, Remembers, lastStarted_publish_other (unstarted _),
        lastStarted_congr verifyStopped_replies]
      exact verifyStopped_lastCaptureName.trans remembers
    · rcases next_quiet apart stops with same | ⟨body, published⟩
      · rwa [same]
      · rw [published]
        exact remembers.trans (lastStarted_publish_other (unstarted body)).symm

/-- What is handed out as the last capture is a capture that was started. -/
theorem Remembers.served (remembers : sniffer.Remembers) {filename value : String}
    (replies : (sniffer.next (host, .getCaptureLast)).replies =
      sniffer.replies ++ [⟨.getCaptureLast, .getCaptureLastReply filename value⟩]) :
    ∃ captureId, sniffer.lastStarted = some captureId ∧ filename = captureId ++ ".pcap" := by
  unfold next at replies
  cases last : truthy sniffer.lastCaptureName with
  | none => simp [onRequest, onGetCaptureLast, last, reply, publish] at replies
  | some captureId =>
    refine ⟨captureId, ?_, ?_⟩
    · rw [← remembers]
      exact (Option.filter_eq_some_iff.mp last).1
    · cases file : host.file (host.tmpdir ++ "/" ++ captureId ++ ".pcap") with
      | missing message | inaccessible exception message | unreadable exception message =>
        simp [onRequest, onGetCaptureLast, last, file, reply, publish] at replies
      | content bytes =>
        cases bytes with
        | nil => simp [onRequest, onGetCaptureLast, last, file] at replies
        | cons first rest =>
          simp [onRequest, onGetCaptureLast, last, file, reply, publish] at replies
          exact replies.1.symm

/-- **At all times the name that is kept is the one of the most recent capture that was started, if
and only if no request to start is refused for another capture.** -/
theorem remembers_iff (inputs : List Input) :
    (∀ before, before <+: inputs → (before.foldl next {}).Remembers) ↔
      Runs.AllAllowed next (fun sniffer input => ¬ sniffer.Overwrites input) {} inputs := by
  rw [Runs.always_iff, and_iff_right (show Remembers {} from rfl)]
  have agree (sniffer : Sniffer) (input : Input) (remembers : sniffer.Remembers) :
      (sniffer.next input).Remembers ↔ ¬ sniffer.Overwrites input := next_remembers remembers
  exact Runs.allAllowed_congr agree (fun _ _ _ kept => kept) (show Remembers {} from rfl) inputs

/-- A host on which processes start and do not end. -/
def busyHost : Host where
  tmpdir := "/ioppytest/tmp"
  file _ := .content [212, 195, 178, 161]
  startError := none
  isAlive := some true

/-- A capture is started, and another one is asked for while the first is running. -/
def startedTwice : List Input :=
  [(busyHost, .start (some (some "TD_COAP_CORE_01"))),
    (busyHost, .start (some (some "TD_COAP_CORE_02")))]

/-- Afterwards the name is the one of the capture that was refused. -/
theorem startedTwice_forgets : (∀ input ∈ startedTwice, StartsOrStops input) ∧
    ¬ ∀ before, before <+: startedTwice → (before.foldl next {}).Remembers := by
  refine ⟨fun input member => ?_, fun always => ?_⟩
  · rcases List.mem_pair.mp member with rfl | rfl
    · exact .inl ⟨_, rfl⟩
    · exact .inl ⟨_, rfl⟩
  · have kept := always startedTwice (List.prefix_refl _)
    revert kept
    unfold Remembers
    decide

end Sniffer

end Ioppytest.PacketSniffer
