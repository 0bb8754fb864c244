import Ioppytest.PacketSniffer.Sniffer
import Ioppytest.Lib.Runs

/-!
# Replies of the sniffer

Who asks the sniffer waits for a reply. A request gets exactly one, unless it is for a capture whose
file is empty; and the request for a capture by its id raises if the file cannot be told about for
another reason than being missing.
-/

namespace Ioppytest.PacketSniffer

open PyString Raising

namespace Request

/-- The sniffer has a branch for the request. -/
def Served (request : Request) : Prop := request ≠ .other ∧ request ≠ .unidentified

end Request

/-- The request gets one reply, and no exception is raised. -/
def Answers (host : Host) (sniffer : Sniffer) (request : Request) : Prop :=
  ∃ body after, (onRequest host request).run sniffer = .ok () after ∧
    after.replies = sniffer.replies ++ [⟨request, body⟩]

/-- The request is not answered. -/
inductive Unanswered (host : Host) (sniffer : Sniffer) : Request → Prop where
  /-- The file of the last capture is empty. -/
  | lastEmpty {captureId : String} (last : truthy sniffer.lastCaptureName = some captureId)
      (empty : host.file (host.tmpdir ++ "/" ++ captureId ++ ".pcap") = .content []) :
      Unanswered host sniffer .getCaptureLast
  /-- The file of the capture is empty. -/
  | empty {id : Option String}
      (empty : host.file (joinPath host.tmpdir (filenameOf id)) = .content []) :
      Unanswered host sniffer (.getCapture (some id))
  /-- The size of the file of the capture cannot be told. -/
  | inaccessible {id : Option String} {exception : PyException} {message : String}
      (uncaught : host.file (joinPath host.tmpdir (filenameOf id)) =
        .inaccessible exception message) : Unanswered host sniffer (.getCapture (some id))
  /-- The file of the capture cannot be read. -/
  | unreadable {id : Option String} {exception : PyException} {message : String}
      (uncaught : host.file (joinPath host.tmpdir (filenameOf id)) =
        .unreadable exception message) : Unanswered host sniffer (.getCapture (some id))
  /-- There is no capture id. -/
  | unnamed : Unanswered host sniffer (.getCapture none)

variable {host : Host} {sniffer : Sniffer} {captureId : Attribute}

/-- A request to start is answered. -/
theorem answers_start : Answers host sniffer (.start captureId) := by
  cases captureId with
  | none => exact ⟨_, _, rfl, rfl⟩
  | some id =>
    refine ⟨(sniffer.launch host id).2, _, rfl, ?_⟩
    exact congrArg (· ++ _) (Sniffer.launch_replies id)

/-- A request to stop is answered. -/
theorem answers_stop : Answers host sniffer .stop := by
  refine ⟨(sniffer.verifyStopped host).2, _, rfl, ?_⟩
  exact congrArg (· ++ _) Sniffer.verifyStopped_replies

/-- A request that only returns is not answered. -/
theorem not_answers_of_silent {request : Request}
    (silent : (onRequest host request).run sniffer = .ok () sniffer) :
    ¬ Answers host sniffer request := by
  rintro ⟨body, after, run, replies⟩
  rw [silent] at run
  cases run
  have length := congrArg List.length replies
  rw [List.length_append, List.length_singleton] at length
  omega

/-- A request that raises is not answered. -/
theorem not_answers_of_raised {request : Request} (exception : PyException)
    (raises : (onRequest host request).run sniffer = .error exception sniffer) :
    ¬ Answers host sniffer request := by
  rintro ⟨body, after, run, -⟩
  rw [raises] at run
  cases run

/-- A request that is answered with a reply. -/
theorem answers_of_reply {request : Request} (body : ReplyBody)
    (replied : (onRequest host request).run sniffer = .ok () (sniffer.publish request body)) :
    Answers host sniffer request :=
  ⟨body, _, replied, rfl⟩

/-- The request for the last capture. -/
theorem answers_getCaptureLast :
    Answers host sniffer .getCaptureLast ↔ ¬ Unanswered host sniffer .getCaptureLast := by
  cases last : truthy sniffer.lastCaptureName with
  | none =>
    refine iff_of_true (answers_of_reply (.errorReply "No previous capture found.") ?_) ?_
    · simp [onRequest, onGetCaptureLast, last, reply]
    · rintro ⟨found, -⟩
      cases last.symm.trans found
  | some id =>
    have nonempty (status : host.file (host.tmpdir ++ "/" ++ id ++ ".pcap") ≠ .content []) :
        ¬ Unanswered host sniffer .getCaptureLast := by
      rintro ⟨found, empty⟩
      cases last.symm.trans found
      exact status empty
    cases file : host.file (host.tmpdir ++ "/" ++ id ++ ".pcap") with
    | missing message | inaccessible exception message | unreadable exception message =>
      refine iff_of_true (answers_of_reply (.errorReply message) ?_) (nonempty (by simp [file]))
      simp [onRequest, onGetCaptureLast, last, file, reply]
    | content bytes =>
      cases bytes with
      | nil =>
        refine iff_of_false (not_answers_of_silent ?_) (not_not_intro (.lastEmpty last file))
        simp [onRequest, onGetCaptureLast, last, file]
      | cons first rest =>
        refine iff_of_true (answers_of_reply
          (.getCaptureLastReply (id ++ ".pcap") (b64encode (first :: rest))) ?_)
            (nonempty (by simp [file]))
        simp [onRequest, onGetCaptureLast, last, file, reply]

/-- The request for a capture by its id. -/
theorem answers_getCapture :
    Answers host sniffer (.getCapture captureId) ↔
      ¬ Unanswered host sniffer (.getCapture captureId) := by
  cases captureId with
  | none => exact iff_of_false (not_answers_of_raised .attributeError rfl) (not_not_intro .unnamed)
  | some id =>
    cases file : host.file (joinPath host.tmpdir (filenameOf id)) with
    | missing message =>
      refine iff_of_true (answers_of_reply (.errorReply message) ?_) fun unanswered => ?_
      · simp [onRequest, onGetCapture, file, reply]
      · cases unanswered with
        | empty status | inaccessible status | unreadable status => cases file.symm.trans status
    | inaccessible exception message =>
      refine iff_of_false (not_answers_of_raised exception ?_)
        (not_not_intro (.inaccessible file))
      simp [onRequest, onGetCapture, file]
    | unreadable exception message =>
      refine iff_of_false (not_answers_of_raised exception ?_)
        (not_not_intro (.unreadable file))
      simp [onRequest, onGetCapture, file]
    | content bytes =>
      cases bytes with
      | nil =>
        refine iff_of_false (not_answers_of_silent ?_) (not_not_intro (.empty file))
        simp [onRequest, onGetCapture, file]
      | cons first rest =>
        refine iff_of_true (answers_of_reply
          (.getCaptureReply (filenameOf id) (b64encode (first :: rest))) ?_) fun unanswered => ?_
        · simp [onRequest, onGetCapture, file, reply]
        · cases unanswered with
          | empty status | inaccessible status | unreadable status =>
            cases file.symm.trans status

/-- **A request is answered exactly once, if and only if it is not for a capture whose file is empty
or cannot be told about.** -/
theorem answers_iff (host : Host) (sniffer : Sniffer) (request : Request)
    (served : request.Served) :
    Answers host sniffer request ↔ ¬ Unanswered host sniffer request := by
  cases request with
  | getCaptureLast => exact answers_getCaptureLast
  | getCapture captureId => exact answers_getCapture
  | start captureId => exact iff_of_true answers_start fun unanswered => by cases unanswered
  | stop => exact iff_of_true answers_stop fun unanswered => by cases unanswered
  | other => exact absurd rfl served.1
  | unidentified => exact absurd rfl served.2

/-- A host on which captures are files with a given content. -/
def hostWith (bytes : List UInt8) : Host where
  tmpdir := "/ioppytest/tmp"
  file _ := .content bytes
  startError := none
  isAlive := some false

/-- The sniffer after a capture was started. -/
def capturing : Sniffer := Sniffer.next {} (hostWith [], .start (some (some "TD_COAP_CORE_01")))

/-- A capture with packets is handed out. -/
theorem answers_packets :
    Answers (hostWith [212, 195, 178, 161]) capturing (.getCapture (some (some "TD_COAP_CORE_01"))) :=
  (answers_iff (hostWith [212, 195, 178, 161]) capturing _ (by simp [Request.Served])).mpr
    fun unanswered => by
      cases unanswered with
      | empty status | inaccessible status | unreadable status => cases status

/-- A capture without packets is not, in a state that a sniffer can be in. -/
theorem unanswered_empty :
    Runs.Reachable Sniffer.next (fun _ _ => True) {} capturing ∧
      ¬ Answers (hostWith []) capturing (.getCapture (some (some "TD_COAP_CORE_01"))) ∧
      ¬ Answers (hostWith []) capturing .getCaptureLast := by
  refine ⟨.step .init trivial, ?_, ?_⟩
  · rw [answers_getCapture]
    exact not_not_intro (.empty rfl)
  · rw [answers_getCaptureLast]
    exact not_not_intro (@Unanswered.lastEmpty _ _ "TD_COAP_CORE_01" rfl rfl)

end Ioppytest.PacketSniffer
