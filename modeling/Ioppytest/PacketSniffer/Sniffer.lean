import Ioppytest.Exceptions
import Ioppytest.Lib.Base64
import Ioppytest.Lib.Raising

/-!
# The packet sniffer

`packet_sniffer.Sniffer`: a service that starts a process which dumps packets into a file, tells
whether that process has ended, and hands out the files. What the host does while a request is
handled is given from outside. Publishing is assumed to succeed.
-/

namespace Ioppytest.PacketSniffer

open PyString Raising

/-- What a path leads to. -/
inductive FileStatus where
  /-- There is no such file; the text is the one of the exception. -/
  | missing (message : String)
  /-- The size of the file cannot be told. -/
  | inaccessible (exception : PyException) (message : String)
  /-- The file is not empty, but cannot be read. -/
  | unreadable (exception : PyException) (message : String)
  /-- The file has this content. -/
  | content (bytes : List UInt8)
  deriving DecidableEq

/-- What the host does while a request is handled. -/
structure Host where
  /-- `TMPDIR`. -/
  tmpdir : String
  /-- What a path leads to. -/
  file : String → FileStatus
  /-- The text of the exception that starting a process raises, if it raises one. -/
  startError : Option String
  /-- `is_alive()` after the wait; none if the wait or the question raises. -/
  isAlive : Option Bool

/-- A request, or anything else on the topics of the sniffer. -/
inductive Request where
  /-- `MsgSniffingGetCaptureLast`. -/
  | getCaptureLast
  /-- `MsgSniffingGetCapture`. -/
  | getCapture (captureId : Attribute)
  /-- `MsgSniffingStart`. -/
  | start (captureId : Attribute)
  /-- `MsgSniffingStop`. -/
  | stop
  /-- Another message. -/
  | other
  /-- What no message can be loaded from. -/
  | unidentified
  deriving DecidableEq

/-- What a reply says. -/
inductive ReplyBody where
  /-- `MsgSniffingGetCaptureLastReply(ok=True)`. -/
  | getCaptureLastReply (filename value : String)
  /-- `MsgSniffingGetCaptureReply(ok=True)`. -/
  | getCaptureReply (filename value : String)
  /-- `MsgSniffingStartReply(ok=True)`. -/
  | startReply
  /-- `MsgSniffingStopReply`. -/
  | stopReply (ok : Bool)
  /-- `MsgErrorReply`. -/
  | errorReply (errorMessage : String)
  deriving DecidableEq

/-- A reply, with the request that it is constructed from. -/
structure Reply where
  request : Request
  body : ReplyBody
  deriving DecidableEq

/-- `multiprocessing.Process` of a dumper. -/
structure DumperProcess where
  /-- The file that packets are dumped into. -/
  filename : String
  deriving DecidableEq

/-- `packet_sniffer.Sniffer`. -/
structure Sniffer where
  /-- `last_capture_name`. -/
  lastCaptureName : Option String := none
  /-- `pcap_dumper_subprocess`. -/
  pcapDumperSubprocess : Option DumperProcess := none
  /-- What has been published, in order. -/
  replies : List Reply := []
  deriving DecidableEq

/-- A method of the sniffer: it may raise, and keeps its mutations when it does. -/
abbrev Service (α : Type) : Type := EStateM PyException Sniffer α

/-- `"{0}.pcap".format(capture_id)`. -/
def filenameOf (captureId : Option String) : String := captureId.getD "None" ++ ".pcap"

namespace Sniffer

/-- Publish a reply to a request. -/
def publish (sniffer : Sniffer) (request : Request) (body : ReplyBody) : Sniffer :=
  { sniffer with replies := sniffer.replies ++ [⟨request, body⟩] }

/-- Start a process for a capture unless one is kept already; the process is kept even if it could
not be started. -/
def launch (host : Host) (sniffer : Sniffer) (captureId : Option String) : Sniffer × ReplyBody :=
  if sniffer.pcapDumperSubprocess ≠ none then
    (sniffer, .errorReply
      "Sniffer process is already running, please stop before if you meant to restart it")
  else
    ({ sniffer with pcapDumperSubprocess := some ⟨filenameOf captureId⟩ },
      match host.startError with
      | none => .startReply
      | some error => .errorReply
          ("Didnt succeed starting the sniffer process, the exception captured is " ++ error))

/-- See whether the process has ended, and forget it if so. -/
def verifyStopped (host : Host) (sniffer : Sniffer) : Sniffer × ReplyBody :=
  if sniffer.pcapDumperSubprocess = none then (sniffer, .stopReply true)
  else
    match host.isAlive with
    | some true => (sniffer, .stopReply false)
    | some false => ({ sniffer with pcapDumperSubprocess := none }, .stopReply true)
    | none => (sniffer, .errorReply "Sniffer process couldnt be stopped")

variable {host : Host} {sniffer : Sniffer}

/-- Launching a process publishes nothing. -/
theorem launch_replies (captureId : Option String) :
    (sniffer.launch host captureId).1.replies = sniffer.replies := by
  unfold launch
  split <;> rfl

/-- A process is launched if none is kept and it can be started. -/
theorem launch_started (captureId : Option String) :
    (sniffer.launch host captureId).2 = .startReply ↔
      sniffer.pcapDumperSubprocess = none ∧ host.startError = none := by
  unfold launch
  split
  · rename_i kept
    exact iff_of_false ReplyBody.noConfusion fun idle => kept idle.1
  · rename_i idle
    cases host.startError with
    | none => simpa using idle
    | some error => simp

/-- Looking after a process publishes nothing. -/
theorem verifyStopped_replies : (sniffer.verifyStopped host).1.replies = sniffer.replies := by
  unfold verifyStopped
  split
  · rfl
  · split <;> rfl

/-- Looking after a process leaves the name of the last capture alone. -/
theorem verifyStopped_lastCaptureName :
    (sniffer.verifyStopped host).1.lastCaptureName = sniffer.lastCaptureName := by
  unfold verifyStopped
  split
  · rfl
  · split <;> rfl

end Sniffer

/-- Publish a reply. -/
def reply (request : Request) (body : ReplyBody) : Service Unit := modify (·.publish request body)

/-- `on_request` for `MsgSniffingGetCaptureLast`; an empty file is only logged. -/
def onGetCaptureLast (host : Host) : Service Unit := do
  match truthy (← get).lastCaptureName with
  | none => reply .getCaptureLast (.errorReply "No previous capture found.")
  | some captureId =>
    match host.file (host.tmpdir ++ "/" ++ captureId ++ ".pcap") with
    | .content [] => return ()
    | .missing message | .inaccessible _ message | .unreadable _ message =>
      reply .getCaptureLast (.errorReply message)
    | .content bytes =>
      reply .getCaptureLast (.getCaptureLastReply (captureId ++ ".pcap") (b64encode bytes))

/-- `on_request` for `MsgSniffingGetCapture`; an empty file is only logged, and only a missing file
is caught. -/
def onGetCapture (host : Host) (captureId : Attribute) : Service Unit := do
  match captureId with
  | none => throw .attributeError
  | some id =>
    match host.file (joinPath host.tmpdir (filenameOf id)) with
    | .content [] => return ()
    | .missing message => reply (.getCapture captureId) (.errorReply message)
    | .inaccessible exception _ | .unreadable exception _ => throw exception
    | .content bytes =>
      reply (.getCapture captureId) (.getCaptureReply (filenameOf id) (b64encode bytes))

/-- `on_request` for `MsgSniffingStart`; the name of the capture is kept whatever became of it. -/
def onStart (host : Host) (captureId : Attribute) : Service Unit := do
  match captureId with
  | none => reply (.start captureId) (.errorReply "No capture id provided")
  | some id =>
    let (sniffer, response) := (← get).launch host id
    set { sniffer with lastCaptureName := id }
    reply (.start captureId) response

/-- `on_request` for `MsgSniffingStop`. -/
def onStop (host : Host) : Service Unit := do
  let (sniffer, response) := (← get).verifyStopped host
  set sniffer
  reply .stop response

/-- `on_request`. -/
def onRequest (host : Host) : Request → Service Unit
  | .getCaptureLast => onGetCaptureLast host
  | .getCapture captureId => onGetCapture host captureId
  | .start captureId => onStart host captureId
  | .stop => onStop host
  | .other | .unidentified => return ()

/-- A request together with what the host does while it is handled. -/
abbrev Input : Type := Host × Request

namespace Sniffer

/-- The sniffer after a request. -/
def next (sniffer : Sniffer) (input : Input) : Sniffer :=
  finalState ((onRequest input.1 input.2).run sniffer)

variable {host : Host} {sniffer : Sniffer}

/-- A request to stop looks after the process. -/
theorem next_stop : sniffer.next (host, .stop) =
    (sniffer.verifyStopped host).1.publish .stop (sniffer.verifyStopped host).2 := rfl

/-- A request for a capture is answered at most, and nothing else changes. -/
theorem next_quiet {request : Request} (apart : ∀ captureId, request ≠ .start captureId)
    (unstopped : request ≠ .stop) :
    sniffer.next (host, request) = sniffer ∨
      ∃ body, sniffer.next (host, request) = sniffer.publish request body := by
  unfold next
  cases request with
  | getCaptureLast =>
    simp only [onRequest, onGetCaptureLast, EStateM.run_bind, EStateM.run_get]
    split
    · exact .inr ⟨_, rfl⟩
    · split
      · exact .inl rfl
      all_goals exact .inr ⟨_, rfl⟩
  | getCapture captureId =>
    simp only [onRequest, onGetCapture]
    split
    · exact .inl rfl
    · split
      · exact .inl rfl
      · exact .inr ⟨_, rfl⟩
      · exact .inl rfl
      · exact .inl rfl
      · exact .inr ⟨_, rfl⟩
  | start captureId => exact absurd rfl (apart captureId)
  | stop => exact absurd rfl unstopped
  | other => exact .inl rfl
  | unidentified => exact .inl rfl

end Sniffer

end Ioppytest.PacketSniffer
