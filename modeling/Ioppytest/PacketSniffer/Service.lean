import Ioppytest.PacketSniffer.Sniffer
import Ioppytest.TestCoordinator.Endings

/-!
# The sniffer as a service of the coordinator

The coordinator asks for the capture of a test case when it finishes it, and whatever it gets as an
answer is a parameter there. What the sniffer answers is a capture that can be decoded, an error, or
nothing at all.
-/

namespace Ioppytest.PacketSniffer

open PyString Raising

/-- The request that a message of the coordinator is for the sniffer. -/
def Request.ofMessage? : Message → Option Request
  | .sniffingStart captureId .. => some (.start (some captureId))
  | .sniffingStop => some .stop
  | .sniffingGetCapture captureId => some (.getCapture (some (some captureId)))
  | _ => none

/-- What the coordinator reads from a reply, with its rendering. The fields of a capture that an error
lacks are `None`; the replies to other requests do not have them. -/
def ReplyBody.snifferReply (body : ReplyBody) (repr : String) : SnifferReply :=
  match body with
  | .getCaptureLastReply filename value | .getCaptureReply filename value =>
    ⟨some (some true), some (some value), some (some filename), repr⟩
  | .startReply => ⟨some (some true), none, none, repr⟩
  | .stopReply ok => ⟨some (some ok), none, none, repr⟩
  | .errorReply _ => ⟨some (some false), some none, some none, repr⟩

namespace Sniffer

/-- The answer of the sniffer to a message of the coordinator, if there is one. -/
def answer (host : Host) (sniffer : Sniffer) (message : Message) (repr : String) :
    Option SnifferReply := do
  let request ← Request.ofMessage? message
  let reply ← ((sniffer.next (host, request)).replies.drop sniffer.replies.length).head?
  return reply.body.snifferReply repr

variable {host : Host} {sniffer : Sniffer} {message : Message} {repr : String}

/-- A request that publishes nothing is not answered. -/
theorem answer_silent {request : Request} (asked : Request.ofMessage? message = some request)
    (silent : (sniffer.next (host, request)).replies = sniffer.replies) :
    sniffer.answer host message repr = none := by
  simp [answer, asked, silent]

/-- A request that publishes a reply is answered with it. -/
theorem answer_reply {request : Request} {body : ReplyBody}
    (asked : Request.ofMessage? message = some request)
    (replied : (sniffer.next (host, request)).replies =
      sniffer.replies ++ [⟨request, body⟩]) :
    sniffer.answer host message repr = some (body.snifferReply repr) := by
  simp [answer, asked, replied]

/-- What the coordinator gets as the capture of a test case: nothing if the file is empty or cannot
be told about, an error if it is missing, and its content otherwise. -/
theorem answer_getCapture (captureId : String) :
    sniffer.answer host (.sniffingGetCapture captureId) repr = none ∨
      (∃ errorMessage, sniffer.answer host (.sniffingGetCapture captureId) repr =
        some ((ReplyBody.errorReply errorMessage).snifferReply repr)) ∨
      ∃ bytes, sniffer.answer host (.sniffingGetCapture captureId) repr =
        some ((ReplyBody.getCaptureReply (filenameOf (some captureId))
          (b64encode bytes)).snifferReply repr) := by
  have asked : Request.ofMessage? (.sniffingGetCapture captureId) =
      some (.getCapture (some (some captureId))) := rfl
  cases file : host.file (joinPath host.tmpdir (filenameOf (some captureId))) with
  | missing message =>
    refine .inr (.inl ⟨message, answer_reply asked ?_⟩)
    simp [next, onRequest, onGetCapture, file, reply, publish]
  | inaccessible exception message | unreadable exception message =>
    refine .inl (answer_silent asked ?_)
    simp [next, onRequest, onGetCapture, file]
  | content bytes =>
    cases bytes with
    | nil =>
      refine .inl (answer_silent asked ?_)
      simp [next, onRequest, onGetCapture, file]
    | cons first rest =>
      refine .inr (.inr ⟨first :: rest, answer_reply asked ?_⟩)
      simp [next, onRequest, onGetCapture, file, reply, publish]

/-- The coordinator never gets a capture that it cannot decode. -/
theorem answer_decodable (captureId : String) (analysis : Option AnalysisReply) :
    ¬ Services.Captured
      ⟨sniffer.answer host (.sniffingGetCapture captureId) repr, analysis⟩ false := by
  rintro ⟨value, filename, rendering, answered, garbled⟩
  dsimp only at answered
  rcases @answer_getCapture host sniffer repr captureId with silent | ⟨_, error⟩ | ⟨bytes, served⟩
  · cases silent.symm.trans answered
  · cases error.symm.trans answered
  · cases served.symm.trans answered
    have decodes := b64decodes_b64encode bytes
    simp [Services.savable, decodes] at garbled

end Sniffer

end Ioppytest.PacketSniffer
