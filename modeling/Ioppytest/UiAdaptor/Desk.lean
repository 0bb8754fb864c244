import Ioppytest.UiAdaptor.Books

/-!
# What the UI adaptor is for

Without its queues and its listener threads, the UI adaptor is a clerk at a desk. He handles the
messages of the testing tool and the replies of the users one after the other, and each of them leads
to displays, requests and messages for the testing tool. A logbook notes what goes through the queues
of the main loop, so that the loop can be compared with him.
-/

namespace Ioppytest.UiAdaptor

open Raising

/-- The display that was published, if it is one. -/
def Publication.display? : Publication → Option UiMessage
  | .display message => some message
  | _ => none

/-- The request that was published, if it is one. -/
def Publication.request? : Publication → Option UiMessage
  | .request message => some message
  | _ => none

/-- What the main thread handles. -/
inductive Task where
  /-- A message of the testing tool. -/
  | message (circumstances : Circumstances) (message : TtMessage)
  /-- A reply of a user. -/
  | reply (circumstances : Circumstances) (reply : UiReply)

namespace Task

/-- How it is handled. -/
def body (setup : Setup) : Task → MainThread Unit
  | .message circumstances messageReceived =>
    MainThread.processMessageFromTestingTool setup circumstances messageReceived
  | .reply circumstances messageReceived =>
    MainThread.processMessageFromUi setup circumstances messageReceived

/-- The message of the testing tool, if it is one. -/
def message? : Task → Option TtMessage
  | .message _ messageReceived => some messageReceived
  | .reply .. => none

/-- The reply, if it is one. -/
def reply? : Task → Option UiReply
  | .message .. => none
  | .reply _ messageReceived => some messageReceived

end Task

/-- What a clerk has in mind, and what he has handed out so far. -/
structure Desk where
  /-- The translator, with the table of pending responses. -/
  translator : Translator := {}
  /-- The displays. -/
  displays : List UiMessage := []
  /-- The requests of users. -/
  requests : List UiMessage := []
  /-- The messages for the testing tool. -/
  chained : List ChainedMessage := []

namespace Desk

/-- An adaptor with the translator of a clerk, and nothing in its queues. -/
def seat (mapping : RoleMapping) (translator : Translator) : Adaptor where
  translator := translator
  mapping := mapping
  queueMessagesFromTt := []

/-- Handle one thing. -/
def result (setup : Setup) (mapping : RoleMapping) (desk : Desk) (task : Task) :
    EStateM.Result PyException Adaptor Unit :=
  (task.body setup).run (seat mapping desk.translator)

/-- The desk after one thing was handled; an exception leaves what was handed out before it. -/
def work (setup : Setup) (mapping : RoleMapping) (desk : Desk) (task : Task) : Desk :=
  let after := finalState (desk.result setup mapping task)
  { translator := after.translator
    displays := desk.displays ++ after.queueMessagesDisplayToUi
    requests := desk.requests ++ after.queueMessagesRequestToUi
    chained := desk.chained ++ after.queueMessagesToTt }

/-- The desk after many things. -/
def after (setup : Setup) (mapping : RoleMapping) (tasks : List Task) : Desk :=
  tasks.foldl (work setup mapping) {}

/-- No task has been taken. -/
@[simp] theorem after_nil (setup : Setup) (mapping : RoleMapping) : after setup mapping [] = {} := rfl

/-- One task more. -/
@[simp] theorem after_concat (setup : Setup) (mapping : RoleMapping) (tasks : List Task)
    (task : Task) :
    after setup mapping (tasks ++ [task]) = work setup mapping (after setup mapping tasks) task :=
  List.foldl_concat ..

/-- Handling a task raises after others have been handled. -/
def Raises (setup : Setup) (mapping : RoleMapping) (tasks : List Task) (task : Task) : Prop :=
  (raised ((after setup mapping tasks).result setup mapping task)).isSome

end Desk

/-- Why something is displayed. -/
inductive Occasion where
  /-- It was taken out of the queue for displays. -/
  | queued
  /-- A user is asked, and the others are told that they wait. -/
  | waiting
  /-- New users were found. -/
  | newUsers
  deriving DecidableEq

/-- What has gone through the queues of the main loop. -/
structure Logbook where
  /-- What has been put into the queue for messages of the testing tool. -/
  messages : List TtMessage := []
  /-- What has been put into the queue for replies. -/
  replies : List UiReply := []
  /-- What the main thread has handled. -/
  tasks : List Task := []
  /-- What it has displayed, and why. -/
  shown : List (Occasion × UiMessage) := []
  /-- What it has taken out of the queue for requests. -/
  asked : List UiMessage := []

/-- What has been displayed on an occasion. -/
def Logbook.displayed (logbook : Logbook) (occasion : Occasion) : List UiMessage :=
  logbook.shown.filterMap fun display => if display.1 = occasion then some display.2 else none

namespace Adaptor

/-- The users that are not asked can be told so; else an exception ends the loop. -/
def tellable (setup : Setup) (mapping : RoleMapping) (request : UiMessage) : Bool :=
  (Publisher.waitingDisplays mapping setup.library request).isOk

/-- What they are told. -/
def told (setup : Setup) (mapping : RoleMapping) (request : UiMessage) : List UiMessage :=
  (Publisher.waitingDisplays mapping setup.library request).toOption.getD []

/-- What the main thread handles next. -/
def nextTask (adaptor : Adaptor) (circumstances : Circumstances) : Option Task :=
  match adaptor.phase with
  | .testingTool => adaptor.queueMessagesFromTt.head?.map (.message circumstances)
  | .reply => adaptor.queueMessagesFromUi.head?.map (.reply circumstances)
  | _ => none

/-- The request that it takes out of the queue next. -/
def nextRequest (adaptor : Adaptor) : Option UiMessage :=
  if adaptor.phase = .request then adaptor.queueMessagesRequestToUi.head? else none

/-- What it displays next. -/
def nextDisplays (setup : Setup) (adaptor : Adaptor) (circumstances : Circumstances) :
    List (Occasion × UiMessage) :=
  match adaptor.phase with
  | .displays => adaptor.queueMessagesDisplayToUi.head?.toList.map (.queued, ·)
  | .request =>
    (adaptor.nextRequest.toList.flatMap (told setup adaptor.mapping)).map (.waiting, ·)
  | .newUsers => (circumstances.newUsers.toOption.getD []).map (.newUsers, ·)
  | _ => []

/-- Note what goes through the queues; a listener thread waits while its queue is full. -/
def log (setup : Setup) (logbook : Logbook) (adaptor : Adaptor) : Action → Logbook
  | .fromTt message =>
    if adaptor.queueMessagesFromTt.length < maxsize then
      { logbook with messages := logbook.messages ++ [message] }
    else logbook
  | .fromUi reply =>
    if adaptor.queueMessagesFromUi.length < maxsize then
      { logbook with replies := logbook.replies ++ [reply] }
    else logbook
  | .proceed circumstances =>
    { logbook with
      tasks := logbook.tasks ++ (adaptor.nextTask circumstances).toList
      shown := logbook.shown ++ adaptor.nextDisplays setup circumstances
      asked := logbook.asked ++ adaptor.nextRequest.toList }
  | .interrupt => logbook

/-- The states and logbooks that any actions lead to, from the start of the loop. -/
abbrev Logged (setup : Setup) (mapping : RoleMapping) (waiting : List TtMessage) :
    Adaptor × Logbook → Prop :=
  Runs.Observed (next setup) (fun _ _ => True) (log setup) (initial mapping waiting, {})

/-- A user is asked to verify a step, and answers; the main thread executes two rounds of the loop. -/
def verified : List Action :=
  [.fromUi ⟨some (some "c1"),
    some (some [.dict (OrderedDict.empty.insert "verify_executed" (.boolean true))])⟩] ++
      List.replicate 18 (.proceed ⟨.ok none, "c1", "", .ok []⟩)

/-- What this leads to. -/
def afterVerified : Adaptor × Logbook :=
  verified.foldl (Runs.observed (next .plain) (log .plain))
    (initial .empty [{ type := .stepVerifyExecute }], {})

end Adaptor

end Ioppytest.UiAdaptor
