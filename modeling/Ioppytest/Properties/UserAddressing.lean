import Ioppytest.UiAdaptor.Publisher

/-!
# Addressing a user

The id of a user becomes one part of a routing key, and is read from there again. That works for ids
that are one part, and the topic for the reply is right unless the id starts like the last part of
the routing key of a request.
-/

namespace Ioppytest.UiAdaptor

open PyString

namespace Publisher

/-- The routing key of a request to a user. -/
def requestTopic (userId : String) : String := "ui.user." ++ userId ++ ".request"

/-- The topic for the replies of a user. -/
def replyTopic (userId : String) : String := "ui.user." ++ userId ++ ".reply"

/-- `ui_reply_topics`. -/
def uiReplyTopics (mapping : RoleMapping) : List String :=
  replyTopic "all" :: mapping.items.map fun item => replyTopic item.2

/-- A request for users, whoever they are. -/
structure ForUsers (request : UiMessage) : Prop where
  /-- It has one of the two routing keys. -/
  key : request.routingKey = "ui.user.all.request" ∨ request.routingKey = "ui.user.*.request"
  /-- It has a topic for the reply. -/
  asks : request.replyTo.isSome = true

/-- A request that is addressed to a user gives the user back, has the topic for the replies of the
user, and is published. -/
def RoundTrips (mapping : RoleMapping) (library : MessageLibrary) (request : UiMessage)
    (userId : String) : Prop :=
  ∃ message, updateUiMessageRkeys mapping request none (some userId) = .ok message ∧
    getUserIdFromRkey message.routingKey = .ok userId ∧
    message.replyTo = some (replyTopic userId) ∧
    ∃ displays, publishUiRequest mapping library request (some userId) = .ok (displays, message)

/-- The id is one part of a routing key, and does not start like the part that follows. -/
def Plain (userId : String) : Prop :=
  userId ≠ "" ∧ '.' ∉ userId.toList ∧ ¬ "request".toList <+: userId.toList

variable {mapping : RoleMapping} {library : MessageLibrary} {request : UiMessage} {userId : String}

/-- The adaptor listens to the replies of the users that have a role. -/
theorem replyTopic_mem {node : String} (role : (node, userId) ∈ mapping.items) :
    replyTopic userId ∈ uiReplyTopics mapping :=
  List.mem_cons_of_mem _ (List.mem_map.mpr ⟨_, role, rfl⟩)

/-- The characters of the routing key of a request to a user. -/
theorem requestTopic_toList (userId : String) : (requestTopic userId).toList =
    "ui".toList ++ '.' :: ("user".toList ++ '.' :: (userId.toList ++ '.' :: "request".toList)) := by
  simp [requestTopic, String.toList_append]

/-- Either routing key becomes the one of the user that the message goes to. -/
theorem updateUiMessageRkeys_destination (forUsers : ForUsers request) {given : Option String}
    (destination : destinationUser mapping none given = userId) :
    updateUiMessageRkeys mapping request none given =
      .ok (readdress request (requestTopic userId)) := by
  unfold updateUiMessageRkeys
  rw [destination]
  rcases forUsers.key with all | star
  · have parts : split "ui.user.all.request" ".all." = ["ui.user", "request"] := by decide
    have key : replace "ui.user.all.request" ".all." ("." ++ userId ++ ".") =
        requestTopic userId := by
      rw [replace, parts]
      change "ui.user" ++ ("." ++ userId ++ ".") ++ "request" = _
      apply String.toList_injective
      simp [requestTopic, String.toList_append]
    have addressable : contains "ui.user.all.request" ".*." = true ∨
        contains "ui.user.all.request" ".all." = true := by decide
    have unstarred : ¬ contains "ui.user.all.request" "*" = true := by decide
    simp only [all, if_pos addressable, if_neg unstarred, key]
  · have parts : split "ui.user.*.request" "*" = ["ui.user.", ".request"] := by decide
    have key : replace "ui.user.*.request" "*" userId = requestTopic userId := by
      rw [replace, parts]
      rfl
    have addressable : contains "ui.user.*.request" ".*." = true ∨
        contains "ui.user.*.request" ".all." = true := by decide
    have starred : contains "ui.user.*.request" "*" = true := by decide
    simp only [star, if_pos addressable, if_pos starred, key]

/-- The user that is given is the one that the message goes to. -/
theorem updateUiMessageRkeys_user (forUsers : ForUsers request) (given : userId ≠ "") :
    updateUiMessageRkeys mapping request none (some userId) =
      .ok (readdress request (requestTopic userId)) :=
  updateUiMessageRkeys_destination forUsers (by rw [destinationUser, truthy_some given])

/-- The id is read back if it is one part of the routing key. -/
theorem getUserIdFromRkey_plain (part : '.' ∉ userId.toList) :
    getUserIdFromRkey (requestTopic userId) = .ok userId := by
  have fields : split (requestTopic userId) "." = ["ui", "user", userId, "request"] := by
    have chars : splitFrom ['.'] 0 [] (requestTopic userId).toList =
        ["ui".toList, "user".toList, userId.toList, "request".toList] := by
      have here (field rest : List Char) := @splitFrom_here '.' [] field rest
      simp only [List.nil_append] at here
      rw [requestTopic_toList, splitFrom_free (by decide), here, splitFrom_free (by decide), here,
        splitFrom_free part, here]
      simp [splitFrom]
    change (splitFrom ['.'] 0 [] (requestTopic userId).toList).map String.ofList = _
    rw [chars]
    simp
  rw [getUserIdFromRkey, fields]
  rfl

/-- The id is not read back if it is several parts of the routing key. -/
theorem getUserIdFromRkey_dotted (parts : '.' ∈ userId.toList) :
    getUserIdFromRkey (requestTopic userId) = .error .keyError := by
  have many : 4 < (split (requestTopic userId) ".").length := by
    have counted : (split (requestTopic userId) ".").length =
        (requestTopic userId).toList.count '.' + 1 := by
      rw [split, List.length_map]
      exact splitFrom_length '.' [] _
    have dots : (requestTopic userId).toList.count '.' = userId.toList.count '.' + 3 := by
      rw [requestTopic_toList]
      simp [List.count_append]
    have some_dot := List.count_pos_iff.mpr parts
    omega
  unfold getUserIdFromRkey
  split
  · rename_i four
    simp [four] at many
  · rfl

/-- The first two parts of the routing key are passed over in search of the last one. -/
theorem splitFrom_requestTopic (userId : String) :
    splitFrom ('.' :: "request".toList) 0 [] (requestTopic userId).toList =
      splitFrom ('.' :: "request".toList) 0 "ui.user".toList.reverse
        ('.' :: (userId.toList ++ '.' :: "request".toList)) := by
  have apart : ¬ "request".toList <+: "user".toList ++ '.' :: (userId.toList ++
      '.' :: "request".toList) := fun here =>
    absurd (List.cons_prefix_cons.mp here).1 (by decide)
  rw [requestTopic_toList, splitFrom_free (by decide), splitFrom_near _ apart,
    splitFrom_free (by decide)]
  rfl

/-- The topic for the reply is the one of the user. -/
theorem replace_requestTopic (part : '.' ∉ userId.toList)
    (apart : ¬ "request".toList <+: userId.toList) :
    replace (requestTopic userId) ".request" ".reply" = replyTopic userId := by
  have elsewhere : ¬ "request".toList <+: userId.toList ++ '.' :: "request".toList := fun here =>
    apart (prefix_of_append (by decide) here)
  have fields : split (requestTopic userId) ".request" = ["ui.user." ++ userId, ""] := by
    have chars : splitFrom ('.' :: "request".toList) 0 [] (requestTopic userId).toList =
        [("ui.user." ++ userId).toList, []] := by
      rw [splitFrom_requestTopic, splitFrom_near _ elsewhere, splitFrom_free part,
        splitFrom_last]
      simp [String.toList_append]
    change (splitFrom ('.' :: "request".toList) 0 [] (requestTopic userId).toList).map
      String.ofList = _
    rw [chars, List.map_cons, String.ofList_toList]
    rfl
  rw [replace, fields]
  change "ui.user." ++ userId ++ ".reply" ++ "" = replyTopic userId
  rw [String.append_empty, replyTopic]

/-- An id that starts like the last part of the routing key is changed in the topic for the reply. -/
theorem replace_requestTopic_prefix {rest : String} (part : '.' ∉ rest.toList) :
    replace (requestTopic ("request" ++ rest)) ".request" ".reply" =
      "ui.user.reply" ++ rest ++ ".reply" := by
  have fields : split (requestTopic ("request" ++ rest)) ".request" = ["ui.user", rest, ""] := by
    have chars : splitFrom ('.' :: "request".toList) 0 []
        (requestTopic ("request" ++ rest)).toList = ["ui.user".toList, rest.toList, []] := by
      rw [splitFrom_requestTopic, String.toList_append, List.append_assoc, splitFrom_here,
        splitFrom_free part, splitFrom_last]
      simp
    change (splitFrom ('.' :: "request".toList) 0 []
      (requestTopic ("request" ++ rest)).toList).map String.ofList = _
    rw [chars]
    simp
  rw [replace, fields]
  change "ui.user" ++ ".reply" ++ rest ++ ".reply" ++ "" = _
  rw [String.append_empty]
  rfl

/-- The displays for the others can be addressed to anyone. -/
theorem addressed_display (display : library.uiDisplay.routingKey = "ui.user.all.display")
    (waitingForUser : String) (user : Option String) :
    ∃ message, addressed mapping (waitingFor library waitingForUser) user = .ok message := by
  unfold addressed
  split
  · have addressable : contains "ui.user.all.display" ".*." = true ∨
        contains "ui.user.all.display" ".all." = true := by decide
    have unstarred : ¬ contains "ui.user.all.display" "*" = true := by decide
    simp only [updateUiMessageRkeys, waitingFor, display, if_pos addressable, if_neg unstarred]
    exact ⟨_, rfl⟩
  · exact ⟨_, rfl⟩

/-- The displays of a request can be told if the user that it is for can. -/
theorem waitingDisplays_ok (display : library.uiDisplay.routingKey = "ui.user.all.display")
    (known : contains request.routingKey ".all." = true ∨
      ∃ user, user ≠ "" ∧ getUserIdFromRkey request.routingKey = .ok user) :
    ∃ displays, waitingDisplays mapping library request = .ok displays := by
  choose message run using @addressed_display mapping library display
  have displays (waitingForUser : String) (users : List String) :
      (users.mapM fun user => addressed mapping (waitingFor library waitingForUser) (some user)) =
        .ok (users.map fun user => message waitingForUser (some user)) := by
    simp only [run]
    exact List.mapM_pure
  unfold waitingDisplays
  split
  · rename_i single
    obtain ⟨user, given, read⟩ := known.resolve_left single.2
    rw [read]
    simp only [bind, Except.bind, if_neg given]
    exact ⟨_, displays _ _⟩
  · exact ⟨_, rfl⟩

/-- Only plain ids are read back with the right topic. -/
theorem RoundTrips.plain (trip : RoundTrips mapping library request userId)
    (forUsers : ForUsers request) : Plain userId := by
  obtain ⟨message, updated, read, replies, -⟩ := trip
  have given : userId ≠ "" := by
    rintro rfl
    have broadcast : updateUiMessageRkeys mapping request none (some "") =
        .ok (readdress request (requestTopic "all")) :=
      updateUiMessageRkeys_destination forUsers rfl
    obtain rfl := Except.ok.inj (broadcast.symm.trans updated)
    have everyone := (@getUserIdFromRkey_plain "all" (by decide)).symm.trans read
    exact absurd (Except.ok.inj everyone) (by decide)
  obtain rfl : readdress request (requestTopic userId) = message :=
    Except.ok.inj ((updateUiMessageRkeys_user forUsers given).symm.trans updated)
  have part : '.' ∉ userId.toList := fun parts => by
    cases (getUserIdFromRkey_dotted parts).symm.trans read
  refine ⟨given, part, fun starts => ?_⟩
  obtain ⟨rest, whole⟩ := starts
  obtain rfl : userId = "request" ++ String.ofList rest := by
    apply String.toList_injective
    simpa [String.toList_append] using whole.symm
  have rest_part : '.' ∉ (String.ofList rest).toList := fun dot => by
    rw [String.toList_append] at part
    exact part (List.mem_append_right _ dot)
  obtain ⟨topic, asks⟩ := Option.isSome_iff_exists.mp forUsers.asks
  simp only [readdress, asks, Option.map_some, replace_requestTopic_prefix rest_part,
    Option.some.injEq] at replies
  -- The topic has lost two characters.
  have lengths := congrArg String.length replies
  simp only [replyTopic, String.length_append] at lengths
  have short : "ui.user.reply".length < "ui.user.".length + "request".length := by decide
  omega

/-- **Addressing a user round-trips exactly for plain ids**: ids that are not empty, have no dot and
do not start with `request`. -/
theorem roundTrips_iff (mapping : RoleMapping) (library : MessageLibrary)
    (display : library.uiDisplay.routingKey = "ui.user.all.display") (request : UiMessage)
    (forUsers : ForUsers request) (userId : String) :
    RoundTrips mapping library request userId ↔ Plain userId := by
  constructor
  · exact fun trip => trip.plain forUsers
  · rintro ⟨given, part, apart⟩
    have updated := @updateUiMessageRkeys_user mapping request userId forUsers given
    have read := getUserIdFromRkey_plain part
    refine ⟨_, updated, read, ?_, ?_⟩
    · obtain ⟨topic, asks⟩ := Option.isSome_iff_exists.mp forUsers.asks
      simp only [readdress, asks, Option.map_some, replace_requestTopic part apart]
    · obtain ⟨displays, told⟩ := @waitingDisplays_ok mapping library
        (readdress request (requestTopic userId)) display (.inr ⟨userId, given, read⟩)
      refine ⟨displays, ?_⟩
      simp only [publishUiRequest, addressed, truthy_some given, updated, bind, Except.bind, told]
      rfl

/-- A request to all users. -/
def confirmationRequest : UiMessage := Setup.plain.library.uiRequestConfirmationButton

/-- A user whose id is plain. -/
theorem roundTrips_bob : RoundTrips .empty Setup.plain.library confirmationRequest "bob" :=
  (roundTrips_iff .empty Setup.plain.library rfl confirmationRequest ⟨.inl rfl, rfl⟩ "bob").mpr
    ⟨by decide, by decide, by decide⟩

/-- A user whose id has a dot is not read back, and one whose id starts with `request` has another
topic for the reply. -/
theorem roundTrips_dotted :
    ¬ RoundTrips .empty Setup.plain.library confirmationRequest "bob.smith" ∧
      ¬ RoundTrips .empty Setup.plain.library confirmationRequest "requester" := by
  constructor
  · exact fun trip => absurd (trip.plain ⟨.inl rfl, rfl⟩).2.1 (by decide)
  · exact fun trip => absurd (trip.plain ⟨.inl rfl, rfl⟩).2.2 (by decide)

end Publisher

end Ioppytest.UiAdaptor
