import Ioppytest.UiAdaptor.UiTasks
import Ioppytest.Properties.UserAddressing

/-!
# Assigning the roles

The roles of a test suite are assigned to the users: from the name of a resource if there is a single
user, and else by asking the lead user. The question offers all roles under the name `all`, and the
answer is looked for under the name `both`; and a lead user whose id has a dot cannot be asked.
-/

namespace Ioppytest.UiAdaptor

open PyString Raising

namespace Publisher

variable {mapping : RoleMapping} {library : MessageLibrary} {request : UiMessage} {userId : String}

/-- Asking the user does not raise: the question goes to all users, or the id is one part of the
routing key, or passes for a message to all. -/
def Askable (userId : String) : Prop :=
  userId = "" ∨ '.' ∉ userId.toList ∨ contains (requestTopic userId) ".all." = true

/-- The routing key starts as that of a message for users. -/
theorem contains_requestTopic (userId : String) : contains (requestTopic userId) "ui.user." = true := by
  have chars : (requestTopic userId).toList =
      "ui.user.".toList ++ (userId.toList ++ ".request".toList) := by
    simp [requestTopic, String.toList_append]
  rw [contains, chars]
  rfl

/-- A question can be published exactly if the user can be asked. -/
theorem publishUiRequest_iff (display : library.uiDisplay.routingKey = "ui.user.all.display")
    (forUsers : ForUsers request) :
    (∃ published, publishUiRequest mapping library request (some userId) = .ok published) ↔
      Askable userId := by
  by_cases given : userId = ""
  · subst given
    have known : contains request.routingKey ".all." = true ∨
        ∃ user, user ≠ "" ∧ getUserIdFromRkey request.routingKey = .ok user := by
      rcases forUsers.key with all | star
      · rw [all]
        exact .inl (by decide)
      · rw [star]
        exact .inr ⟨"*", by decide, @getUserIdFromRkey_plain "*" (by decide)⟩
    obtain ⟨displays, told⟩ := @waitingDisplays_ok mapping library request display known
    refine iff_of_true ⟨(displays, request), ?_⟩ (.inl rfl)
    change (waitingDisplays mapping library request).bind _ = _
    rw [told]
    rfl
  · have published : publishUiRequest mapping library request (some userId) =
        (waitingDisplays mapping library (readdress request (requestTopic userId))).map
          (·, readdress request (requestTopic userId)) := by
      rw [← publishUiRequest_none]
      simp only [publishUiRequest, addressed, truthy_some given,
        updateUiMessageRkeys_user forUsers given]
      rfl
    rw [published]
    by_cases askable : Askable userId
    · refine iff_of_true ?_ askable
      have known : contains (requestTopic userId) ".all." = true ∨
          ∃ user, user ≠ "" ∧ getUserIdFromRkey (requestTopic userId) = .ok user := by
        rcases askable.resolve_left given with part | all
        · exact .inr ⟨userId, given, getUserIdFromRkey_plain part⟩
        · exact .inl all
      obtain ⟨displays, told⟩ := @waitingDisplays_ok mapping library
        (readdress request (requestTopic userId)) display known
      rw [told]
      exact ⟨_, rfl⟩
    · refine iff_of_false ?_ askable
      obtain ⟨dotted, single⟩ : '.' ∈ userId.toList ∧
          ¬ contains (requestTopic userId) ".all." = true := by
        constructor
        · by_contra part
          exact askable (.inr (.inl part))
        · exact fun all => askable (.inr (.inr all))
      have raises : waitingDisplays mapping library (readdress request (requestTopic userId)) =
          .error .keyError := by
        have asked : contains (requestTopic userId) "ui.user." = true ∧
            ¬ contains (requestTopic userId) ".all." = true := ⟨contains_requestTopic userId, single⟩
        rw [waitingDisplays, readdress, if_pos asked, getUserIdFromRkey_dotted dotted]
        rfl
      rw [raises]
      rintro ⟨published, none_ok⟩
      cases none_ok

end Publisher

namespace UiTask

/-- What the roles of a test suite are assigned from. -/
structure Lobby where
  /-- What the task needs. -/
  setup : TaskSetup
  /-- What the UI answers. -/
  ui : Ui
  /-- What has been said before. -/
  conversation : Conversation
  /-- What the publisher knows about the roles of users. -/
  mapping : RoleMapping
  /-- The first role. -/
  first : String
  /-- The second role. -/
  second : String
  /-- The session configuration. -/
  sessionConfiguration : UiSessionConfiguration
  /-- The user who is asked. -/
  userLead : String
  /-- The other users that are online. -/
  others : List String
  /-- The reply to the question. -/
  reply : UiReply
  /-- The role that it declares. -/
  answer : String
  /-- The roles are two. -/
  distinct : first ≠ second
  /-- The UI says who is online. -/
  online : usersOnline (ui.sessionConfiguration conversation.polls) = .ok (userLead :: others)
  /-- The UI gives the reply. -/
  replied : ui.questionRadio = .ok (some reply)
  /-- The reply has the answer. -/
  declared : declaredRole (some reply) = .ok (.text answer)
  /-- The answer is one of the options. -/
  offered : ∃ entry ∈ (roleQuestion setup [first, second]).fields,
    entry.name = some "iut_role" ∧ entry.value = .text answer
  /-- Displays are for users. -/
  display : setup.library.uiDisplay.routingKey = "ui.user.all.display"
  /-- The question is for users. -/
  question : Publisher.ForUsers setup.uiRequestQuestionRadio

namespace Lobby

variable (lobby : Lobby)

/-- `get_user_ids_and_roles_from_ui`. -/
def assign : EStateM.Result PyException Conversation RoleMapping :=
  (getUserIdsAndRolesFromUi lobby.setup lobby.ui lobby.mapping [lobby.first, lobby.second]
    lobby.sessionConfiguration).run lobby.conversation

/-- One of the roles, and the other one. -/
def Roles (role other : String) : Prop :=
  (role = lobby.first ∧ other = lobby.second) ∨ (role = lobby.second ∧ other = lobby.first)

/-- There is a single user, and a resource whose name has a role as a part. -/
def Deducible : Prop :=
  lobby.others = [] ∧ ∃ resource, lobby.sessionConfiguration.configuration = some (some resource) ∧
    (contains resource lobby.first = true ∨ contains resource lobby.second = true)

/-- The lead user has declared the role, alone or with the other one. -/
def Declares (role : String) : Prop := lobby.answer = "all" ∨ lobby.answer = role

/-- Whether a role is declared is the answer. -/
instance (role : String) : Decidable (lobby.Declares role) :=
  inferInstanceAs (Decidable (_ ∨ _))

/-- The second user, or the automated IUT if there is none. -/
def partner : String := lobby.others.head?.getD "automated_iut"

/-- Who a role is for, if the lead user is asked. -/
def holder (role : String) : String :=
  if lobby.Declares role then lobby.userLead else lobby.partner

/-- The roles are assigned to the lead user and another one. -/
structure Assigned (roles : RoleMapping) : Prop where
  /-- Exactly the two roles are. -/
  keys : ∀ role, (roles.get? role).isSome = true ↔ role = lobby.first ∨ role = lobby.second
  /-- Without a question the resource has the role in its name, and the lead user the other one. -/
  deduced : lobby.Deducible → ∃ role other resource, lobby.Roles role other ∧
    lobby.sessionConfiguration.configuration = some (some resource) ∧
    contains resource role = true ∧ roles.get? role = some resource ∧
    roles.get? other = some lobby.userLead
  /-- The lead user has the roles that were declared, and the partner what remains. -/
  asked : ¬ lobby.Deducible → ∀ role, role = lobby.first ∨ role = lobby.second →
    roles.get? role = some (lobby.holder role)

/-- The task returns an assignment. -/
def Total : Prop := ∃ roles after, lobby.assign = .ok roles after ∧ lobby.Assigned roles

/-- The answer says what it is taken for. For `all` that is so only if there is a role of this name,
and for `both` if it is a role: the remaining role goes to the user who has declared it, or not. -/
def Unambiguous : Prop :=
  if lobby.answer = "all" then ("all" = lobby.first ∨ "all" = lobby.second) ∧
    (truthy lobby.others.head?).getD "automated_iut" = lobby.userLead
  else if lobby.answer = "both" then lobby.partner = lobby.userLead
  else lobby.others.head? ≠ some ""

/-- The roles can be deduced, or the lead user can be asked and the answer is taken for what it
says. -/
def Settled : Prop :=
  lobby.Deducible ∨ Publisher.Askable lobby.userLead ∧ lobby.Unambiguous

variable {lobby}

/-- The options are the roles and all of them. -/
theorem answer_offered (lobby : Lobby) :
    lobby.answer = lobby.first ∨ lobby.answer = lobby.second ∨ lobby.answer = "all" := by
  obtain ⟨entry, member, named, value⟩ := lobby.offered
  simp only [roleQuestion, List.map_cons, List.map_nil, List.cons_append, List.nil_append,
    List.mem_cons, List.not_mem_nil, or_false] at member
  rcases member with rfl | rfl | rfl | rfl
  · cases named
  · exact .inl (UserInput.text.inj value).symm
  · exact .inr (.inl (UserInput.text.inj value).symm)
  · exact .inr (.inr (UserInput.text.inj value).symm)

/-- A mapping of two roles. -/
theorem get?_two {role other : String} (holder partner key : String) :
    ((OrderedDict.empty.insert role holder).insert other partner).get? key =
      if key = other then some partner else if key = role then some holder else none := by
  simp only [OrderedDict.get?_insert, OrderedDict.get?_empty]

/-- The two roles differ. -/
theorem Roles.apart {role other : String} (roles : lobby.Roles role other) : role ≠ other := by
  rcases roles with ⟨rfl, rfl⟩ | ⟨rfl, rfl⟩
  · exact lobby.distinct
  · exact lobby.distinct.symm

/-- A key that is one of the roles is one of the two. -/
theorem Roles.iff {role other : String} (roles : lobby.Roles role other) {key : String} :
    key = role ∨ key = other ↔ key = lobby.first ∨ key = lobby.second := by
  rcases roles with ⟨rfl, rfl⟩ | ⟨rfl, rfl⟩
  · rfl
  · exact or_comm

/-- Such a mapping has exactly the two roles as keys. -/
theorem Roles.keys {role other : String} (roles : lobby.Roles role other)
    (holder partner key : String) :
    (((OrderedDict.empty.insert role holder).insert other partner).get? key).isSome = true ↔
      key = lobby.first ∨ key = lobby.second := by
  rw [← roles.iff, get?_two]
  by_cases here : key = other
  · simp [here]
  · simp [here]

/-- An assignment of the two roles is right, if the user is asked, exactly if both are for the right
ones. -/
theorem assigned_two_iff (asked : ¬ lobby.Deducible) {role other : String}
    (roles : lobby.Roles role other) (holder partner : String) :
    lobby.Assigned ((OrderedDict.empty.insert role holder).insert other partner) ↔
      holder = lobby.holder role ∧ partner = lobby.holder other := by
  constructor
  · intro assigned
    have right := assigned.asked asked
    have first := right role (roles.iff.mp (.inl rfl))
    have second := right other (roles.iff.mp (.inr rfl))
    rw [get?_two, if_neg roles.apart, if_pos rfl] at first
    rw [get?_two, if_pos rfl] at second
    exact ⟨Option.some.inj first, Option.some.inj second⟩
  · rintro ⟨rfl, rfl⟩
    refine ⟨roles.keys _ _, fun deducible => absurd deducible asked, fun _ key known => ?_⟩
    rw [get?_two]
    rcases roles.iff.mpr known with rfl | rfl
    · rw [if_neg roles.apart, if_pos rfl]
    · rw [if_pos rfl]

/-- The answer `both` is taken for both roles. -/
theorem assignRoles_both {first second : String} (userLead : String) (secondUser : Option String) :
    assignRoles [first, second] userLead secondUser (.text "both") =
      .ok ((OrderedDict.empty.insert first userLead).insert second userLead) := rfl

/-- Any other answer is taken for a role. -/
theorem assignRoles_role {role other : String} (roles : lobby.Roles role other)
    (single : role ≠ "both") (userLead : String) (secondUser : Option String) :
    assignRoles [lobby.first, lobby.second] userLead secondUser (.text role) =
      .ok ((OrderedDict.empty.insert role userLead).insert other
        ((truthy secondUser).getD "automated_iut")) := by
  have member : role ∈ [lobby.first, lobby.second] := by
    rcases roles with ⟨rfl, -⟩ | ⟨rfl, -⟩ <;> simp
  have remaining : ([lobby.first, lobby.second].erase role).getLast? = some other := by
    rcases roles with ⟨rfl, rfl⟩ | ⟨rfl, rfl⟩
    · simp
    · simp [lobby.distinct]
  simp only [assignRoles, if_neg single, if_pos member, remaining]

/-- An answer that is neither raises. -/
theorem assignRoles_unknown {first second answer : String} (single : answer ≠ "both")
    (unknown : answer ∉ [first, second]) (userLead : String) (secondUser : Option String) :
    assignRoles [first, second] userLead secondUser (.text answer) = .error .valueError := by
  simp only [assignRoles, if_neg single, if_neg unknown]

/-- The lead user has the role that is declared. -/
theorem holder_declared {role : String} (declares : lobby.Declares role) :
    lobby.holder role = lobby.userLead := if_pos declares

/-- The partner has the role that remains. -/
theorem holder_remaining {role : String} (remains : ¬ lobby.Declares role) :
    lobby.holder role = lobby.partner := if_neg remains

/-- Some answer other than `all` declares one role. -/
theorem Roles.remains {role other : String} (roles : lobby.Roles role other)
    (declared : lobby.answer = role) (single : lobby.answer ≠ "all") : ¬ lobby.Declares other := by
  rintro (all | same)
  · exact single all
  · exact roles.apart (declared.symm.trans same)

/-- A second user without an id counts as none. -/
theorem truthy_getD_iff {second : Option String} :
    (truthy second).getD "automated_iut" = second.getD "automated_iut" ↔ second ≠ some "" := by
  cases second with
  | none => exact iff_of_true rfl (Option.some_ne_none "").symm
  | some user =>
    by_cases blank : user = ""
    · subst blank
      exact iff_of_false (by decide) fun given => given rfl
    · rw [truthy_some blank]
      exact iff_of_true rfl fun same => blank (Option.some.inj same)

/-- An answer that is a role. -/
theorem assignRoles_declared (asked : ¬ lobby.Deducible) {other : String}
    (roles : lobby.Roles lobby.answer other) :
    (∃ mapping, assignRoles [lobby.first, lobby.second] lobby.userLead lobby.others.head?
      (.text lobby.answer) = .ok mapping ∧ lobby.Assigned mapping) ↔ lobby.Unambiguous := by
  have own : lobby.holder lobby.answer = lobby.userLead := holder_declared (.inr rfl)
  by_cases both : lobby.answer = "both"
  · have single : lobby.answer ≠ "all" := both.trans_ne (by decide)
    have others : lobby.holder other = lobby.partner := holder_remaining (roles.remains rfl single)
    have right : lobby.userLead = lobby.holder lobby.first ∧
        lobby.userLead = lobby.holder lobby.second ↔ lobby.partner = lobby.userLead := by
      rcases roles with ⟨here, rfl⟩ | ⟨here, rfl⟩
      · rw [← here, own, others, eq_self, true_and, eq_comm]
      · rw [← here, own, others, eq_self, and_true, eq_comm]
    have assigned : assignRoles [lobby.first, lobby.second] lobby.userLead lobby.others.head?
        (.text lobby.answer) = .ok ((OrderedDict.empty.insert lobby.first lobby.userLead).insert
          lobby.second lobby.userLead) := by
      rw [both]
      exact assignRoles_both lobby.userLead lobby.others.head?
    rw [Unambiguous, if_neg single, if_pos both, assigned, ← right,
      ← assigned_two_iff asked (.inl ⟨rfl, rfl⟩)]
    simp only [Except.ok.injEq, exists_eq_left']
  · rw [assignRoles_role roles both]
    simp only [Except.ok.injEq, exists_eq_left', assigned_two_iff asked roles, own, true_and]
    unfold Unambiguous
    by_cases all : lobby.answer = "all"
    · have known : "all" = lobby.first ∨ "all" = lobby.second := by
        rw [← all]
        exact roles.iff.mp (.inl rfl)
      rw [if_pos all, holder_declared (.inl all), and_iff_right known]
    · rw [if_neg all, if_neg both, holder_remaining (roles.remains rfl all)]
      exact truthy_getD_iff

/-- The answer leads to a right assignment exactly if it is taken for what it says. -/
theorem assignRoles_iff (asked : ¬ lobby.Deducible) :
    (∃ roles, assignRoles [lobby.first, lobby.second] lobby.userLead lobby.others.head?
      (.text lobby.answer) = .ok roles ∧ lobby.Assigned roles) ↔ lobby.Unambiguous := by
  by_cases known : lobby.answer = lobby.first ∨ lobby.answer = lobby.second
  · rcases known with first | second
    · exact assignRoles_declared asked (.inl ⟨first, rfl⟩)
    · exact assignRoles_declared asked (.inr ⟨second, rfl⟩)
  · have all : lobby.answer = "all" := by
      rcases lobby.answer_offered with first | second | all
      · exact absurd (.inl first) known
      · exact absurd (.inr second) known
      · exact all
    have unknown : lobby.answer ∉ [lobby.first, lobby.second] := by simpa using known
    have single : lobby.answer ≠ "both" := all.trans_ne (by decide)
    rw [assignRoles_unknown single unknown, Unambiguous, if_pos all, ← all]
    refine iff_of_false ?_ fun settled => known settled.1
    rintro ⟨roles, none_ok, -⟩
    cases none_ok

/-- The name of the resource has a role as a part. -/
theorem deduceRoles_found {resource : String}
    (given : lobby.sessionConfiguration.configuration = some (some resource))
    (part : contains resource lobby.first = true ∨ contains resource lobby.second = true) :
    ∃ role other, lobby.Roles role other ∧ contains resource role = true ∧
      deduceRoles [lobby.first, lobby.second] lobby.sessionConfiguration lobby.userLead =
        .ok (some ((OrderedDict.empty.insert role resource).insert other lobby.userLead)) := by
  have joined : lobby.sessionConfiguration.configuration.join = some resource := by
    rw [given]
    rfl
  unfold deduceRoles
  rw [joined]
  by_cases first : contains resource lobby.first = true
  · refine ⟨lobby.first, lobby.second, .inl ⟨rfl, rfl⟩, first, ?_⟩
    exact if_pos first
  · have second := part.resolve_left first
    refine ⟨lobby.second, lobby.first, .inr ⟨rfl, rfl⟩, second, ?_⟩
    exact (if_neg first).trans (if_pos second)

/-- Nothing is deduced. -/
theorem deduceRoles_none (alone : lobby.others = []) (asked : ¬ lobby.Deducible) :
    deduceRoles [lobby.first, lobby.second] lobby.sessionConfiguration lobby.userLead =
      .ok none := by
  unfold deduceRoles
  cases given : lobby.sessionConfiguration.configuration.join with
  | none => rfl
  | some resource =>
    have configured : lobby.sessionConfiguration.configuration = some (some resource) :=
      Option.join_eq_some_iff.mp given
    have apart (role : String) (known : role = lobby.first ∨ role = lobby.second) :
        ¬ contains resource role = true := fun part =>
      asked ⟨alone, resource, configured, by rcases known with rfl | rfl <;> simp [part]⟩
    simp only [if_neg (apart lobby.first (.inl rfl)), if_neg (apart lobby.second (.inr rfl))]

/-- Roles that can be deduced are. -/
theorem total_of_deducible (deducible : lobby.Deducible) : lobby.Total := by
  obtain ⟨alone, resource, given, part⟩ := deducible
  obtain ⟨role, other, roles, named, deduced⟩ := deduceRoles_found given part
  have online := lobby.online
  rw [alone] at online
  obtain ⟨after, returned⟩ : ∃ after, lobby.assign = .ok
      ((OrderedDict.empty.insert role resource).insert other lobby.userLead) after := by
    unfold assign getUserIdsAndRolesFromUi
    rw [EStateM.run_bind, getCurrentUsersOnline_run, online, run_lift_ok]
    simp only [EStateM.run_bind, List.getElem?_cons_zero, run_expect_some, List.getElem?_cons_succ,
      List.getElem?_nil, Option.isNone_none, ↓reduceIte, deduced, run_lift_ok]
    exact ⟨_, rfl⟩
  refine ⟨_, after, returned, roles.keys _ _, fun _ => ?_, fun asked => ?_⟩
  · refine ⟨role, other, resource, roles, given, named, ?_, ?_⟩
    · rw [get?_two, if_neg roles.apart, if_pos rfl]
    · rw [get?_two, if_pos rfl]
  · exact absurd ⟨alone, resource, given, part⟩ asked

/-- Otherwise the lead user is asked. -/
theorem assign_asked (asked : ¬ lobby.Deducible) :
    lobby.assign = (askForRoles lobby.setup lobby.ui lobby.mapping [lobby.first, lobby.second]
      lobby.userLead lobby.others.head?).run
        { lobby.conversation with polls := lobby.conversation.polls + 1 } := by
  unfold assign getUserIdsAndRolesFromUi
  rw [EStateM.run_bind, getCurrentUsersOnline_run, lobby.online, run_lift_ok]
  simp only [EStateM.run_bind, List.getElem?_cons_zero, run_expect_some, List.getElem?_cons_succ]
  cases others : lobby.others with
  | nil =>
    simp only [List.getElem?_nil, Option.isNone_none, ↓reduceIte, deduceRoles_none others asked,
      run_lift_ok, List.head?_nil]
  | cons secondUser rest =>
    simp only [List.getElem?_cons_zero, Option.isNone_some, List.head?_cons]
    rfl

/-- A lead user who can be asked has the roles assigned that the answer says. -/
theorem askForRoles_run (askable : Publisher.Askable lobby.userLead)
    (conversation : Conversation) :
    ∃ after, (askForRoles lobby.setup lobby.ui lobby.mapping [lobby.first, lobby.second]
        lobby.userLead lobby.others.head?).run conversation =
      (lift (assignRoles [lobby.first, lobby.second] lobby.userLead lobby.others.head?
        (.text lobby.answer))).run after := by
  obtain ⟨published, asks⟩ := (@Publisher.publishUiRequest_iff lobby.mapping lobby.setup.library
    (roleQuestion lobby.setup [lobby.first, lobby.second]) lobby.userLead lobby.display
    ⟨lobby.question.key, lobby.question.asks⟩).mpr askable
  unfold askForRoles synchRequest
  simp only [EStateM.run_bind, asks, run_lift_ok, EStateM.run_modify, lobby.replied, lobby.declared]
  cases assignRoles [lobby.first, lobby.second] lobby.userLead lobby.others.head?
    (.text lobby.answer) with
  | error exception => exact ⟨_, rfl⟩
  | ok roles => exact ⟨_, rfl⟩

/-- A lead user who cannot be asked makes the task raise. -/
theorem askForRoles_raises (unaskable : ¬ Publisher.Askable lobby.userLead)
    (conversation : Conversation) (roles : RoleMapping) (after : Conversation) :
    (askForRoles lobby.setup lobby.ui lobby.mapping [lobby.first, lobby.second]
      lobby.userLead lobby.others.head?).run conversation ≠ .ok roles after := by
  have asks := mt (@Publisher.publishUiRequest_iff lobby.mapping lobby.setup.library
    (roleQuestion lobby.setup [lobby.first, lobby.second]) lobby.userLead lobby.display
    ⟨lobby.question.key, lobby.question.asks⟩).mp unaskable
  unfold askForRoles synchRequest
  simp only [EStateM.run_bind]
  cases published : Publisher.publishUiRequest lobby.mapping lobby.setup.library
      (roleQuestion lobby.setup [lobby.first, lobby.second]) (some lobby.userLead) with
  | error exception => nofun
  | ok request => exact absurd ⟨request, published⟩ asks

/-- An assignment of the roles is returned only if they are settled. -/
theorem Total.settled (total : lobby.Total) : lobby.Settled := by
  by_cases asked : lobby.Deducible
  · exact .inl asked
  · obtain ⟨roles, after, returned, assigned⟩ := total
    rw [assign_asked asked] at returned
    have askable : Publisher.Askable lobby.userLead := by
      by_contra unaskable
      exact askForRoles_raises unaskable _ roles after returned
    obtain ⟨_, run⟩ := askForRoles_run askable
      { lobby.conversation with polls := lobby.conversation.polls + 1 }
    rw [returned] at run
    refine .inr ⟨askable, (assignRoles_iff asked).mp ⟨roles, ?_, assigned⟩⟩
    cases answered : assignRoles [lobby.first, lobby.second] lobby.userLead lobby.others.head?
      (.text lobby.answer) with
    | error exception =>
      rw [answered] at run
      cases run
    | ok found =>
      rw [answered] at run
      cases run
      rfl

/-- Roles that are settled are assigned. -/
theorem Settled.total (settled : lobby.Settled) : lobby.Total := by
  by_cases asked : lobby.Deducible
  · exact total_of_deducible asked
  · obtain ⟨askable, unambiguous⟩ := settled.resolve_left asked
    obtain ⟨roles, answered, assigned⟩ := (assignRoles_iff asked).mpr unambiguous
    obtain ⟨after, run⟩ := askForRoles_run askable
      { lobby.conversation with polls := lobby.conversation.polls + 1 }
    rw [answered] at run
    exact ⟨roles, after, (assign_asked asked).trans run, assigned⟩

/-- A reply with a role. -/
def roleReply (role : String) : UiReply where
  correlationId := none
  fields := some (some [.dict (OrderedDict.empty.insert "iut_role" (.text role))])

/-- Two users of a session for CoAP, the first of whom gives an answer. -/
def coap (answer : String)
    (offered : ∃ entry ∈ (roleQuestion quietSetup ["coap_client", "coap_server"]).fields,
      entry.name = some "iut_role" ∧ entry.value = .text answer) : Lobby where
  setup := quietSetup
  ui := ⟨fun _ => .ok (some (sharedSession ["alice", "bob"])), .ok (some (roleReply answer))⟩
  conversation := {}
  mapping := .empty
  first := "coap_client"
  second := "coap_server"
  sessionConfiguration := sharedSession ["alice", "bob"]
  userLead := "alice"
  others := ["bob"]
  reply := roleReply answer
  answer := answer
  distinct := by decide
  online := rfl
  replied := rfl
  declared := rfl
  offered := offered
  display := rfl
  question := ⟨.inl rfl, rfl⟩

end Lobby

end UiTask

end Ioppytest.UiAdaptor
