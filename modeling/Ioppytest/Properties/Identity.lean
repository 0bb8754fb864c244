import Ioppytest.TestCoordinator.Settings

/-!
# Session identity

A session configuration brings the id, the users and the configuration of the session. The start
of the suite resets it through `configure_testsuite`, whose defaults for these fields are `None`.
So a started suite reports the identity only if it was blank from the beginning.
-/

namespace Ioppytest

open Raising

variable {td : TestDescriptions}

namespace Settings

variable {settings : Settings}

/-- Applying a stored selection again keeps one and takes the identity away. -/
theorem restart_blank (upper : String → String) (selected : settings.selection ≠ none) :
    (settings.restart upper).selection ≠ none ∧ (settings.restart upper).identity = .blank := by
  unfold restart
  cases stored : settings.selection with
  | none => exact absurd stored selected
  | some selection =>
    have something : selection ≠ [] := by
      simpa using (Option.filter_eq_some_iff.mp stored).2
    refine ⟨?_, rfl⟩
    rw [selection_configure something]
    simp

end Settings

namespace Coordinator

/-- The identity that `get_testsuite_configuration` reports. -/
def reportedIdentity (c : Coordinator td) : Option Identity :=
  (getTestsuiteConfiguration c.testsuite).toOption.map fun reported =>
    ⟨reported.sessionId, reported.users, reported.configuration⟩

/-- Note the identity of the last session configuration that was accepted, and whether the suite
has been started since. -/
def noteIdentity (upper : String → String) (noted : Option (Identity × Bool))
    (c : Coordinator td) (input : Input) : Option (Identity × Bool) :=
  if handled (c.handle upper input) then
    match input with
    | .event (.sessionConfiguration sessionId users configuration) _ =>
      some (⟨sessionId, users, configuration⟩, false)
    | .event .testSuiteStart _ => noted.map fun (identity, _) => (identity, true)
    | _ => noted
  else noted

/-- What is left of a noted identity. -/
structure Remembers (c : Coordinator td) (identity : Identity) (started : Bool) : Prop where
  /-- There are test cases. -/
  nonempty : 0 < td.size
  /-- Another session configuration is not accepted. -/
  past : c.state ≠ .waitingForTestsuiteConfig
  /-- A selection is stored. -/
  selected : c.testsuite.settings.selection ≠ none
  /-- The start takes the identity away. -/
  identity : c.testsuite.settings.identity = if started then .blank else identity

variable {upper : String → String} {testsuiteName : String} {c : Coordinator td} {input : Input}
  {identity : Identity} {started : Bool}

/-- The reported identity is the one that the settings hold. -/
theorem Remembers.reported_iff (remembers : c.Remembers identity started) :
    c.reportedIdentity = some identity ↔ started = false ∨ identity = .blank := by
  have reported : c.reportedIdentity = some c.testsuite.settings.identity := by
    rw [reportedIdentity, getTestsuiteConfiguration, if_neg (Nat.ne_of_gt remembers.nonempty)]
    rfl
  rw [reported, remembers.identity, Option.some_inj]
  cases started with
  | false => simp
  | true =>
    simp only [↓reduceIte, Bool.true_eq_false, false_or]
    exact eq_comm

/-- An input without a part in the session configuration keeps what is left of a noted identity. -/
theorem Remembers.kept (remembers : c.Remembers identity started)
    (move : Move c input (c.handle upper input))
    (selection : (next upper c input).testsuite.settings.selection =
      c.testsuite.settings.selection)
    (same : (next upper c input).testsuite.settings.identity = c.testsuite.settings.identity) :
    (next upper c input).Remembers identity started :=
  ⟨remembers.nonempty, move.past remembers.past, by rw [selection]; exact remembers.selected,
    by rw [same, remembers.identity]⟩

/-- A session configuration that is accepted is remembered. -/
theorem remembers_configuration {sessionId : Option String} {users : Option (List String)}
    {configuration : Option SessionConfiguration} {services : Services} (coherent : Coherent c)
    (move : Move c (.event (.sessionConfiguration sessionId users configuration) services)
      (c.handle upper (.event (.sessionConfiguration sessionId users configuration) services)))
    (accepted : handled (c.handle upper
      (.event (.sessionConfiguration sessionId users configuration) services)) = true) :
    (next upper c (.event (.sessionConfiguration sessionId users configuration) services)).Remembers
      ⟨sessionId, users, configuration⟩ false := by
  obtain ⟨nonempty, state, later⟩ := move.accepted_configuration accepted
  have settings := next_settings upper coherent
    (.event (.sessionConfiguration sessionId users configuration) services)
  cases listed : Handler.sessionTcList configuration with
  | error exception =>
    rw [handle_sessionConfiguration state] at accepted
    simp only [configureTestsuite, listed, andThen_error, handled, Bool.false_eq_true] at accepted
  | ok requested =>
    have something : (if requested.isEmpty then (List.finRange td.size).map td.id
        else requested) ≠ [] := by
      split
      · simp [Nat.ne_of_gt nonempty]
      · rename_i listed
        exact fun empty => listed (List.isEmpty_iff.mpr empty)
    simp only [settingsAfter, requestedTcs, listed, Except.map, state, ↓reduceIte] at settings
    refine ⟨nonempty, ?_, ?_, ?_⟩
    · rw [next, later]
      decide
    · rw [settings, Settings.selection_configure something]
      simp
    · rw [settings]
      rfl

/-- The start of the suite takes a remembered identity away. -/
theorem remembers_start {services : Services} (coherent : Coherent c) (setup : c.Setup)
    (move : Move c (.event .testSuiteStart services)
      (c.handle upper (.event .testSuiteStart services)))
    (remembers : c.Remembers identity started) :
    (next upper c (.event .testSuiteStart services)).Remembers identity true := by
  have settings := next_settings upper coherent (.event .testSuiteStart services)
  have restarted : c.settingsAfter upper (.event .testSuiteStart services) =
      c.testsuite.settings.restart upper := if_pos setup
  have blank := Settings.restart_blank upper remembers.selected
  rw [restarted] at settings
  exact ⟨remembers.nonempty, move.past remembers.past, by rw [settings]; exact blank.1,
    by rw [settings]; exact blank.2⟩

/-- One input keeps track of the noted identity. -/
theorem remembers_step {noted : Option (Identity × Bool)} (coherent : Coherent c)
    (move : Move c input (c.handle upper input))
    (remembered : ∀ identity started, noted = some (identity, started) →
      c.Remembers identity started)
    (found : noteIdentity upper noted c input = some (identity, started)) :
    (next upper c input).Remembers identity started := by
  have settings := next_settings upper coherent input
  have kept (same : noteIdentity upper noted c input = noted)
      (unchanged : (c.settingsAfter upper input).selection = c.testsuite.settings.selection ∧
        (c.settingsAfter upper input).identity = c.testsuite.settings.identity) :
      (next upper c input).Remembers identity started :=
    (remembered identity started (same.symm.trans found)).kept move
      (by rw [settings, unchanged.1]) (by rw [settings, unchanged.2])
  cases input with
  | timeout => exact kept (ite_self _) ⟨rfl, rfl⟩
  | abortTestcase => exact kept (ite_self _) ⟨rfl, rfl⟩
  | event event services =>
    cases event with
    | sessionConfiguration sessionId users configuration =>
      cases accepted : handled (c.handle upper
          (.event (.sessionConfiguration sessionId users configuration) services)) with
      | true =>
        simp only [noteIdentity, accepted, ↓reduceIte, Option.some.injEq, Prod.mk.injEq] at found
        obtain ⟨rfl, rfl⟩ := found
        exact remembers_configuration coherent move accepted
      | false =>
        have same : noteIdentity upper noted c
            (.event (.sessionConfiguration sessionId users configuration) services) = noted := by
          rw [noteIdentity, accepted]
          rfl
        have past := (remembered identity started (same.symm.trans found)).past
        have ignored : c.settingsAfter upper
            (.event (.sessionConfiguration sessionId users configuration) services) =
            c.testsuite.settings := by
          simp only [settingsAfter, past, ↓reduceIte]
          split <;> rfl
        exact kept same (by rw [ignored]; exact ⟨rfl, rfl⟩)
    | testSuiteStart =>
      cases accepted : handled (c.handle upper (.event .testSuiteStart services)) with
      | true =>
        simp only [noteIdentity, accepted, ↓reduceIte, Option.map_eq_some_iff] at found
        obtain ⟨⟨told, before⟩, noted, same⟩ := found
        cases same
        exact remembers_start coherent ((handled_start_iff coherent).mp accepted).1 move
          (remembered _ _ noted)
      | false =>
        have same : noteIdentity upper noted c (.event .testSuiteStart services) = noted := by
          rw [noteIdentity, accepted]
          rfl
        have remembers := remembered identity started (same.symm.trans found)
        have begun : c.Begun := fun setup => by
          have handles : handled (c.handle upper (.event .testSuiteStart services)) = true :=
            (handled_start_iff coherent).mpr ⟨setup, remembers.nonempty⟩
          exact Bool.false_ne_true (accepted.symm.trans handles)
        have ignored : c.settingsAfter upper (.event .testSuiteStart services) =
            c.testsuite.settings := if_neg begun
        exact kept same (by rw [ignored]; exact ⟨rfl, rfl⟩)
    | configurationExecuted node ipv6Address => exact kept (ite_self _) (recording_session c _)
    | agentTunStarted message => exact kept (ite_self _) (recording_session c _)
    | _ => exact kept (ite_self _) (by rw [settingsAfter_plain _ _ rfl]; exact ⟨rfl, rfl⟩)

/-- **The identity of a session is reported exactly until the suite is started**, unless it is
blank. -/
theorem identity_reported_iff (upper : String → String) (td : TestDescriptions)
    (testsuiteName : String) (pair : Coordinator td × Option (Identity × Bool))
    (reached : Runs.Observed (next upper) (fun c input => input.Known td ∨ Survives upper c input)
      (noteIdentity upper) (initial upper td testsuiteName, none) pair)
    (identity : Identity) (started : Bool) (noted : pair.2 = some (identity, started)) :
    pair.1.reportedIdentity = some identity ↔ started = false ∨ identity = .blank := by
  have remembered : ∀ identity started, pair.2 = some (identity, started) →
      pair.1.Remembers identity started := by
    clear noted
    induction reached with
    | init =>
      intro identity started noted
      cases noted
    | @step pair input earlier tame ih =>
      intro identity started found
      have coherent := reached_coherent (fun _ _ tame => tame) earlier.unobserved
      have move : Move pair.1 input (pair.1.handle upper input) :=
        handle_move coherent (oriented coherent tame)
      exact remembers_step coherent move ih found
  exact (remembered identity started noted).reported_iff

/-- A session of the small suite with an id. -/
def namedSession : Input := .event (.sessionConfiguration (some "session_01") none none) noServices

/-- Before it is started, the small suite reports the id of its session. -/
theorem identity_reported_small :
    (next id (afterwards []) namedSession).reportedIdentity =
      some ⟨some "session_01", none, none⟩ := by
  have permitted : Runs.AllAllowed (Runs.observed (next id) (noteIdentity id))
      (fun pair input => Input.Known smallSuite input ∨ Survives id pair.1 input)
      (afterwards [], none) [namedSession] := ⟨.inl trivial, trivial⟩
  exact (identity_reported_iff id smallSuite "coap" _ permitted.reachable
    ⟨some "session_01", none, none⟩ false (by decide +kernel)).mpr (.inl rfl)

/-- Once it is started, it does not, although the session configuration was accepted. -/
theorem started_session_unnamed :
    handled ((afterwards []).handle id namedSession) = true ∧
      Reached id "coap" (Survives id)
        (afterwards [namedSession, .event .testSuiteStart noServices]) ∧
      (afterwards [namedSession, .event .testSuiteStart noServices]).reportedIdentity ≠
        some ⟨some "session_01", none, none⟩ :=
  ⟨by decide +kernel, afterwards_reached (by decide +kernel), by decide +kernel⟩

end Coordinator

end Ioppytest
