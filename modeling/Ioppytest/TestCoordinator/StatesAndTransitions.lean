import Ioppytest.Lib.Transitions

/-!
# States and transitions

The tables of `states_and_transitions.py`, entry by entry. The timeout of a state is not part of
the table here: a timer of `waiting_for_iut_configuration_executed` runs while the machine is in
that state, so its expiry is an input of the model.
-/

namespace Ioppytest

open Transitions

/-- `states`. -/
inductive FsmState where
  | null
  | bootstrapping
  | waitingForTestsuiteConfig
  | waitingForTestsuiteStart
  | preparingNextTestcase
  | waitingForIutConfigurationExecuted
  | waitingForTestcaseStart
  | preparingNextStep
  | waitingForStepExecuted
  | testcaseFinished
  | testcaseAborted
  | testsuiteFinished
  deriving DecidableEq

/-- The triggers of `transitions`. -/
inductive TriggerName where
  | bootstrap
  | bootstrapped
  | configureTestsuite
  | startTestsuite
  | startConfiguration
  | finishTestsuite
  | iutConfigurationExecuted
  | startTestcase
  | startNextStep
  | finishTestcase
  | abortTestcase
  | stepExecuted
  | timeoutWaitingIutConfigurationExecuted
  | allIutConfigurationExecuted
  | timeoutWaitingStepExecuted
  | restartTestcase
  | selectTestcase
  | skipTestcase
  | goToNextTestcase
  deriving DecidableEq

/-- The callbacks that the tables name. -/
inductive Callback where
  | bootstrap
  | handleBootstrap
  | notifyTestsuiteReady
  | notifyTestsuiteConfigured
  | notifyTestsuiteStarted
  | prepareNextTestcase
  | prepareNextStep
  | notifyStepExecute
  | notifyTestcaseFinished
  | saveCurrentTestcaseReportToFile
  | notifyTestcaseVerdict
  | toPreparingNextTestcase
  | notifyTestcaseAborted
  | handleFinishTestsuite
  | notifyTestsuiteFinished
  | setReceivedEvent
  | handleTestsuiteConfig
  | handleTestsuiteStart
  | configureAgentDataPlaneInterfaces
  | notifyTescaseConfiguration
  | handleIutConfigurationExecuted
  | handleStartTestcase
  | notifyTestcaseStarted
  | handleFinishTestcase
  | handleAbortTestcase
  | handleStepExecuted
  | notifyTestcaseReady
  | handleCurrentStepTimeout
  | handleTestcaseRestart
  | handleTestcaseSelect
  | handleTestcaseSkip
  deriving DecidableEq

/-- The condition that the tables name. -/
inductive Condition where
  | isSkippingCurrentTestcase
  deriving DecidableEq

/-- `states`, entry by entry. -/
def states : FsmState → StateSpec Callback
  | .null => { onEnter := [.bootstrap] }
  | .bootstrapping => { onEnter := [.handleBootstrap], onExit := [.notifyTestsuiteReady] }
  | .waitingForTestsuiteConfig => { onExit := [.notifyTestsuiteConfigured] }
  | .waitingForTestsuiteStart => { onExit := [.notifyTestsuiteStarted] }
  | .preparingNextTestcase => { onEnter := [.prepareNextTestcase] }
  | .waitingForIutConfigurationExecuted => {}
  | .waitingForTestcaseStart => { ignoreInvalidTriggers := true }
  | .preparingNextStep => { onEnter := [.prepareNextStep] }
  | .waitingForStepExecuted => { onEnter := [.notifyStepExecute] }
  | .testcaseFinished =>
    { onEnter :=
        [.notifyTestcaseFinished, .saveCurrentTestcaseReportToFile, .notifyTestcaseVerdict,
          .toPreparingNextTestcase] }
  | .testcaseAborted => { onEnter := [.notifyTestcaseAborted] }
  | .testsuiteFinished => { onEnter := [.handleFinishTestsuite, .notifyTestsuiteFinished] }

/-- `transitions`, entry by entry. -/
def transitions : List (Transition FsmState TriggerName Callback Condition) := [
  { trigger := .bootstrap
    source := .states [.null]
    dest := .state .bootstrapping },
  { trigger := .bootstrapped
    source := .states [.bootstrapping]
    dest := .state .waitingForTestsuiteConfig },
  { trigger := .configureTestsuite
    source := .states [.waitingForTestsuiteConfig]
    dest := .state .waitingForTestsuiteStart
    before := [.setReceivedEvent, .handleTestsuiteConfig] },
  { trigger := .startTestsuite
    source := .states [.waitingForTestsuiteStart, .waitingForTestsuiteConfig]
    dest := .state .preparingNextTestcase
    before := [.setReceivedEvent, .handleTestsuiteStart, .configureAgentDataPlaneInterfaces] },
  { trigger := .startConfiguration
    source := .states [.preparingNextTestcase]
    dest := .state .waitingForIutConfigurationExecuted
    after := [.notifyTescaseConfiguration] },
  { trigger := .finishTestsuite
    source := .states [.preparingNextTestcase]
    dest := .state .testsuiteFinished },
  { trigger := .iutConfigurationExecuted
    source := .all
    dest := .same
    before := [.setReceivedEvent]
    after := [.handleIutConfigurationExecuted] },
  { trigger := .startTestcase
    source := .states [.waitingForTestcaseStart, .waitingForIutConfigurationExecuted]
    dest := .state .preparingNextStep
    before := [.setReceivedEvent, .handleStartTestcase]
    after := [.notifyTestcaseStarted] },
  { trigger := .startNextStep
    source := .states [.preparingNextStep]
    dest := .state .waitingForStepExecuted },
  { trigger := .finishTestcase
    source := .states [.preparingNextStep]
    dest := .state .testcaseFinished
    before := [.setReceivedEvent, .handleFinishTestcase] },
  { trigger := .abortTestcase
    source := .states [.waitingForIutConfigurationExecuted, .preparingNextStep,
      .waitingForTestcaseStart, .waitingForStepExecuted]
    dest := .state .preparingNextTestcase
    before := [.setReceivedEvent, .handleAbortTestcase] },
  { trigger := .stepExecuted
    source := .states [.waitingForStepExecuted]
    dest := .state .preparingNextStep
    before := [.setReceivedEvent, .handleStepExecuted] },
  { trigger := .timeoutWaitingIutConfigurationExecuted
    source := .states [.waitingForIutConfigurationExecuted]
    dest := .state .waitingForTestcaseStart
    before := [.setReceivedEvent]
    after := [.notifyTestcaseReady] },
  { trigger := .allIutConfigurationExecuted
    source := .states [.waitingForIutConfigurationExecuted]
    dest := .state .waitingForTestcaseStart
    before := [.setReceivedEvent]
    after := [.notifyTestcaseReady] },
  { trigger := .timeoutWaitingStepExecuted
    source := .states [.waitingForStepExecuted]
    dest := .state .waitingForTestsuiteStart
    before := [.setReceivedEvent, .handleCurrentStepTimeout] },
  { trigger := .restartTestcase
    source := .states [.waitingForIutConfigurationExecuted, .waitingForTestcaseStart,
      .waitingForStepExecuted, .testcaseFinished]
    dest := .state .preparingNextTestcase
    before := [.setReceivedEvent, .handleTestcaseRestart] },
  { trigger := .selectTestcase
    source := .states [.waitingForIutConfigurationExecuted, .waitingForTestcaseStart,
      .waitingForStepExecuted, .testcaseFinished]
    dest := .state .preparingNextTestcase
    before := [.setReceivedEvent, .handleTestcaseSelect] },
  { trigger := .skipTestcase
    source := .states [.waitingForIutConfigurationExecuted, .waitingForTestcaseStart,
      .waitingForStepExecuted, .testcaseFinished]
    dest := .state .preparingNextTestcase
    conditions := [.isSkippingCurrentTestcase]
    before := [.setReceivedEvent, .handleTestcaseSkip] },
  { trigger := .skipTestcase
    source := .states [.waitingForIutConfigurationExecuted, .waitingForTestcaseStart,
      .waitingForTestsuiteConfig, .waitingForStepExecuted, .testcaseFinished]
    dest := .same
    unlessConditions := [.isSkippingCurrentTestcase]
    before := [.setReceivedEvent, .handleTestcaseSkip] },
  { trigger := .goToNextTestcase
    source := .states []
    dest := .same
    before := [.setReceivedEvent] }]

/-- The state machine of the coordinator. -/
def machine : Machine FsmState TriggerName Callback Condition := ⟨states, transitions⟩

/-- What the coordinator can fire. -/
abbrev Fired : Type := Trigger FsmState TriggerName

end Ioppytest
