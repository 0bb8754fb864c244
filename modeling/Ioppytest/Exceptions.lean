import Mathlib.Logic.Basic

/-!
# Exceptions

The exceptions that the components raise: the two of `exceptions.py`, the two of the UI adaptor, the
ones of the libraries for state machines and for the event bus, and the built-in ones that the code
can run into. Texts are the
fixed parts of the messages; the rendering of a received message appended to some of them is
not kept.
-/

namespace Ioppytest

/-- An exception raised while a message is handled. -/
inductive PyException where
  /-- `transitions.core.MachineError`: a trigger has no transition from the current state. -/
  | machineError
  /-- `exceptions.CoordinatorError`. -/
  | coordinatorError (message : String)
  /-- `exceptions.TestSuiteError`. -/
  | testSuiteError (message : String)
  /-- `ui_adaptor.UiResponseError`. -/
  | uiResponseError (message : String)
  /-- `ui_adaptor.SessionError`. -/
  | sessionError (message : String)
  /-- `AmqpSynchCallTimeoutError`: a synchronous request was not answered. -/
  | amqpSynchCallTimeoutError
  /-- `Exception` itself. -/
  | exception (message : String)
  /-- `OSError`, `FileNotFoundError` among them. -/
  | osError
  /-- `yaml.YAMLError`, `ConstructorError` among them. -/
  | yamlError
  | notImplementedError
  | assertionError
  | attributeError
  | typeError
  | valueError
  | keyError
  | indexError
  | unboundLocalError
  | stopIteration
  | recursionError
  deriving DecidableEq

/-- The two exceptions that `handle_control` catches. -/
def PyException.caughtByHandleControl : PyException → Bool
  | .machineError => true
  | .coordinatorError _ => true
  | _ => false

end Ioppytest
