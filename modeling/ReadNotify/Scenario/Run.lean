import ReadNotify.Scenario.Internet
import ReadNotify.Scenario.Loops
import ReadNotify.Scenario.Notifiers
/-!
# Running a Scenario

A step is performed by the definition for its kind. Callbacks and scripts
perform steps again, so performing is defined by recursion on how deep steps
may still be nested. Steps are nested by callbacks that are running and by
loops that are in use; a callback never runs inside itself and a loop is never
used inside itself, so the nesting is bounded by how many of them there are.

The program takes its turns until all steps of the scenario are performed.

## Main definitions

* `Act.performOp`: What a step does, given how nested steps are performed.
* `Act.performStep`: A step with nesting to some depth.
* `Scenario.run`: The report of each step.
-/

namespace ReadNotify

namespace Act

/-- What a step does. -/
def performOp (perform : Step → Act Answer) : Op Step → Act Answer
  | .pair a b fdA fdB auto => pair a b fdA fdB auto
  | .write c data => write c data
  | .echo c => echo c
  | .read c n wait => read perform c n wait
  | .readExact c n => readExact perform c n
  | .recv c n => recv c n
  | .close c => close c
  | .drop c => drop c
  | .state c => state c
  | .identify c => identify c
  | .compare a b => compare a b
  | .sort ids => sort ids
  | .blockedRead c n => blockedRead c n
  | .blockedAccept c => blockedAccept c
  | .interruptedRead c peer data n => interruptedRead perform c peer data n
  | .interruptedAccept c => interruptedAccept c
  | .bigWrite c peer n => bigWrite perform c peer n
  | .attach c reg cb => attachStep c reg cb
  | .detach c => detachStep c
  | .detachFrom c reg => detachFromStep c reg
  | .detachGeneration c generation => detachGenerationStep c generation
  | .take c into => takeStep c into
  | .invoke source data => invoke perform source data
  | .restore source generation => restoreStep source generation
  | .forget source => forgetStep source
  | .append c reg => append c reg
  | .remove c reg => remove c reg
  | .get c reg => entry c reg
  | .iterate reg n => iterate reg n
  | .rewind reg => rewind reg
  | .size reg => size reg
  | .exhausted reg => exhausted reg
  | .drain reg => drain reg
  | .scratch name size => scratch name size
  | .dispatch c buffer => dispatchStep perform c buffer
  | .backend name kind capacity => backendStep name kind capacity
  | .poll name window before => pollStep name window before
  | .loop name backend reg window buffer timeout capacity =>
      loopStep name backend reg window buffer timeout capacity
  | .runOnce name times => runOnceStep perform name times
  | .stats name => statsStep name
  | .run name stop => runStep perform name stop
  | .stop => stopStep
  | .stopDrop => stopDropStep
  | .notifier name settings => notifierStep name settings
  | .set name c cb => setStep name c cb
  | .unset name c => unsetStep name c
  | .shutdown name => shutdownStep name
  | .dropNotifier name => dropNotifierStep name
  | .notifierState name => notifierStateStep name
  | .notifierDebug name => notifierDebugStep name
  | .await k => awaitStep perform k
  | .notifierStats name least => notifierStatsStep perform name least
  | .waitCallback c value => waitCallback perform c value
  | .listen c port => listenStep c port
  | .listenOn c ip port => listenOnStep c ip port
  | .connect c host port => connectStep c host port
  | .connectAddr c ip port => connectAddrStep c ip port
  | .connectLoopback c port => connectLoopbackStep c port
  | .listenLocal c client => listenLocalStep c client
  | .accept source c client => acceptStep source c client
  | .address c peer => addressStep c peer
  | .sameAddress a b => sameAddressStep a b
  | .panic => refuse (.unknownStep "panic")
  | .unknown name => do refuse (.unknownStep (← need name))

/-- Performs a step inside which others are nested no deeper than some depth.
    A refusal is an answer; a panic of the library is not. -/
def performStep : Nat → Step → Act Answer
  | 0, _ => return .refused .tooDeep
  | depth + 1, step =>
      withLimit step.starved (attempt (performOp (performStep depth) step.op))

/-- How deep steps may be nested. -/
def maxDepth : Nat := 2048

end Act

namespace Scenario

/-- The world at the start of a scenario. -/
def start (sc : Scenario) : World Desk :=
  ⟨.init sc.registries, .init sc.registries sc.steps⟩

/-- The report of each step of a scenario. -/
def run (sc : Scenario) : List Report :=
  ((Act.proceed (Act.performStep Act.maxDepth)).perform (start sc)).2.desk.reports.reverse

end Scenario

end ReadNotify
