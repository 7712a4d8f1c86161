import Mathlib.Logic.Function.Basic
import MindsdbSupervisor.TrunkProcess

/-!
# The supervisor's state

What `mindsdb/__main__.py` holds while its watch tasks run: the descriptor dict
`trunc_processes_struct`, where each `join_process` task is, the processes it created,
`_stop_event`, the clock and the log. A handle is an index into the table of created
processes, so a process whose handle was dropped (`process = None`) is still seen.
-/

namespace MindsdbSupervisor

/-- The OS side of an `mp.Process` object: built but not started (its `start()` raised),
running, or ended with an exit code. -/
inductive ProcStatus
  | created
  | alive
  | exited (exitcode : Int)
  deriving DecidableEq, Repr

def ProcStatus.exitcode : ProcStatus → Option Int
  | exited c => some c
  | _ => none

/-- A process created by `start_process`, with the target, arguments and name it got. -/
structure Proc where
  name : String
  entrypoint : Entrypoint
  args : Option (List Bool)
  status : ProcStatus
  deriving DecidableEq, Repr

/-- Where a `join_process` task is. `awaitingStart` is the `await wait_api_start(...)` of a
restart, with the exception the `finally` block re-raises after it. -/
inductive JoinState
  | idle
  | waiting
  | awaitingStart (pending : Option PyException)
  | finished
  | failed (e : PyException)
  deriving DecidableEq, Repr

/-- A descriptor dict as `__main__` builds it: every entry is named by its key and has no
process, no restart history and `started = False`. -/
structure TrunkProcesses where
  data : TrunkProcessEnum → TrunkProcessData
  name_eq : ∀ k, (data k).name = k.value
  process_eq : ∀ k, (data k).process = none
  restartsTime_eq : ∀ k, (data k).restartsTime = []
  started_eq : ∀ k, (data k).started = false

structure Supervisor where
  trunks : TrunkProcessEnum → TrunkProcessData
  tasks : TrunkProcessEnum → JoinState
  procs : List Proc
  stopEvent : Bool
  clock : Int
  log : List LogLine

theorem getElem?_append_singleton {l : List Proc} {a p : Proc} {i : Nat}
    (h : (l ++ [a])[i]? = some p) : l[i]? = some p ∨ (i = l.length ∧ p = a) := by
  rcases Nat.lt_or_ge i l.length with hi | hi
  · exact .inl (by rwa [List.getElem?_append_left hi] at h)
  · rw [List.getElem?_append_right hi] at h
    cases hk : i - l.length with
    | zero =>
      simp only [hk, List.getElem?_cons_zero, Option.some.injEq] at h
      exact .inr ⟨by omega, h.symm⟩
    | succ n => simp [hk] at h

namespace Supervisor

def logged (s : Supervisor) (r : LogRecord) : Supervisor :=
  { s with log := s.log ++ [⟨s.clock, r⟩] }

def loggedAll (s : Supervisor) (rs : List LogRecord) : Supervisor :=
  { s with log := s.log ++ rs.map (LogLine.mk s.clock) }

def setTrunk (s : Supervisor) (k : TrunkProcessEnum) (d : TrunkProcessData) : Supervisor :=
  { s with trunks := Function.update s.trunks k d }

def setTask (s : Supervisor) (k : TrunkProcessEnum) (j : JoinState) : Supervisor :=
  { s with tasks := Function.update s.tasks k j }

def setStopEvent (s : Supervisor) : Supervisor := { s with stopEvent := true }

def status (s : Supervisor) (i : Nat) : Option ProcStatus := (s.procs[i]?).map (·.status)

/-- `trunc_process_data.process.is_alive()`. -/
def isAlive (s : Supervisor) (k : TrunkProcessEnum) : Bool :=
  match (s.trunks k).process with
  | some i => s.status i == some .alive
  | none => false

def exitcode (s : Supervisor) (k : TrunkProcessEnum) : Option Int :=
  match (s.trunks k).process with
  | some i => (s.status i).bind ProcStatus.exitcode
  | none => none

/-- The event loop still runs `gather_apis`: with `return_exceptions=False` the first
exception that leaves a task ends `run_until_complete`. -/
def looping (s : Supervisor) : Bool :=
  TrunkProcessEnum.all.all fun k => match s.tasks k with
    | .failed _ => false
    | _ => true

variable (s : Supervisor) (k k' : TrunkProcessEnum) (r : LogRecord) (rs : List LogRecord)
  (d : TrunkProcessData) (j : JoinState)

@[simp] theorem logged_trunks : (s.logged r).trunks = s.trunks := rfl
@[simp] theorem logged_tasks : (s.logged r).tasks = s.tasks := rfl
@[simp] theorem logged_procs : (s.logged r).procs = s.procs := rfl
@[simp] theorem logged_stopEvent : (s.logged r).stopEvent = s.stopEvent := rfl
@[simp] theorem logged_clock : (s.logged r).clock = s.clock := rfl
@[simp] theorem logged_log : (s.logged r).log = s.log ++ [⟨s.clock, r⟩] := rfl

@[simp] theorem loggedAll_trunks : (s.loggedAll rs).trunks = s.trunks := rfl
@[simp] theorem loggedAll_tasks : (s.loggedAll rs).tasks = s.tasks := rfl
@[simp] theorem loggedAll_procs : (s.loggedAll rs).procs = s.procs := rfl
@[simp] theorem loggedAll_stopEvent : (s.loggedAll rs).stopEvent = s.stopEvent := rfl
@[simp] theorem loggedAll_clock : (s.loggedAll rs).clock = s.clock := rfl
@[simp] theorem loggedAll_log : (s.loggedAll rs).log = s.log ++ rs.map (LogLine.mk s.clock) := rfl

@[simp] theorem setTrunk_trunks : (s.setTrunk k d).trunks = Function.update s.trunks k d := rfl
@[simp] theorem setTrunk_tasks : (s.setTrunk k d).tasks = s.tasks := rfl
@[simp] theorem setTrunk_procs : (s.setTrunk k d).procs = s.procs := rfl
@[simp] theorem setTrunk_stopEvent : (s.setTrunk k d).stopEvent = s.stopEvent := rfl
@[simp] theorem setTrunk_clock : (s.setTrunk k d).clock = s.clock := rfl
@[simp] theorem setTrunk_log : (s.setTrunk k d).log = s.log := rfl

@[simp] theorem setTask_trunks : (s.setTask k j).trunks = s.trunks := rfl
@[simp] theorem setTask_tasks : (s.setTask k j).tasks = Function.update s.tasks k j := rfl
@[simp] theorem setTask_procs : (s.setTask k j).procs = s.procs := rfl
@[simp] theorem setTask_stopEvent : (s.setTask k j).stopEvent = s.stopEvent := rfl
@[simp] theorem setTask_clock : (s.setTask k j).clock = s.clock := rfl
@[simp] theorem setTask_log : (s.setTask k j).log = s.log := rfl

@[simp] theorem setStopEvent_trunks : s.setStopEvent.trunks = s.trunks := rfl
@[simp] theorem setStopEvent_tasks : s.setStopEvent.tasks = s.tasks := rfl
@[simp] theorem setStopEvent_procs : s.setStopEvent.procs = s.procs := rfl
@[simp] theorem setStopEvent_stopEvent : s.setStopEvent.stopEvent = true := rfl
@[simp] theorem setStopEvent_clock : s.setStopEvent.clock = s.clock := rfl
@[simp] theorem setStopEvent_log : s.setStopEvent.log = s.log := rfl

@[simp] theorem setStopEvent_isAlive : s.setStopEvent.isAlive k = s.isAlive k := rfl
@[simp] theorem setStopEvent_exitcode : s.setStopEvent.exitcode k = s.exitcode k := rfl
@[simp] theorem setStopEvent_looping : s.setStopEvent.looping = s.looping := rfl

theorem setStopEvent_of_stopEvent (h : s.stopEvent = true) : s.setStopEvent = s := by
  cases s; cases h; rfl

theorem logged_setStopEvent : s.setStopEvent.logged r = (s.logged r).setStopEvent := rfl
theorem loggedAll_setStopEvent : s.setStopEvent.loggedAll rs = (s.loggedAll rs).setStopEvent := rfl
theorem setTrunk_setStopEvent : s.setStopEvent.setTrunk k d = (s.setTrunk k d).setStopEvent := rfl
theorem setTask_setStopEvent : s.setStopEvent.setTask k j = (s.setTask k j).setStopEvent := rfl

end Supervisor

end MindsdbSupervisor
