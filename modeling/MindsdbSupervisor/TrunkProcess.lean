import Mathlib.Data.List.Basic

/-!
# Descriptors of the supervised subprocesses

`TrunkProcessEnum` and `TrunkProcessData` of `mindsdb/__main__.py`: the fixed set of API
and worker subprocesses, the record the supervisor keeps for each, its restart rate limit
`request_restart_attempt` and its exit classification `should_restart`. The clock
`int(time.time())` and the exit code of the process are passed in, since the code reads
them from the OS. Counts and intervals of the configuration are natural numbers.
-/

namespace MindsdbSupervisor

inductive TrunkProcessEnum
  | http | mysql | mongodb | postgres | jobs | tasks | mlTaskQueue | mcp
  deriving DecidableEq, Repr

namespace TrunkProcessEnum

def value : TrunkProcessEnum → String
  | http => "http"
  | mysql => "mysql"
  | mongodb => "mongodb"
  | postgres => "postgres"
  | jobs => "jobs"
  | tasks => "tasks"
  | mlTaskQueue => "ml_task_queue"
  | mcp => "mcp"

def all : List TrunkProcessEnum := [http, mysql, mongodb, postgres, jobs, tasks, mlTaskQueue, mcp]

theorem mem_all (k : TrunkProcessEnum) : k ∈ all := by
  cases k <;> decide

theorem value_injective : Function.Injective value := by
  intro a b h
  cases a <;> cases b <;> first | rfl | exact absurd h (by decide)

theorem value_eq_iff {a b : TrunkProcessEnum} : a.value = b.value ↔ a = b :=
  value_injective.eq_iff

end TrunkProcessEnum

inductive Entrypoint
  | startHttp | startMysql | startMongo | startPostgres | startScheduler | startTasks
  | startMlTaskQueue | startMcp
  deriving DecidableEq, Repr

/-- The exceptions whose kind the supervisor's handlers tell apart. -/
inductive PyException
  | keyboardInterrupt
  | noSuchProcess
  | attributeError
  | systemExit (code : Nat)
  | other
  deriving DecidableEq, Repr

/-- What the supervisor reads of its environment: `config.is_cloud`, `sys.platform` and
`config.cmd_args.verbose`. -/
structure Config where
  isCloud : Bool
  platform : String
  verbose : Bool
  deriving DecidableEq, Repr

/-- `sys.platform in ('linux', 'darwin')`. -/
def Config.signalsExitCode (c : Config) : Bool :=
  c.platform == "linux" || c.platform == "darwin"

/-- `-signal.SIGKILL.value`, the exit code of a process the OS killed for lack of memory. -/
def sigkillExitcode : Int := -9

inductive LogRecord
  | starting (name : String)
  | failedToStart (name : String)
  | startedOn (name : String) (port : Option Nat)
  | cantStartOn (name : String) (port : Option Nat)
  | keyboardInterrupt
  | restarting (name : String)
  | noFurtherRestarts (name : String)
  | stopped (name : String)
  | maxRestartCountZero
  deriving DecidableEq, Repr

inductive LogLevel
  | info | warning | error
  deriving DecidableEq, Repr

namespace LogRecord

def level : LogRecord → LogLevel
  | starting _ | startedOn _ _ | keyboardInterrupt | stopped _ => .info
  | restarting _ | maxRestartCountZero => .warning
  | failedToStart _ | cantStartOn _ _ | noFurtherRestarts _ => .error

/-- A port as an f-string prints it: the number, or `None`. -/
def portText : Option Nat → String
  | some p => toString p
  | none => "None"

/-- The logged text; `failedToStart` leaves out the exception and its traceback. -/
def text : LogRecord → String
  | starting n => n ++ " API: starting..."
  | failedToStart n => "Failed to start " ++ n ++ " API with exception"
  | startedOn n p => n ++ " API: started on " ++ portText p
  | cantStartOn n p => "ERROR: " ++ n ++ " API cant start on " ++ portText p
  | keyboardInterrupt => "Got keyboard interrupt, stopping APIs"
  | restarting n => n ++ " API: stopped unexpectedly, restarting"
  | noFurtherRestarts n => "The \"" ++ n ++
      "\" process could not restart after failure. There will be no further attempts to restart."
  | stopped n => n ++ " API: stopped"
  | maxRestartCountZero => "In the current OS, it is not possible to use `max_restart_count=0`"

end LogRecord

structure LogLine where
  time : Int
  record : LogRecord
  deriving DecidableEq, Repr

/-- The dataclass `TrunkProcessData`. `process` is the handle of the subprocess, an index
into the supervisor's table of created processes. The field `_restart_count` is never read
and is left out. -/
structure TrunkProcessData where
  name : String
  entrypoint : Entrypoint
  needToRun : Bool := false
  port : Option Nat := none
  process : Option Nat := none
  started : Bool := false
  args : Option (List Bool) := none
  restartOnFailure : Bool := false
  maxRestartCount : Nat := 3
  maxRestartIntervalSeconds : Nat := 60
  restartsTime : List Int := []
  deriving DecidableEq, Repr

namespace TrunkProcessData

/-- The restart times kept after an attempt at `now`: the window drops the times older than
`now - max_restart_interval_seconds`, unless the interval is `0`. -/
def pruned (d : TrunkProcessData) (now : Int) : List Int :=
  if 0 < d.maxRestartIntervalSeconds then
    (d.restartsTime ++ [now]).filter fun x => now - d.maxRestartIntervalSeconds ≤ x
  else d.restartsTime ++ [now]

/-- `request_restart_attempt`, called at `int(time.time()) = now`. -/
def requestRestartAttempt (d : TrunkProcessData) (now : Int) : TrunkProcessData × Bool :=
  if d.maxRestartCount = 0 then (d, true)
  else
    let times := d.pruned now
    ({ d with restartsTime := times }, if times.length > d.maxRestartCount then false else true)

/-- The property `should_restart`, given `self.process.exitcode`; the second component is
what it logs. -/
def shouldRestart (c : Config) (d : TrunkProcessData) (exitcode : Option Int) :
    Bool × List LogRecord :=
  if c.isCloud then (false, [])
  else if c.signalsExitCode then (d.restartOnFailure && exitcode == some sigkillExitcode, [])
  else if d.maxRestartCount = 0 then (false, [.maxRestartCountZero])
  else (d.restartOnFailure, [])

variable {d : TrunkProcessData} {now : Int} {c : Config} {e : Option Int}

@[simp] theorem requestRestartAttempt_of_zero (h : d.maxRestartCount = 0) :
    d.requestRestartAttempt now = (d, true) := by
  simp [requestRestartAttempt, h]

@[simp] theorem requestRestartAttempt_of_pos (h : 0 < d.maxRestartCount) :
    d.requestRestartAttempt now =
      ({ d with restartsTime := d.pruned now }, decide ((d.pruned now).length ≤ d.maxRestartCount)) := by
  simp only [requestRestartAttempt, Nat.pos_iff_ne_zero.mp h, if_false]
  by_cases hl : (d.pruned now).length ≤ d.maxRestartCount
  · simp [hl]
  · simp [hl]; omega

theorem requestRestartAttempt_fst (d : TrunkProcessData) (now : Int) :
    (d.requestRestartAttempt now).1 =
      { d with restartsTime := (d.requestRestartAttempt now).1.restartsTime } := by
  unfold requestRestartAttempt
  split <;> rfl

@[simp] theorem requestRestartAttempt_name : (d.requestRestartAttempt now).1.name = d.name := by
  rw [requestRestartAttempt_fst]

theorem shouldRestart_true_iff :
    (d.shouldRestart c e).1 = true ↔ c.isCloud = false ∧ d.restartOnFailure = true ∧
      (c.signalsExitCode = true ∧ e = some sigkillExitcode ∨
        c.signalsExitCode = false ∧ 0 < d.maxRestartCount) := by
  unfold shouldRestart
  cases c.isCloud <;> cases c.signalsExitCode <;> cases d.restartOnFailure <;>
    by_cases h : d.maxRestartCount = 0 <;> simp [h, Nat.pos_iff_ne_zero]

end TrunkProcessData

end MindsdbSupervisor
