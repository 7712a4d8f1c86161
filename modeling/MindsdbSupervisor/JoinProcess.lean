import MindsdbSupervisor.Shutdown

/-!
# The watch tasks

`start_process` and `join_process` as steps of the supervisor: a step is one stretch of one
task between two `await`s, or an event of the OS. The `finally` block runs whether the task
saw its process dead, got `KeyboardInterrupt`, or any other exception.
-/

namespace MindsdbSupervisor

/-- The OS's answers during one step of a task: whether `process.start()` returns, and
what a `close_api_gracefully` called in the step meets. -/
structure TaskEnv where
  spawned : Bool
  shutdown : ShutdownEnv

/-- How the `finally` block of `join_process` ends: with `finish` set, with a restarted
process to health-check, or with the exception `start_process` raised. -/
inductive FinallyEnd
  | finish
  | restarted
  | raised (e : PyException)
  deriving DecidableEq

inductive Event
  | tick (seconds : Nat)
  | exit (i : Nat) (exitcode : Int)
  | wake (k : TrunkProcessEnum) (env : TaskEnv)
  | interrupt (k : TrunkProcessEnum) (env : TaskEnv)
  | raise (k : TrunkProcessEnum) (env : TaskEnv)
  | ready (k : TrunkProcessEnum) (started : Bool)

/-- The process `ctx.Process(target=..., args=..., name=...)` builds for a descriptor. -/
def Proc.ofTrunk (d : TrunkProcessData) (spawned : Bool) : Proc :=
  ⟨d.name, d.entrypoint, d.args, if spawned then .alive else .created⟩

/-- The descriptor a restart starts from: no process, and for the HTTP API the arguments
`(verbose, True)` that keep it from opening the GUI again. -/
def TrunkProcessData.restartData (c : Config) (d : TrunkProcessData) : TrunkProcessData :=
  { d with
    process := none
    args := if d.name = TrunkProcessEnum.http.value then some [c.verbose, true] else d.args }

@[simp] theorem TrunkProcessData.restartData_name (c : Config) (d : TrunkProcessData) :
    (d.restartData c).name = d.name := rfl

@[simp] theorem TrunkProcessData.restartData_process (c : Config) (d : TrunkProcessData) :
    (d.restartData c).process = none := rfl

@[simp] theorem TrunkProcessData.restartData_restartsTime (c : Config) (d : TrunkProcessData) :
    (d.restartData c).restartsTime = d.restartsTime := rfl

namespace Supervisor

/-- `start_process(trunc_process_data)`: the new `ctx.Process(...)` is stored in the
descriptor before `start()`; if `start()` raises, it logs, shuts every service down and
re-raises, or raises what shutdown raised. -/
def startProcess (env : TaskEnv) (k : TrunkProcessEnum) (s : Supervisor) :
    Supervisor × Option PyException :=
  let d := s.trunks k
  let s' := { (s.logged (.starting d.name)).setTrunk k { d with process := some s.procs.length }
    with procs := s.procs ++ [Proc.ofTrunk d env.spawned] }
  if env.spawned then (s', none)
  else
    let r := (s'.logged (.failedToStart d.name)).closeApiGracefully env.shutdown
    (r.1, some (r.2.getD .other))

/-- The `finally` block of `join_process` for descriptor `k`. -/
def finallyBlock (c : Config) (env : TaskEnv) (k : TrunkProcessEnum) (s : Supervisor) :
    Supervisor × FinallyEnd :=
  let d := s.trunks k
  let r := d.shouldRestart c (s.exitcode k)
  let s := s.loggedAll r.2
  if r.1 then
    let a := d.requestRestartAttempt s.clock
    if a.2 then
      let t := ((s.logged (.restarting d.name)).setTrunk k (a.1.restartData c)).startProcess env k
      (t.1, match t.2 with
        | none => .restarted
        | some e => .raised e)
    else ((s.setTrunk k a.1).logged (.noFurtherRestarts d.name), .finish)
  else (s.logged (.stopped d.name), .finish)

/-- The task after its `finally` block: the `while not finish` loop goes on, or the task
returns, or the exception that left the wait (or the one `start_process` raised) leaves it. -/
def leaveWait (c : Config) (env : TaskEnv) (k : TrunkProcessEnum) (pending : Option PyException)
    (s : Supervisor) : Supervisor :=
  let r := s.finallyBlock c env k
  r.1.setTask k (match r.2 with
    | .finish => pending.elim .finished .failed
    | .restarted => .awaitingStart pending
    | .raised e => .failed e)

/-- A running process ends on its own with `exitcode`. -/
def exitProc (s : Supervisor) (i : Nat) (code : Int) : Supervisor :=
  match s.procs[i]? with
  | some p => if p.status = .alive then
      { s with procs := s.procs.set i { p with status := .exited code } } else s
  | none => s

def step (c : Config) (s : Supervisor) : Event → Supervisor
  | .tick n => { s with clock := s.clock + n }
  | .exit i code => s.exitProc i code
  | .wake k env =>
    if s.looping ∧ s.tasks k = .waiting ∧ s.isAlive k = false then s.leaveWait c env k none
    else s
  | .interrupt k env =>
    if s.looping ∧ s.tasks k = .waiting then
      let r := (s.logged .keyboardInterrupt).closeApiGracefully env.shutdown
      r.1.leaveWait c env k r.2
    else s
  | .raise k env =>
    if s.looping ∧ s.tasks k = .waiting then s.leaveWait c env k (some .other) else s
  | .ready k started =>
    match s.tasks k with
    | .awaitingStart p =>
      if s.looping then
        let d := s.trunks k
        (s.logged (if started then .startedOn d.name d.port else .cantStartOn d.name d.port)).setTask
          k (p.elim .waiting .failed)
      else s
    | _ => s

def run (c : Config) (s : Supervisor) (es : List Event) : Supervisor := es.foldl (step c) s

variable (c : Config) (env : TaskEnv) (k : TrunkProcessEnum) (s : Supervisor)

@[simp] theorem startProcess_trunks : (s.startProcess env k).1.trunks =
    Function.update s.trunks k { s.trunks k with process := some s.procs.length } := by
  unfold startProcess; split <;> rfl

@[simp] theorem startProcess_tasks : (s.startProcess env k).1.tasks = s.tasks := by
  unfold startProcess; split <;> rfl

@[simp] theorem startProcess_clock : (s.startProcess env k).1.clock = s.clock := by
  unfold startProcess; split <;> rfl

@[simp] theorem startProcess_log : (s.startProcess env k).1.log =
    s.log ++ ⟨s.clock, .starting (s.trunks k).name⟩ ::
      if env.spawned then [] else [⟨s.clock, .failedToStart (s.trunks k).name⟩] := by
  unfold startProcess; split <;> simp_all

theorem startProcess_procs : Shutdown.Ends (s.procs ++ [Proc.ofTrunk (s.trunks k) env.spawned])
    (s.startProcess env k).1.procs := by
  unfold startProcess; split
  · exact .refl _
  · exact closeApiGracefully_ends _ _

theorem startProcess_snd_eq_none : (s.startProcess env k).2 = none ↔ env.spawned = true := by
  unfold startProcess; split <;> simp_all

theorem startProcess_of_spawned (h : env.spawned = true) :
    (s.startProcess env k).1.procs = s.procs ++ [Proc.ofTrunk (s.trunks k) true] ∧
      (s.startProcess env k).1.stopEvent = s.stopEvent ∧ (s.startProcess env k).2 = none := by
  simp [startProcess, h]

theorem startProcess_of_failed (h : env.spawned = false) :
    (s.startProcess env k).1.stopEvent = true ∧ (s.startProcess env k).2 ≠ none := by
  simp [startProcess, h]

theorem finallyBlock_cases :
    let d := s.trunks k
    let r := d.shouldRestart c (s.exitcode k)
    let a := d.requestRestartAttempt s.clock
    (r.1 = false ∧ s.finallyBlock c env k = ((s.loggedAll r.2).logged (.stopped d.name), .finish)) ∨
      (r.1 = true ∧ a.2 = false ∧ s.finallyBlock c env k =
        (((s.loggedAll r.2).setTrunk k a.1).logged (.noFurtherRestarts d.name), .finish)) ∨
      (r.1 = true ∧ a.2 = true ∧ ∃ e, s.finallyBlock c env k =
        ((((s.loggedAll r.2).logged (.restarting d.name)).setTrunk k
          (a.1.restartData c)).startProcess env k |>.1, e) ∧
        (e = .restarted ↔ env.spawned = true)) := by
  intro d r a
  unfold finallyBlock
  simp only [loggedAll_clock]
  split
  · split
    · refine .inr (.inr ⟨‹_›, ‹_›, _, rfl, ?_⟩)
      rw [← startProcess_snd_eq_none _ k ((((s.loggedAll r.2).logged (.restarting d.name)).setTrunk
        k (a.1.restartData c)))]
      split <;> simp_all
    · exact .inr (.inl ⟨‹_›, Bool.eq_false_iff.mpr ‹_›, rfl⟩)
  · exact .inl ⟨Bool.eq_false_iff.mpr ‹_›, rfl⟩

theorem exitProc_eq (i : Nat) (code : Int) :
    s.exitProc i code = { s with procs := (s.exitProc i code).procs } := by
  unfold exitProc; split <;> (try split) <;> rfl

@[simp] theorem exitProc_trunks (i : Nat) (code : Int) : (s.exitProc i code).trunks = s.trunks := by
  rw [exitProc_eq]

@[simp] theorem exitProc_tasks (i : Nat) (code : Int) : (s.exitProc i code).tasks = s.tasks := by
  rw [exitProc_eq]

@[simp] theorem exitProc_log (i : Nat) (code : Int) : (s.exitProc i code).log = s.log := by
  rw [exitProc_eq]

@[simp] theorem exitProc_clock (i : Nat) (code : Int) : (s.exitProc i code).clock = s.clock := by
  rw [exitProc_eq]

@[simp] theorem exitProc_stopEvent (i : Nat) (code : Int) :
    (s.exitProc i code).stopEvent = s.stopEvent := by
  rw [exitProc_eq]

theorem exitProc_origin {i j : Nat} {code : Int} {q : Proc}
    (hq : (s.exitProc i code).procs[j]? = some q) :
    s.procs[j]? = some q ∨ ∃ p : Proc, s.procs[j]? = some p ∧ p.status = .alive ∧ p.name = q.name := by
  unfold exitProc at hq
  split at hq
  · rename_i p hp
    split at hq
    · rename_i hpa
      by_cases hij : i = j
      · subst hij
        rw [List.getElem?_set_self (List.getElem?_eq_some_iff.mp hp).1, Option.some_inj] at hq
        exact .inr ⟨p, hp, hpa, by rw [← hq]⟩
      · exact .inl (by rwa [List.getElem?_set_ne hij] at hq)
    · exact .inl hq
  · exact .inl hq

/-! No step reads `_stop_event`: setting it commutes with every step. -/

theorem startProcess_setStopEvent : s.setStopEvent.startProcess env k =
    ((s.startProcess env k).1.setStopEvent, (s.startProcess env k).2) := by
  unfold startProcess; cases env.spawned <;> rfl

theorem finallyBlock_setStopEvent : s.setStopEvent.finallyBlock c env k =
    ((s.finallyBlock c env k).1.setStopEvent, (s.finallyBlock c env k).2) := by
  simp only [finallyBlock, setStopEvent_exitcode, setStopEvent_trunks, loggedAll_setStopEvent, logged_setStopEvent,
    setTrunk_setStopEvent, startProcess_setStopEvent, loggedAll_clock, setStopEvent_clock]
  split_ifs <;> rfl

theorem leaveWait_setStopEvent (p : Option PyException) :
    s.setStopEvent.leaveWait c env k p = (s.leaveWait c env k p).setStopEvent := by
  simp only [leaveWait, finallyBlock_setStopEvent, setTask_setStopEvent]

theorem exitProc_setStopEvent (i : Nat) (code : Int) :
    s.setStopEvent.exitProc i code = (s.exitProc i code).setStopEvent := by
  unfold exitProc
  simp only [setStopEvent_procs]
  split <;> (try split_ifs) <;> rfl

theorem step_setStopEvent (e : Event) : s.setStopEvent.step c e = (s.step c e).setStopEvent := by
  cases e with
  | tick n => rfl
  | exit i code => exact exitProc_setStopEvent s i code
  | wake k env | raise k env =>
    simp only [step, setStopEvent_looping, setStopEvent_isAlive, setStopEvent_tasks]
    split <;> simp only [leaveWait_setStopEvent]
  | interrupt k env =>
    simp only [step, setStopEvent_looping, setStopEvent_tasks, logged_setStopEvent,
      closeApiGracefully_setStopEvent]
    split
    · rw [← leaveWait_setStopEvent, setStopEvent_of_stopEvent _ (closeApiGracefully_stopEvent _ _)]
    · rfl
  | ready k started =>
    simp only [step, setStopEvent_looping, setStopEvent_tasks]
    split <;> (try split) <;> rfl

@[simp] theorem run_nil (c : Config) (s : Supervisor) : s.run c [] = s := rfl

theorem run_append_singleton (c : Config) (s : Supervisor) (es : List Event) (e : Event) :
    s.run c (es ++ [e]) = (s.run c es).step c e := by
  simp [run, List.foldl_append]

end Supervisor

end MindsdbSupervisor
