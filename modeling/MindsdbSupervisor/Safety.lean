import MindsdbSupervisor.Monitor

/-!
# Shutdown and restarts across the watch tasks

`join_process` never reads `_stop_event`, so a task restarts its service after
`close_api_gracefully` has run. Off linux and darwin `should_restart` ignores the process
and restarts a live one; `close_api_gracefully` can leave processes running.
-/

namespace MindsdbSupervisor

/-- Over every interleaving of steps, a supervisor that has set `_stop_event` does
everything as one that has not. -/
theorem Supervisor.run_setStopEvent (c : Config) (s : Supervisor) (es : List Event) :
    s.setStopEvent.run c es = (s.run c es).setStopEvent := by
  induction es using List.reverseRecOn with
  | nil => rfl
  | append_singleton es e ih =>
    rw [Supervisor.run_append_singleton, Supervisor.run_append_singleton, ih,
      Supervisor.step_setStopEvent]

/-- On linux, with the HTTP and MySQL APIs and HTTP set to restart on failure: the HTTP
process is killed for lack of memory, and the interrupt that stops the supervisor reaches
the MySQL task first. Its `close_api_gracefully` sets `_stop_event`; the HTTP task then
wakes, calls `start_process` and the HTTP API runs again. -/
theorem restart_after_shutdown :
    let c : Config := ⟨false, "linux", false⟩
    let t := startupTrunks oomRestartConfig [.http, .mysql]
    let env : TaskEnv := ⟨true, ⟨fun _ => .ok []⟩⟩
    let s := ((Supervisor.monitor t 0 fun _ => env).step c (.exit 0 sigkillExitcode)).step c
      (.interrupt .mysql env)
    let s' := s.step c (.wake .http env)
    Reachable c t s ∧ s.stopEvent = true ∧
      startTimes .http s'.log = startTimes .http s.log ++ [0] ∧ s'.isAlive .http = true :=
  ⟨.step _ (.step _ (.monitor 0 _ (by decide))), by decide, by decide, by decide⟩

namespace ReplacedInv

variable {c : Config} {t : TrunkProcesses} {s : Supervisor} {k : TrunkProcessEnum}

theorem all_killed (h : ReplacedInv s) (he : s.exitcode k = some sigkillExitcode) :
    ∀ (i : Nat) (p : Proc), s.procs[i]? = some p → p.name = k.value →
      p.status = .exited sigkillExitcode := by
  intro i p hp hn
  by_cases hc : (s.trunks k).process = some i
  · simp only [Supervisor.exitcode, Supervisor.status, hc, hp, Option.bind_some,
      Option.map_some'] at he
    cases hs : p.status <;> simp_all [ProcStatus.exitcode]
  · exact h k i p hp hn hc

theorem logged (h : ReplacedInv s) (r : LogRecord) : ReplacedInv (s.logged r) :=
  h.transfer (fun _ => rfl) fun _ _ hq => .inl hq

theorem loggedAll (h : ReplacedInv s) (rs : List LogRecord) : ReplacedInv (s.loggedAll rs) :=
  h.transfer (fun _ => rfl) fun _ _ hq => .inl hq

theorem setTask (h : ReplacedInv s) (k : TrunkProcessEnum) (j : JoinState) :
    ReplacedInv (s.setTask k j) :=
  h.transfer (fun _ => rfl) fun _ _ hq => .inl hq

theorem closeApiGracefully (h : ReplacedInv s) (env : ShutdownEnv) :
    ReplacedInv (s.closeApiGracefully env).1 :=
  h.transfer (fun _ => rfl) fun _ _ hq => (s.closeApiGracefully_ends env).origin hq

theorem finallyBlock (hc : c.isCloud = true ∨ c.signalsExitCode = true) (h : ReplacedInv s)
    (hn : (s.trunks k).name = k.value) (env : TaskEnv) : ReplacedInv (s.finallyBlock c env k).1 := by
  rcases s.finallyBlock_cases c env k with ⟨-, he⟩ | ⟨-, -, he⟩ | ⟨hr, -, e, he, -⟩ <;> rw [he]
  case inl => exact h.transfer (fun _ => rfl) fun _ _ hq => .inl hq
  case inr.inl =>
    refine h.transfer (fun j => ?_) fun _ _ hq => .inl hq
    by_cases hj : j = k
    · subst hj
      simp only [Supervisor.logged_trunks, Supervisor.setTrunk_trunks, Function.update_same]
      rw [TrunkProcessData.requestRestartAttempt_fst]
    · simp [hj]
  case inr.inr =>
    obtain ⟨hcl, -, ⟨-, hcode⟩ | ⟨hsig, -⟩⟩ := TrunkProcessData.shouldRestart_true_iff.mp hr
    · exact ReplacedInv.startProcess (((h.loggedAll _).logged _).setTrunk (h.all_killed hcode) _)
        (by simpa using hn) (by simp) env
    · simp_all

theorem leaveWait (hc : c.isCloud = true ∨ c.signalsExitCode = true) (h : ReplacedInv s)
    (hn : (s.trunks k).name = k.value) (env : TaskEnv) (p : Option PyException) :
    ReplacedInv (s.leaveWait c env k p) :=
  (h.finallyBlock hc hn env).setTask _ _

theorem step (hc : c.isCloud = true ∨ c.signalsExitCode = true) (h : ReplacedInv s)
    (hW : Written t s) (e : Event) : ReplacedInv (s.step c e) := by
  cases e with
  | tick n => exact h.transfer (fun _ => rfl) fun _ _ hq => .inl hq
  | exit i code =>
    exact h.transfer (fun _ => by simp [Supervisor.step]) fun _ _ hq => s.exitProc_origin hq
  | wake k env | raise k env =>
    simp only [Supervisor.step]
    split
    · exact h.leaveWait hc (hW.name k) env _
    · exact h
  | interrupt k env =>
    simp only [Supervisor.step]
    split
    · exact ((h.logged _).closeApiGracefully _).leaveWait hc (hW.name k) env _
    · exact h
  | ready k started =>
    simp only [Supervisor.step]
    split <;> (try split) <;> first | exact (h.logged _).setTask _ _ | exact h

end ReplacedInv

theorem Reachable.replacedInv {c : Config} {t : TrunkProcesses} {s : Supervisor}
    (h : Reachable c t s) (hc : c.isCloud = true ∨ c.signalsExitCode = true) : ReplacedInv s := by
  induction h with
  | monitor clock envs h => exact (Supervisor.bootInv_monitor h).1.replaced
  | step e hr ih => exact ih.step hc hr.restartInv.1 e

/-- On linux and darwin, and in the cloud, every process of a descriptor other than its
current one was killed with `SIGKILL`: a restart replaces only a process the OS killed. -/
theorem Reachable.replaced_killed {c : Config} {t : TrunkProcesses} {s : Supervisor}
    (h : Reachable c t s) (hc : c.isCloud = true ∨ c.signalsExitCode = true) (k : TrunkProcessEnum)
    {i : Nat} {p : Proc} (hp : s.procs[i]? = some p) (hn : p.name = k.value)
    (hcur : (s.trunks k).process ≠ some i) : p.status = .exited sigkillExitcode :=
  h.replacedInv hc k i p hp hn hcur

theorem replaced_killed_after_oom_restart :
    let c : Config := ⟨false, "linux", false⟩
    let t := startupTrunks oomRestartConfig [.http]
    let env : TaskEnv := ⟨true, ⟨fun _ => .ok []⟩⟩
    let s := ((Supervisor.monitor t 0 fun _ => env).step c (.exit 0 sigkillExitcode)).step c
      (.wake .http env)
    let p : Proc := ⟨"http", .startHttp, some [false, false], .exited sigkillExitcode⟩
    Reachable c t s ∧ (c.isCloud = true ∨ c.signalsExitCode = true) ∧ s.procs[0]? = some p ∧
      p.name = TrunkProcessEnum.http.value ∧ (s.trunks .http).process ≠ some 0 ∧
      p.status = .exited sigkillExitcode :=
  have h := Reachable.step _ (Reachable.step _ (Reachable.monitor (c := ⟨false, "linux", false⟩)
    0 (fun _ => ⟨true, ⟨fun _ => .ok []⟩⟩) (by decide)))
  have hp : _ = some (⟨"http", .startHttp, some [false, false], .exited sigkillExitcode⟩ : Proc) := by
    decide
  have hcur : _ ≠ some 0 := by decide
  ⟨h, .inr rfl, hp, rfl, hcur, h.replaced_killed (.inr rfl) .http hp rfl hcur⟩

/-- On linux and darwin, and in the cloud, no two processes of one descriptor ever run at
the same time. -/
theorem Reachable.alive_unique {c : Config} {t : TrunkProcesses} {s : Supervisor}
    (h : Reachable c t s) (hc : c.isCloud = true ∨ c.signalsExitCode = true) (k : TrunkProcessEnum)
    {i j : Nat} {p q : Proc} (hp : s.procs[i]? = some p) (hq : s.procs[j]? = some q)
    (hpn : p.name = k.value) (hqn : q.name = k.value) (hpa : p.status = .alive)
    (hqa : q.status = .alive) : i = j := by
  have hI := (h.replacedInv hc).aliveInv
  exact Option.some_injective _ ((hI k i p hp hpn hpa).symm.trans (hI k j q hq hqn hqa))

theorem alive_unique_after_oom_restart :
    let c : Config := ⟨false, "linux", false⟩
    let t := startupTrunks oomRestartConfig [.http]
    let env : TaskEnv := ⟨true, ⟨fun _ => .ok []⟩⟩
    let s := ((Supervisor.monitor t 0 fun _ => env).step c (.exit 0 sigkillExitcode)).step c
      (.wake .http env)
    let p : Proc := ⟨"http", .startHttp, some [false, true], .alive⟩
    Reachable c t s ∧ (c.isCloud = true ∨ c.signalsExitCode = true) ∧ s.procs[1]? = some p ∧
      p.name = TrunkProcessEnum.http.value ∧ p.status = .alive ∧ 1 = 1 :=
  have h := Reachable.step _ (Reachable.step _ (Reachable.monitor (c := ⟨false, "linux", false⟩)
    0 (fun _ => ⟨true, ⟨fun _ => .ok []⟩⟩) (by decide)))
  have hp : _ = some (⟨"http", .startHttp, some [false, true], .alive⟩ : Proc) := by decide
  ⟨h, .inr rfl, hp, rfl, rfl, h.alive_unique (.inr rfl) .http hp hp rfl rfl rfl rfl⟩

/-- On windows, with the HTTP API set to restart on failure: an exception other than
`KeyboardInterrupt` leaves the task's wait while the process runs, the `finally` block
restarts it, and two HTTP processes run. -/
theorem restart_while_running :
    let c : Config := ⟨false, "win32", false⟩
    let t := startupTrunks oomRestartConfig [.http]
    let env : TaskEnv := ⟨true, ⟨fun _ => .ok []⟩⟩
    let s := Supervisor.monitor t 0 fun _ => env
    let s' := s.step c (.raise .http env)
    Reachable c t s' ∧ s.isAlive .http = true ∧
      s'.procs.map (fun p => (p.name, p.status)) = [("http", .alive), ("http", .alive)] :=
  ⟨.step _ (.monitor 0 _ (by decide)), by decide, by decide⟩

/-- Shutdown of the HTTP and MySQL APIs on linux. A child of the HTTP process that has
exited when it is signalled makes `p.kill()` raise `NoSuchProcess`: the HTTP process is
never terminated, and nothing is raised. Any other exception there leaves
`close_api_gracefully` with both processes running. And when `start()` of the HTTP
process raises at startup, its `terminate()` raises `AttributeError`. -/
theorem close_leaves_running :
    let c : Config := ⟨false, "linux", false⟩
    let t := startupTrunks oomRestartConfig [.http, .mysql]
    let s := Supervisor.monitor t 0 fun _ => ⟨true, ⟨fun _ => .ok []⟩⟩
    let race : ShutdownEnv := ⟨fun i => .ok (if i = 0 then [.killRaised .noSuchProcess] else [])⟩
    let denied : ShutdownEnv := ⟨fun i => .ok (if i = 0 then [.killRaised .other] else [])⟩
    Reachable c t s ∧ s.isAlive .http = true ∧ s.isAlive .mysql = true ∧
      (s.closeApiGracefully race).2 = none ∧ (s.closeApiGracefully race).1.isAlive .http = true ∧
      (s.closeApiGracefully denied).2 = some .other ∧
      (s.closeApiGracefully denied).1.isAlive .mysql = true ∧
      (Supervisor.startAll (fun _ => ⟨false, ⟨fun _ => .ok []⟩⟩) TrunkProcessEnum.all
        (Supervisor.init t 0)).2 = some .attributeError :=
  ⟨.monitor 0 _ (by decide), by decide, by decide, by decide, by decide, by decide, by decide,
    by decide⟩

end MindsdbSupervisor
