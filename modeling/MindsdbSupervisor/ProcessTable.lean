import MindsdbSupervisor.Monitor

/-!
# The process table over whole runs

One process per logged start (`Reachable.procs_eq_starts`), only for requested services
(`Reachable.procs_requested`); a service whose task ended never changes
(`Reachable.ended_frozen`); `max_restart_count = 0` bounds nothing (`unbounded_restarts`).
-/

namespace MindsdbSupervisor

def LogRecord.startedName : LogRecord → Option String
  | .starting n => some n
  | _ => none

/-- The names of the services whose `start_process` a log records, in order. -/
def startedNames (log : List LogLine) : List String := log.filterMap (·.record.startedName)

section Views

variable {log log' : List LogLine}

@[simp] theorem startedNames_nil : startedNames [] = [] := rfl

@[simp] theorem startedNames_append : startedNames (log ++ log') = startedNames log ++ startedNames log' :=
  List.filterMap_append _ _ _

@[simp] theorem startedNames_cons (l : LogLine) :
    startedNames (l :: log) = l.record.startedName.toList ++ startedNames log := by
  cases h : l.record.startedName <;> simp [startedNames, List.filterMap_cons, h]

@[simp] theorem startedNames_shouldRestart (c : Config) (d : TrunkProcessData) (e : Option Int)
    (t : Int) : startedNames ((d.shouldRestart c e).2.map (LogLine.mk t)) = [] := by
  unfold TrunkProcessData.shouldRestart
  split_ifs <;> simp [LogRecord.startedName]

theorem count_startedNames (k : TrunkProcessEnum) :
    ∀ log : List LogLine, (startedNames log).count k.value = (startTimes k log).length
  | [] => rfl
  | ⟨t, r⟩ :: log => by
    have ih := count_startedNames k log
    cases r with
    | starting n =>
      by_cases hn : n = k.value <;>
        simp [LogRecord.startedName, startOf, List.count_cons, ih, hn, Nat.add_comm]
    | _ => simp [LogRecord.startedName, startOf, ih]

end Views

theorem map_name_eq {procs procs' : List Proc}
    (h : ∀ i : Nat, (procs'[i]?).map Proc.name = (procs[i]?).map Proc.name) :
    procs'.map (·.name) = procs.map (·.name) :=
  List.ext_getElem? fun i => by simpa only [List.getElem?_map] using h i

theorem Shutdown.Ends.map_name {procs procs' : List Proc} (h : Ends procs procs') :
    procs'.map (·.name) = procs.map (·.name) :=
  map_name_eq fun i => by
    rcases h i with h | ⟨p, hp, -, hp'⟩
    · rw [h]
    · rw [hp, hp']; rfl

theorem Supervisor.exitProc_names (s : Supervisor) (i : Nat) (code : Int) :
    (s.exitProc i code).procs.map (·.name) = s.procs.map (·.name) := by
  unfold Supervisor.exitProc
  split
  · rename_i p hp
    split
    · refine map_name_eq fun j => ?_
      by_cases hij : i = j
      · subst hij
        rw [List.getElem?_set_self (List.getElem?_eq_some_iff.mp hp).1, hp]
        rfl
      · rw [List.getElem?_set_ne hij]
    · rfl
  · rfl

/-- The process table is the log's record of starts: one process per logged start, in the
same order, each of a service of the dict. -/
structure TableInv (s : Supervisor) : Prop where
  names : s.procs.map (·.name) = startedNames s.log
  valid : ∀ n ∈ startedNames s.log, ∃ k : TrunkProcessEnum, n = k.value

namespace TableInv

variable {c : Config} {t : TrunkProcesses} {s : Supervisor} {k : TrunkProcessEnum}

theorem transfer {s' : Supervisor} (h : TableInv s) (hp : s'.procs.map (·.name) = s.procs.map (·.name))
    (hl : startedNames s'.log = startedNames s.log) : TableInv s' :=
  ⟨hp.trans (h.names.trans hl.symm), hl ▸ h.valid⟩

theorem logged (h : TableInv s) {r : LogRecord} (hr : r.startedName = none) :
    TableInv (s.logged r) :=
  h.transfer rfl (by simp [Supervisor.logged, hr])

theorem setTrunk (h : TableInv s) (k : TrunkProcessEnum) (d : TrunkProcessData) :
    TableInv (s.setTrunk k d) :=
  h.transfer rfl rfl

theorem setTask (h : TableInv s) (k : TrunkProcessEnum) (j : JoinState) : TableInv (s.setTask k j) :=
  h.transfer rfl rfl

theorem closeApiGracefully (h : TableInv s) (env : ShutdownEnv) :
    TableInv (s.closeApiGracefully env).1 :=
  h.transfer (s.closeApiGracefully_ends env).map_name rfl

theorem startProcess (h : TableInv s) (hn : (s.trunks k).name = k.value) (env : TaskEnv) :
    TableInv (s.startProcess env k).1 := by
  have hl : startedNames (s.startProcess env k).1.log = startedNames s.log ++ [(s.trunks k).name] := by
    cases h : env.spawned <;> simp [h, LogRecord.startedName]
  refine ⟨?_, ?_⟩
  · rw [(s.startProcess_procs env k).map_name, hl, List.map_append, h.names]
    rfl
  · rw [hl]
    intro n hn'
    rcases List.mem_append.mp hn' with hn' | hn'
    · exact h.valid n hn'
    · exact ⟨k, (List.mem_singleton.mp hn').trans hn⟩

theorem finallyBlock (h : TableInv s) (hn : (s.trunks k).name = k.value) (env : TaskEnv) :
    TableInv (s.finallyBlock c env k).1 := by
  have hw : TableInv (s.loggedAll ((s.trunks k).shouldRestart c (s.exitcode k)).2) :=
    h.transfer rfl (by simp [Supervisor.loggedAll, Function.comp_def])
  rcases s.finallyBlock_cases c env k with ⟨-, he⟩ | ⟨-, -, he⟩ | ⟨-, -, e, he, -⟩ <;> rw [he]
  · exact hw.logged (by rfl)
  · exact (hw.setTrunk _ _).logged (by rfl)
  · exact ((hw.logged (by rfl)).setTrunk _ _).startProcess (by simpa using hn) env

theorem leaveWait (h : TableInv s) (hn : (s.trunks k).name = k.value) (env : TaskEnv)
    (p : Option PyException) : TableInv (s.leaveWait c env k p) :=
  (h.finallyBlock hn env).setTask _ _

theorem step (h : TableInv s) (hW : Written t s) (e : Event) : TableInv (s.step c e) := by
  cases e with
  | tick n => exact h.transfer rfl rfl
  | exit i code =>
    exact h.transfer (s.exitProc_names i code) (by rw [Supervisor.step, Supervisor.exitProc_eq])
  | wake k env | raise k env =>
    simp only [Supervisor.step]
    split
    · exact h.leaveWait (hW.name k) env _
    · exact h
  | interrupt k env =>
    simp only [Supervisor.step]
    split
    · exact ((h.logged (by rfl)).closeApiGracefully _).leaveWait (hW.name k) env _
    · exact h
  | ready k started =>
    simp only [Supervisor.step]
    split <;> (try split) <;> first | exact (h.logged (by split <;> rfl)).setTask _ _ | exact h

theorem startAll {envs : TrunkProcessEnum → TaskEnv} :
    ∀ (ks : List TrunkProcessEnum) (s : Supervisor), (∀ k, (s.trunks k).name = k.value) →
      TableInv s → TableInv (Supervisor.startAll envs ks s).1
  | [], _, _, h => h
  | k :: ks, s, hn, h => by
    unfold Supervisor.startAll
    split
    · exact startAll ks s hn h
    · have hn' : ∀ j, ((s.startProcess (envs k) k).1.trunks j).name = j.value := fun j => by
        by_cases hj : j = k
        · subst hj; simpa using hn j
        · simpa [hj] using hn j
      have h' := h.startProcess (hn k) (envs k)
      dsimp only
      cases (s.startProcess (envs k) k).2 with
      | none => exact startAll ks _ hn' h'
      | some e => exact h'

end TableInv

namespace Supervisor

variable {c : Config} {s : Supervisor} {j k : TrunkProcessEnum}

theorem leaveWait_idle (hw : s.tasks j = .waiting) (env : TaskEnv) (p : Option PyException) :
    (s.leaveWait c env j p).tasks k = .idle ↔ s.tasks k = .idle := by
  by_cases hkj : k = j
  · subst hkj
    rw [hw]
    exact ⟨fun h' => absurd h' (s.leaveWait_task c env k p).1, fun h' => absurd h' (by decide)⟩
  · rw [leaveWait_tasks_of_ne c env j k p s hkj]

theorem step_idle (e : Event) (k : TrunkProcessEnum) :
    (s.step c e).tasks k = .idle ↔ s.tasks k = .idle := by
  cases e with
  | tick n => rfl
  | exit i code => rw [step, exitProc_tasks]
  | wake j env | raise j env | interrupt j env =>
    simp only [step]
    split
    · exact leaveWait_idle (by simp_all) env _
    · rfl
  | ready j started =>
    simp only [step]
    split
    · rename_i p hp
      split
      · by_cases hkj : k = j
        · subst hkj; cases p <;> simp [hp]
        · simp [hkj]
      · rfl
    · rfl

end Supervisor

variable {c : Config} {t : TrunkProcesses} {s : Supervisor}

theorem Reachable.tableInv (h : Reachable c t s) :
    TableInv s ∧ ∀ k, (s.tasks k = .idle ↔ (t.data k).needToRun = false) := by
  induction h with
  | monitor clock envs h =>
    have h0 : TableInv (Supervisor.startAll envs TrunkProcessEnum.all (Supervisor.init t clock)).1 :=
      TableInv.startAll _ _ t.name_eq ⟨rfl, fun n hn => absurd hn (List.not_mem_nil n)⟩
    refine ⟨h0.transfer rfl rfl, fun k => ?_⟩
    show (if (t.data k).needToRun then JoinState.waiting else .idle) = .idle ↔ _
    cases (t.data k).needToRun <;> simp
  | step e hr ih =>
    exact ⟨ih.1.step hr.restartInv.1 e, fun k => (Supervisor.step_idle e k).trans (ih.2 k)⟩

theorem Reachable.count_procs (h : Reachable c t s) (k : TrunkProcessEnum) :
    (s.procs.filter (·.name = k.value)).length = (startTimes k s.log).length := by
  rw [← count_startedNames, ← h.tableInv.1.names, List.count_eq_countP, List.countP_map,
    List.countP_eq_length_filter]
  exact congrArg List.length (List.filter_congr fun p _ => by
    by_cases hp : p.name = k.value <;> simp [hp])

/-- In every run the supervisor has created exactly one process per logged start: the names
of the process table are those of the log's `starting` lines, in order. So a service has as
many processes as starts, and with a limit `N > 0` and `max_restart_interval_seconds = 0`
at most `N + 1` in the whole run. -/
theorem Reachable.procs_eq_starts (h : Reachable c t s) :
    s.procs.map (·.name) = startedNames s.log ∧
      ∀ k, (s.procs.filter (·.name = k.value)).length = (startTimes k s.log).length ∧
        (0 < (t.data k).maxRestartCount → (t.data k).maxRestartIntervalSeconds = 0 →
          (s.procs.filter (·.name = k.value)).length ≤ (t.data k).maxRestartCount + 1) := by
  refine ⟨h.tableInv.1.names, fun k => ⟨h.count_procs k, fun hN hW => ?_⟩⟩
  have hI := h.restartInv.2 k
  have hR : ((startTimes k s.log).drop 1).length ≤ (t.data k).maxRestartCount :=
    hI.starts ▸ (TrunkProcessData.admitted_window_bound (t.restartsTime_eq k) hN hI.sorted).2 hW
  rw [List.length_drop] at hR
  rw [h.count_procs k]
  omega

theorem procs_eq_starts_after_oom_restart :
    let c : Config := ⟨false, "linux", false⟩
    let t := startupTrunks oomRestartConfig [.http]
    let env : TaskEnv := ⟨true, ⟨fun _ => .ok []⟩⟩
    let s := ((Supervisor.monitor t 0 fun _ => env).step c (.exit 0 sigkillExitcode)).step c
      (.wake .http env)
    Reachable c t s ∧ s.procs.map (·.name) = ["http", "http"] ∧
      s.procs.map (·.name) = startedNames s.log ∧
      ∀ k, (s.procs.filter (·.name = k.value)).length = (startTimes k s.log).length ∧
        (0 < (t.data k).maxRestartCount → (t.data k).maxRestartIntervalSeconds = 0 →
          (s.procs.filter (·.name = k.value)).length ≤ (t.data k).maxRestartCount + 1) :=
  have h := Reachable.step _ (Reachable.step _ (Reachable.monitor (c := ⟨false, "linux", false⟩)
    0 (fun _ => ⟨true, ⟨fun _ => .ok []⟩⟩) (by decide)))
  ⟨h, by decide, h.procs_eq_starts⟩

/-- The supervisor only ever runs the services that were requested: every process it created
is of a descriptor with `need_to_run`, and the task of every other descriptor stays idle. -/
theorem Reachable.procs_requested (h : Reachable c t s) :
    (∀ p ∈ s.procs, ∃ k, p.name = k.value ∧ (t.data k).needToRun = true) ∧
      ∀ k, (t.data k).needToRun = false → s.tasks k = .idle := by
  obtain ⟨hT, hidle⟩ := h.tableInv
  refine ⟨fun p hp => ?_, fun k hk => (hidle k).mpr hk⟩
  have hmem : p.name ∈ startedNames s.log := hT.names ▸ List.mem_map_of_mem _ hp
  obtain ⟨k, hk⟩ := hT.valid _ hmem
  refine ⟨k, hk, ?_⟩
  by_contra hn
  have hnil := ((h.restartInv.2 k).idle ((hidle k).mpr (by simpa using hn))).2
  have hpos : 0 < (startedNames s.log).count k.value := List.count_pos_iff.mpr (hk ▸ hmem)
  rw [count_startedNames, hnil] at hpos
  exact absurd hpos (by decide)

theorem procs_requested_http :
    let c : Config := ⟨false, "linux", false⟩
    let t := startupTrunks oomRestartConfig [.http]
    let env : TaskEnv := ⟨true, ⟨fun _ => .ok []⟩⟩
    let s := ((Supervisor.monitor t 0 fun _ => env).step c (.exit 0 sigkillExitcode)).step c
      (.wake .http env)
    Reachable c t s ∧ (t.data .mysql).needToRun = false ∧
      (∀ p ∈ s.procs, ∃ k, p.name = k.value ∧ (t.data k).needToRun = true) ∧
      ∀ k, (t.data k).needToRun = false → s.tasks k = .idle :=
  have h := Reachable.step _ (Reachable.step _ (Reachable.monitor (c := ⟨false, "linux", false⟩)
    0 (fun _ => ⟨true, ⟨fun _ => .ok []⟩⟩) (by decide)))
  ⟨h, by decide, h.procs_requested⟩

theorem Reachable.run (h : Reachable c t s) (es : List Event) : Reachable c t (s.run c es) := by
  induction es generalizing s with
  | nil => exact h
  | cons e es ih => exact ih (h.step e)

namespace Supervisor

variable {j k : TrunkProcessEnum}

theorem leaveWait_frame (hkj : k ≠ j) (hn : (s.trunks j).name = j.value) (env : TaskEnv)
    (p : Option PyException) :
    (s.leaveWait c env j p).trunks k = s.trunks k ∧ (s.leaveWait c env j p).tasks k = s.tasks k ∧
      attemptLog k (s.leaveWait c env j p).log = attemptLog k s.log ∧
      startTimes k (s.leaveWait c env j p).log = startTimes k s.log :=
  ⟨finallyBlock_trunks_of_ne c env j k s hkj, leaveWait_tasks_of_ne c env j k p s hkj,
    finallyBlock_views_of_ne c env j k s hkj hn⟩

/-- A step of any other task, or of the OS, leaves a task that has ended as it is: its
descriptor, its task, and the attempts and starts its log records. -/
theorem step_of_ended (hW : Written t s) (hk : (s.tasks k).Ended) (e : Event) :
    (s.step c e).trunks k = s.trunks k ∧ (s.step c e).tasks k = s.tasks k ∧
      attemptLog k (s.step c e).log = attemptLog k s.log ∧
      startTimes k (s.step c e).log = startTimes k s.log := by
  have hne : ∀ j, s.tasks j = .waiting → k ≠ j := fun j hj hkj => by
    subst hkj; simp [hj, JoinState.Ended] at hk
  cases e with
  | tick n => exact ⟨rfl, rfl, rfl, rfl⟩
  | exit i code => rw [step, exitProc_eq]; exact ⟨rfl, rfl, rfl, rfl⟩
  | wake j env | raise j env =>
    simp only [step]
    split
    · exact leaveWait_frame (hne j (by simp_all)) (hW.name j) env _
    · exact ⟨rfl, rfl, rfl, rfl⟩
  | interrupt j env =>
    simp only [step]
    split
    · rename_i hg
      obtain ⟨h1, h2, h3, h4⟩ := leaveWait_frame (s := ((s.logged .keyboardInterrupt).closeApiGracefully
        env.shutdown).1) (c := c) (hne j hg.2) (hW.name j) env _
      exact ⟨h1, h2, by simpa [attemptOf] using h3, by simpa [startOf] using h4⟩
    · exact ⟨rfl, rfl, rfl, rfl⟩
  | ready j started =>
    simp only [step]
    split
    · rename_i q hq
      have hkj : k ≠ j := fun hkj => by subst hkj; simp [hq, JoinState.Ended] at hk
      split
      · refine ⟨rfl, by simp [hkj], ?_, ?_⟩ <;> split <;> simp [attemptOf, startOf]
      · exact ⟨rfl, rfl, rfl, rfl⟩
    · exact ⟨rfl, rfl, rfl, rfl⟩

end Supervisor

/-- Once the task of a service has returned or raised, nothing changes that service again,
whatever the other tasks and the OS do: its descriptor and its task stay, its log records no
further attempt or start, and no process is created for it. -/
theorem Reachable.ended_frozen (h : Reachable c t s) {k : TrunkProcessEnum} (hk : (s.tasks k).Ended)
    (es : List Event) :
    (s.run c es).trunks k = s.trunks k ∧ (s.run c es).tasks k = s.tasks k ∧
      attemptLog k (s.run c es).log = attemptLog k s.log ∧
      startTimes k (s.run c es).log = startTimes k s.log ∧
      ((s.run c es).procs.filter (·.name = k.value)).length =
        (s.procs.filter (·.name = k.value)).length := by
  suffices hf : (s.run c es).trunks k = s.trunks k ∧ (s.run c es).tasks k = s.tasks k ∧
      attemptLog k (s.run c es).log = attemptLog k s.log ∧
      startTimes k (s.run c es).log = startTimes k s.log from
    ⟨hf.1, hf.2.1, hf.2.2.1, hf.2.2.2, by rw [(h.run es).count_procs, h.count_procs, hf.2.2.2]⟩
  induction es generalizing s with
  | nil => exact ⟨rfl, rfl, rfl, rfl⟩
  | cons e es ih =>
    obtain ⟨h1, h2, h3, h4⟩ := Supervisor.step_of_ended h.restartInv.1 hk e
    obtain ⟨g1, g2, g3, g4⟩ := ih (h.step e) (h2 ▸ hk)
    exact ⟨g1.trans h1, g2.trans h2, g3.trans h3, g4.trans h4⟩

theorem ended_frozen_after_exit :
    let c : Config := ⟨false, "linux", false⟩
    let t := startupTrunks oomRestartConfig [.http]
    let env : TaskEnv := ⟨true, ⟨fun _ => .ok []⟩⟩
    let s := ((Supervisor.monitor t 0 fun _ => env).step c (.exit 0 1)).step c (.wake .http env)
    let es : List Event := [.wake .http env, .raise .http env, .interrupt .http env, .tick 5]
    Reachable c t s ∧ (s.tasks .http).Ended ∧
      (s.run c es).trunks .http = s.trunks .http ∧ (s.run c es).tasks .http = s.tasks .http ∧
      attemptLog .http (s.run c es).log = attemptLog .http s.log ∧
      startTimes .http (s.run c es).log = startTimes .http s.log ∧
      ((s.run c es).procs.filter (·.name = TrunkProcessEnum.http.value)).length =
        (s.procs.filter (·.name = TrunkProcessEnum.http.value)).length :=
  have h := Reachable.step _ (Reachable.step _ (Reachable.monitor (c := ⟨false, "linux", false⟩)
    0 (fun _ => ⟨true, ⟨fun _ => .ok []⟩⟩) (by decide)))
  have hk : JoinState.Ended _ := by
    show JoinState.Ended .finished
    trivial
  ⟨h, hk, h.ended_frozen hk _⟩

def CurrentAlive (s : Supervisor) : Prop :=
  ∀ k i, (s.trunks k).process = some i → s.status i = some .alive

theorem CurrentAlive.startProcess (h : CurrentAlive s) {env : TaskEnv} (hs : env.spawned = true)
    (k : TrunkProcessEnum) : CurrentAlive (s.startProcess env k).1 := by
  obtain ⟨hp, -, -⟩ := Supervisor.startProcess_of_spawned env k s hs
  intro j i hi
  simp only [Supervisor.status, hp]
  by_cases hjk : j = k
  · subst hjk
    obtain rfl : s.procs.length = i := by simpa using hi
    simp [Proc.ofTrunk]
  · have ha := h j i (by simpa [hjk] using hi)
    have hlt : i < s.procs.length := by
      simp only [Supervisor.status, Option.map_eq_some'] at ha
      obtain ⟨p, hp, -⟩ := ha
      exact (List.getElem?_eq_some_iff.mp hp).1
    rw [List.getElem?_append_left hlt]
    exact ha

theorem currentAlive_startAll (envs : TrunkProcessEnum → TaskEnv) (hs : ∀ k, (envs k).spawned = true) :
    ∀ (ks : List TrunkProcessEnum) (s : Supervisor), CurrentAlive s →
      CurrentAlive (Supervisor.startAll envs ks s).1 ∧ (Supervisor.startAll envs ks s).2 = none
  | [], _, h => ⟨h, rfl⟩
  | k :: ks, s, h => by
    unfold Supervisor.startAll
    split
    · exact currentAlive_startAll envs hs ks s h
    · dsimp only
      rw [(Supervisor.startProcess_of_spawned (envs k) k s (hs k)).2.2]
      exact currentAlive_startAll envs hs ks _ (h.startProcess (hs k) k)

theorem Supervisor.exitProc_status_self {s : Supervisor} {i : Nat} (code : Int)
    (ha : s.status i = some .alive) : (s.exitProc i code).status i = some (.exited code) := by
  simp only [status, Option.map_eq_some'] at ha
  obtain ⟨p, hp, hpa⟩ := ha
  simp [exitProc, hp, hpa, status, List.getElem?_set_self (List.getElem?_eq_some_iff.mp hp).1]

theorem Supervisor.looping_of_tasks {s s' : Supervisor} (h : s'.tasks = s.tasks) :
    s'.looping = s.looping := by
  simp [looping, h]

theorem Supervisor.looping_setTask {s : Supervisor} (hl : s.looping = true) (k : TrunkProcessEnum)
    {j : JoinState} (hj : ∀ e, j ≠ .failed e) : (s.setTask k j).looping = true := by
  simp only [looping, List.all_eq_true] at hl ⊢
  intro k' hk'
  by_cases hkk : k' = k
  · subst hkk
    cases j <;> simp_all
  · simp only [setTask_tasks, Function.update_noteq hkk]
    exact hl k' hk'

theorem Supervisor.wake_restarts {s : Supervisor} (hcl : c.isCloud = false)
    (hsig : c.signalsExitCode = true) {k : TrunkProcessEnum}
    (hr : (s.trunks k).restartOnFailure = true) (h0 : (s.trunks k).maxRestartCount = 0)
    (hw : s.tasks k = .waiting) (hl : s.looping = true) {i : Nat}
    (hi : (s.trunks k).process = some i) (hk : s.status i = some (.exited sigkillExitcode))
    (env : TaskEnv) (hsp : env.spawned = true) (hn : (s.trunks k).name = k.value) :
    let s' := s.step c (.wake k env)
    s'.tasks = Function.update s.tasks k (.awaitingStart none) ∧
      (s'.trunks k).process = some s.procs.length ∧ s'.status s.procs.length = some .alive ∧
      startTimes k s'.log = startTimes k s.log ++ [s.clock] := by
  intro s'
  have hsr : ((s.trunks k).shouldRestart c (s.exitcode k)).1 = true :=
    TrunkProcessData.shouldRestart_true_iff.mpr ⟨hcl, hr, .inl ⟨hsig, by
      simp [exitcode, hi, hk, ProcStatus.exitcode]⟩⟩
  have ha : ((s.trunks k).requestRestartAttempt s.clock).2 = true := by
    rw [TrunkProcessData.requestRestartAttempt_of_zero h0]
  rcases s.finallyBlock_cases c env k with ⟨h', -⟩ | ⟨-, h', -⟩ | ⟨-, -, e, hf, he⟩
  · simp [hsr] at h'
  · simp [ha] at h'
  have hs' : s' = (s.finallyBlock c env k).1.setTask k (.awaitingStart none) := by
    show (if s.looping = true ∧ s.tasks k = .waiting ∧ s.isAlive k = false then
      s.leaveWait c env k none else s) = _
    rw [if_pos ⟨hl, hw, by simp [isAlive, hi, hk]⟩]
    simp only [leaveWait, hf, he.mpr hsp]
  have hst := (finallyBlock_views c env k s hn).2.1
  simp only [hsr, ha, Bool.and_self, if_true] at hst
  rw [hs']
  refine ⟨by simp, ?_, ?_, by simpa using hst⟩ <;> rw [hf] <;>
    simp [(startProcess_of_spawned env k _ hsp).1, status, Proc.ofTrunk]

/-- On linux and darwin, outside the cloud, with `max_restart_count = 0`: the running
process of a waiting task is killed with `SIGKILL`, the task restarts it, and its health
check reports it started. The task waits again on a running process, and its log has one
more start. -/
theorem Reachable.restart_cycle (hcl : c.isCloud = false) (hsig : c.signalsExitCode = true)
    {k : TrunkProcessEnum} (hr : (t.data k).restartOnFailure = true)
    (h0 : (t.data k).maxRestartCount = 0) (h : Reachable c t s) (hw : s.tasks k = .waiting)
    (hl : s.looping = true) {i : Nat} (hi : (s.trunks k).process = some i)
    (ha : s.status i = some .alive) (env : TaskEnv) (hsp : env.spawned = true) :
    let s' := ((s.step c (.exit i sigkillExitcode)).step c (.wake k env)).step c (.ready k true)
    Reachable c t s' ∧ s'.tasks k = .waiting ∧ s'.looping = true ∧
      (∃ i', (s'.trunks k).process = some i' ∧ s'.status i' = some .alive) ∧
      startTimes k s'.log = startTimes k s.log ++ [s.clock] := by
  intro s'
  have hW := h.restartInv.1 k
  let s₁ := s.step c (.exit i sigkillExitcode)
  have h₁ : s₁ = { s with procs := s₁.procs } := Supervisor.exitProc_eq s i _
  obtain ⟨ht, hp, ha', hs⟩ := Supervisor.wake_restarts (s := s₁) hcl hsig
    (by rw [h₁]; exact hW.restartOnFailure.trans hr) (by rw [h₁]; exact hW.maxRestartCount.trans h0)
    (by rw [h₁]; exact hw) (by rw [Supervisor.looping_of_tasks (by rw [h₁])]; exact hl)
    (by rw [h₁]; exact hi) (Supervisor.exitProc_status_self _ ha) env hsp
    (by rw [h₁]; exact (h.restartInv.1).name k)
  let s₂ := s₁.step c (.wake k env)
  have htk : s₂.tasks k = .awaitingStart none := by rw [ht]; simp
  have hl₂ : s₂.looping = true := by
    rw [Supervisor.looping_of_tasks (s := s₁.setTask k (.awaitingStart none)) ht]
    exact Supervisor.looping_setTask (by rw [Supervisor.looping_of_tasks (by rw [h₁])]; exact hl) k
      (by simp)
  have h₃ : s' = (s₂.logged (.startedOn (s₂.trunks k).name (s₂.trunks k).port)).setTask k .waiting := by
    show s₂.step c (.ready k true) = _
    simp only [Supervisor.step, htk, hl₂, if_true]
    rfl
  refine ⟨((h.step _).step _).step _, by rw [h₃]; simp, ?_, ⟨_, by rw [h₃]; exact hp, by rw [h₃]; exact ha'⟩,
    ?_⟩
  · rw [h₃]
    exact Supervisor.looping_setTask hl₂ k (by simp)
  · have hl₁ : s₁.log = s.log := Supervisor.exitProc_log s i _
    have hc₁ : s₁.clock = s.clock := Supervisor.exitProc_clock s i _
    rw [hl₁, hc₁] at hs
    rw [h₃]
    simpa [startOf] using hs

theorem Supervisor.monitor_looping (t : TrunkProcesses) (clock : Int)
    (envs : TrunkProcessEnum → TaskEnv) : (monitor t clock envs).looping = true := by
  simp only [looping, List.all_eq_true]
  intro k _
  show (match (if (t.data k).needToRun then JoinState.waiting else .idle) with
    | .failed _ => false
    | _ => true) = true
  split_ifs <;> rfl

/-- On linux and darwin, outside the cloud, `max_restart_count = 0` puts no bound on the
restarts of a service set to restart on failure: for every `n` some run has started it
`n + 1` times, and it is running. -/
theorem unbounded_restarts (hcl : c.isCloud = false) (hsig : c.signalsExitCode = true)
    {k : TrunkProcessEnum} (hneed : (t.data k).needToRun = true)
    (hr : (t.data k).restartOnFailure = true) (h0 : (t.data k).maxRestartCount = 0) (n : Nat) :
    ∃ s, Reachable c t s ∧ (startTimes k s.log).length = n + 1 ∧ s.isAlive k = true := by
  let env : TaskEnv := ⟨true, ⟨fun _ => .ok []⟩⟩
  obtain ⟨hA, hnone⟩ := currentAlive_startAll (fun _ => env) (fun _ => rfl) TrunkProcessEnum.all
    (Supervisor.init t 0) fun k i h => by simp [Supervisor.init, t.process_eq k] at h
  have key : ∀ n, ∃ s, Reachable c t s ∧ s.tasks k = .waiting ∧ s.looping = true ∧
      (∃ i, (s.trunks k).process = some i ∧ s.status i = some .alive) ∧
      (startTimes k s.log).length = n + 1 := by
    intro n
    induction n with
    | zero =>
      obtain ⟨hb, hiff⟩ := Supervisor.bootInv_monitor hnone
      obtain ⟨i, hi⟩ := Option.isSome_iff_exists.mp ((hiff k).mpr hneed)
      refine ⟨_, .monitor 0 _ hnone, by simp [Supervisor.monitor, hneed],
        Supervisor.monitor_looping t 0 _, ⟨i, hi, hA k i hi⟩, ?_⟩
      rw [hb.starts k, hi]
      rfl
    | succ n ih =>
      obtain ⟨s, h, hw, hl, ⟨i, hi, ha⟩, hlen⟩ := ih
      obtain ⟨h', hw', hl', ha', hs'⟩ := h.restart_cycle hcl hsig hr h0 hw hl hi ha env rfl
      exact ⟨_, h', hw', hl', ha', by rw [hs', List.length_append, hlen]; rfl⟩
  obtain ⟨s, h, -, -, ⟨i, hi, ha⟩, hlen⟩ := key n
  exact ⟨s, h, hlen, by simp [Supervisor.isAlive, hi, ha]⟩

def unlimitedRestartConfig : StartupConfig :=
  { oomRestartConfig with http := ⟨some true, some 0, none⟩ }

theorem unbounded_restarts_http :
    let c : Config := ⟨false, "linux", false⟩
    let t := startupTrunks unlimitedRestartConfig [.http]
    c.isCloud = false ∧ c.signalsExitCode = true ∧ (t.data .http).needToRun = true ∧
      (t.data .http).restartOnFailure = true ∧ (t.data .http).maxRestartCount = 0 ∧
      ∃ s, Reachable c t s ∧ (startTimes .http s.log).length = 5 + 1 ∧ s.isAlive .http = true :=
  ⟨rfl, rfl, by decide, by decide, by decide,
    unbounded_restarts (by rfl) (by rfl) (by decide) (by decide) (by decide) 5⟩

end MindsdbSupervisor
