import MindsdbSupervisor.State

/-!
# Composing the descriptor dict

How `__main__` decides which subprocesses it runs: the API list from `MINDSDB_APIS` or
`--api`, each name looked up in `TrunkProcessEnum`, and the dict `trunc_processes_struct`
built from the configuration, with `need_to_run` set for the requested APIs and for the
workers the configuration enables.
-/

namespace MindsdbSupervisor

/-- `TrunkProcessEnum(name)`; for an unknown name `_missing_` prints and calls
`sys.exit(1)`. -/
def TrunkProcessEnum.ofName (name : String) : Except PyException TrunkProcessEnum :=
  match TrunkProcessEnum.all.find? (·.value = name) with
  | some k => .ok k
  | none => .error (.systemExit 1)

theorem TrunkProcessEnum.ofName_value (k : TrunkProcessEnum) : ofName k.value = .ok k := by
  cases k <;> rfl

theorem TrunkProcessEnum.ofName_eq_ok {name : String} {k : TrunkProcessEnum}
    (h : ofName name = .ok k) : k.value = name := by
  unfold ofName at h
  split at h
  · rename_i k' hk
    cases h
    simpa using List.find?_some hk
  · cases h

/-- The value `os.getenv('MINDSDB_APIS') or config.cmd_args.api`: an empty variable counts
as unset. -/
def apisSetting (envApis cmdApi : Option String) : Option String :=
  match envApis with
  | some s => if s = "" then cmdApi else some s
  | none => cmdApi

/-- `api_arr`: the default APIs when `apis` is unset, none for a blank value, and otherwise
each comma-separated name. -/
def apiArr (envApis cmdApi : Option String) : Except PyException (List TrunkProcessEnum) :=
  match apisSetting envApis cmdApi with
  | none => .ok [.http, .mysql]
  | some s => if s = "" then .ok [] else (s.splitOn ",").mapM TrunkProcessEnum.ofName

theorem mapM_ofName_value (ks : List TrunkProcessEnum) :
    (ks.map TrunkProcessEnum.value).mapM TrunkProcessEnum.ofName = .ok ks := by
  induction ks with
  | nil => rfl
  | cons k ks ih =>
    simp only [List.map_cons, List.mapM_cons, TrunkProcessEnum.ofName_value, ih]
    rfl

theorem mapM_ofName_values : ∀ {names : List String} {ks : List TrunkProcessEnum},
    names.mapM TrunkProcessEnum.ofName = .ok ks → ks.map TrunkProcessEnum.value = names
  | [], ks, h => by cases h; rfl
  | n :: ns, ks, h => by
    simp only [List.mapM_cons] at h
    cases hn : TrunkProcessEnum.ofName n with
    | error e => rw [hn] at h; cases h
    | ok k =>
      cases hr : ns.mapM TrunkProcessEnum.ofName with
      | error e => rw [hn, hr] at h; cases h
      | ok ks' =>
        rw [hn, hr] at h
        cases h
        simp [TrunkProcessEnum.ofName_eq_ok hn, mapM_ofName_values hr]

theorem mapM_ofName_eq_ok (names : List String) (ks : List TrunkProcessEnum) :
    names.mapM TrunkProcessEnum.ofName = .ok ks ↔ ks.map TrunkProcessEnum.value = names :=
  ⟨mapM_ofName_values, fun h => h ▸ mapM_ofName_value ks⟩

theorem mapM_ofName_error : ∀ {names : List String} {e : PyException},
    names.mapM TrunkProcessEnum.ofName = .error e → e = .systemExit 1
  | [], e, h => by cases h
  | n :: ns, e, h => by
    simp only [List.mapM_cons] at h
    cases hn : TrunkProcessEnum.ofName n with
    | error e' =>
      rw [hn] at h; cases h
      unfold TrunkProcessEnum.ofName at hn
      split at hn <;> cases hn; rfl
    | ok k =>
      cases hr : ns.mapM TrunkProcessEnum.ofName with
      | error e' => rw [hn, hr] at h; cases h; exact mapM_ofName_error hr
      | ok ks' => rw [hn, hr] at h; cases h

theorem apiArr_spec (envApis cmdApi : Option String) :
    (apisSetting envApis cmdApi = none → apiArr envApis cmdApi = .ok [.http, .mysql]) ∧
      (apisSetting envApis cmdApi = some "" → apiArr envApis cmdApi = .ok []) ∧
      (∀ s, apisSetting envApis cmdApi = some s → s ≠ "" → ∀ ks,
        (apiArr envApis cmdApi = .ok ks ↔ ks.map TrunkProcessEnum.value = s.splitOn ",")) ∧
      (∀ e, apiArr envApis cmdApi = .error e → e = .systemExit 1) := by
  unfold apiArr
  refine ⟨fun h => by rw [h], fun h => by rw [h]; rfl, fun s h hs ks => by
    rw [h]; dsimp only; rw [if_neg hs]; exact mapM_ofName_eq_ok _ _, fun e he => ?_⟩
  split at he
  · cases he
  · split at he
    · cases he
    · exact mapM_ofName_error he

structure RestartConfig where
  restartOnFailure : Option Bool
  maxRestartCount : Option Nat
  maxRestartIntervalSeconds : Option Nat
  deriving DecidableEq, Repr

/-- What `__main__` reads of its configuration and arguments to build the dict. -/
structure StartupConfig where
  httpPort : Nat
  http : RestartConfig
  mysqlPort : Nat
  mysql : RestartConfig
  mongodbPort : Nat
  postgresPort : Nat
  mcpPort : Option Nat
  mcp : RestartConfig
  verbose : Bool
  noStudio : Bool
  jobsDisable : Bool
  tasksDisable : Bool
  mlTaskQueueConsumer : Bool
  deriving DecidableEq, Repr

/-- The entry of an API whose section sets its restarts, with the dataclass defaults for
the settings it leaves out. -/
def restartableData (k : TrunkProcessEnum) (entrypoint : Entrypoint) (port : Nat)
    (args : List Bool) (r : RestartConfig) : TrunkProcessData :=
  { name := k.value, entrypoint, port := some port, args := some args
    restartOnFailure := r.restartOnFailure.getD false
    maxRestartCount := r.maxRestartCount.getD 3
    maxRestartIntervalSeconds := r.maxRestartIntervalSeconds.getD 60 }

def plainData (k : TrunkProcessEnum) (entrypoint : Entrypoint) (port : Option Nat)
    (verbose : Bool) : TrunkProcessData :=
  { name := k.value, entrypoint, port, args := some [verbose] }

/-- `trunc_processes_struct` as written, before `need_to_run` is set. -/
def trunkData (cfg : StartupConfig) : TrunkProcessEnum → TrunkProcessData
  | .http => restartableData .http .startHttp cfg.httpPort [cfg.verbose, cfg.noStudio] cfg.http
  | .mysql => restartableData .mysql .startMysql cfg.mysqlPort [cfg.verbose] cfg.mysql
  | .mongodb => plainData .mongodb .startMongo (some cfg.mongodbPort) cfg.verbose
  | .postgres => plainData .postgres .startPostgres (some cfg.postgresPort) cfg.verbose
  | .jobs => plainData .jobs .startScheduler none cfg.verbose
  | .tasks => plainData .tasks .startTasks none cfg.verbose
  | .mlTaskQueue => plainData .mlTaskQueue .startMlTaskQueue none cfg.verbose
  | .mcp => restartableData .mcp .startMcp (cfg.mcpPort.getD 47337) [cfg.verbose] cfg.mcp

def setNeeded (data : TrunkProcessEnum → TrunkProcessData) (k : TrunkProcessEnum) :
    TrunkProcessEnum → TrunkProcessData :=
  Function.update data k { data k with needToRun := true }

/-- The loop over `api_arr`, then the job scheduler and the task runner unless disabled,
and the ML task queue consumer when asked for. Every member of `api_arr` is a key of the
dict, so the loop's error branch is never taken. -/
def markNeeded (cfg : StartupConfig) (apis : List TrunkProcessEnum)
    (data : TrunkProcessEnum → TrunkProcessData) : TrunkProcessEnum → TrunkProcessData :=
  let data := apis.foldl setNeeded data
  let data := if cfg.jobsDisable = false then setNeeded data .jobs else data
  let data := if cfg.tasksDisable = false then setNeeded data .tasks else data
  if cfg.mlTaskQueueConsumer then setNeeded data .mlTaskQueue else data

/-- Whether the composition asks for descriptor `k`. -/
def requested (cfg : StartupConfig) (apis : List TrunkProcessEnum) (k : TrunkProcessEnum) : Bool :=
  decide (k ∈ apis) || (decide (k = .jobs) && !cfg.jobsDisable) ||
    (decide (k = .tasks) && !cfg.tasksDisable) || (decide (k = .mlTaskQueue) && cfg.mlTaskQueueConsumer)

theorem setNeeded_apply (data : TrunkProcessEnum → TrunkProcessData) (k j : TrunkProcessEnum) :
    setNeeded data k j = { data j with needToRun := (data j).needToRun || decide (j = k) } := by
  by_cases h : j = k
  · subst h; simp [setNeeded]
  · simp [setNeeded, h]

theorem foldl_setNeeded (apis : List TrunkProcessEnum) (data : TrunkProcessEnum → TrunkProcessData)
    (j : TrunkProcessEnum) :
    apis.foldl setNeeded data j = { data j with needToRun := (data j).needToRun || decide (j ∈ apis) } := by
  induction apis generalizing data with
  | nil => simp
  | cons k ks ih =>
    rw [List.foldl_cons, ih, setNeeded_apply]
    by_cases h : j = k <;> simp [h]

theorem markNeeded_apply (cfg : StartupConfig) (apis : List TrunkProcessEnum)
    (data : TrunkProcessEnum → TrunkProcessData) (k : TrunkProcessEnum) :
    markNeeded cfg apis data k = { data k with needToRun := (data k).needToRun || requested cfg apis k } := by
  simp only [markNeeded, requested]
  split_ifs <;> simp_all [setNeeded_apply, foldl_setNeeded, Bool.or_assoc]

theorem trunkData_needToRun (cfg : StartupConfig) (k : TrunkProcessEnum) :
    (trunkData cfg k).needToRun = false := by
  cases k <;> rfl

/-- The dict of `__main__` for configuration `cfg` and API list `apis`. -/
def startupTrunks (cfg : StartupConfig) (apis : List TrunkProcessEnum) : TrunkProcesses where
  data := markNeeded cfg apis (trunkData cfg)
  name_eq k := by rw [markNeeded_apply]; cases k <;> rfl
  process_eq k := by rw [markNeeded_apply]; cases k <;> rfl
  restartsTime_eq k := by rw [markNeeded_apply]; cases k <;> rfl
  started_eq k := by rw [markNeeded_apply]; cases k <;> rfl

/-- Each entry of the dict is the literal's, with `need_to_run` set exactly when requested. -/
theorem startupTrunks_data (cfg : StartupConfig) (apis : List TrunkProcessEnum) (k : TrunkProcessEnum) :
    (startupTrunks cfg apis).data k = { trunkData cfg k with needToRun := requested cfg apis k } := by
  show markNeeded cfg apis (trunkData cfg) k = _
  rw [markNeeded_apply, trunkData_needToRun, Bool.false_or]

theorem startupTrunks_needToRun (cfg : StartupConfig) (apis : List TrunkProcessEnum)
    (k : TrunkProcessEnum) :
    ((startupTrunks cfg apis).data k).needToRun = true ↔ k ∈ apis ∨
      (k = .jobs ∧ cfg.jobsDisable = false) ∨ (k = .tasks ∧ cfg.tasksDisable = false) ∨
      (k = .mlTaskQueue ∧ cfg.mlTaskQueueConsumer = true) := by
  simp [startupTrunks_data, requested, or_assoc]

theorem startupTrunks_restarts (cfg : StartupConfig) (apis : List TrunkProcessEnum)
    (k : TrunkProcessEnum) :
    let d := (startupTrunks cfg apis).data k
    (d.restartOnFailure = true → k = .http ∨ k = .mysql ∨ k = .mcp) ∧
      (k = .http → d.maxRestartCount = cfg.http.maxRestartCount.getD 3 ∧
        d.maxRestartIntervalSeconds = cfg.http.maxRestartIntervalSeconds.getD 60) ∧
      (k = .mysql → d.maxRestartCount = cfg.mysql.maxRestartCount.getD 3 ∧
        d.maxRestartIntervalSeconds = cfg.mysql.maxRestartIntervalSeconds.getD 60) ∧
      (k = .mcp → d.maxRestartCount = cfg.mcp.maxRestartCount.getD 3 ∧
        d.maxRestartIntervalSeconds = cfg.mcp.maxRestartIntervalSeconds.getD 60) := by
  simp only [startupTrunks_data]
  cases k <;> simp [trunkData, restartableData, plainData]

end MindsdbSupervisor
