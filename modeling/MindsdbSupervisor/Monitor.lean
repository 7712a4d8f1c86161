import MindsdbSupervisor.RestartWindow
import MindsdbSupervisor.Startup
import MindsdbSupervisor.JoinProcess

/-!
# Runs of the supervisor

The start loop of `__main__`, the states reachable from it by any interleaving of the
watch tasks' steps with the OS's events, and what holds of each descriptor in all of them.
What a run did is read off the log: a restart attempt logs `restarting` or
`noFurtherRestarts`, and every call of `start_process` logs `starting` first.
-/

namespace MindsdbSupervisor

def attemptOf (k : TrunkProcessEnum) (l : LogLine) : Option (Int × Bool) :=
  match l.record with
  | .restarting n => if n = k.value then some (l.time, true) else none
  | .noFurtherRestarts n => if n = k.value then some (l.time, false) else none
  | _ => none

def startOf (k : TrunkProcessEnum) (l : LogLine) : Option Int :=
  match l.record with
  | .starting n => if n = k.value then some l.time else none
  | _ => none

/-- Descriptor `k`'s restart attempts in a log, each with the answer it got. -/
def attemptLog (k : TrunkProcessEnum) (log : List LogLine) : List (Int × Bool) :=
  log.filterMap (attemptOf k)

/-- The times of descriptor `k`'s calls of `start_process` in a log. -/
def startTimes (k : TrunkProcessEnum) (log : List LogLine) : List Int :=
  log.filterMap (startOf k)

section Views

variable {k : TrunkProcessEnum} {log log' : List LogLine} {t : Int}

@[simp] theorem attemptLog_nil : attemptLog k [] = [] := rfl
@[simp] theorem startTimes_nil : startTimes k [] = [] := rfl

@[simp] theorem attemptLog_append : attemptLog k (log ++ log') = attemptLog k log ++ attemptLog k log' :=
  List.filterMap_append _ _ _

@[simp] theorem startTimes_append : startTimes k (log ++ log') = startTimes k log ++ startTimes k log' :=
  List.filterMap_append _ _ _

@[simp] theorem attemptLog_cons (l : LogLine) :
    attemptLog k (l :: log) = (attemptOf k l).toList ++ attemptLog k log := by
  cases h : attemptOf k l <;> simp [attemptLog, List.filterMap_cons, h]

@[simp] theorem startTimes_cons (l : LogLine) :
    startTimes k (l :: log) = (startOf k l).toList ++ startTimes k log := by
  cases h : startOf k l <;> simp [startTimes, List.filterMap_cons, h]

@[simp] theorem attemptLog_shouldRestart (c : Config) (d : TrunkProcessData) (e : Option Int) :
    attemptLog k ((d.shouldRestart c e).2.map (LogLine.mk t)) = [] := by
  unfold TrunkProcessData.shouldRestart
  split_ifs <;> simp [attemptOf]

@[simp] theorem startTimes_shouldRestart (c : Config) (d : TrunkProcessData) (e : Option Int) :
    startTimes k ((d.shouldRestart c e).2.map (LogLine.mk t)) = [] := by
  unfold TrunkProcessData.shouldRestart
  split_ifs <;> simp [startOf]

end Views

/-- `d'` is `d` with at most the fields the supervisor writes changed: its process, its
arguments and its restart times. -/
def TrunkProcessData.Written (d d' : TrunkProcessData) : Prop :=
  ∃ p a r, d' = { d with process := p, args := a, restartsTime := r }

namespace TrunkProcessData

variable {d d' d'' : TrunkProcessData}

theorem Written.refl (d : TrunkProcessData) : d.Written d := ⟨_, _, _, rfl⟩

theorem Written.trans (h : d.Written d') (h' : d'.Written d'') : d.Written d'' := by
  obtain ⟨p, a, r, rfl⟩ := h
  obtain ⟨p', a', r', rfl⟩ := h'
  exact ⟨p', a', r', rfl⟩

theorem written_process (d : TrunkProcessData) (p : Option Nat) : d.Written { d with process := p } :=
  ⟨_, _, _, rfl⟩

theorem written_restartData (c : Config) (d : TrunkProcessData) : d.Written (d.restartData c) :=
  ⟨_, _, _, rfl⟩

theorem written_request (d : TrunkProcessData) (now : Int) :
    d.Written (d.requestRestartAttempt now).1 :=
  ⟨_, _, _, requestRestartAttempt_fst d now⟩

theorem Written.name (h : d.Written d') : d'.name = d.name := by
  obtain ⟨_, _, _, rfl⟩ := h; rfl
theorem Written.maxRestartCount (h : d.Written d') : d'.maxRestartCount = d.maxRestartCount := by
  obtain ⟨_, _, _, rfl⟩ := h; rfl
theorem Written.maxRestartIntervalSeconds (h : d.Written d') :
    d'.maxRestartIntervalSeconds = d.maxRestartIntervalSeconds := by
  obtain ⟨_, _, _, rfl⟩ := h; rfl
theorem Written.restartOnFailure (h : d.Written d') : d'.restartOnFailure = d.restartOnFailure := by
  obtain ⟨_, _, _, rfl⟩ := h; rfl
theorem Written.needToRun (h : d.Written d') : d'.needToRun = d.needToRun := by
  obtain ⟨_, _, _, rfl⟩ := h; rfl
theorem Written.started (h : d.Written d') : d'.started = d.started := by
  obtain ⟨_, _, _, rfl⟩ := h; rfl

end TrunkProcessData

namespace Supervisor

variable (c : Config) (env : TaskEnv) (k j : TrunkProcessEnum) (s : Supervisor)

theorem finallyBlock_trunks_of_ne (hj : j ≠ k) :
    (s.finallyBlock c env k).1.trunks j = s.trunks j := by
  rcases finallyBlock_cases c env k s with ⟨-, h⟩ | ⟨-, -, h⟩ | ⟨-, -, e, h, -⟩ <;> rw [h] <;>
    simp [hj]

@[simp] theorem finallyBlock_clock : (s.finallyBlock c env k).1.clock = s.clock := by
  rcases finallyBlock_cases c env k s with ⟨-, h⟩ | ⟨-, -, h⟩ | ⟨-, -, e, h, -⟩ <;> simp [h]

@[simp] theorem finallyBlock_tasks : (s.finallyBlock c env k).1.tasks = s.tasks := by
  rcases finallyBlock_cases c env k s with ⟨-, h⟩ | ⟨-, -, h⟩ | ⟨-, -, e, h, -⟩ <;> simp [h]

theorem finallyBlock_written :
    (s.trunks j).Written ((s.finallyBlock c env k).1.trunks j) := by
  by_cases hj : j = k
  · subst hj
    rcases finallyBlock_cases c env j s with ⟨-, h⟩ | ⟨-, -, h⟩ | ⟨-, -, e, h, -⟩ <;> rw [h]
    · exact .refl _
    · simpa using TrunkProcessData.written_request _ _
    · simpa using ((TrunkProcessData.written_request _ _).trans
        (TrunkProcessData.written_restartData _ _)).trans (TrunkProcessData.written_process _ _)
  · rcases finallyBlock_cases c env k s with ⟨-, h⟩ | ⟨-, -, h⟩ | ⟨-, -, e, h, -⟩ <;> rw [h] <;>
      simp [hj] <;> exact .refl _

theorem finallyBlock_views_of_ne (hj : j ≠ k) (hn : (s.trunks k).name = k.value) :
    attemptLog j (s.finallyBlock c env k).1.log = attemptLog j s.log ∧
      startTimes j (s.finallyBlock c env k).1.log = startTimes j s.log := by
  have hv : k.value ≠ j.value := fun h => hj (TrunkProcessEnum.value_injective h).symm
  rcases finallyBlock_cases c env k s with ⟨-, h⟩ | ⟨-, -, h⟩ | ⟨-, -, e, h, -⟩ <;> rw [h] <;>
    simp [attemptOf, startOf, hn, hv, apply_ite]

theorem finallyBlock_views (hn : (s.trunks k).name = k.value) :
    let sr := ((s.trunks k).shouldRestart c (s.exitcode k)).1
    let a := (s.trunks k).requestRestartAttempt s.clock
    let f := s.finallyBlock c env k
    attemptLog k f.1.log = attemptLog k s.log ++ (if sr then [(s.clock, a.2)] else []) ∧
      startTimes k f.1.log = startTimes k s.log ++ (if sr && a.2 then [s.clock] else []) ∧
      (sr = false → f.1.trunks k = s.trunks k) ∧
      (sr = true → (f.1.trunks k).restartsTime = a.1.restartsTime) ∧
      ((sr && a.2) = false → f.2 = .finish) := by
  intro sr a f
  rcases finallyBlock_cases c env k s with ⟨h1, h⟩ | ⟨h1, h2, h⟩ | ⟨h1, h2, e, h, -⟩ <;>
    simp only [f, h] <;> simp_all [sr, a, attemptOf, startOf, apply_ite]

/-- The start loop of `__main__`: `start_process` for every descriptor that is needed and
not yet started, in dict order, with what each `start()` meets; it stops at the first
exception. -/
def startAll (envs : TrunkProcessEnum → TaskEnv) :
    List TrunkProcessEnum → Supervisor → Supervisor × Option PyException
  | [], s => (s, none)
  | k :: ks, s =>
    if (s.trunks k).started || !(s.trunks k).needToRun then startAll envs ks s
    else
      let r := s.startProcess (envs k) k
      match r.2 with
      | none => startAll envs ks r.1
      | some e => (r.1, some e)

def init (t : TrunkProcesses) (clock : Int) : Supervisor :=
  ⟨t.data, fun _ => .idle, [], false, clock, []⟩

/-- The supervisor entering `gather_apis`: a watch task for every needed descriptor. -/
def monitor (t : TrunkProcesses) (clock : Int) (envs : TrunkProcessEnum → TaskEnv) : Supervisor :=
  { (startAll envs TrunkProcessEnum.all (init t clock)).1 with
    tasks := fun k => if (t.data k).needToRun then .waiting else .idle }

end Supervisor

def AliveInv (s : Supervisor) : Prop :=
  ∀ k i p, s.procs[i]? = some p → p.name = k.value → p.status = .alive →
    (s.trunks k).process = some i

/-- Every process of a descriptor other than its current one was killed with `SIGKILL`. -/
def ReplacedInv (s : Supervisor) : Prop :=
  ∀ k i p, s.procs[i]? = some p → p.name = k.value → (s.trunks k).process ≠ some i →
    p.status = .exited sigkillExitcode

namespace ReplacedInv

variable {s s' : Supervisor} {k : TrunkProcessEnum}

theorem aliveInv (h : ReplacedInv s) : AliveInv s := fun k i p hp hn ha => by
  by_contra hc
  simp [h k i p hp hn hc] at ha

theorem transfer (h : ReplacedInv s) (ht : ∀ j, (s'.trunks j).process = (s.trunks j).process)
    (hp : ∀ (i : Nat) (q : Proc), s'.procs[i]? = some q → s.procs[i]? = some q ∨
      ∃ p : Proc, s.procs[i]? = some p ∧ p.status = .alive ∧ p.name = q.name) :
    ReplacedInv s' := by
  intro j i q hq hn hc
  rw [ht] at hc
  rcases hp i q hq with hq' | ⟨p, hp', hpa, hpn⟩
  · exact h j i q hq' hn hc
  · simp [h j i p hp' (hpn.trans hn) hc] at hpa

theorem setTrunk (h : ReplacedInv s) (hk : ∀ (i : Nat) (p : Proc), s.procs[i]? = some p →
      p.name = k.value → p.status = .exited sigkillExitcode) (d : TrunkProcessData) :
    ReplacedInv (s.setTrunk k d) := by
  intro j i p hp hn hc
  by_cases hjk : j = k
  · subst hjk; exact hk i p hp hn
  · exact h j i p hp hn (by simpa [hjk] using hc)

theorem startProcess (h : ReplacedInv s) (hn : (s.trunks k).name = k.value)
    (hp : (s.trunks k).process = none) (env : TaskEnv) : ReplacedInv (s.startProcess env k).1 := by
  have hnew : ∀ (j : TrunkProcessEnum) (i : Nat) (q : Proc),
      (s.procs ++ [Proc.ofTrunk (s.trunks k) env.spawned])[i]? = some q → q.name = j.value →
      ((s.startProcess env k).1.trunks j).process ≠ some i → q.status = .exited sigkillExitcode := by
    intro j i q hq hqn hc
    rcases getElem?_append_singleton hq with hi | ⟨rfl, rfl⟩
    · by_cases hjk : j = k
      · subst hjk; exact h j i q hi hqn (by simp [hp])
      · exact h j i q hi hqn (by simpa [hjk] using hc)
    · obtain rfl : j = k := TrunkProcessEnum.value_injective (hqn.symm.trans hn)
      simp at hc
  intro j i q hq hqn hc
  rcases (s.startProcess_procs env k).origin hq with hq' | ⟨p, hp', hpa, hpn⟩
  · exact hnew j i q hq' hqn hc
  · simp [hnew j i p hp' (hpn.trans hqn) hc] at hpa

end ReplacedInv

/-- What holds during the start loop: only process handles were written, nothing was
attempted, each started descriptor logged one start, and no process was replaced. -/
structure BootInv (t : TrunkProcesses) (s : Supervisor) : Prop where
  written : ∀ k, (t.data k).Written (s.trunks k)
  kept : ∀ k, (s.trunks k).restartsTime = []
  attempts : ∀ k, attemptLog k s.log = []
  starts : ∀ k, startTimes k s.log = ((s.trunks k).process.map fun _ => s.clock).toList
  replaced : ReplacedInv s

namespace Supervisor

theorem bootInv_init (t : TrunkProcesses) (clock : Int) : BootInv t (init t clock) where
  written k := .refl _
  kept := t.restartsTime_eq
  attempts _ := rfl
  starts k := by simp [init, t.process_eq k]
  replaced k i p h := by simp [init] at h

theorem bootInv_startProcess {t : TrunkProcesses} {s : Supervisor} {env : TaskEnv}
    {k : TrunkProcessEnum} (hb : BootInv t s) (hp : (s.trunks k).process = none)
    (hs : env.spawned = true) : BootInv t (s.startProcess env k).1 := by
  have hn : (s.trunks k).name = k.value := ((hb.written k).name).trans (t.name_eq k)
  constructor
  · intro j
    by_cases hj : j = k
    · subst hj; simpa using (hb.written j).trans (TrunkProcessData.written_process _ _)
    · simpa [hj] using hb.written j
  · intro j
    by_cases hj : j = k
    · subst hj; simpa using hb.kept j
    · simpa [hj] using hb.kept j
  · intro j; simp [hb.attempts j, attemptOf, hs]
  · intro j
    by_cases hj : j = k
    · subst hj; simp [hb.starts j, hp, startOf, hn, hs]
    · have hv : k.value ≠ j.value := fun h => hj (TrunkProcessEnum.value_injective h).symm
      simp [hb.starts j, hj, startOf, hn, hv, hs]
  · exact ReplacedInv.startProcess hb.replaced hn hp env

theorem startAll_spec {t : TrunkProcesses} {envs : TrunkProcessEnum → TaskEnv} :
    ∀ (ks : List TrunkProcessEnum) (s : Supervisor), ks.Nodup → BootInv t s →
      (∀ k ∈ ks, (s.trunks k).process = none) → (startAll envs ks s).2 = none →
      BootInv t (startAll envs ks s).1 ∧ (startAll envs ks s).1.tasks = s.tasks ∧
        ∀ k, (((startAll envs ks s).1.trunks k).process.isSome ↔ (s.trunks k).process.isSome ∨
          k ∈ ks ∧ (s.trunks k).needToRun = true ∧ (s.trunks k).started = false)
  | [], s, _, hb, _, _ => ⟨hb, rfl, by simp [startAll]⟩
  | k :: ks, s, hnd, hb, hp, h => by
    obtain ⟨hk, hnd⟩ := List.nodup_cons.mp hnd
    by_cases hskip : ((s.trunks k).started || !(s.trunks k).needToRun) = true
    · simp only [startAll, hskip, if_true] at h ⊢
      obtain ⟨hb', ht', hiff⟩ := startAll_spec ks s hnd hb (fun j hj => hp j (.tail _ hj)) h
      refine ⟨hb', ht', fun j => (hiff j).trans ?_⟩
      by_cases hj : j = k
      · subst hj; cases h1 : (s.trunks j).started <;> cases h2 : (s.trunks j).needToRun <;> simp_all
      · simp [hj]
    · simp only [startAll, hskip, if_false] at h ⊢
      simp only [Bool.or_eq_true, Bool.not_eq_true', not_or, Bool.not_eq_false] at hskip
      cases hr : (s.startProcess (envs k) k).2 with
      | some e => simp [hr] at h
      | none =>
        simp only [hr] at h ⊢
        have hb1 := bootInv_startProcess hb (hp k (.head _)) ((startProcess_snd_eq_none _ k s).mp hr)
        have hp1 : ∀ j ∈ ks, ((s.startProcess (envs k) k).1.trunks j).process = none := fun j hj => by
          have hjk : j ≠ k := fun e => hk (e ▸ hj)
          simpa [hjk] using hp j (.tail _ hj)
        obtain ⟨hb', ht', hiff⟩ := startAll_spec ks _ hnd hb1 hp1 h
        refine ⟨hb', by simpa using ht', fun j => (hiff j).trans ?_⟩
        by_cases hj : j = k
        · subst hj; simp [hskip, hk, hp k (.head _)]
        · simp [hj]

theorem bootInv_monitor {t : TrunkProcesses} {clock : Int} {envs : TrunkProcessEnum → TaskEnv}
    (h : (startAll envs TrunkProcessEnum.all (init t clock)).2 = none) :
    BootInv t (monitor t clock envs) ∧
      ∀ k, (((monitor t clock envs).trunks k).process.isSome ↔ (t.data k).needToRun = true) := by
  obtain ⟨hb, -, hiff⟩ := startAll_spec TrunkProcessEnum.all (init t clock) (by decide)
    (bootInv_init t clock) (fun k _ => t.process_eq k) h
  refine ⟨⟨hb.written, hb.kept, hb.attempts, hb.starts, hb.replaced⟩, fun k => (hiff k).trans ?_⟩
  simp [init, t.process_eq k, t.started_eq k, TrunkProcessEnum.mem_all]

end Supervisor

/-- The states of the supervisor, under configuration `c`, from the descriptor dict `t`:
its state entering `gather_apis` after a start loop in which no launch failed, and every
state one step of a task or of the OS leads to from one of them. -/
inductive Reachable (c : Config) (t : TrunkProcesses) : Supervisor → Prop
  | monitor (clock : Int) (envs : TrunkProcessEnum → TaskEnv)
      (h : (Supervisor.startAll envs TrunkProcessEnum.all (Supervisor.init t clock)).2 = none) :
      Reachable c t (Supervisor.monitor t clock envs)
  | step {s : Supervisor} (e : Event) : Reachable c t s → Reachable c t (s.step c e)

def JoinState.Ended : JoinState → Prop
  | .finished | .failed _ => True
  | _ => False

namespace Supervisor

variable (c : Config) (env : TaskEnv) (k j : TrunkProcessEnum) (p : Option PyException)
  (s : Supervisor)

@[simp] theorem leaveWait_trunks : (s.leaveWait c env k p).trunks = (s.finallyBlock c env k).1.trunks :=
  rfl
@[simp] theorem leaveWait_log : (s.leaveWait c env k p).log = (s.finallyBlock c env k).1.log := rfl
@[simp] theorem leaveWait_clock : (s.leaveWait c env k p).clock = s.clock := by
  simp [leaveWait]

theorem leaveWait_tasks_of_ne (hj : j ≠ k) : (s.leaveWait c env k p).tasks j = s.tasks j := by
  simp [leaveWait, hj]

theorem leaveWait_task :
    (s.leaveWait c env k p).tasks k ≠ .idle ∧
      ((s.finallyBlock c env k).2 = .finish → ((s.leaveWait c env k p).tasks k).Ended) := by
  simp only [leaveWait, setTask_tasks, Function.update_same]
  cases (s.finallyBlock c env k).2 <;> cases p <;> simp [JoinState.Ended]

end Supervisor

/-- What the log and the descriptor say of descriptor `k`'s restart attempts, in every
state from the dict `t` on: the answers logged are those of `request_restart_attempt` over
the attempt times, the kept times are its kept times, the times never go back, the starts
after the first are the admitted attempts, and a denial is the last attempt of an ended
task. -/
structure RestartInv (c : Config) (t : TrunkProcesses) (k : TrunkProcessEnum) (s : Supervisor) :
    Prop where
  answers : attemptLog k s.log = (t.data k).decisions ((attemptLog k s.log).map (·.1))
  kept : (s.trunks k).restartsTime =
    ((t.data k).requestAll ((attemptLog k s.log).map (·.1))).restartsTime
  sorted : ((attemptLog k s.log).map (·.1)).Sorted (· ≤ ·)
  le_clock : ∀ x ∈ (attemptLog k s.log).map (·.1), x ≤ s.clock
  starts : (startTimes k s.log).drop 1 = (t.data k).admitted ((attemptLog k s.log).map (·.1))
  idle : s.tasks k = .idle → attemptLog k s.log = [] ∧ startTimes k s.log = []
  busy : s.tasks k ≠ .idle → startTimes k s.log ≠ []
  denial : ∀ x, (x, false) ∈ attemptLog k s.log →
    (attemptLog k s.log).getLast? = some (x, false) ∧ (s.tasks k).Ended
  zero : c.signalsExitCode = false → (t.data k).maxRestartCount = 0 → attemptLog k s.log = []

def Written (t : TrunkProcesses) (s : Supervisor) : Prop := ∀ k, (t.data k).Written (s.trunks k)

variable {c : Config} {t : TrunkProcesses} {k : TrunkProcessEnum} {s s' : Supervisor}

theorem Written.name (h : Written t s) (k : TrunkProcessEnum) : (s.trunks k).name = k.value :=
  (h k).name.trans (t.name_eq k)

theorem RestartInv.transfer (hI : RestartInv c t k s) (htr : s'.trunks k = s.trunks k)
    (hta : s'.tasks k = s.tasks k) (ha : attemptLog k s'.log = attemptLog k s.log)
    (hs : startTimes k s'.log = startTimes k s.log) (hc : s.clock ≤ s'.clock) :
    RestartInv c t k s' := by
  obtain ⟨h1, h2, h3, h4, h5, h6, h7, h8, h9⟩ := hI
  rw [← ha, ← hs, ← htr, ← hta] at *
  exact ⟨h1, h2, h3, fun x hx => (h4 x hx).trans hc, h5, h6, h7, h8, h9⟩

theorem RestartInv.of_task (hI : RestartInv c t k s) (htr : s'.trunks k = s.trunks k)
    (ha : attemptLog k s'.log = attemptLog k s.log) (hs : startTimes k s'.log = startTimes k s.log)
    (hc : s.clock ≤ s'.clock) (hold : s.tasks k ≠ .idle) (hnew : s'.tasks k ≠ .idle)
    (hnd : ∀ x, (x, false) ∉ attemptLog k s.log) : RestartInv c t k s' := by
  obtain ⟨h1, h2, h3, h4, h5, -, h7, -, h9⟩ := hI
  rw [← ha, ← hs, ← htr] at *
  exact ⟨h1, h2, h3, fun x hx => (h4 x hx).trans hc, h5, fun h => absurd h hnew,
    fun _ => h7 hold, fun x hx => absurd (ha ▸ hx) (hnd x), h9⟩

theorem RestartInv.leaveWait (hI : RestartInv c t k s) (hW : Written t s)
    (hw : s.tasks k = .waiting) (env : TaskEnv) (p : Option PyException) :
    RestartInv c t k (s.leaveWait c env k p) := by
  obtain ⟨hA, hS, hK0, hK, hF⟩ := Supervisor.finallyBlock_views c env k s (hW.name k)
  obtain ⟨hnew, hend⟩ := Supervisor.leaveWait_task c env k p s
  have hbusy := hI.busy (by simp [hw])
  have hnd : ∀ x, (x, false) ∉ attemptLog k s.log := fun x hx => by
    simpa [hw, JoinState.Ended] using (hI.denial x hx).2
  cases hsr : ((s.trunks k).shouldRestart c (s.exitcode k)).1
  · simp only [hsr, if_false, List.append_nil, Bool.false_and] at hA hS
    exact hI.of_task (by simpa using hK0 hsr) (by simpa using hA) (by simpa using hS) (by simp)
      (by simp [hw]) hnew hnd
  · simp only [hsr, if_true, Bool.true_and] at hA hS hF
    obtain ⟨hc2, hc1⟩ := TrunkProcessData.requestRestartAttempt_congr
      (e := (t.data k).requestAll ((attemptLog k s.log).map (·.1)))
      (by simp [(hW k).maxRestartCount]) (by simp [(hW k).maxRestartIntervalSeconds]) hI.kept s.clock
    have hA' : (attemptLog k (s.leaveWait c env k p).log).map (·.1) =
        (attemptLog k s.log).map (·.1) ++ [s.clock] := by simp [hA]
    refine ⟨?_, ?_, ?_, ?_, ?_, fun h => absurd h hnew, fun _ => ?_, ?_, ?_⟩
    · rw [hA', Supervisor.leaveWait_log, hA, TrunkProcessData.decisions_append_singleton,
        ← hI.answers, hc2]
    · rw [hA', Supervisor.leaveWait_trunks, hK hsr, hc1, TrunkProcessData.requestAll_append_singleton]
    · rw [hA']
      exact List.pairwise_append.mpr ⟨hI.sorted, List.sorted_singleton _,
        fun x hx y hy => (List.mem_singleton.mp hy) ▸ hI.le_clock x hx⟩
    · rw [hA', Supervisor.leaveWait_clock]
      intro x hx
      rcases List.mem_append.mp hx with hx | hx
      · exact hI.le_clock x hx
      · exact (List.mem_singleton.mp hx).le
    · rw [hA', Supervisor.leaveWait_log, hS, TrunkProcessData.admitted_append_singleton, ← hc2,
        ← hI.starts]
      have h1 : 1 ≤ (startTimes k s.log).length := List.length_pos.mpr hbusy
      split <;> simp [List.drop_append_of_le_length h1]
    · rw [Supervisor.leaveWait_log, hS]
      simp [hbusy]
    · intro x hx
      rw [Supervisor.leaveWait_log, hA] at hx ⊢
      rcases List.mem_append.mp hx with hx | hx
      · exact absurd hx (hnd x)
      · obtain ⟨rfl, h⟩ := Prod.mk.inj (List.mem_singleton.mp hx)
        exact ⟨by simp [← h], hend (hF (by simp [← h]))⟩
    · intro hsig hN
      have := TrunkProcessData.shouldRestart_true_iff.mp hsr
      simp [hsig, (hW k).maxRestartCount, hN] at this

theorem RestartInv.leaveWait_any {j : TrunkProcessEnum} (hI : RestartInv c t k s)
    (hW : Written t s) (hw : s.tasks j = .waiting) (env : TaskEnv) (p : Option PyException) :
    RestartInv c t k (s.leaveWait c env j p) := by
  by_cases hj : k = j
  · subst hj; exact hI.leaveWait hW hw env p
  · obtain ⟨ha, hs⟩ := Supervisor.finallyBlock_views_of_ne c env j k s hj (hW.name j)
    exact hI.transfer (Supervisor.finallyBlock_trunks_of_ne c env j k s hj)
      (Supervisor.leaveWait_tasks_of_ne c env j k p s hj) ha hs (by simp)

theorem Written.leaveWait {j : TrunkProcessEnum} (hW : Written t s) (env : TaskEnv)
    (p : Option PyException) : Written t (s.leaveWait c env j p) :=
  fun k => (hW k).trans (Supervisor.finallyBlock_written c env j k s)

theorem RestartInv.interrupted (hI : RestartInv c t k s) (env : ShutdownEnv) :
    RestartInv c t k ((s.logged .keyboardInterrupt).closeApiGracefully env).1 :=
  hI.transfer rfl rfl (by simp [attemptOf]) (by simp [startOf]) le_rfl

theorem Written.step (hW : Written t s) (e : Event) : Written t (s.step c e) := by
  cases e with
  | tick n => exact hW
  | exit i code => simpa [Written, Supervisor.step] using hW
  | wake j env | raise j env =>
    simp only [Supervisor.step]
    split <;> first | exact hW.leaveWait env _ | exact hW
  | interrupt j env =>
    simp only [Supervisor.step]
    split
    · exact Written.leaveWait (s := ((s.logged .keyboardInterrupt).closeApiGracefully env.shutdown).1)
        hW env _
    · exact hW
  | ready j started =>
    simp only [Supervisor.step]
    split <;> (try split) <;> exact hW

theorem RestartInv.step (hI : RestartInv c t k s) (hW : Written t s) (e : Event) :
    RestartInv c t k (s.step c e) := by
  cases e with
  | tick n => exact hI.transfer rfl rfl rfl rfl (by simp only [Supervisor.step]; omega)
  | exit i code =>
    rw [Supervisor.step, Supervisor.exitProc_eq]
    exact hI.transfer rfl rfl rfl rfl le_rfl
  | wake j env | raise j env =>
    simp only [Supervisor.step]
    split
    · exact hI.leaveWait_any hW (by simp_all) env _
    · exact hI
  | interrupt j env =>
    simp only [Supervisor.step]
    split
    · exact (hI.interrupted env.shutdown).leaveWait_any hW (by simp_all) env _
    · exact hI
  | ready j started =>
    simp only [Supervisor.step]; split
    · rename_i p hp
      split
      · by_cases hj : k = j
        · subst hj
          have hnd : ∀ x, (x, false) ∉ attemptLog k s.log := fun x hx => by
            simpa [hp, JoinState.Ended] using (hI.denial x hx).2
          exact hI.of_task rfl (by cases started <;> simp [attemptOf])
            (by cases started <;> simp [startOf]) le_rfl (by simp [hp]) (by cases p <;> simp) hnd
        · exact hI.transfer rfl (by simp [hj]) (by cases started <;> simp [attemptOf])
            (by cases started <;> simp [startOf]) le_rfl
      · exact hI
    · exact hI

theorem restartInv_monitor {clock : Int} {envs : TrunkProcessEnum → TaskEnv}
    (h : (Supervisor.startAll envs TrunkProcessEnum.all (Supervisor.init t clock)).2 = none) :
    RestartInv c t k (Supervisor.monitor t clock envs) := by
  obtain ⟨hb, hiff⟩ := Supervisor.bootInv_monitor h
  have ha := hb.attempts k
  have hs := hb.starts k
  have htask : (Supervisor.monitor t clock envs).tasks k =
      if (t.data k).needToRun then .waiting else .idle := rfl
  refine ⟨by rw [ha]; rfl, by rw [ha, hb.kept k]; simp [t.restartsTime_eq k],
    by rw [ha]; exact List.sorted_nil, by simp [ha], ?_, ?_, ?_, by simp [ha], fun _ _ => ha⟩
  · rw [hs, ha]
    cases ((Supervisor.monitor t clock envs).trunks k).process <;> rfl
  · intro hi
    refine ⟨ha, ?_⟩
    rw [htask] at hi
    have hn : (t.data k).needToRun = false := by cases h : (t.data k).needToRun <;> simp_all
    have hp : ((Supervisor.monitor t clock envs).trunks k).process = none := by
      simpa [hn] using hiff k
    simp [hs, hp]
  · intro hi
    rw [htask] at hi
    have hn : (t.data k).needToRun = true := by cases h : (t.data k).needToRun <;> simp_all
    obtain ⟨i, hi'⟩ := Option.isSome_iff_exists.mp ((hiff k).mpr hn)
    simp [hs, hi']

theorem Reachable.restartInv (h : Reachable c t s) : Written t s ∧ ∀ k, RestartInv c t k s := by
  induction h with
  | monitor clock envs h =>
    exact ⟨(Supervisor.bootInv_monitor h).1.written, fun k => restartInv_monitor h⟩
  | step e _ ih => exact ⟨ih.1.step e, fun k => (ih.2 k).step ih.1 e⟩

/-- In every run, for every descriptor `k` with a restart limit `N > 0`: the log's answers
are those of `request_restart_attempt` over `k`'s attempt times, the restarts (the calls
of `start_process` after the first) are made exactly at the admitted attempts, no closed
window of `W > 0` seconds holds more than `N` of them, with `W = 0` there are at most `N`,
and a denial is the last attempt, after which the task has ended. Where the exit code of a
killed process cannot be read, a limit of `0` gives no restart at all. -/
theorem restarts_within_limit (h : Reachable c t s) (k : TrunkProcessEnum) :
    let d := t.data k
    let A := (attemptLog k s.log).map (·.1)
    let R := (startTimes k s.log).drop 1
    (0 < d.maxRestartCount →
      attemptLog k s.log = d.decisions A ∧ R = d.admitted A ∧
      (0 < d.maxRestartIntervalSeconds → ∀ s₀ : Int,
        (R.filter fun x => s₀ ≤ x ∧ x ≤ s₀ + d.maxRestartIntervalSeconds).length ≤
          d.maxRestartCount) ∧
      (d.maxRestartIntervalSeconds = 0 → R.length ≤ d.maxRestartCount) ∧
      (∀ x, (x, false) ∈ attemptLog k s.log →
        (attemptLog k s.log).getLast? = some (x, false) ∧ (s.tasks k).Ended)) ∧
    (c.signalsExitCode = false → d.maxRestartCount = 0 → R = []) := by
  intro d A R
  have hI := (h.restartInv).2 k
  refine ⟨fun hN => ?_, fun hsig hN => ?_⟩
  · obtain ⟨hw₁, hw₂⟩ := TrunkProcessData.admitted_window_bound (t.restartsTime_eq k) hN hI.sorted
    have hR : R = d.admitted A := hI.starts
    exact ⟨hI.answers, hR, fun hW s₀ => hR ▸ hw₁ hW s₀, fun hW => hR ▸ hw₂ hW, hI.denial⟩
  · show (startTimes k s.log).drop 1 = []
    rw [hI.starts, hI.zero hsig hN]
    rfl

def oomRestartConfig : StartupConfig :=
  ⟨47334, ⟨some true, none, none⟩, 47335, ⟨none, none, none⟩, 47336, 55432, none,
    ⟨none, none, none⟩, false, false, true, true, false⟩

theorem restarts_within_limit_after_oom_kill :
    let c : Config := ⟨false, "linux", false⟩
    let t := startupTrunks oomRestartConfig [.http]
    let env : TaskEnv := ⟨true, ⟨fun _ => .ok []⟩⟩
    let s := ((Supervisor.monitor t 0 fun _ => env).step c (.exit 0 sigkillExitcode)).step c
      (.wake .http env)
    Reachable c t s ∧
      let d := t.data .http
      let A := (attemptLog .http s.log).map (·.1)
      let R := (startTimes .http s.log).drop 1
      (0 < d.maxRestartCount →
        attemptLog .http s.log = d.decisions A ∧ R = d.admitted A ∧
        (0 < d.maxRestartIntervalSeconds → ∀ s₀ : Int,
          (R.filter fun x => s₀ ≤ x ∧ x ≤ s₀ + d.maxRestartIntervalSeconds).length ≤
            d.maxRestartCount) ∧
        (d.maxRestartIntervalSeconds = 0 → R.length ≤ d.maxRestartCount) ∧
        (∀ x, (x, false) ∈ attemptLog .http s.log →
          (attemptLog .http s.log).getLast? = some (x, false) ∧ (s.tasks .http).Ended)) ∧
      (c.signalsExitCode = false → d.maxRestartCount = 0 → R = []) :=
  have h := Reachable.step _ (Reachable.step _ (Reachable.monitor (c := ⟨false, "linux", false⟩)
    0 (fun _ => ⟨true, ⟨fun _ => .ok []⟩⟩) (by decide)))
  ⟨h, restarts_within_limit h .http⟩

end MindsdbSupervisor
