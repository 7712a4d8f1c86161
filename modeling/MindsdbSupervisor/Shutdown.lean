import MindsdbSupervisor.State

/-!
# Shutdown

`close_api_gracefully` sets `_stop_event`, then for each descriptor with a process signals
the process's children (`os.kill(p, SIGTERM)`, falling back to `p.kill()`) and terminates
and joins the process. A `psutil.NoSuchProcess` raised anywhere in one descriptor's block
ends that block only; any other exception ends the loop and leaves the function. What the
OS answers is a `ShutdownEnv`. Shutdown only ever ends running processes.
-/

namespace MindsdbSupervisor

/-- How signalling one child of a service process goes: `os.kill` returns, or it raises and
`p.kill()` returns, or both raise (the second with the exception given). -/
inductive ChildSignal
  | terminated
  | killed
  | killRaised (e : PyException)
  deriving DecidableEq, Repr

/-- The OS's answers during one shutdown: what `get_child_pids` gives, or raises, for the
process behind each handle. -/
structure ShutdownEnv where
  childPids : Nat → Except PyException (List ChildSignal)

def sigtermExitcode : Int := -15

namespace Shutdown

/-- The loop over `childs`; the exception of a failed `p.kill()` is not caught. -/
def signalChildren : List ChildSignal → Except PyException Unit
  | [] => .ok ()
  | .killRaised e :: _ => .error e
  | _ :: cs => signalChildren cs

/-- `process.terminate()` then `process.join()`. A process whose `start()` raised has no
`_popen`, so `terminate()` raises `AttributeError`. -/
def terminateJoin (procs : List Proc) (i : Nat) : Except PyException (List Proc) :=
  match procs[i]? with
  | none => .ok procs
  | some p => match p.status with
    | .created => .error .attributeError
    | .alive => .ok (procs.set i { p with status := .exited sigtermExitcode })
    | .exited _ => .ok procs

/-- The `try` block of one descriptor with its `except psutil.NoSuchProcess: pass`. -/
def closeProcess (env : ShutdownEnv) (procs : List Proc) (i : Nat) :
    Except PyException (List Proc) :=
  match env.childPids i >>= signalChildren >>= fun _ => terminateJoin procs i with
  | .error .noSuchProcess => .ok procs
  | r => r

/-- The loop over the descriptors' handles, with the processes as they are where it stops. -/
def closeAll (env : ShutdownEnv) : List (Option Nat) → List Proc → List Proc × Option PyException
  | [], procs => (procs, none)
  | none :: hs, procs => closeAll env hs procs
  | some i :: hs, procs =>
    match closeProcess env procs i with
    | .ok procs' => closeAll env hs procs'
    | .error e => (procs, some e)

/-- Each process of `procs'` is the one of `procs` at its index, or that one, running
before, ended by `SIGTERM`. -/
def Ends (procs procs' : List Proc) : Prop :=
  ∀ i : Nat, procs'[i]? = procs[i]? ∨ ∃ p : Proc, procs[i]? = some p ∧ p.status = .alive ∧
    procs'[i]? = some { p with status := .exited sigtermExitcode }

theorem Ends.refl (procs : List Proc) : Ends procs procs := fun _ => .inl rfl

theorem Ends.trans {a b c : List Proc} (hab : Ends a b) (hbc : Ends b c) : Ends a c := by
  intro i
  rcases hab i with h | ⟨p, hp, ha, hb⟩
  · rcases hbc i with h' | ⟨q, hq, hqa, hc⟩
    · exact .inl (h'.trans h)
    · exact .inr ⟨q, h ▸ hq, hqa, hc⟩
  · rcases hbc i with h' | ⟨q, hq, hqa, -⟩
    · exact .inr ⟨p, hp, ha, h'.trans hb⟩
    · rw [hb, Option.some_inj] at hq
      simp [← hq] at hqa

theorem Ends.origin {procs procs' : List Proc} (h : Ends procs procs') {i : Nat} {q : Proc}
    (hq : procs'[i]? = some q) :
    procs[i]? = some q ∨ ∃ p : Proc, procs[i]? = some p ∧ p.status = .alive ∧ p.name = q.name := by
  rcases h i with h | ⟨p, hp, hpa, hp'⟩
  · exact .inl (h ▸ hq)
  · rw [hp', Option.some_inj] at hq
    exact .inr ⟨p, hp, hpa, by rw [← hq]⟩

theorem terminateJoin_ends {procs procs' : List Proc} {i : Nat}
    (h : terminateJoin procs i = .ok procs') : Ends procs procs' := by
  unfold terminateJoin at h
  cases hp : procs[i]? with
  | none => simp only [hp, Except.ok.injEq] at h; exact h ▸ .refl _
  | some p =>
    have hi := (List.getElem?_eq_some_iff.mp hp).1
    cases hs : p.status with
    | created => simp [hp, hs] at h
    | exited c => simp only [hp, hs, Except.ok.injEq] at h; exact h ▸ .refl _
    | alive =>
      simp only [hp, hs, Except.ok.injEq] at h
      subst h
      intro j
      by_cases hj : i = j
      · subst hj
        exact .inr ⟨p, hp, hs, List.getElem?_set_self hi⟩
      · exact .inl (List.getElem?_set_ne hj)

theorem closeProcess_ends {env : ShutdownEnv} {procs procs' : List Proc} {i : Nat}
    (h : closeProcess env procs i = .ok procs') : Ends procs procs' := by
  unfold closeProcess at h
  generalize hx : (env.childPids i >>= signalChildren >>= fun _ => terminateJoin procs i) = x at h
  rcases x with e | v
  · cases e <;> simp at h
    exact h ▸ .refl _
  · cases h
    cases hc : env.childPids i with
    | error e => simp [hc, bind, Except.bind] at hx
    | ok cs =>
      cases hs : signalChildren cs with
      | error e => simp [hc, hs, bind, Except.bind] at hx
      | ok u => exact terminateJoin_ends (by simpa [hc, hs, bind, Except.bind] using hx)

theorem Ends.created {procs procs' : List Proc} (h : Ends procs procs') {i : Nat} {q : Proc}
    (hq : procs'[i]? = some q) (hc : q.status = .created) : procs[i]? = some q := by
  rcases h i with h | ⟨p, -, -, hp⟩
  · exact h ▸ hq
  · rw [hp, Option.some_inj] at hq
    simp [← hq] at hc

theorem closeAll_ends (env : ShutdownEnv) (hs : List (Option Nat)) (procs : List Proc) :
    Ends procs (closeAll env hs procs).1 := by
  induction hs generalizing procs with
  | nil => exact .refl _
  | cons h hs ih =>
    cases h with
    | none => exact ih procs
    | some i =>
      simp only [closeAll]
      split
      · exact (closeProcess_ends ‹_›).trans (ih _)
      · exact .refl _

end Shutdown

/-- `close_api_gracefully(trunc_processes_struct)` and the exception it raises; its
`except KeyboardInterrupt` turns an interrupt into `sys.exit(0)`. -/
def Supervisor.closeApiGracefully (env : ShutdownEnv) (s : Supervisor) :
    Supervisor × Option PyException :=
  let r := Shutdown.closeAll env (TrunkProcessEnum.all.map fun k => (s.trunks k).process) s.procs
  ({ s with stopEvent := true, procs := r.1 },
    r.2.map fun e => if e = .keyboardInterrupt then .systemExit 0 else e)

namespace Supervisor

variable (env : ShutdownEnv) (s : Supervisor)

@[simp] theorem closeApiGracefully_trunks : (s.closeApiGracefully env).1.trunks = s.trunks := rfl
@[simp] theorem closeApiGracefully_tasks : (s.closeApiGracefully env).1.tasks = s.tasks := rfl
@[simp] theorem closeApiGracefully_stopEvent : (s.closeApiGracefully env).1.stopEvent = true := rfl
@[simp] theorem closeApiGracefully_clock : (s.closeApiGracefully env).1.clock = s.clock := rfl
@[simp] theorem closeApiGracefully_log : (s.closeApiGracefully env).1.log = s.log := rfl

theorem closeApiGracefully_ends : Shutdown.Ends s.procs (s.closeApiGracefully env).1.procs :=
  Shutdown.closeAll_ends _ _ _

theorem closeApiGracefully_setStopEvent :
    s.setStopEvent.closeApiGracefully env = s.closeApiGracefully env := rfl

def httpRunning : Supervisor :=
  ⟨fun k => { name := k.value, entrypoint := .startHttp, process := if k = .http then some 0 else none },
    fun _ => .waiting, [⟨"http", .startHttp, some [false, false], .alive⟩], false, 0, []⟩

end Supervisor

end MindsdbSupervisor
