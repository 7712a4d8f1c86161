import MindsdbSupervisor.Monitor
import MindsdbSupervisor.ConcurrentSweep

/-!
# The whole program

The event loop of the main thread, the thread `do_clean_process_marks` and the other
database sessions, sharing `_stop_event` and the `predictor` table. After `gather_apis` the
interpreter joins the marks thread, which is not a daemon, before it runs the `atexit`
functions: with `_stop_event` unset the program waits there until the thread raises or a
SIGINT arrives (`Program.join_waits_for_marks_thread`).
-/

namespace MindsdbSupervisor

/-- Where the thread `do_clean_process_marks` is: in `_stop_event.wait(timeout=5)`, in the
loop of `set_error_model_status_by_pids(pids)` with the records it has not reached and
whether its session has committed, or returned. -/
inductive Cleaner
  | waiting
  | sweeping (pids : List Nat) (pending : List PredictorRecord) (expired : Bool)
  | ended
  deriving DecidableEq

namespace Cleaner

/-- The next step of the thread, given `config.is_cloud`, `_stop_event` and what
`clean_unlinked_process_marks()` returns should the wait time out. -/
def step (isCloud stop : Bool) (pids : List Nat) (db : PredictorTable) :
    Cleaner → PredictorTable × Cleaner
  | waiting =>
    if stop then (db, ended)
    else if !isCloud && pids.length > 0 then (db, sweeping pids (unfinishedRecords db) false)
    else (db, waiting)
  | sweeping _ [] _ => (db, waiting)
  | sweeping ps (o :: os) e =>
    let r := visit (fun r => r.processId.inPids ps) terminatedMessage (db, e) o
    (r.1, sweeping ps os r.2)
  | ended => (db, ended)

def pendingIds : Cleaner → List Nat
  | sweeping _ os _ => os.map (·.id)
  | _ => []

/-- The steps the thread has left once `_stop_event` is set. -/
def remaining : Cleaner → Nat
  | waiting => 1
  | sweeping _ os _ => os.length + 2
  | ended => 0

variable {isCloud : Bool} {pids : List Nat} {db : PredictorTable} {cl : Cleaner}

theorem remaining_eq_zero : cl.remaining = 0 ↔ cl = ended := by
  cases cl <;> simp [remaining]

theorem step_remaining (isCloud : Bool) (pids : List Nat) (db : PredictorTable) (cl : Cleaner) :
    (cl.step isCloud true pids db).2.remaining = cl.remaining - 1 := by
  cases cl with
  | sweeping ps os e => cases os <;> simp [step, remaining]
  | _ => rfl

theorem step_ne_ended (h : cl ≠ ended) : (cl.step isCloud false pids db).2 ≠ ended := by
  cases cl with
  | waiting => simp only [step, Bool.false_eq_true, if_false]; split <;> simp
  | sweeping ps os e => cases os <;> simp [step]
  | ended => exact absurd rfl h

theorem sweeping_find (isCloud stop : Bool) (pids : List Nat) (db : PredictorTable)
    {ps : List Nat} {os : List PredictorRecord} {e : Bool} {i : Nat}
    (hi : i ∉ (sweeping ps os e).pendingIds) :
    ((sweeping ps os e).step isCloud stop pids db).1.find i = db.find i ∧
      ((sweeping ps os e).step isCloud stop pids db).2.pendingIds.Sublist
        (sweeping ps os e).pendingIds := by
  cases os with
  | nil => exact ⟨rfl, by simp [step, pendingIds]⟩
  | cons o os =>
    have hi' : i ∉ (⟨db, o :: os, e⟩ : Sweep).pending.map (·.id) := hi
    obtain ⟨hf, hp⟩ := Sweep.step_find (fun r => r.processId.inPids ps) terminatedMessage hi' .next
    refine ⟨hf.trans ?_, hp.map _⟩
    cases db.find i <;> rfl

theorem step_find {stop : Bool} (hq : stop = true ∨ isCloud = true) (pids : List Nat)
    (db : PredictorTable) {i : Nat} (hi : i ∉ cl.pendingIds) :
    (cl.step isCloud stop pids db).1.find i = db.find i ∧
      (cl.step isCloud stop pids db).2.pendingIds.Sublist cl.pendingIds := by
  cases cl with
  | waiting => rcases hq with rfl | rfl <;> simp only [step] <;> split_ifs <;> simp_all [pendingIds]
  | sweeping ps os e => exact sweeping_find _ _ _ _ hi
  | ended => exact ⟨rfl, .refl _⟩

theorem step_find_of_finished {i : Nat} (hf : ∀ r, db.find i = some r → r.unfinished = false)
    (hi : i ∉ cl.pendingIds) (isCloud stop : Bool) (pids : List Nat) :
    (cl.step isCloud stop pids db).1.find i = db.find i ∧
      i ∉ (cl.step isCloud stop pids db).2.pendingIds := by
  cases cl with
  | waiting =>
    simp only [step]
    split_ifs
    · exact ⟨rfl, List.not_mem_nil i⟩
    · refine ⟨rfl, fun hm => ?_⟩
      obtain ⟨r, hr, rfl⟩ := List.mem_map.mp hm
      obtain ⟨hrow, hu⟩ := List.mem_filter.mp hr
      simp [hf r (db.find_of_mem hrow)] at hu
    · exact ⟨rfl, List.not_mem_nil i⟩
  | sweeping ps os e =>
    obtain ⟨hf, hp⟩ := sweeping_find isCloud stop pids db hi
    exact ⟨hf, fun h => hi (hp.subset h)⟩
  | ended => exact ⟨rfl, hi⟩

end Cleaner

def JoinState.running : JoinState → Bool
  | .waiting | .awaitingStart _ => true
  | _ => false

/-- `gather_apis()` is done: a task raised, which `return_exceptions=False` passes on at
once, or every task it gathered has returned. -/
def Supervisor.gatherDone (s : Supervisor) : Bool :=
  !s.looping || TrunkProcessEnum.all.all fun k => !(s.tasks k).running

theorem Supervisor.step_of_gatherDone {c : Config} {s : Supervisor} (h : s.gatherDone = true)
    (e : Event) : (s.step c e).tasks = s.tasks ∧ (s.step c e).stopEvent = s.stopEvent := by
  have hidle : ∀ k, s.looping = true → (s.tasks k).running = false := fun k hl => by
    simp [gatherDone, hl, TrunkProcessEnum.mem_all] at h
    exact h k
  have hw : ∀ k, ¬(s.looping = true ∧ s.tasks k = .waiting) := fun k hw => by
    simpa [hw.2, JoinState.running] using hidle k hw.1
  cases e with
  | tick n => exact ⟨rfl, rfl⟩
  | exit i code => exact ⟨exitProc_tasks s i code, exitProc_stopEvent s i code⟩
  | wake k env =>
    simp only [step]
    rw [if_neg fun h' => hw k ⟨h'.1, h'.2.1⟩]
    exact ⟨rfl, rfl⟩
  | interrupt k env | raise k env =>
    simp only [step]
    rw [if_neg (hw k)]
    exact ⟨rfl, rfl⟩
  | ready k started =>
    simp only [step]
    split
    · rename_i p hp
      have : s.looping = false :=
        Bool.eq_false_iff.mpr fun hl => by simpa [hp, JoinState.running] using hidle k hl
      simp [this]
    · exact ⟨rfl, rfl⟩

theorem Supervisor.gatherDone_of_tasks {s s' : Supervisor} (h : s'.tasks = s.tasks) :
    s'.gatherDone = s.gatherDone := by
  simp [gatherDone, looping, h]

theorem Supervisor.gatherDone_step {c : Config} {s : Supervisor} (h : s.gatherDone = true)
    (e : Event) : (s.step c e).gatherDone = true :=
  (gatherDone_of_tasks (step_of_gatherDone h e).1).trans h

theorem Supervisor.step_stopEvent {c : Config} {s : Supervisor} (h : s.stopEvent = true)
    (e : Event) : (s.step c e).stopEvent = true := by
  rw [← Supervisor.setStopEvent_of_stopEvent s h, Supervisor.step_setStopEvent]
  rfl

/-- In `ioloop.run_until_complete(gather_apis())`, in the interpreter's join of the threads
that are not daemons, or past the `atexit` functions. -/
inductive MainThread
  | gathering
  | joining
  | exited
  deriving DecidableEq

structure Program where
  sup : Supervisor
  db : PredictorTable
  cleaner : Cleaner
  main : MainThread

/-- A step of the event loop or the OS, a step of the marks thread, its body raising (an
error of `clean_unlinked_process_marks()` or of its sweep's query or commit, which
`do_clean_process_marks` does not catch), a commit of another session, the main thread
leaving `gather_apis`, a SIGINT, or the interpreter calling the `atexit` functions. A
SIGINT inside the event loop is the supervisor's `interrupt`; in the interpreter's join the
`KeyboardInterrupt` is ignored and the `atexit` functions run. -/
inductive ProgramEvent
  | sup (e : Event)
  | cleaner (pids : List Nat)
  | cleanerRaise
  | commit (i : Nat) (w : PredictorRecord → PredictorRecord)
  | leaveLoop
  | sigint (env : ShutdownEnv)
  | atexit (env : ShutdownEnv)

namespace ProgramEvent

def ofCleaner : ProgramEvent → Bool
  | cleaner _ => true
  | _ => false

def endsJoin : ProgramEvent → Bool
  | cleanerRaise | sigint _ => true
  | _ => false

def toSweep : ProgramEvent → SweepEvent
  | commit i w => .commit i w
  | _ => .next

end ProgramEvent

namespace Program

def start (t : TrunkProcesses) (clock : Int) (envs : TrunkProcessEnum → TaskEnv)
    (db : PredictorTable) : Program :=
  ⟨Supervisor.monitor t clock envs, db, .waiting, .gathering⟩

def exit (env : ShutdownEnv) (P : Program) : Program :=
  { P with sup := (P.sup.closeApiGracefully env).1, main := .exited }

def step (c : Config) (P : Program) : ProgramEvent → Program
  | .sup e => { P with sup := P.sup.step c e }
  | .cleaner pids =>
    let r := P.cleaner.step c.isCloud P.sup.stopEvent pids P.db
    { P with db := r.1, cleaner := r.2 }
  | .cleanerRaise => { P with cleaner := .ended }
  | .commit i w => { P with db := P.db.update i w }
  | .leaveLoop =>
    match P.main with
    | .gathering => if P.sup.gatherDone then { P with main := .joining } else P
    | _ => P
  | .sigint env =>
    match P.main with
    | .joining => P.exit env
    | _ => P
  | .atexit env =>
    match P.main, P.cleaner with
    | .joining, .ended => P.exit env
    | _, _ => P

def run (c : Config) (P : Program) (es : List ProgramEvent) : Program := es.foldl (step c) P

inductive Reachable (c : Config) (t : TrunkProcesses) : Program → Prop
  | start (clock : Int) (envs : TrunkProcessEnum → TaskEnv) (db : PredictorTable)
      (h : (Supervisor.startAll envs TrunkProcessEnum.all (Supervisor.init t clock)).2 = none) :
      Reachable c t (start t clock envs db)
  | step {P : Program} (e : ProgramEvent) : Reachable c t P → Reachable c t (P.step c e)

variable {c : Config} {t : TrunkProcesses} {P : Program}

@[simp] theorem run_nil (P : Program) : P.run c [] = P := rfl

@[simp] theorem run_cons (P : Program) (e : ProgramEvent) (es : List ProgramEvent) :
    P.run c (e :: es) = (P.step c e).run c es := rfl

theorem run_append (P : Program) (es es' : List ProgramEvent) :
    P.run c (es ++ es') = (P.run c es).run c es' :=
  List.foldl_append _ _ _ _

theorem step_leaveLoop (P : Program) : P.step c .leaveLoop =
    { P with main := if P.main = .gathering ∧ P.sup.gatherDone = true then .joining else P.main } := by
  obtain ⟨sup, db, cl, main⟩ := P
  cases main <;> by_cases hd : sup.gatherDone = true <;> simp [step, hd]

theorem step_sigint (P : Program) (env : ShutdownEnv) :
    P.step c (.sigint env) = if P.main = .joining then P.exit env else P := by
  obtain ⟨sup, db, cl, main⟩ := P
  cases main <;> simp [step]

theorem step_atexit (P : Program) (env : ShutdownEnv) : P.step c (.atexit env) =
    if P.main = .joining ∧ P.cleaner = .ended then P.exit env else P := by
  obtain ⟨sup, db, cl, main⟩ := P
  cases main <;> cases cl <;> simp [step]

theorem step_find (hq : P.sup.stopEvent = true ∨ c.isCloud = true) {i : Nat}
    (hi : i ∉ P.cleaner.pendingIds) (e : ProgramEvent) :
    (P.step c e).db.find i = (P.db.find i).map (Sweep.othersOnly [e.toSweep]) ∧
      (P.step c e).cleaner.pendingIds.Sublist P.cleaner.pendingIds ∧
      ((P.step c e).sup.stopEvent = true ∨ c.isCloud = true) := by
  have hnext : (P.db.find i).map (Sweep.othersOnly [.next]) = P.db.find i := by
    cases P.db.find i <;> rfl
  cases e with
  | sup e =>
    exact ⟨hnext.symm, .refl _, hq.imp_left fun h => Supervisor.step_stopEvent h e⟩
  | cleaner pids =>
    obtain ⟨hf, hp⟩ := Cleaner.step_find hq pids P.db hi
    exact ⟨hf.trans hnext.symm, hp, hq⟩
  | cleanerRaise => exact ⟨hnext.symm, List.nil_sublist _, hq⟩
  | commit j w => exact ⟨PredictorTable.find_update _ _ _ _, .refl _, hq⟩
  | leaveLoop => rw [step_leaveLoop]; exact ⟨hnext.symm, .refl _, hq⟩
  | sigint env =>
    rw [step_sigint]
    split_ifs
    · exact ⟨hnext.symm, .refl _, .inl rfl⟩
    · exact ⟨hnext.symm, .refl _, hq⟩
  | atexit env =>
    rw [step_atexit]
    split_ifs
    · exact ⟨hnext.symm, .refl _, .inl rfl⟩
    · exact ⟨hnext.symm, .refl _, hq⟩

theorem run_find (hq : P.sup.stopEvent = true ∨ c.isCloud = true) {i : Nat}
    (hi : i ∉ P.cleaner.pendingIds) (es : List ProgramEvent) :
    (P.run c es).db.find i = (P.db.find i).map (Sweep.othersOnly (es.map ProgramEvent.toSweep)) := by
  induction es generalizing P with
  | nil => rw [run_nil]; cases P.db.find i <;> rfl
  | cons e es ih =>
    obtain ⟨hf, hp, hq'⟩ := P.step_find hq hi e
    rw [run_cons, ih hq' fun h => hi (hp.subset h), hf, Option.map_map]
    rfl

theorem step_remaining (h : P.sup.stopEvent = true) (e : ProgramEvent) :
    (P.step c e).sup.stopEvent = true ∧
      (P.step c e).cleaner.remaining ≤ P.cleaner.remaining - if e.ofCleaner then 1 else 0 := by
  cases e with
  | sup e => exact ⟨Supervisor.step_stopEvent h e, le_rfl⟩
  | cleaner pids =>
    refine ⟨h, ?_⟩
    simp only [step, h, ProgramEvent.ofCleaner, if_true]
    exact (Cleaner.step_remaining _ _ _ _).le
  | cleanerRaise => exact ⟨h, Nat.zero_le _⟩
  | commit j w => exact ⟨h, le_rfl⟩
  | leaveLoop => rw [step_leaveLoop]; exact ⟨h, le_rfl⟩
  | sigint env =>
    rw [step_sigint]
    by_cases hx : P.main = .joining
    · rw [if_pos hx]; exact ⟨rfl, le_rfl⟩
    · rw [if_neg hx]; exact ⟨h, le_rfl⟩
  | atexit env =>
    rw [step_atexit]
    by_cases hx : P.main = .joining ∧ P.cleaner = .ended
    · rw [if_pos hx]; exact ⟨rfl, le_rfl⟩
    · rw [if_neg hx]; exact ⟨h, le_rfl⟩

theorem run_remaining (h : P.sup.stopEvent = true) (es : List ProgramEvent) :
    (P.run c es).cleaner.remaining ≤ P.cleaner.remaining - es.countP ProgramEvent.ofCleaner := by
  induction es generalizing P with
  | nil => exact le_rfl
  | cons e es ih =>
    obtain ⟨h', hr⟩ := P.step_remaining (c := c) h e
    have := ih h'
    rw [run_cons, List.countP_cons]
    split_ifs at hr ⊢ <;> omega

theorem run_ended (h : P.sup.stopEvent = true) {es : List ProgramEvent}
    (hn : P.cleaner.remaining ≤ es.countP ProgramEvent.ofCleaner) : (P.run c es).cleaner = .ended :=
  Cleaner.remaining_eq_zero.mp (by have := run_remaining (c := c) h es; omega)

/-- Once `_stop_event` is set, the marks thread finishes the sweep it is in and returns,
whatever runs beside it: every record outside that sweep ends as the other sessions'
commits alone make it, and the thread has returned after the steps `Cleaner.remaining`
counts. -/
theorem run_of_stopEvent (P : Program) (h : P.sup.stopEvent = true) (es : List ProgramEvent) :
    (∀ i ∉ P.cleaner.pendingIds,
      (P.run c es).db.find i = (P.db.find i).map (Sweep.othersOnly (es.map ProgramEvent.toSweep))) ∧
    (P.cleaner.remaining ≤ es.countP ProgramEvent.ofCleaner → (P.run c es).cleaner = .ended) :=
  ⟨fun _ hi => run_find (.inl h) hi es, run_ended h⟩

theorem marks_thread_ends_after_stop :
    let c : Config := ⟨false, "linux", false⟩
    let P : Program := ⟨(Supervisor.httpRunning.closeApiGracefully ⟨fun _ => .ok []⟩).1,
      trainingTable, .sweeping [7] (unfinishedRecords trainingTable) false, .gathering⟩
    let es : List ProgramEvent := [.cleaner [], .commit 1 id, .cleaner [7], .cleaner [7]]
    P.sup.stopEvent = true ∧
      (∀ i ∉ P.cleaner.pendingIds,
        (P.run c es).db.find i = (P.db.find i).map (Sweep.othersOnly (es.map ProgramEvent.toSweep))) ∧
      (P.cleaner.remaining ≤ es.countP ProgramEvent.ofCleaner → (P.run c es).cleaner = .ended) :=
  ⟨rfl, run_of_stopEvent _ rfl _⟩

theorem run_find_of_cloud (hc : c.isCloud = true) (t : TrunkProcesses) (clock : Int)
    (envs : TrunkProcessEnum → TaskEnv) (db : PredictorTable) (es : List ProgramEvent) (i : Nat) :
    ((start t clock envs db).run c es).db.find i =
      (db.find i).map (Sweep.othersOnly (es.map ProgramEvent.toSweep)) :=
  run_find (.inr hc) (List.not_mem_nil i) es

/-- Record `i` is finished or absent, and the sweep in progress has not queried it. -/
structure Settled (i : Nat) (P : Program) : Prop where
  finished : ∀ r, P.db.find i = some r → r.unfinished = false
  unqueried : i ∉ P.cleaner.pendingIds

theorem Settled.step {i : Nat} (h : Settled i P) {e : ProgramEvent} (he : ∀ w, e ≠ .commit i w) :
    (P.step c e).db.find i = P.db.find i ∧ Settled i (P.step c e) := by
  have keep : ∀ {P' : Program}, P'.db.find i = P.db.find i → i ∉ P'.cleaner.pendingIds →
      P'.db.find i = P.db.find i ∧ Settled i P' := fun hf hp =>
    ⟨hf, fun r hr => h.finished r (hf ▸ hr), hp⟩
  cases e with
  | sup e => exact keep rfl h.unqueried
  | cleaner pids =>
    obtain ⟨hf, hp⟩ := Cleaner.step_find_of_finished h.finished h.unqueried c.isCloud
      P.sup.stopEvent pids
    exact keep hf hp
  | cleanerRaise => exact keep rfl (List.not_mem_nil i)
  | commit j w => exact keep (P.db.find_update_ne w fun hj => he w (hj ▸ rfl)) h.unqueried
  | leaveLoop => rw [step_leaveLoop]; exact keep rfl h.unqueried
  | sigint env => rw [step_sigint]; split_ifs <;> exact keep rfl h.unqueried
  | atexit env => rw [step_atexit]; split_ifs <;> exact keep rfl h.unqueried

theorem Settled.run {i : Nat} (h : Settled i P) {es : List ProgramEvent}
    (hes : ∀ e ∈ es, ∀ w, e ≠ .commit i w) : (P.run c es).db.find i = P.db.find i := by
  induction es generalizing P with
  | nil => rfl
  | cons e es ih =>
    obtain ⟨hf, h'⟩ := h.step (c := c) (hes e (List.mem_cons_self e es))
    exact (ih h' fun e' he' => hes e' (List.mem_cons_of_mem e he')).trans hf

theorem step_cleaner_ne_ended (hs : P.sup.stopEvent = false) (ha : P.cleaner ≠ .ended)
    (pids : List Nat) : (P.step c (.cleaner pids)).cleaner ≠ .ended := by
  show (P.cleaner.step c.isCloud P.sup.stopEvent pids P.db).2 ≠ .ended
  rw [hs]
  exact Cleaner.step_ne_ended ha

/-- The main thread waits in the interpreter's join for a marks thread that can return only
once `_stop_event` is set. -/
structure Hung (P : Program) : Prop where
  joining : P.main = .joining
  done : P.sup.gatherDone = true
  unset : P.sup.stopEvent = false
  alive : P.cleaner ≠ .ended

theorem Hung.step (h : Hung P) {e : ProgramEvent} (he : e.endsJoin = false) :
    Hung (P.step c e) := by
  cases e with
  | sup e =>
    exact ⟨h.joining, Supervisor.gatherDone_step h.done e,
      (Supervisor.step_of_gatherDone h.done e).2.trans h.unset, h.alive⟩
  | cleaner pids => exact ⟨h.joining, h.done, h.unset, step_cleaner_ne_ended h.unset h.alive pids⟩
  | cleanerRaise | sigint env => cases he
  | commit j w => exact ⟨h.joining, h.done, h.unset, h.alive⟩
  | leaveLoop => rw [step_leaveLoop, if_neg fun h' => by simp [h.joining] at h']; exact h
  | atexit env => rw [step_atexit, if_neg fun h' => h.alive h'.2]; exact h

theorem Hung.run (h : Hung P) {es : List ProgramEvent} (hes : ∀ e ∈ es, e.endsJoin = false) :
    Hung (P.run c es) := by
  induction es generalizing P with
  | nil => exact h
  | cons e es ih =>
    exact ih (h.step (hes e (List.mem_cons_self e es))) fun e' he' =>
      hes e' (List.mem_cons_of_mem e he')

theorem Reachable.gatherDone (h : Reachable c t P) (hm : P.main ≠ .gathering) :
    P.sup.gatherDone = true := by
  induction h with
  | start clock envs db h => exact absurd rfl hm
  | @step P e _ ih =>
    cases e with
    | sup e => exact Supervisor.gatherDone_step (ih hm) e
    | cleaner pids | cleanerRaise | commit j w => exact ih hm
    | leaveLoop =>
      rw [step_leaveLoop] at hm ⊢
      split_ifs at hm with hd
      · exact hd.2
      · exact ih hm
    | sigint env =>
      rw [step_sigint] at hm ⊢
      split_ifs at hm ⊢ with he
      · exact ih (by simp [he])
      · exact ih hm
    | atexit env =>
      rw [step_atexit] at hm ⊢
      split_ifs at hm ⊢ with he
      · exact ih (by simp [he.1])
      · exact ih hm

theorem main_ne_gathering (hm : P.main ≠ .gathering) (es : List ProgramEvent) :
    (P.run c es).main ≠ .gathering := by
  induction es generalizing P with
  | nil => exact hm
  | cons e es ih =>
    refine ih ?_
    cases e with
    | leaveLoop => rw [step_leaveLoop]; split_ifs <;> simp_all
    | sigint env => rw [step_sigint]; split_ifs <;> simp_all [exit]
    | atexit env => rw [step_atexit]; split_ifs <;> simp_all [exit]
    | _ => exact hm

/-- Once the main thread has left `gather_apis`, with `_stop_event` unset and the marks
thread alive, the program stays in the interpreter's join through every run in which the
thread does not raise and no SIGINT arrives, and `close_api_gracefully` does not run. A
SIGINT there runs the `atexit` functions; so does the thread's raising, once the join has
returned. With `_stop_event` set, the program exits once the thread has taken the steps it
has left. -/
theorem join_waits_for_marks_thread (h : Reachable c t P) (hm : P.main = .joining) :
    (P.sup.stopEvent = false → P.cleaner ≠ .ended → ∀ es, (∀ e ∈ es, e.endsJoin = false) →
      (P.run c es).main = .joining ∧ (P.run c es).sup.stopEvent = false ∧
        (P.run c es).cleaner ≠ .ended) ∧
    (∀ env, P.step c (.sigint env) = P.exit env) ∧
    (∀ env, P.run c [.cleanerRaise, .atexit env] = (P.step c .cleanerRaise).exit env) ∧
    (P.sup.stopEvent = true → ∀ es env, P.cleaner.remaining ≤ es.countP ProgramEvent.ofCleaner →
      (P.run c (es ++ [.atexit env])).main = .exited) := by
  refine ⟨fun hs ha es hes => ?_, fun env => ?_, fun env => ?_, fun hs es env hn => ?_⟩
  · have hH := Hung.run (c := c) ⟨hm, h.gatherDone (by simp [hm]), hs, ha⟩ hes
    exact ⟨hH.joining, hH.unset, hH.alive⟩
  · rw [step_sigint, if_pos hm]
  · rw [run_cons, run_cons, run_nil, step_atexit, if_pos ⟨hm, rfl⟩]
  · have he := run_ended (c := c) hs hn
    have hg := main_ne_gathering (c := c) (P := P) (by simp [hm]) es
    rw [run_append, run_cons, run_nil, step_atexit]
    split_ifs with hq
    · rfl
    · cases hj : (P.run c es).main
      · exact absurd hj hg
      · exact absurd ⟨hj, he⟩ hq
      · rfl

theorem hangs_after_api_exit :
    let c : Config := ⟨false, "linux", false⟩
    let t := startupTrunks oomRestartConfig [.http]
    let env : TaskEnv := ⟨true, ⟨fun _ => .ok []⟩⟩
    let P := (((start t 0 (fun _ => env) trainingTable).step c (.sup (.exit 0 1))).step c
      (.sup (.wake .http env))).step c .leaveLoop
    Reachable c t P ∧ P.main = .joining ∧ P.sup.stopEvent = false ∧ P.cleaner ≠ .ended ∧
      (P.sup.stopEvent = false → P.cleaner ≠ .ended → ∀ es, (∀ e ∈ es, e.endsJoin = false) →
        (P.run c es).main = .joining ∧ (P.run c es).sup.stopEvent = false ∧
          (P.run c es).cleaner ≠ .ended) ∧
      (∀ env, P.step c (.sigint env) = P.exit env) ∧
      (∀ env, P.run c [.cleanerRaise, .atexit env] = (P.step c .cleanerRaise).exit env) ∧
      (P.sup.stopEvent = true → ∀ es env, P.cleaner.remaining ≤ es.countP ProgramEvent.ofCleaner →
        (P.run c (es ++ [.atexit env])).main = .exited) :=
  have h : Reachable ⟨false, "linux", false⟩ _ _ := .step _ (.step _ (.step _
    (.start 0 (fun _ => ⟨true, ⟨fun _ => .ok []⟩⟩) trainingTable (by decide))))
  have hm : _ = MainThread.joining := by decide
  ⟨h, hm, by decide, by decide, join_waits_for_marks_thread h hm⟩

theorem Reachable.supervisor (h : Reachable c t P) (hm : P.main ≠ .exited) :
    MindsdbSupervisor.Reachable c t P.sup := by
  induction h with
  | start clock envs db h => exact .monitor clock envs h
  | @step P e _ ih =>
    cases e with
    | sup e => exact .step e (ih hm)
    | cleaner pids | cleanerRaise | commit i w => exact ih hm
    | leaveLoop =>
      rw [step_leaveLoop] at hm ⊢
      exact ih fun he => hm (by simp [he])
    | sigint env =>
      rw [step_sigint] at hm ⊢
      split_ifs at hm ⊢
      · exact absurd rfl hm
      · exact ih hm
    | atexit env =>
      rw [step_atexit] at hm ⊢
      split_ifs at hm ⊢
      · exact absurd rfl hm
      · exact ih hm

end Program

end MindsdbSupervisor
