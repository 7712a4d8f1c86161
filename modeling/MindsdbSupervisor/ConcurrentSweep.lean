import MindsdbSupervisor.Predictor

/-!
# The sweep against other writers

`set_error_model_status_by_pids` in the marks thread, one loop pass a step, while other
sessions commit to the same records. It writes only what its query returned, but reads a
status only in that query (`sweep_overwrites_complete`).
-/

namespace MindsdbSupervisor

/-- A step while the sweep runs: the next pass of its loop, or another session committing
`w` to row `i`. -/
inductive SweepEvent
  | next
  | commit (i : Nat) (w : PredictorRecord → PredictorRecord)

/-- The table, the queried records the loop has not reached, and whether the sweep's
session has committed. -/
structure Sweep where
  db : PredictorTable
  pending : List PredictorRecord
  expired : Bool

namespace Sweep

variable (sel : PredictorRecord → Bool) (msg : String)

def start (db : PredictorTable) : Sweep := ⟨db, unfinishedRecords db, false⟩

def step (st : Sweep) : SweepEvent → Sweep
  | .next =>
    match st.pending with
    | [] => st
    | o :: os =>
      let r := visit sel msg (st.db, st.expired) o
      ⟨r.1, os, r.2⟩
  | .commit i w => { st with db := st.db.update i w }

def run (st : Sweep) (es : List SweepEvent) : Sweep := es.foldl (step sel msg) st

/-- What the other sessions' commits alone make of a row. -/
def othersOnly (es : List SweepEvent) (r : PredictorRecord) : PredictorRecord :=
  es.foldl (fun r e => match e with
    | .next => r
    | .commit i w => PredictorTable.rewrite i w r) r

@[simp] theorem run_nil (st : Sweep) : run sel msg st [] = st := rfl

@[simp] theorem run_cons (st : Sweep) (e : SweepEvent) (es : List SweepEvent) :
    run sel msg st (e :: es) = run sel msg (step sel msg st e) es := rfl

theorem run_next (os : List PredictorRecord) (db : PredictorTable) (e : Bool) :
    run sel msg ⟨db, os, e⟩ (List.replicate os.length .next) =
      ⟨(os.foldl (visit sel msg) (db, e)).1, [], (os.foldl (visit sel msg) (db, e)).2⟩ := by
  induction os generalizing db e with
  | nil => rfl
  | cons o os ih => exact ih _ _

theorem run_next_repair (db : PredictorTable) :
    (run sel msg (start db) (List.replicate (unfinishedRecords db).length .next)).db =
      repair sel msg db := by
  rw [start, run_next]
  rfl

theorem step_find {st : Sweep} {i : Nat} (hi : i ∉ st.pending.map (·.id)) (e : SweepEvent) :
    (step sel msg st e).db.find i = (st.db.find i).map (fun r => othersOnly [e] r) ∧
      (step sel msg st e).pending.Sublist st.pending := by
  cases e with
  | commit j w => exact ⟨PredictorTable.find_update _ _ _ _, .refl _⟩
  | next =>
    cases h : st.pending with
    | nil =>
      simp only [step, h]
      exact ⟨by cases st.db.find i <;> rfl, .refl _⟩
    | cons o os =>
      simp only [h, List.map_cons, List.mem_cons, not_or] at hi
      simp only [step, h, visit]
      refine ⟨?_, List.sublist_cons_self o os⟩
      split
      · rw [PredictorTable.find_update_ne _ _ (Ne.symm hi.1)]
        cases st.db.find i <;> rfl
      · cases st.db.find i <;> rfl

theorem othersOnly_cons (e : SweepEvent) (es : List SweepEvent) (r : PredictorRecord) :
    othersOnly (e :: es) r = othersOnly es (othersOnly [e] r) := rfl

theorem run_find {st : Sweep} {i : Nat} (hi : i ∉ st.pending.map (·.id)) (es : List SweepEvent) :
    (run sel msg st es).db.find i = (st.db.find i).map (othersOnly es) := by
  induction es generalizing st with
  | nil => rw [run_nil]; cases st.db.find i <;> rfl
  | cons e es ih =>
    obtain ⟨hf, hp⟩ := step_find sel msg hi e
    rw [run_cons, ih fun h => hi ((hp.map _).subset h), hf, Option.map_map]
    rfl

theorem run_find_of_finished (db : PredictorTable) (es : List SweepEvent) {r : PredictorRecord}
    (hr : r ∈ db.rows) (hu : r.unfinished = false) :
    (run sel msg (start db) es).db.find r.id = some (othersOnly es r) := by
  have hi : r.id ∉ (unfinishedRecords db).map (·.id) := fun h => by
    obtain ⟨o, ho, hid⟩ := List.mem_map.mp h
    have ho' := List.mem_filter.mp ho
    obtain rfl := db.eq_of_id ho'.1 hr hid
    simp [hu] at ho'
  rw [run_find sel msg hi, start, db.find_of_mem hr]
  rfl

theorem next_sets_error {st : Sweep} {o : PredictorRecord} {os : List PredictorRecord}
    (hp : st.pending = o :: os) (hs : sel (sessionView st.db st.expired o) = true)
    (hf : (st.db.find o.id).isSome) :
    ((step sel msg st .next).db.find o.id).map (·.status) = some predictorStatusError := by
  obtain ⟨r, hr⟩ := Option.isSome_iff_exists.mp hf
  have hid := (st.db.mem_of_find hr).2
  simp [step, hp, visit, hs, PredictorTable.find_update, hr, PredictorTable.rewrite, hid,
    PredictorRecord.errorWrite]

end Sweep

/-- Against any interleaving of other sessions' commits, `set_error_model_status_by_pids(P)`
changes only the records its query returned: a record that was deleted, `complete` or
`error` at the query ends exactly as the other commits make it. A returned record is set to
`error` when the sweep reaches it and its process is in `P`, whatever status is stored
then. -/
theorem sweep_changes_only_queried (pids : List Nat) (db : PredictorTable) (es : List SweepEvent) :
    let sel := fun r : PredictorRecord => r.processId.inPids pids
    (∀ r ∈ db.rows, r.unfinished = false →
      (Sweep.run sel terminatedMessage (Sweep.start db) es).db.find r.id =
        some (Sweep.othersOnly es r)) ∧
    (∀ (st : Sweep) (o : PredictorRecord) (os : List PredictorRecord), st.pending = o :: os →
      sel (sessionView st.db st.expired o) = true → (st.db.find o.id).isSome →
      ((st.step sel terminatedMessage .next).db.find o.id).map (·.status) = some predictorStatusError) :=
  ⟨fun _ hr hu => Sweep.run_find_of_finished _ _ db es hr hu,
    fun _ _ _ hp hs hf => Sweep.next_sets_error _ _ hp hs hf⟩

def trainingRecord : PredictorRecord :=
  ⟨1, none, "training", some [("process_id", .num 7)], .dict [], none, "up_to_date"⟩

def trainingTable : PredictorTable := ⟨[trainingRecord], by decide⟩

/-- The sweep queries the record; its worker then commits it `complete`; the sweep's next
pass sets it to `error`. -/
theorem sweep_overwrites_complete :
    let sel := fun r : PredictorRecord => r.processId.inPids [7]
    let st := (Sweep.start trainingTable).step sel terminatedMessage
      (.commit 1 fun r => { r with status := predictorStatusComplete })
    (st.db.find 1).map (·.status) = some predictorStatusComplete ∧
      ((st.step sel terminatedMessage .next).db.find 1).map (·.status) = some predictorStatusError := by
  decide

end MindsdbSupervisor
