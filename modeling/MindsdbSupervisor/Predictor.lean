import Mathlib.Data.List.Nodup
import MindsdbSupervisor.TrunkProcess

/-!
# Predictor records and their repair

`set_error_model_status_by_pids` and `set_error_model_status_for_unfinished`: one query,
then one commit per picked record, each commit expiring the session. Run alone, a loop maps
every record it picks to its errored form (`repair_rows`).
-/

namespace MindsdbSupervisor

inductive JsonValue
  | null
  | bool (b : Bool)
  | num (n : Int)
  | str (s : String)
  | nested (text : String)
  deriving DecidableEq, Repr

inductive RecordData
  | dict (entries : List (String × JsonValue))
  | other (v : JsonValue)
  deriving DecidableEq, Repr

/-- A row of the `predictor` table with the columns the supervisor reads or writes.
`training_metadata` is `None` or a dict. -/
structure PredictorRecord where
  id : Nat
  deletedAt : Option Int
  status : String
  trainingMetadata : Option (List (String × JsonValue))
  data : RecordData
  mindsdbVersion : Option String
  updateStatus : String
  deriving DecidableEq, Repr

def predictorStatusComplete : String := "complete"

def predictorStatusError : String := "error"

def terminatedMessage : String := "The training process was terminated for unknown reasons"

def unknownErrorMessage : String := "Unknown error"

namespace RecordData

def asDict : RecordData → List (String × JsonValue)
  | dict kvs => kvs
  | other _ => []

def errorEntry (d : RecordData) : Option JsonValue :=
  (d.asDict.find? (·.1 = "error")).map (·.2)

/-- `if isinstance(data, dict) is False: data = {}`, then
`if 'error' not in data: data['error'] = msg`. -/
def withError (msg : String) (d : RecordData) : RecordData :=
  let kvs := d.asDict
  dict (if kvs.any (·.1 = "error") then kvs else kvs ++ [("error", .str msg)])

theorem errorEntry_withError (msg : String) (d : RecordData) :
    (d.withError msg).errorEntry = some (d.errorEntry.getD (.str msg)) := by
  unfold withError errorEntry
  generalize d.asDict = kvs
  simp only [asDict]
  cases hf : kvs.find? (·.1 = "error") with
  | some y =>
    simp [List.any_eq_true.mpr ⟨y, List.mem_of_find?_eq_some hf, List.find?_some hf⟩, hf]
  | none =>
    simp [List.any_eq_false.mpr (List.find?_eq_none.mp hf), hf, List.find?_append]

theorem withError_of_errorEntry {msg : String} {kvs : List (String × JsonValue)}
    (h : (dict kvs).errorEntry.isSome) : (dict kvs).withError msg = dict kvs := by
  unfold errorEntry at h
  cases hf : kvs.find? (·.1 = "error") with
  | none => simp [asDict, hf] at h
  | some y =>
    simp [withError, asDict, List.any_eq_true.mpr ⟨y, List.mem_of_find?_eq_some hf, List.find?_some hf⟩]

end RecordData

namespace PredictorRecord

/-- The query's filter `deleted_at IS NULL AND status NOT IN (COMPLETE, ERROR)`. -/
def unfinished (r : PredictorRecord) : Bool :=
  r.deletedAt.isNone && !(r.status == predictorStatusComplete || r.status == predictorStatusError)

def processId (r : PredictorRecord) : JsonValue :=
  ((r.trainingMetadata.getD []).find? (·.1 = "process_id")).elim .null (·.2)

def markedError (msg : String) (r : PredictorRecord) : PredictorRecord :=
  { r with status := predictorStatusError, data := r.data.withError msg }

/-- What a commit of the loop writes to row `r` from the session's copy `v`: the status,
and the data only when the loop changed it. -/
def errorWrite (msg : String) (v r : PredictorRecord) : PredictorRecord :=
  { r with
    status := predictorStatusError
    data := if v.data.withError msg = v.data then r.data else v.data.withError msg }

@[simp] theorem markedError_id (msg : String) (r : PredictorRecord) : (r.markedError msg).id = r.id :=
  rfl

@[simp] theorem errorWrite_id (msg : String) (v r : PredictorRecord) : (errorWrite msg v r).id = r.id :=
  rfl

theorem errorWrite_self (msg : String) (r : PredictorRecord) : errorWrite msg r r = r.markedError msg := by
  unfold errorWrite markedError
  split <;> simp_all

theorem unfinished_eq_false (r : PredictorRecord) : r.unfinished = false ↔
    r.deletedAt ≠ none ∨ r.status = predictorStatusComplete ∨ r.status = predictorStatusError := by
  cases h : r.deletedAt <;> simp [unfinished, h, or_iff_not_imp_left]

@[simp] theorem unfinished_markedError (msg : String) (r : PredictorRecord) :
    (r.markedError msg).unfinished = false := by
  simp [unfinished, markedError]

theorem markedError_spec (msg : String) (r : PredictorRecord) :
    (r.markedError msg).status = predictorStatusError ∧
      (∃ kvs, (r.markedError msg).data = .dict kvs) ∧
      (r.markedError msg).data.errorEntry = some (r.data.errorEntry.getD (.str msg)) ∧
      (∀ kvs, r.data = .dict kvs → r.data.errorEntry.isSome → (r.markedError msg).data = r.data) :=
  ⟨rfl, ⟨_, rfl⟩, RecordData.errorEntry_withError msg r.data, fun kvs hd he => by
    simp only [markedError, hd] at he ⊢
    exact RecordData.withError_of_errorEntry he⟩

end PredictorRecord

/-- Python's `value in unexisting_pids` for a list of ints: a JSON number equals the int it
is, and `True` and `False` equal `1` and `0`. -/
def JsonValue.inPids (v : JsonValue) (pids : List Nat) : Bool :=
  match v with
  | .num n => pids.any fun p => (p : Int) = n
  | .bool b => pids.any fun p => p = if b then 1 else 0
  | _ => false

@[ext] structure PredictorTable where
  rows : List PredictorRecord
  ids_nodup : (rows.map (·.id)).Nodup

namespace PredictorTable

def find (db : PredictorTable) (i : Nat) : Option PredictorRecord := db.rows.find? (·.id = i)

def rewrite (i : Nat) (f : PredictorRecord → PredictorRecord) (r : PredictorRecord) :
    PredictorRecord :=
  if r.id = i then { f r with id := r.id } else r

@[simp] theorem rewrite_id (i : Nat) (f : PredictorRecord → PredictorRecord) (r : PredictorRecord) :
    (rewrite i f r).id = r.id := by
  unfold rewrite; split <;> rfl

theorem rewrite_of_id {i : Nat} {f : PredictorRecord → PredictorRecord} (hf : ∀ r, (f r).id = r.id)
    (r : PredictorRecord) : rewrite i f r = if r.id = i then f r else r := by
  unfold rewrite
  split
  · show { f r with id := r.id } = f r
    rw [← hf r]
  · rfl

theorem map_id_rewrite (i : Nat) (f : PredictorRecord → PredictorRecord) (rows : List PredictorRecord) :
    (rows.map (rewrite i f)).map (·.id) = rows.map (·.id) := by
  simp [List.map_map, Function.comp_def]

def update (db : PredictorTable) (i : Nat) (f : PredictorRecord → PredictorRecord) : PredictorTable :=
  ⟨db.rows.map (rewrite i f), by rw [map_id_rewrite]; exact db.ids_nodup⟩

variable (db : PredictorTable)

theorem eq_of_id {r o : PredictorRecord} (hr : r ∈ db.rows) (ho : o ∈ db.rows) (h : r.id = o.id) :
    r = o :=
  List.inj_on_of_nodup_map db.ids_nodup hr ho h

theorem find_of_mem {r : PredictorRecord} (hr : r ∈ db.rows) : db.find r.id = some r := by
  cases h : db.find r.id with
  | none => simpa using List.find?_eq_none.mp h r hr
  | some o =>
    have ho := List.mem_of_find?_eq_some h
    have hid : o.id = r.id := by simpa using List.find?_some h
    rw [db.eq_of_id ho hr hid]

theorem mem_of_find {i : Nat} {o : PredictorRecord} (h : db.find i = some o) :
    o ∈ db.rows ∧ o.id = i :=
  ⟨List.mem_of_find?_eq_some h, by simpa using List.find?_some h⟩

theorem find_update (i j : Nat) (f : PredictorRecord → PredictorRecord) :
    (db.update i f).find j = (db.find j).map (rewrite i f) := by
  simp only [find, update, List.find?_map]
  congr 1
  simp [Function.comp_def]

theorem find_update_ne {i j : Nat} (f : PredictorRecord → PredictorRecord) (h : i ≠ j) :
    (db.update i f).find j = db.find j := by
  rw [find_update]
  cases hf : db.find j with
  | none => rfl
  | some o =>
    have : o.id ≠ i := fun e => h ((e.symm.trans (db.mem_of_find hf).2))
    simp [rewrite, this]

end PredictorTable

/-- The session's copy of a queried record when the loop reaches it: the copy the query
loaded until the session's first commit expires it, the row as stored from then on. -/
def sessionView (db : PredictorTable) (expired : Bool) (o : PredictorRecord) : PredictorRecord :=
  if expired then (db.find o.id).getD o else o

/-- One pass of the loop's body over the queried record `o`, given the table and whether
the session has committed: `sel` picks the record from the session's copy; then its status
and data are set and committed. -/
def visit (sel : PredictorRecord → Bool) (msg : String) (st : PredictorTable × Bool)
    (o : PredictorRecord) : PredictorTable × Bool :=
  let v := sessionView st.1 st.2 o
  if sel v then (st.1.update o.id (PredictorRecord.errorWrite msg v), true) else st

def unfinishedRecords (db : PredictorTable) : List PredictorRecord :=
  db.rows.filter PredictorRecord.unfinished

def repair (sel : PredictorRecord → Bool) (msg : String) (db : PredictorTable) : PredictorTable :=
  ((unfinishedRecords db).foldl (visit sel msg) (db, false)).1

def setErrorModelStatusByPids (unexistingPids : List Nat) (db : PredictorTable) : PredictorTable :=
  repair (fun r => r.processId.inPids unexistingPids) terminatedMessage db

def setErrorModelStatusForUnfinished (db : PredictorTable) : PredictorTable :=
  repair (fun _ => true) unknownErrorMessage db

def startupReconcile (unexistingPids : List Nat) (db : PredictorTable) : PredictorTable :=
  setErrorModelStatusForUnfinished
    (if unexistingPids.length > 0 then setErrorModelStatusByPids unexistingPids db else db)

section Loop

variable (sel : PredictorRecord → Bool) (msg : String)

theorem foldl_visit : ∀ (os : List PredictorRecord) (db : PredictorTable) (e : Bool),
    (os.map (·.id)).Nodup → (∀ o ∈ os, db.find o.id = some o) →
    (os.foldl (visit sel msg) (db, e)).1.rows =
      db.rows.map fun r => if r ∈ os ∧ sel r = true then r.markedError msg else r
  | [], db, _, _, _ => by simp
  | o :: os, db, e, hnd, hf => by
    obtain ⟨hno, hnd⟩ := List.nodup_cons.mp hnd
    have hfo := hf o (List.mem_cons_self o os)
    have hv : sessionView db e o = o := by unfold sessionView; split <;> simp [hfo]
    have hne : ∀ r, r.id = o.id → r ∉ os := fun r hr hm =>
      hno (show o.id ∈ os.map (·.id) from hr ▸ List.mem_map_of_mem (·.id) hm)
    have ho := (db.mem_of_find hfo).1
    simp only [List.foldl_cons, visit, hv]
    split
    · rename_i hs
      have hf' : ∀ o' ∈ os, (db.update o.id (PredictorRecord.errorWrite msg o)).find o'.id = some o' :=
        fun o' ho' => by
          rw [PredictorTable.find_update_ne _ _ fun h => hne o' h.symm ho']
          exact hf o' (List.mem_cons_of_mem o ho')
      rw [foldl_visit os _ true hnd hf']
      simp only [PredictorTable.update, List.map_map]
      refine List.map_congr_left fun r hr => ?_
      by_cases hid : r.id = o.id
      · obtain rfl := db.eq_of_id hr ho hid
        simp [PredictorTable.rewrite_of_id, PredictorRecord.errorWrite_self, hs, hne]
      · have hro : r ≠ o := fun h => hid (h ▸ rfl)
        simp [PredictorTable.rewrite_of_id, hid, hro]
    · rename_i hs
      rw [foldl_visit os db e hnd fun o' ho' => hf o' (List.mem_cons_of_mem o ho')]
      refine List.map_congr_left fun r _ => ?_
      by_cases hro : r = o
      · subst hro; simp [hs, hne]
      · simp [hro]

theorem repair_rows (db : PredictorTable) :
    (repair sel msg db).rows =
      db.rows.map fun r => if r.unfinished = true ∧ sel r = true then r.markedError msg else r := by
  have hnd : ((unfinishedRecords db).map (·.id)).Nodup :=
    db.ids_nodup.sublist ((List.filter_sublist _).map _)
  rw [repair, foldl_visit sel msg _ db false hnd fun o ho =>
    db.find_of_mem (List.mem_of_mem_filter ho)]
  refine List.map_congr_left fun r hr => ?_
  simp [unfinishedRecords, List.mem_filter, hr]

theorem repair_comp (sel' : PredictorRecord → Bool) (msg' : String) (db : PredictorTable) :
    (repair sel' msg' (repair sel msg db)).rows = db.rows.map fun r =>
      if r.unfinished = true ∧ sel r = true then r.markedError msg
      else if r.unfinished = true ∧ sel' r = true then r.markedError msg' else r := by
  rw [repair_rows, repair_rows, List.map_map]
  refine List.map_congr_left fun r _ => ?_
  by_cases h : r.unfinished = true ∧ sel r = true <;> simp [h]

theorem repair_repair (db : PredictorTable) : repair sel msg (repair sel msg db) = repair sel msg db := by
  ext1
  rw [repair_comp, repair_rows]
  exact List.map_congr_left fun r _ => by split_ifs <;> rfl

end Loop

/-- `set_error_model_status_by_pids(P)` sets exactly the non-deleted records whose status is
neither `complete` nor `error` and whose `process_id` is in `P` to `error`, each with a dict
`data` whose `error` entry is the one it had or the termination message; it leaves every
other record as it is, and a second call with the same `P` changes nothing. -/
theorem setErrorModelStatusByPids_spec (pids : List Nat) (db : PredictorTable) :
    (setErrorModelStatusByPids pids db).rows = db.rows.map (fun r =>
        if r.unfinished = true ∧ r.processId.inPids pids = true then
          r.markedError terminatedMessage else r) ∧
      (∀ r : PredictorRecord, (r.markedError terminatedMessage).status = predictorStatusError ∧
        (∃ kvs, (r.markedError terminatedMessage).data = .dict kvs) ∧
        (r.markedError terminatedMessage).data.errorEntry =
          some (r.data.errorEntry.getD (.str terminatedMessage))) ∧
      setErrorModelStatusByPids pids (setErrorModelStatusByPids pids db) =
        setErrorModelStatusByPids pids db :=
  ⟨repair_rows _ _ db, fun r => let h := r.markedError_spec terminatedMessage; ⟨h.1, h.2.1, h.2.2.1⟩,
    repair_repair _ _ db⟩

/-- After the startup reconciliation every non-deleted record is `complete` or `error`.
Exactly the unfinished ones were set to `error`, each with a dict `data` whose `error` entry
is the one it had, else the termination message if its `process_id` is in `P`, else
`Unknown error`; every other record is as it was. -/
theorem startupReconcile_spec (pids : List Nat) (db : PredictorTable) :
    (startupReconcile pids db).rows = db.rows.map (fun r =>
        if r.unfinished = true then
          r.markedError (if r.processId.inPids pids then terminatedMessage else unknownErrorMessage)
        else r) ∧
      (∀ r ∈ (startupReconcile pids db).rows, r.deletedAt = none →
        r.status = predictorStatusComplete ∨ r.status = predictorStatusError) ∧
      (∀ (msg : String) (r : PredictorRecord), (r.markedError msg).status = predictorStatusError ∧
        (∃ kvs, (r.markedError msg).data = .dict kvs) ∧
        (r.markedError msg).data.errorEntry = some (r.data.errorEntry.getD (.str msg))) := by
  have hnil : ∀ r : PredictorRecord, r.processId.inPids [] = false := fun r => by
    cases r.processId <;> rfl
  have hrows : (startupReconcile pids db).rows = db.rows.map (fun r =>
      if r.unfinished = true then
        r.markedError (if r.processId.inPids pids then terminatedMessage else unknownErrorMessage)
      else r) := by
    rw [startupReconcile, setErrorModelStatusForUnfinished]
    split
    · rw [setErrorModelStatusByPids, repair_comp]
      refine List.map_congr_left fun r _ => ?_
      by_cases hu : r.unfinished = true <;> by_cases hp : r.processId.inPids pids = true <;>
        simp [hu, hp]
    · obtain rfl : pids = [] := List.eq_nil_of_length_eq_zero (by omega)
      rw [repair_rows]
      exact List.map_congr_left fun r _ => by simp [hnil]
  refine ⟨hrows, fun r hr hd => ?_, fun msg r =>
    let h := r.markedError_spec msg; ⟨h.1, h.2.1, h.2.2.1⟩⟩
  rw [hrows] at hr
  obtain ⟨r₀, -, rfl⟩ := List.mem_map.mp hr
  by_cases hu : r₀.unfinished = true
  · simp only [hu, if_true]
    exact .inr rfl
  · simp only [hu, if_false] at hd ⊢
    rcases (r₀.unfinished_eq_false).mp (by simpa using hu) with h | h
    · exact absurd hd h
    · exact h

end MindsdbSupervisor
