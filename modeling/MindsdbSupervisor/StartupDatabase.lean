import MindsdbSupervisor.Obsolete
import MindsdbSupervisor.Program

/-!
# The database pass of startup

The reconciliation, then the region marking old predictors, outside the cloud. It leaves no
record unfinished and a second startup changes nothing (`startupDatabase_idem`); afterwards
the marks thread never changes a record no other session commits (`startup_records_kept`).
-/

namespace MindsdbSupervisor

theorem repair_of_finished (sel : PredictorRecord → Bool) (msg : String) {db : PredictorTable}
    (h : ∀ r ∈ db.rows, r.unfinished = false) : repair sel msg db = db := by
  ext1
  rw [repair_rows]
  exact (List.map_congr_left fun r hr => by simp [h r hr]).trans (List.map_id _)

theorem startupReconcile_finished (pids : List Nat) (db : PredictorTable) :
    ∀ r ∈ (startupReconcile pids db).rows, r.unfinished = false := by
  intro r hr
  rw [startupReconcile, setErrorModelStatusForUnfinished, repair_rows] at hr
  obtain ⟨r₀, -, rfl⟩ := List.mem_map.mp hr
  split_ifs with h
  · exact PredictorRecord.unfinished_markedError _ _
  · simpa using h

theorem startupReconcile_of_finished (pids : List Nat) {db : PredictorTable}
    (h : ∀ r ∈ db.rows, r.unfinished = false) : startupReconcile pids db = db := by
  rw [startupReconcile, setErrorModelStatusForUnfinished, repair_of_finished _ _ (by
    split
    · rwa [setErrorModelStatusByPids, repair_of_finished _ _ h]
    · exact h)]
  split
  · exact repair_of_finished _ _ h
  · rfl

section MapM

variable {f : PredictorRecord → Option PredictorRecord}

theorem mapM_map_eq {β : Type} {g : PredictorRecord → β} (hg : ∀ r r', f r = some r' → g r' = g r) :
    ∀ {l l' : List PredictorRecord}, l.mapM f = some l' → l'.map g = l.map g
  | [], l', h => by
    simp only [List.mapM_nil, Option.pure_def, Option.some.injEq] at h
    simp [← h]
  | r :: l, l', h => by
    simp only [List.mapM_cons, Option.bind_eq_bind, Option.bind_eq_some, Option.pure_def,
      Option.some.injEq] at h
    obtain ⟨r', hr, l'', hl, rfl⟩ := h
    simp [hg r r' hr, mapM_map_eq hg hl]

theorem mem_of_mapM : ∀ {l l' : List PredictorRecord}, l.mapM f = some l' →
    ∀ r' ∈ l', ∃ r ∈ l, f r = some r'
  | [], l', h => by
    simp only [List.mapM_nil, Option.pure_def, Option.some.injEq] at h
    simp [← h]
  | r :: l, l', h => by
    simp only [List.mapM_cons, Option.bind_eq_bind, Option.bind_eq_some, Option.pure_def,
      Option.some.injEq] at h
    obtain ⟨r', hr, l'', hl, rfl⟩ := h
    intro x hx
    rcases List.mem_cons.mp hx with rfl | hx
    · exact ⟨r, List.mem_cons_self r l, hr⟩
    · obtain ⟨y, hy, hfy⟩ := mem_of_mapM hl x hx
      exact ⟨y, List.mem_cons_of_mem r hy, hfy⟩

theorem PredictorTable.mapM_eq_some {hf : ∀ r r', f r = some r' → r'.id = r.id}
    {db db' : PredictorTable} (h : db.mapM f hf = some db') : db.rows.mapM f = some db'.rows := by
  unfold PredictorTable.mapM at h
  split at h
  · cases h
    assumption
  · cases h

theorem PredictorTable.mapM_fixed {hf : ∀ r r', f r = some r' → r'.id = r.id}
    (hfix : ∀ r r', f r = some r' → f r' = some r') {db db' : PredictorTable}
    (h : db.mapM f hf = some db') : db'.mapM f hf = some db' := by
  have hfixed : ∀ r ∈ db'.rows, f r = some (id r) := fun r hr => by
    obtain ⟨r₀, -, h₀⟩ := mem_of_mapM (PredictorTable.mapM_eq_some h) r hr
    exact hfix r₀ r h₀
  obtain ⟨db'', h'', hrows⟩ := Option.map_eq_some'.mp (@PredictorTable.mapM_rows db' f hf id hfixed)
  rw [h'', PredictorTable.ext (hrows.trans (List.map_id _))]

end MapM

section Pass

variable {V : Type} [LinearOrder V] (parse : String → Option V)

/-- The body of the region's loop, given the last kept version. -/
def markBody (last : V) (r : PredictorRecord) : Option PredictorRecord :=
  if r.deletedAt.isNone then markIfOlder parse last r else some r

theorem markBody_cases (last : V) {r r' : PredictorRecord} (h : markBody parse last r = some r') :
    (r' = r ∨ r' = { r with updateStatus := "available" }) ∧ markBody parse last r' = some r' := by
  unfold markBody at h ⊢
  split at h
  · rename_i hd
    unfold markIfOlder at h
    split at h
    · rename_i s hs
      obtain ⟨v, hv, rfl⟩ := Option.map_eq_some'.mp h
      split_ifs with hlt <;> simp [hd, hs, hv, hlt, markIfOlder]
    · cases h
      simp [hd, markIfOlder, *]
  · cases h
    simp [*]

theorem markBody_deletedAt (last : V) {r r' : PredictorRecord} (h : markBody parse last r = some r') :
    r'.deletedAt = r.deletedAt := by
  rcases (markBody_cases parse last h).1 with rfl | rfl <;> rfl

theorem markBody_unfinished (last : V) {r r' : PredictorRecord} (h : markBody parse last r = some r') :
    r'.unfinished = r.unfinished := by
  rcases (markBody_cases parse last h).1 with rfl | rfl <;> rfl

/-- The region makes no record unfinished, and run again with the same versions on the
table it left it changes nothing. -/
theorem markOutdated_fixed {v : String} {obs : Bool × List String} {db db' : PredictorTable}
    (h : markOutdated parse v obs db = some db') :
    db'.rows.map (·.unfinished) = db.rows.map (·.unfinished) ∧
      markOutdated parse v obs db' = some db' := by
  unfold markOutdated at h ⊢
  split at h
  · rename_i hg
    split at h
    · rename_i compatible running hl hr
      split at h
      · rename_i last hlast
        have hrows := PredictorTable.mapM_eq_some h
        have hdel := mapM_map_eq (fun r r' => markBody_deletedAt parse last) hrows
        have hg' : (db'.rows.filter (·.deletedAt.isNone)).length =
            (db.rows.filter (·.deletedAt.isNone)).length := by
          simpa [← List.countP_eq_length_filter, List.countP_map] using
            congrArg (List.countP Option.isNone) hdel
        refine ⟨mapM_map_eq (fun r r' => markBody_unfinished parse last) hrows, ?_⟩
        rw [if_pos (hg' ▸ hg)]
        exact PredictorTable.mapM_fixed (fun r r' hr => (markBody_cases parse last hr).2) h
      · cases h
        exact ⟨rfl, by rw [if_pos hg]⟩
    · cases h
  · rename_i hg
    cases h
    exact ⟨rfl, by rw [if_neg hg]⟩

/-- The database pass of `__main__` at startup: outside the cloud the reconciliation, then
the region marking old predictors (`create_permanent_integrations` between them does not
touch the table); in the cloud nothing. -/
def startupDatabase (isCloud : Bool) (mindsdbVersion : String) (unexistingPids : List Nat)
    (obsolete : Bool × List String) (db : PredictorTable) : Option PredictorTable :=
  if isCloud then some db
  else markOutdated parse mindsdbVersion obsolete (startupReconcile unexistingPids db)

theorem startupDatabase_finished {v : String} {pids : List Nat} {obs : Bool × List String}
    {db db' : PredictorTable} (h : startupDatabase parse false v pids obs db = some db') :
    ∀ r ∈ db'.rows, r.unfinished = false := fun r hr => by
  have hu := (markOutdated_fixed parse h).1
  obtain ⟨r₀, hr₀, he⟩ := List.mem_map.mp (hu ▸ List.mem_map_of_mem PredictorRecord.unfinished hr)
  rw [← he]
  exact startupReconcile_finished pids db r₀ hr₀

/-- A startup that got through its database pass leaves no record unfinished outside the
cloud, and the next startup with the same version and the same obsolete versions leaves the
table as it is, whatever process marks it finds. -/
theorem startupDatabase_idem {isCloud : Bool} {v : String} {pids : List Nat}
    {obs : Bool × List String} {db db' : PredictorTable}
    (h : startupDatabase parse isCloud v pids obs db = some db') (pids' : List Nat) :
    (isCloud = false → ∀ r ∈ db'.rows, r.unfinished = false) ∧
      startupDatabase parse isCloud v pids' obs db' = some db' := by
  cases isCloud with
  | true =>
    unfold startupDatabase at h ⊢
    rw [if_pos rfl] at h ⊢
    exact ⟨nofun, rfl⟩
  | false =>
    have hfin := startupDatabase_finished parse h
    refine ⟨fun _ => hfin, ?_⟩
    unfold startupDatabase at h ⊢
    rw [if_neg Bool.false_ne_true, startupReconcile_of_finished pids' hfin]
    exact (markOutdated_fixed parse h).2

/-- After a startup outside the cloud, the marks thread never changes a record that no
other session commits: the pass left the record finished, the thread's sweeps query only
unfinished records, and a sweep writes only what it queried. This holds whatever the
supervisor's tasks, the OS and the main thread do meanwhile. -/
theorem startup_records_kept {c : Config} (hc : c.isCloud = false) {v : String}
    {pids : List Nat} {obs : Bool × List String} {db db' : PredictorTable}
    (h : startupDatabase parse c.isCloud v pids obs db = some db') (t : TrunkProcesses)
    (clock : Int) (envs : TrunkProcessEnum → TaskEnv) {i : Nat} {es : List ProgramEvent}
    (hes : ∀ e ∈ es, ∀ w, e ≠ .commit i w) :
    ((Program.start t clock envs db').run c es).db.find i = db'.find i := by
  rw [hc] at h
  exact Program.Settled.run
    ⟨fun r hr => startupDatabase_finished parse h r (db'.mem_of_find hr).1, List.not_mem_nil i⟩ hes

end Pass

def interruptedTraining : PredictorTable :=
  ⟨[⟨1, none, "training", some [("process_id", .num 7)], .dict [], some "1.5", "up_to_date"⟩], by decide⟩

theorem restart_after_interrupted_training :
    ∃ db', startupDatabase releaseVersion false "3.0" [7] (true, ["1.0", "2.0"]) interruptedTraining =
        some db' ∧ db'.rows.map (fun r => (r.status, r.updateStatus)) = [("error", "available")] ∧
      (false = false → ∀ r ∈ db'.rows, r.unfinished = false) ∧
      startupDatabase releaseVersion false "3.0" [] (true, ["1.0", "2.0"]) db' = some db' := by
  have hs : (startupDatabase releaseVersion false "3.0" [7] (true, ["1.0", "2.0"])
      interruptedTraining).map (·.rows.map fun r => (r.status, r.updateStatus)) =
      some [("error", "available")] := by decide
  obtain ⟨db', h, hrows⟩ := Option.map_eq_some'.mp hs
  exact ⟨db', h, hrows, startupDatabase_idem releaseVersion h []⟩

theorem interrupted_training_kept :
    let c : Config := ⟨false, "linux", false⟩
    let es : List ProgramEvent :=
      [.cleaner [7], .commit 2 id, .cleaner [7], .sup (.tick 5), .cleaner [7], .cleaner [7]]
    c.isCloud = false ∧ (∀ e ∈ es, ∀ w, e ≠ .commit 1 w) ∧
      ∃ db', startupDatabase releaseVersion c.isCloud "3.0" [7] (true, ["1.0", "2.0"])
          interruptedTraining = some db' ∧
        ((Program.start (startupTrunks oomRestartConfig [.http]) 0
          (fun _ => ⟨true, ⟨fun _ => .ok []⟩⟩) db').run c es).db.find 1 = db'.find 1 := by
  intro c es
  have hs : (startupDatabase releaseVersion c.isCloud "3.0" [7] (true, ["1.0", "2.0"])
      interruptedTraining).isSome = true := by decide
  obtain ⟨db', h⟩ := Option.isSome_iff_exists.mp hs
  have hes : ∀ e ∈ es, ∀ w, e ≠ .commit 1 w := by simp [es]
  exact ⟨rfl, hes, db', h, startup_records_kept releaseVersion rfl h _ _ _ hes⟩

end MindsdbSupervisor
