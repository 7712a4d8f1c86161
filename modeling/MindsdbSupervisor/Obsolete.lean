import Mathlib.Data.List.Lex
import Mathlib.Data.List.Sort
import MindsdbSupervisor.Predictor

/-!
# Marking predictors of old versions

The startup region "Mark old predictors as outdated", with `version.parse` a parameter into
any linear order. It takes the last listed version no later than the running one, which is
the greatest only for a list in ascending order (`markOutdated_takes_last`).
-/

namespace MindsdbSupervisor

def PredictorTable.mapM (db : PredictorTable) (f : PredictorRecord → Option PredictorRecord)
    (hf : ∀ r r', f r = some r' → r'.id = r.id) : Option PredictorTable :=
  match h : db.rows.mapM f with
  | some rows => some ⟨rows, by
      have hids : ∀ (l l' : List PredictorRecord), l.mapM f = some l' → l'.map (·.id) = l.map (·.id) := by
        intro l
        induction l with
        | nil =>
          intro l' h
          simp only [List.mapM_nil, Option.pure_def, Option.some.injEq] at h
          simp [← h]
        | cons r l ih =>
          intro l' h
          simp only [List.mapM_cons, Option.bind_eq_bind, Option.bind_eq_some, Option.pure_def,
            Option.some.injEq] at h
          obtain ⟨r', hr, l'', hl, rfl⟩ := h
          simp [hf r r' hr, ih l'' hl]
      rw [hids _ _ h]
      exact db.ids_nodup⟩
  | none => none

theorem PredictorTable.mapM_rows {db : PredictorTable} {f : PredictorRecord → Option PredictorRecord}
    {hf : ∀ r r', f r = some r' → r'.id = r.id} {g : PredictorRecord → PredictorRecord}
    (hg : ∀ r ∈ db.rows, f r = some (g r)) : (db.mapM f hf).map (·.rows) = some (db.rows.map g) := by
  have h : db.rows.mapM f = some (db.rows.map g) := by
    generalize db.rows = l at hg
    induction l with
    | nil => rfl
    | cons r l ih =>
      rw [List.mapM_cons, hg r (List.mem_cons_self r l),
        ih fun r' hr' => hg r' (List.mem_cons_of_mem r hr')]
      rfl
  unfold PredictorTable.mapM
  split
  · rename_i rows h'
    rw [h, Option.some_inj] at h'
    simp [h']
  · rename_i h'
    rw [h] at h'
    cases h'

section Region

variable {V : Type} [LinearOrder V] (parse : String → Option V)

/-- The body of the loop over the non-deleted records: `update_status = "available"` when
`mindsdb_version` is a string whose version is below `last`. -/
def markIfOlder (last : V) (r : PredictorRecord) : Option PredictorRecord :=
  match r.mindsdbVersion with
  | some s => (parse s).map fun v => if v < last then { r with updateStatus := "available" } else r
  | none => some r

theorem markIfOlder_id (last : V) (r r' : PredictorRecord) (h : markIfOlder parse last r = some r') :
    r'.id = r.id := by
  unfold markIfOlder at h
  split at h
  · obtain ⟨v, -, rfl⟩ := Option.map_eq_some'.mp h
    split <;> rfl
  · cases h; rfl

/-- `compatible_versions[-1]` after keeping the versions no later than `running`. -/
def lastCompatible (running : V) (compatible : List V) : Option V :=
  (compatible.filter (· ≤ running)).getLast?

/-- The region, given the running version and what
`get_versions_where_predictors_become_obsolete` returned; `none` is the `InvalidVersion`
raised on a string that does not parse. -/
def markOutdated (mindsdbVersion : String) (obsolete : Bool × List String) (db : PredictorTable) :
    Option PredictorTable :=
  if (db.rows.filter (·.deletedAt.isNone)).length > 0 ∧ obsolete.1 = true then
    match obsolete.2.mapM parse, parse mindsdbVersion with
    | some compatible, some running =>
      match lastCompatible running compatible with
      | some last =>
        db.mapM (fun r => if r.deletedAt.isNone then markIfOlder parse last r else some r)
          fun r r' h => by
            dsimp only at h
            split at h
            · exact markIfOlder_id parse last r r' h
            · cases h; rfl
      | none => some db
    | _, _ => none
  else some db

theorem max?_of_sorted : ∀ {l : List V}, l.Sorted (· ≤ ·) → l.max? = l.getLast?
  | [], _ => rfl
  | [_], _ => rfl
  | a :: b :: l, h => by
    have hab : a ≤ b := List.rel_of_sorted_cons h b (List.mem_cons_self b l)
    show some ((b :: l).foldl max a) = (b :: l).getLast?
    rw [List.foldl_cons, max_eq_right hab]
    exact max?_of_sorted h.of_cons

theorem lastCompatible_of_sorted {running : V} {compatible : List V}
    (h : compatible.Sorted (· ≤ ·)) :
    lastCompatible running compatible = (compatible.filter (· ≤ running)).max? :=
  (max?_of_sorted (h.filter _)).symm

/-- The record as the region leaves it, given the last kept version: `available` when it is
not deleted and its version is below that one. -/
def outdatedBy (last : Option V) (r : PredictorRecord) : PredictorRecord :=
  match last, r.mindsdbVersion.bind parse with
  | some l, some v => if r.deletedAt = none ∧ v < l then { r with updateStatus := "available" } else r
  | _, _ => r

theorem outdatedBy_of_deleted (last : Option V) {r : PredictorRecord} (hd : r.deletedAt ≠ none) :
    outdatedBy parse last r = r := by
  unfold outdatedBy
  split
  · simp [hd]
  · rfl

theorem markIfOlder_eq_outdatedBy (last : V) {r : PredictorRecord}
    (hp : r.deletedAt = none → ∀ s, r.mindsdbVersion = some s → (parse s).isSome) :
    (if r.deletedAt.isNone then markIfOlder parse last r else some r) =
      some (outdatedBy parse (some last) r) := by
  by_cases hd : r.deletedAt = none
  · simp only [hd, Option.isNone_none, if_true, markIfOlder, outdatedBy]
    split
    · rename_i s hs
      obtain ⟨v, hv⟩ := Option.isSome_iff_exists.mp (hp hd s hs)
      simp [hv, hs, hd]
    · rename_i hs
      simp [hs]
  · simp [hd, outdatedBy_of_deleted parse _ hd]

@[simp] theorem outdatedBy_none : outdatedBy parse none = id := rfl

/-- When the versions were fetched and every version the region parses parses, it marks
`available` exactly the non-deleted records whose version is below the last listed version
no later than the running one, and leaves every other record as it is. That version is the
greatest such one when the list is in ascending order. -/
theorem markOutdated_spec (mindsdbVersion : String) (listed : List String) (db : PredictorTable)
    {running : V} (hr : parse mindsdbVersion = some running) {compatible : List V}
    (hl : listed.mapM parse = some compatible)
    (hp : ∀ r ∈ db.rows, r.deletedAt = none → ∀ s, r.mindsdbVersion = some s → (parse s).isSome) :
    (markOutdated parse mindsdbVersion (true, listed) db).map (·.rows) =
        some (db.rows.map (outdatedBy parse (lastCompatible running compatible))) ∧
      (compatible.Sorted (· ≤ ·) →
        lastCompatible running compatible = (compatible.filter (· ≤ running)).max?) := by
  refine ⟨?_, lastCompatible_of_sorted⟩
  unfold markOutdated
  split
  · simp only [hl, hr]
    split
    · rename_i last hlast
      rw [hlast]
      exact PredictorTable.mapM_rows fun r hrow => markIfOlder_eq_outdatedBy parse last (hp r hrow)
    · rename_i hlast
      simp [hlast]
  · rename_i hskip
    simp only [Option.map_some']
    congr 1
    refine (List.map_id' _).symm.trans (List.map_congr_left fun r hrow => ?_)
    have hnone : r.deletedAt ≠ none := fun hd => hskip ⟨List.length_pos_of_mem
      (List.mem_filter.mpr ⟨hrow, by simp [hd]⟩), rfl⟩
    exact (outdatedBy_of_deleted parse _ hnone).symm

end Region

def digitsValue : List Char → Option Nat
  | [] => none
  | cs => if cs.all Char.isDigit then some (cs.foldl (fun n c => 10 * n + (c.toNat - '0'.toNat)) 0)
    else none

/-- A release version "N(.N)*" as `packaging.version` compares it: its numbers in order,
trailing zeros dropped, compared lexicographically. -/
def releaseVersion (s : String) : Option (List Nat) :=
  ((s.toList.splitOn '.').mapM digitsValue).map fun l => (l.reverse.dropWhile (· = 0)).reverse

def trainedOn15 : PredictorTable :=
  ⟨[⟨1, none, "complete", none, .dict [], some "1.5", "up_to_date"⟩], by decide⟩

/-- Running `3.0`, with the obsolete versions returned as `["2.0", "1.0"]`: the greatest
listed version no later than `3.0` is `2.0`, above the model's `1.5`, yet the region takes
the last one, `1.0`, and leaves the model as it is; returned as `["1.0", "2.0"]` it marks
the model `available`. -/
theorem markOutdated_takes_last :
    ((["2.0", "1.0"].filterMap releaseVersion).filter (· ≤ [3])).max? = some [2] ∧
      releaseVersion "1.5" = some [1, 5] ∧ ([1, 5] : List Nat) < [2] ∧
      (markOutdated releaseVersion "3.0" (true, ["2.0", "1.0"]) trainedOn15).map
        (·.rows.map (·.updateStatus)) = some ["up_to_date"] ∧
      (markOutdated releaseVersion "3.0" (true, ["1.0", "2.0"]) trainedOn15).map
        (·.rows.map (·.updateStatus)) = some ["available"] := by
  decide

theorem markOutdated_spec_ascending :
    releaseVersion "3.0" = some [3] ∧ ["1.0", "2.0"].mapM releaseVersion = some [[1], [2]] ∧
      (∀ r ∈ trainedOn15.rows, r.deletedAt = none → ∀ s, r.mindsdbVersion = some s →
        (releaseVersion s).isSome) ∧
      ((markOutdated releaseVersion "3.0" (true, ["1.0", "2.0"]) trainedOn15).map (·.rows) =
          some (trainedOn15.rows.map (outdatedBy releaseVersion (lastCompatible [3] [[1], [2]]))) ∧
        (([[1], [2]] : List (List Nat)).Sorted (· ≤ ·) →
          lastCompatible [3] [[1], [2]] = (([[1], [2]] : List (List Nat)).filter (· ≤ [3])).max?)) :=
  have hr : releaseVersion "3.0" = some [3] := by decide
  have hl : ["1.0", "2.0"].mapM releaseVersion = some [[1], [2]] := by decide
  have hp : ∀ r ∈ trainedOn15.rows, r.deletedAt = none → ∀ s, r.mindsdbVersion = some s →
      (releaseVersion s).isSome := by decide
  ⟨hr, hl, hp, markOutdated_spec releaseVersion "3.0" ["1.0", "2.0"] trainedOn15 hr hl hp⟩

end MindsdbSupervisor
