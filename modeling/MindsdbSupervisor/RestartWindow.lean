import Mathlib.Data.List.Sort
import MindsdbSupervisor.TrunkProcess

/-!
# The restart window over the whole history

`request_restart_attempt` prunes its list of restart times on every call. Over a run of
calls at non-decreasing times it answers as a sliding window over the never-pruned list of
call times would, and what it keeps is exactly that window. From this, the calls it admits
never put more than `max_restart_count` restarts into one closed window of
`max_restart_interval_seconds` seconds.
-/

namespace MindsdbSupervisor.TrunkProcessData

/-- The attempts of `ts` that a window of `W` seconds ending at `t` counts: all of them
when `W = 0`. -/
def windowed (W : Nat) (t : Int) (ts : List Int) : List Int :=
  if 0 < W then ts.filter fun x => t - W ≤ x else ts

/-- The descriptor after `request_restart_attempt` was called at each time of `ts`. -/
def requestAll (d : TrunkProcessData) (ts : List Int) : TrunkProcessData :=
  ts.foldl (fun d t => (d.requestRestartAttempt t).1) d

/-- Each call time of `ts` with the answer `request_restart_attempt` gave at it. -/
def decisions (d : TrunkProcessData) : List Int → List (Int × Bool)
  | [] => []
  | t :: ts => (t, (d.requestRestartAttempt t).2) :: decisions (d.requestRestartAttempt t).1 ts

/-- The call times of `ts` at which a restart was admitted. -/
def admitted (d : TrunkProcessData) (ts : List Int) : List Int :=
  ((d.decisions ts).filter (·.2)).map (·.1)

variable {d : TrunkProcessData} {ts : List Int} {t u : Int} {W : Nat}

theorem windowed_append (W : Nat) (t : Int) (l l' : List Int) :
    windowed W t (l ++ l') = windowed W t l ++ windowed W t l' := by
  unfold windowed
  split <;> simp

theorem windowed_singleton (W : Nat) (t : Int) : windowed W t [t] = [t] := by
  have : t - W ≤ t := by omega
  simp [windowed, this]

theorem windowed_windowed (h : t ≤ u) (l : List Int) :
    windowed W u (windowed W t l) = windowed W u l := by
  unfold windowed
  split
  · rw [List.filter_filter]
    exact List.filter_congr fun x _ => by rw [← Bool.decide_and]; exact decide_eq_decide.mpr (by omega)
  · rfl

theorem pruned_eq_windowed (d : TrunkProcessData) (now : Int) :
    d.pruned now = windowed d.maxRestartIntervalSeconds now (d.restartsTime ++ [now]) := rfl

@[simp] theorem requestAll_nil (d : TrunkProcessData) : d.requestAll [] = d := rfl

@[simp] theorem requestAll_cons (d : TrunkProcessData) (t : Int) (ts : List Int) :
    d.requestAll (t :: ts) = (d.requestRestartAttempt t).1.requestAll ts := rfl

theorem requestAll_append_singleton (d : TrunkProcessData) (ts : List Int) (t : Int) :
    d.requestAll (ts ++ [t]) = ((d.requestAll ts).requestRestartAttempt t).1 := by
  simp [requestAll, List.foldl_append]

theorem requestAll_eq (d : TrunkProcessData) (ts : List Int) :
    d.requestAll ts = { d with restartsTime := (d.requestAll ts).restartsTime } := by
  induction ts generalizing d with
  | nil => rfl
  | cons t ts ih =>
    rw [requestAll_cons, ih, requestRestartAttempt_fst d t]

@[simp] theorem requestAll_maxRestartCount (d : TrunkProcessData) (ts : List Int) :
    (d.requestAll ts).maxRestartCount = d.maxRestartCount := by
  rw [requestAll_eq]

@[simp] theorem requestAll_maxRestartIntervalSeconds (d : TrunkProcessData) (ts : List Int) :
    (d.requestAll ts).maxRestartIntervalSeconds = d.maxRestartIntervalSeconds := by
  rw [requestAll_eq]

theorem requestAll_of_zero (h : d.maxRestartCount = 0) : d.requestAll ts = d := by
  induction ts with
  | nil => rfl
  | cons t ts ih => simpa [h] using ih

theorem windowed_requestAll (hN : 0 < d.maxRestartCount) (hu : ∀ x ∈ ts, x ≤ u) :
    windowed d.maxRestartIntervalSeconds u (d.requestAll ts).restartsTime =
      windowed d.maxRestartIntervalSeconds u (d.restartsTime ++ ts) := by
  induction ts generalizing d with
  | nil => simp
  | cons t ts ih =>
    have ht : t ≤ u := hu t (List.mem_cons_self t ts)
    have ih' := ih (d := { d with restartsTime := d.pruned t }) hN
      fun x hx => hu x (List.mem_cons_of_mem t hx)
    simp only [requestAll_cons, requestRestartAttempt_of_pos hN]
    rw [ih', List.append_cons, windowed_append _ _ _ ts, windowed_append _ _ _ ts]
    simp only [pruned_eq_windowed, windowed_windowed ht]

theorem requestAll_attempt (hd : d.restartsTime = []) (hN : 0 < d.maxRestartCount)
    (ht : ∀ x ∈ ts, x ≤ t) :
    ((d.requestAll ts).requestRestartAttempt t).1.restartsTime =
        windowed d.maxRestartIntervalSeconds t (ts ++ [t]) ∧
      ((d.requestAll ts).requestRestartAttempt t).2 =
        decide ((windowed d.maxRestartIntervalSeconds t (ts ++ [t])).length ≤ d.maxRestartCount) := by
  have hw := windowed_requestAll hN ht
  rw [hd, List.nil_append] at hw
  have hk : (d.requestAll ts).pruned t = windowed d.maxRestartIntervalSeconds t (ts ++ [t]) := by
    rw [pruned_eq_windowed, windowed_append, requestAll_maxRestartIntervalSeconds, hw,
      ← windowed_append]
  rw [requestRestartAttempt_of_pos (by simpa using hN)]
  simp [hk]

theorem requestRestartAttempt_congr {e : TrunkProcessData} (hN : d.maxRestartCount = e.maxRestartCount)
    (hW : d.maxRestartIntervalSeconds = e.maxRestartIntervalSeconds)
    (hh : d.restartsTime = e.restartsTime) (t : Int) :
    (d.requestRestartAttempt t).2 = (e.requestRestartAttempt t).2 ∧
      (d.requestRestartAttempt t).1.restartsTime = (e.requestRestartAttempt t).1.restartsTime := by
  simp only [requestRestartAttempt, pruned, hN, hW, hh]
  split <;> simp [hh]

/-- `request_restart_attempt` agrees with a sliding-window count over the never-pruned
history of call times. -/
theorem requestRestartAttempt_sliding_window (d : TrunkProcessData) (hd : d.restartsTime = [])
    (ts : List Int) (t : Int) (hs : (ts ++ [t]).Sorted (· ≤ ·)) :
    let r := (d.requestAll ts).requestRestartAttempt t
    (r.2 = true ↔ d.maxRestartCount = 0 ∨
        (d.maxRestartIntervalSeconds = 0 ∧ ts.length + 1 ≤ d.maxRestartCount) ∨
        (0 < d.maxRestartIntervalSeconds ∧
          ((ts ++ [t]).filter fun x => t - d.maxRestartIntervalSeconds ≤ x).length ≤
            d.maxRestartCount)) ∧
      r.1.restartsTime =
        if d.maxRestartCount = 0 then [] else windowed d.maxRestartIntervalSeconds t (ts ++ [t]) := by
  intro r
  rcases Nat.eq_zero_or_pos d.maxRestartCount with hN | hN
  · simp [r, requestAll_of_zero hN, hN, hd]
  have ht : ∀ x ∈ ts, x ≤ t := fun x hx =>
    (List.pairwise_append.mp hs).2.2 x hx t (List.mem_singleton_self t)
  obtain ⟨hkeep, hans⟩ := requestAll_attempt hd hN ht
  refine ⟨?_, by rw [hkeep, if_neg (by omega)]⟩
  rw [hans, decide_eq_true_iff]
  unfold windowed
  split <;> simp_all <;> omega

def httpDefaults : TrunkProcessData := { name := "http", entrypoint := .startHttp }

/-- A fourth crash nine seconds after the first, under the defaults, is denied, and the
four call times are what is kept. -/
theorem sliding_window_fourth_crash_denied :
    httpDefaults.restartsTime = [] ∧ ([0, 3, 6] ++ [9] : List Int).Sorted (· ≤ ·) ∧
      ((httpDefaults.requestAll [0, 3, 6]).requestRestartAttempt 9).2 = false ∧
      ((httpDefaults.requestAll [0, 3, 6]).requestRestartAttempt 9).1.restartsTime =
        [0, 3, 6, 9] := by
  obtain ⟨hans, hkeep⟩ :=
    requestRestartAttempt_sliding_window httpDefaults rfl [0, 3, 6] 9 (by decide)
  refine ⟨rfl, by decide, Bool.eq_false_iff.mpr fun h => ?_, ?_⟩
  · have := hans.mp h
    simp [httpDefaults] at this
  · simpa [httpDefaults, windowed] using hkeep

theorem decisions_append_singleton (d : TrunkProcessData) (ts : List Int) (t : Int) :
    d.decisions (ts ++ [t]) =
      d.decisions ts ++ [(t, ((d.requestAll ts).requestRestartAttempt t).2)] := by
  induction ts generalizing d with
  | nil => rfl
  | cons x ts ih => simp [decisions, ih]

@[simp] theorem decisions_map_fst (d : TrunkProcessData) (ts : List Int) :
    (d.decisions ts).map (·.1) = ts := by
  induction ts generalizing d with
  | nil => rfl
  | cons x ts ih => simp [decisions, ih]

theorem admitted_append_singleton (d : TrunkProcessData) (ts : List Int) (t : Int) :
    d.admitted (ts ++ [t]) =
      d.admitted ts ++ if ((d.requestAll ts).requestRestartAttempt t).2 then [t] else [] := by
  simp only [admitted, decisions_append_singleton, List.filter_append, List.map_append]
  split <;> simp_all

theorem admitted_sublist (d : TrunkProcessData) (ts : List Int) : (d.admitted ts).Sublist ts := by
  simpa using ((d.decisions ts).filter_sublist (p := (·.2))).map (·.1)

/-- No closed window of `W > 0` seconds holds more than `max_restart_count` admitted
attempts; with `W = 0` no more than that many are ever admitted. -/
theorem admitted_window_bound (hd : d.restartsTime = []) (hN : 0 < d.maxRestartCount)
    (hs : ts.Sorted (· ≤ ·)) :
    (0 < d.maxRestartIntervalSeconds → ∀ s : Int,
        ((d.admitted ts).filter fun x => s ≤ x ∧ x ≤ s + d.maxRestartIntervalSeconds).length ≤
          d.maxRestartCount) ∧
      (d.maxRestartIntervalSeconds = 0 → (d.admitted ts).length ≤ d.maxRestartCount) := by
  induction ts using List.reverseRecOn with
  | nil => simp [admitted, decisions]
  | append_singleton ts t ih =>
    obtain ⟨hts, -, hle⟩ := List.pairwise_append.mp hs
    have ht : ∀ x ∈ ts, x ≤ t := fun x hx => hle x hx t (List.mem_singleton_self t)
    obtain ⟨ih₁, ih₂⟩ := ih hts
    have hsub := admitted_sublist d ts
    rw [admitted_append_singleton, (requestAll_attempt hd hN ht).2, windowed_append,
      windowed_singleton]
    constructor
    · intro hW s
      have ih₁ := ih₁ hW s
      simp only [List.filter_append, List.length_append]
      by_cases hin : s ≤ t ∧ t ≤ s + d.maxRestartIntervalSeconds
      · have hmono : ∀ x, decide (s ≤ x ∧ x ≤ s + d.maxRestartIntervalSeconds) = true →
            decide (t - d.maxRestartIntervalSeconds ≤ x) = true := by
          intro x hx
          simp only [decide_eq_true_eq] at hx ⊢
          omega
        have hcount := ((hsub.filter _).trans (List.monotone_filter_right ts hmono)).length_le
        simp only [windowed, hW, if_true] at hcount ⊢
        split
        · simp_all; omega
        · simp_all
      · split <;> simp_all
    · intro hW
      have := hsub.length_le
      simp only [windowed, hW, lt_irrefl, if_false, List.length_append, List.length_singleton]
      split
      · simp_all; omega
      · simp_all

end MindsdbSupervisor.TrunkProcessData
