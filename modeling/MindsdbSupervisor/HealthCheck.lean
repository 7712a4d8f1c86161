import MindsdbSupervisor.TrunkProcess

/-!
# The health check after a start

`wait_api_start`, polling `is_pid_listen_port` every half second for sixty seconds; the
clock (in milliseconds) and the answers come from the environment (`waitApiStart_spec`).
-/

namespace MindsdbSupervisor

/-- What `wait_api_start` meets: `elapsed n` is `time.time() - start_time` in milliseconds at
the `n`-th test of the loop condition (the first is `1`), and `listening n` the answer of
the `n`-th call of `is_pid_listen_port` (the one before the loop is `0`). -/
structure PollEnv where
  elapsed : Nat → Int
  listening : Nat → Bool

/-- `timeout = 60`, in milliseconds. -/
def waitApiStartTimeout : Int := 60000

/-- The `while` loop from its `n`-th test on, `started` holding the last answer, for at
most `fuel` tests: the answer it returns with the number of polls made. -/
def waitLoop (env : PollEnv) : Nat → Nat → Bool → Option (Bool × Nat)
  | 0, _, _ => none
  | fuel + 1, n, started =>
    if env.elapsed n < waitApiStartTimeout ∧ started = false then
      waitLoop env fuel (n + 1) (env.listening n)
    else some (started, n)

/-- `wait_api_start(api_name, pid, port)`, for at most `fuel` tests of the loop. -/
def waitApiStart (env : PollEnv) (fuel : Nat) (apiName : String) (port : Option Nat) :
    Option (String × Option Nat × Bool) :=
  (waitLoop env fuel 1 (env.listening 0)).map fun r => (apiName, port, r.1)

variable {env : PollEnv}

/-- What a run of the loop from test `n` did: every test before the last found the time
left and the port closed, the last found the timeout passed or the port listening, and the
answer is the last poll's. -/
theorem waitLoop_spec : ∀ {fuel n : Nat} {st b : Bool} {m : Nat}, 1 ≤ n →
    st = env.listening (n - 1) → waitLoop env fuel n st = some (b, m) →
    n ≤ m ∧ b = env.listening (m - 1) ∧
      (∀ j, n ≤ j → j < m → env.elapsed j < waitApiStartTimeout ∧ env.listening (j - 1) = false) ∧
      (waitApiStartTimeout ≤ env.elapsed m ∨ env.listening (m - 1) = true)
  | 0, _, _, _, _, _, _, h => by simp [waitLoop] at h
  | fuel + 1, n, st, b, m, hn, hst, h => by
    unfold waitLoop at h
    split at h
    · rename_i hc
      obtain ⟨hnm, hb, hbefore, hlast⟩ := waitLoop_spec (by omega) (by simp) h
      refine ⟨by omega, hb, fun j hj hjm => ?_, hlast⟩
      rcases Nat.eq_or_lt_of_le hj with rfl | hj
      · exact ⟨hc.1, hst ▸ hc.2⟩
      · exact hbefore j hj hjm
    · rename_i hc
      obtain ⟨rfl, rfl⟩ := Prod.mk.inj (Option.some_inj.mp h)
      refine ⟨le_rfl, hst, fun j hj hjm => absurd hjm (by omega), ?_⟩
      rw [← hst]
      by_cases ht : env.elapsed n < waitApiStartTimeout
      · cases hs : st
        · exact absurd ⟨ht, hs⟩ hc
        · exact .inr rfl
      · exact .inl (Int.not_lt.mp ht)

theorem waitLoop_add : ∀ {fuel n : Nat} {st : Bool} {r : Bool × Nat} (k : Nat),
    waitLoop env fuel n st = some r → waitLoop env (fuel + k) n st = some r
  | 0, _, _, _, _, h => by simp [waitLoop] at h
  | fuel + 1, n, st, r, k, h => by
    rw [Nat.add_right_comm]
    unfold waitLoop at h ⊢
    split
    · rename_i hc
      rw [if_pos hc] at h
      exact waitLoop_add k h
    · rename_i hc
      rwa [if_neg hc] at h

theorem waitLoop_ends (hsleep : ∀ n : Nat, 500 * ((n : Int) - 1) ≤ env.elapsed n) :
    ∀ (fuel n : Nat) (st : Bool), 1 ≤ fuel → 122 ≤ n + fuel →
      ∃ b m, waitLoop env fuel n st = some (b, m) ∧ m ≤ max n 121
  | 0, _, _, h, _ => absurd h (by decide)
  | fuel + 1, n, st, _, hf => by
    unfold waitLoop
    split
    · rename_i hc
      have hlt : n ≤ 120 := by
        have := hsleep n
        have := hc.1
        simp only [waitApiStartTimeout] at this
        omega
      obtain ⟨b, m, h, hm⟩ := waitLoop_ends hsleep fuel (n + 1) (env.listening n) (by omega) (by omega)
      exact ⟨b, m, h, by omega⟩
    · exact ⟨st, n, rfl, le_max_left _ _⟩

/-- When each sleep lasts half a second, `wait_api_start` returns after at most 121 polls
of the port, with the same answer for any fuel beyond that; it reports the API started
exactly when some poll made before the sixty seconds ran out found the port listening. -/
theorem waitApiStart_spec (hsleep : ∀ n : Nat, 500 * ((n : Int) - 1) ≤ env.elapsed n)
    (apiName : String) (port : Option Nat) :
    ∃ started polls, polls ≤ 121 ∧
      (∀ fuel, 121 ≤ fuel → waitLoop env fuel 1 (env.listening 0) = some (started, polls) ∧
        waitApiStart env fuel apiName port = some (apiName, port, started)) ∧
      (started = true ↔ ∃ j, env.listening j = true ∧
        ∀ i, 1 ≤ i → i ≤ j → env.elapsed i < waitApiStartTimeout) := by
  obtain ⟨b, m, h, hm⟩ := waitLoop_ends hsleep 121 1 (env.listening 0) (by decide) (le_refl 122)
  obtain ⟨h1, hb, hbefore, hlast⟩ := waitLoop_spec (by decide) rfl h
  have hfuel : ∀ fuel, 121 ≤ fuel → waitLoop env fuel 1 (env.listening 0) = some (b, m) := by
    intro fuel hf
    obtain ⟨k, rfl⟩ := Nat.exists_eq_add_of_le hf
    exact waitLoop_add k h
  refine ⟨b, m, by simpa using hm, fun fuel hf => ⟨hfuel fuel hf, by simp [waitApiStart, hfuel fuel hf]⟩,
    ⟨fun hbt => ⟨m - 1, hb ▸ hbt, fun i hi hij => (hbefore i hi (by omega)).1⟩, ?_⟩⟩
  rintro ⟨j, hj, hbefore'⟩
  rw [hb]
  by_contra hf
  simp only [Bool.not_eq_true] at hf
  have hjm : m ≤ j := by
    by_contra hjm
    rcases Nat.lt_or_ge (j + 1) m with hj' | hj'
    · have := (hbefore (j + 1) (by omega) hj').2
      simp [hj] at this
    · have : j = m - 1 := by omega
      simp [this, hf] at hj
  have := hbefore' m (by omega) hjm
  rcases hlast with hl | hl
  · exact absurd hl (Int.not_le.mpr this)
  · simp [hl] at hf

def portOpensAtFourthPoll : PollEnv := ⟨fun n => 500 * ((n : Int) - 1), fun n => decide (3 ≤ n)⟩

example : waitApiStart portOpensAtFourthPoll 121 "http" (some 47334) =
    some ("http", some 47334, true) := by
  decide

theorem waitApiStart_port_opens :
    (∀ n : Nat, 500 * ((n : Int) - 1) ≤ portOpensAtFourthPoll.elapsed n) ∧
      ∃ started polls, polls ≤ 121 ∧
        (∀ fuel, 121 ≤ fuel →
          waitLoop portOpensAtFourthPoll fuel 1 (portOpensAtFourthPoll.listening 0) =
            some (started, polls) ∧
          waitApiStart portOpensAtFourthPoll fuel "http" (some 47334) =
            some ("http", some 47334, started)) ∧
        (started = true ↔ ∃ j, portOpensAtFourthPoll.listening j = true ∧
          ∀ i, 1 ≤ i → i ≤ j → portOpensAtFourthPoll.elapsed i < waitApiStartTimeout) :=
  have hs : ∀ n : Nat, 500 * ((n : Int) - 1) ≤ portOpensAtFourthPoll.elapsed n := fun _ => Int.le_refl _
  ⟨hs, waitApiStart_spec hs "http" (some 47334)⟩

end MindsdbSupervisor
