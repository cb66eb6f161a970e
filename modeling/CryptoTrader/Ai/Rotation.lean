import CryptoTrader.Lib.Run
import CryptoTrader.Management.Assessor
import Mathlib.Data.Nat.ModEq

/-!
# The rotation of keys and hosts

`ResourceRotator` hands its items out in turn and passes over those that a failure has
put on cooldown.
-/

namespace CryptoTrader

open CryptoTrader.Lib

structure ResourceRotator where
  items : List String
  cooldownS : ℚ
  cooldownUntil : ℕ → ℚ
  currentIdx : ℕ

namespace ResourceRotator

/-- `__init__`. -/
def ofItems (items : List String) (cooldownS : ℚ) : ResourceRotator :=
  { items := (items.map (fun item => String.ofList (strip item.toList))).filter (· ≠ "")
    cooldownS := cooldownS
    cooldownUntil := fun _ => 0
    currentIdx := 0 }

section Calls

variable (r : ResourceRotator) (now : ℚ) (index : ℤ)

/-- The item that the loop looks at in its round `i`. -/
def turn (i : ℕ) : ℕ := (r.currentIdx + i) % r.items.length

/-- The pointer moves past an item that is handed out. -/
def passed (idx : ℕ) : ResourceRotator := { r with currentIdx := (idx + 1) % r.items.length }

/-- `get_next_available`. -/
def getNextAvailable : Option (String × ℕ) × ResourceRotator :=
  match (List.range r.items.length).find? (fun i => r.cooldownUntil (r.turn i) ≤ now) with
  | none => (none, r)
  | some i => (some (r.items.getD (r.turn i) "", r.turn i), r.passed (r.turn i))

/-- An index out of range is left alone. -/
def setUntil (t : ℚ) : ResourceRotator :=
  if 0 ≤ index ∧ index < r.items.length then
    { r with cooldownUntil := Function.update r.cooldownUntil index.toNat t }
  else r

/-- `record_failure`. -/
def recordFailure : ResourceRotator := r.setUntil index (now + r.cooldownS)

/-- `record_success`. -/
def recordSuccess : ResourceRotator := r.setUntil index 0

end Calls

/-- A call, with the clock as it reads it. -/
inductive Call where
  | next (now : ℚ)
  | failure (now : ℚ) (index : ℤ)
  | success (index : ℤ)

def step (r : ResourceRotator) : Call → ResourceRotator
  | .next now => (r.getNextAvailable now).2
  | .failure now index => r.recordFailure now index
  | .success index => r.recordSuccess index

/-- The index a call hands out. -/
def given (r : ResourceRotator) : Call → Option ℕ
  | .next now => (r.getNextAvailable now).1.map Prod.snd
  | _ => none

variable {r : ResourceRotator} {now : ℚ} {idx j : ℕ}

theorem getNextAvailable_cases (r : ResourceRotator) (now : ℚ) :
    (∀ i < r.items.length, now < r.cooldownUntil (r.turn i)) ∧
        r.getNextAvailable now = (none, r) ∨
      ∃ i < r.items.length, r.cooldownUntil (r.turn i) ≤ now ∧
        (∀ k < i, now < r.cooldownUntil (r.turn k)) ∧
        r.getNextAvailable now =
          (some (r.items.getD (r.turn i) "", r.turn i), r.passed (r.turn i)) := by
  unfold getNextAvailable
  cases hfind : (List.range r.items.length).find? (fun i => r.cooldownUntil (r.turn i) ≤ now) with
  | none => exact .inl ⟨by simpa [List.find?_range_eq_none] using hfind, rfl⟩
  | some i =>
      obtain ⟨hready, hmem, hbefore⟩ := List.find?_range_eq_some.mp hfind
      exact .inr ⟨i, List.mem_range.mp hmem, by simpa using hready, by simpa using hbefore, rfl⟩

/-- The rounds of the loop reach every item. -/
theorem exists_turn (hj : j < r.items.length) : ∃ i < r.items.length, r.turn i = j := by
  have hpos := lt_of_le_of_lt (Nat.zero_le j) hj
  have hcur := Nat.mod_lt r.currentIdx hpos
  refine ⟨(j + (r.items.length - r.currentIdx % r.items.length)) % r.items.length,
    Nat.mod_lt _ hpos, ?_⟩
  unfold turn
  rw [Nat.add_mod_mod, ← Nat.mod_add_mod,
    show r.currentIdx % r.items.length + (j + (r.items.length - r.currentIdx % r.items.length)) =
      j + r.items.length by omega, Nat.add_mod_right, Nat.mod_eq_of_lt hj]

/-! ## What is handed out is ready -/

/-- From when on an item is ready: a cooldown after its last failure, unless a success
has been recorded since. -/
def readyAt (cooldownS : ℚ) (idx : ℕ) (ready : ℚ) : Call → ℚ
  | .next _ => ready
  | .failure now index => if index = idx then now + cooldownS else ready
  | .success index => if index = idx then 0 else ready

theorem setUntil_kept (index : ℤ) (t : ℚ) : (r.setUntil index t).items = r.items ∧
    (r.setUntil index t).cooldownS = r.cooldownS ∧
    ∀ idx < r.items.length, (r.setUntil index t).cooldownUntil idx =
      if index = idx then t else r.cooldownUntil idx := by
  unfold setUntil
  split
  · rename_i hindex
    obtain ⟨k, rfl⟩ := Int.eq_ofNat_of_zero_le hindex.1
    exact ⟨rfl, rfl, fun idx _ => by simp [Function.update_apply, eq_comm]⟩
  · rename_i hindex
    exact ⟨rfl, rfl, fun idx hidx => (if_neg (fun heq => hindex (by omega))).symm⟩

theorem step_kept (call : Call) : (r.step call).items = r.items ∧
    (r.step call).cooldownS = r.cooldownS ∧
    ∀ idx < r.items.length, (r.step call).cooldownUntil idx =
      readyAt r.cooldownS idx (r.cooldownUntil idx) call := by
  cases call with
  | next now =>
      rcases getNextAvailable_cases r now with ⟨-, heq⟩ | ⟨i, -, -, -, heq⟩
      all_goals simp [step, heq, passed, readyAt]
  | failure now index => exact setUntil_kept index _
  | success index => exact setUntil_kept index _

theorem foldl_step_kept (calls : List Call) : (calls.foldl step r).items = r.items ∧
    ∀ idx < r.items.length, (calls.foldl step r).cooldownUntil idx =
      calls.foldl (readyAt r.cooldownS idx) (r.cooldownUntil idx) := by
  induction calls generalizing r with
  | nil => exact ⟨rfl, fun _ _ => rfl⟩
  | cons call rest ih =>
      obtain ⟨hitems, hcooldown, hready⟩ := step_kept (r := r) call
      obtain ⟨hitems', hready'⟩ := ih (r := r.step call)
      refine ⟨hitems'.trans hitems, fun idx hidx => ?_⟩
      rw [List.foldl_cons, List.foldl_cons, hready' idx (hitems ▸ hidx), hready idx hidx, hcooldown]

/-- **No item is handed out on cooldown**, whatever was called before and whatever the
clock showed; and none is handed out only if all are on cooldown. -/
theorem handed_out_ready (items : List String) (cooldownS : ℚ) (calls : List Call) (now : ℚ) :
    let r := calls.foldl step (ofItems items cooldownS)
    let ready := fun idx => calls.foldl (readyAt cooldownS idx) 0
    (∀ item idx, (r.getNextAvailable now).1 = some (item, idx) →
      r.items[idx]? = some item ∧ ready idx ≤ now) ∧
    ((r.getNextAvailable now).1 = none ↔ ∀ idx < r.items.length, now < ready idx) := by
  intro r ready
  obtain ⟨hitems, hready⟩ := foldl_step_kept (r := ofItems items cooldownS) calls
  have huntil (idx : ℕ) (hidx : idx < r.items.length) : r.cooldownUntil idx = ready idx :=
    hready idx (hitems ▸ hidx)
  have hturn (i : ℕ) (hi : i < r.items.length) : r.turn i < r.items.length :=
    Nat.mod_lt _ (lt_of_le_of_lt (Nat.zero_le i) hi)
  rcases getNextAvailable_cases r now with ⟨hnone, heq⟩ | ⟨i, hi, hyes, -, heq⟩
  · rw [heq]
    refine ⟨fun _ _ h => by simp at h, iff_of_true rfl (fun idx hidx => ?_)⟩
    obtain ⟨i, hi, rfl⟩ := exists_turn hidx
    exact huntil _ hidx ▸ hnone i hi
  · rw [heq]
    rw [huntil _ (hturn i hi)] at hyes
    refine ⟨fun item idx h => ?_, iff_of_false (by simp) (fun h => ?_)⟩
    · obtain ⟨rfl, rfl⟩ : r.items.getD (r.turn i) "" = item ∧ r.turn i = idx := by simpa using h
      exact ⟨by simp [hturn i hi], hyes⟩
    · exact absurd hyes (not_le.mpr (h _ (hturn i hi)))

/-! ## No item is handed out twice before the turn of another -/

/-- A call that asks for an item finds this one ready. -/
def Offers (j : ℕ) (r : ResourceRotator) : Call → Prop
  | .next now => r.cooldownUntil j ≤ now
  | _ => True

/-- The indices that are handed out. -/
def handedOut : ResourceRotator → List Call → List ℕ
  | _, [] => []
  | r, call :: rest => (r.given call).toList ++ handedOut (r.step call) rest

/-- Going round, `j` comes before `idx`. -/
def Before (r : ResourceRotator) (j idx : ℕ) : Prop :=
  ∃ a b, a < b ∧ b < r.items.length ∧ r.turn a = j ∧ r.turn b = idx

theorem turn_passed {i k : ℕ} (hik : i < k) : (r.passed (r.turn i)).turn (k - i - 1) = r.turn k := by
  simp only [turn, passed, Nat.mod_add_mod, Nat.add_assoc]
  congr 1
  omega

/-- As long as `j` is ready and not handed out, neither is what comes after it. -/
theorem Before.step {call : Call} (h : r.Before j idx) (hoffers : Offers j r call)
    (hgiven : r.given call ≠ some j) : (r.step call).Before j idx ∧ r.given call ≠ some idx := by
  have hset (index : ℤ) (t : ℚ) : (r.setUntil index t).Before j idx := by
    unfold setUntil
    split
    · exact h
    · exact h
  cases call with
  | failure now index => exact ⟨hset index _, by simp [given]⟩
  | success index => exact ⟨hset index _, by simp [given]⟩
  | next now =>
      obtain ⟨a, b, hab, hb, rfl, rfl⟩ := h
      rcases getNextAvailable_cases r now with ⟨hnone, -⟩ | ⟨i, hi, -, hbefore, heq⟩
      · exact absurd hoffers (not_le.mpr (hnone a (hab.trans hb)))
      · have hturn : r.given (.next now) = some (r.turn i) := by simp [given, heq]
        rw [hturn] at hgiven ⊢
        have hia : i < a := by
          rcases lt_trichotomy i a with hlt | rfl | hgt
          · exact hlt
          · exact absurd rfl hgiven
          · exact absurd hoffers (not_le.mpr (hbefore a hgt))
        have hstep : r.step (.next now) = r.passed (r.turn i) := by simp [ResourceRotator.step, heq]
        rw [hstep]
        refine ⟨⟨a - i - 1, b - i - 1, by omega, ?_, turn_passed hia, turn_passed (hia.trans hab)⟩, ?_⟩
        · exact lt_of_le_of_lt (by omega) hb
        · intro hsame
          have hmod : Nat.ModEq r.items.length i b :=
            Nat.ModEq.add_left_cancel' r.currentIdx (Option.some.inj hsame)
          exact absurd (hmod.eq_of_lt_of_lt hi hb) (hia.trans hab).ne

theorem Before.not_handedOut {calls : List Call} (h : r.Before j idx)
    (hoffers : AllOk ResourceRotator.step (Offers j) r calls) (hj : j ∉ handedOut r calls) :
    idx ∉ handedOut r calls := by
  induction calls generalizing r with
  | nil => exact List.not_mem_nil
  | cons call rest ih =>
      simp only [handedOut, List.mem_append, Option.mem_toList, not_or] at hj ⊢
      obtain ⟨hnext, hgiven⟩ := h.step hoffers.1 hj.1
      exact ⟨hgiven, ih hnext hoffers.2 hj.2⟩

/-- **No item waits for more than a round**: of two items the one is not handed out again
before the other, as long as that is ready whenever one is asked for. -/
theorem handed_out_in_turn (hgiven : r.given (.next now) = some idx) (hj : j < r.items.length)
    (hne : j ≠ idx) {calls : List Call} (hoffers : AllOk step (Offers j) (r.step (.next now)) calls)
    (hagain : idx ∈ handedOut (r.step (.next now)) calls) :
    j ∈ handedOut (r.step (.next now)) calls := by
  rcases getNextAvailable_cases r now with ⟨-, heq⟩ | ⟨i, hi, -, -, heq⟩
  · simp [given, heq] at hgiven
  · obtain rfl : r.turn i = idx := by simpa [given, heq] using hgiven
    have hstep : r.step (.next now) = r.passed (r.turn i) := by simp [step, heq]
    rw [hstep] at hoffers hagain ⊢
    -- going round from behind it, what was handed out comes last
    have hpos := lt_of_le_of_lt (Nat.zero_le i) hi
    have hlast : (r.passed (r.turn i)).turn (r.items.length - 1) = r.turn i := by
      simp only [turn, passed, Nat.mod_add_mod, Nat.add_assoc]
      rw [show 1 + (r.items.length - 1) = r.items.length by omega, ← Nat.add_assoc,
        Nat.add_mod_right]
    obtain ⟨a, ha, hturn⟩ := exists_turn (r := r.passed (r.turn i)) hj
    have ha' : a < r.items.length := ha
    have hbefore : (r.passed (r.turn i)).Before j (r.turn i) := by
      refine ⟨a, r.items.length - 1, ?_, Nat.sub_lt hpos one_pos, hturn, hlast⟩
      by_contra hlast'
      obtain rfl : a = r.items.length - 1 := by omega
      exact hne (hturn.symm.trans hlast)
    by_contra hmissed
    exact hbefore.not_handedOut hoffers hmissed hagain

/-- Two keys that are never on cooldown. -/
theorem demoKeys_in_turn :
    1 ∈ handedOut (step ⟨["a", "b"], 60, fun _ => 0, 0⟩ (.next 1)) [.next 2, .next 3] :=
  handed_out_in_turn (by decide +kernel : given _ _ = some 0) (by decide) (by decide)
    ⟨(by decide +kernel : (0 : ℚ) ≤ 2), (by decide +kernel : (0 : ℚ) ≤ 3), trivial⟩
    (by decide +kernel)

end ResourceRotator

end CryptoTrader
