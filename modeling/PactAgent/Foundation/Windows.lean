import Mathlib

/-! Counters of fixed windows. The first call opens a window of a given length, the calls
until its end are counted, and the first call behind it opens the next one. A call is
within a limit when its count is. -/

namespace PactAgent.Foundation.Windows

/-- A window: the calls in it so far, and its end. -/
structure Bucket where
  count : Nat
  resetAt : Nat
  deriving DecidableEq

/-- A bucket counts up to its end. -/
def live (now : Nat) (bucket : Option Bucket) : Option Bucket :=
  bucket.filter fun bucket => now < bucket.resetAt

/-- The bucket after a call. -/
def next (length now : Nat) (bucket : Option Bucket) : Bucket :=
  match live now bucket with
  | some bucket => ⟨bucket.count + 1, bucket.resetAt⟩
  | none => ⟨1, now + length⟩

/-- A call that was counted: when it came, and its number in its window. -/
structure Call where
  time : Nat
  count : Nat

/-- The call came within the interval and within the limit. -/
def Call.passes (limit start stop : Nat) (call : Call) : Bool :=
  start ≤ call.time && call.time < stop && call.count ≤ limit

/-- How many calls within the limit came in an interval. -/
def passed (limit start stop : Nat) (calls : List Call) : Nat := calls.countP (Call.passes limit start stop)

/-- How many calls came from a time on. -/
def came (start : Nat) (calls : List Call) : Nat := calls.countP fun call => start ≤ call.time

section Live
variable {now later : Nat} {bucket : Option Bucket}

theorem live_later {other : Option Bucket} (same : live now bucket = live now other) (onwards : now ≤ later) :
    live later bucket = live later other := by
  have narrowed : ∀ bucket : Option Bucket, live later bucket = live later (live now bucket) := by
    intro bucket
    cases bucket with
    | none => rfl
    | some bucket =>
      by_cases open' : now < bucket.resetAt
      · simp [live, Option.filter, open']
      · have ended : ¬later < bucket.resetAt := by omega
        simp [live, Option.filter, open', ended]
  rw [narrowed bucket, narrowed other, same]

theorem live_some {open' : Bucket} : live now bucket = some open' ↔ bucket = some open' ∧ now < open'.resetAt := by
  simp [live, Option.filter_eq_some_iff]

end Live

section Passed
variable {limit start stop : Nat} {calls earlier : List Call}

theorem passed_append : passed limit start stop (calls ++ earlier) =
    passed limit start stop calls + passed limit start stop earlier := List.countP_append

theorem passed_none (outside : ∀ call ∈ calls, call.time < start ∨ stop ≤ call.time) :
    passed limit start stop calls = 0 := by
  unfold passed
  rw [List.countP_eq_zero]
  intro call member inside
  have bounds := outside call member
  simp only [Call.passes, Bool.and_eq_true, decide_eq_true_eq] at inside
  omega

theorem passed_cons (call : Call) : passed limit start stop (call :: calls) =
    passed limit start stop calls + if call.passes limit start stop then 1 else 0 := List.countP_cons

end Passed

/-- The calls so far: those of the last window, and those of the windows before it. -/
structure Tally where
  start : Nat
  current : List Call
  earlier : List Call

def Tally.calls (tally : Tally) : List Call := tally.current ++ tally.earlier

/-- No calls yet. -/
def Tally.empty : Tally := ⟨0, [], []⟩

/-- The calls have left this bucket. -/
structure Tallied (length limit : Nat) (tally : Tally) (now : Nat) (bucket : Option Bucket) : Prop where
  start : tally.start ≤ now
  counted : ∀ later, now ≤ later → live later bucket =
    if tally.current ≠ [] ∧ later < tally.start + length then some ⟨tally.current.length, tally.start + length⟩ else none
  begun : ∀ call ∈ tally.current, tally.start ≤ call.time ∧ call.time < tally.start + length
  before : ∀ call ∈ tally.earlier, call.time < tally.start
  /-- The call that opened the window came at its start. -/
  opened : ∀ since till, passed limit since till tally.current ≤ min tally.current.length limit ∧
    (tally.start < since → passed limit since till tally.current ≤ min tally.current.length limit - 1)
  /-- Of the windows before, only the last one reaches into an interval that meets this one. -/
  apart : ∀ since till, tally.start < since + length → passed limit since till tally.earlier ≤ limit - 1
  bounded : ∀ since, passed limit since (since + length) tally.calls ≤ 2 * limit - 1

section Tallied
variable {length limit now time : Nat} {tally : Tally} {bucket : Option Bucket}

theorem Tallied.initial (length limit now : Nat) : Tallied length limit .empty now none where
  start := Nat.zero_le _
  counted := fun _ _ => rfl
  begun := fun _ member => by cases member
  before := fun _ member => by cases member
  opened := fun _ _ => ⟨Nat.zero_le _, fun _ => Nat.zero_le _⟩
  apart := fun _ _ _ => Nat.zero_le _
  bounded := fun _ => Nat.zero_le _

/-- A bucket that counts the same is as good. -/
theorem Tallied.congr {other : Option Bucket} (tallied : Tallied length limit tally now bucket)
    (onwards : now ≤ time) (same : live time other = live time bucket) : Tallied length limit tally time other := by
  refine { tallied with start := tallied.start.trans onwards, counted := ?_ }
  intro later after
  rw [live_later same after]
  exact tallied.counted later (onwards.trans after)

theorem Tallied.idle (tallied : Tallied length limit tally now bucket) (onwards : now ≤ time) :
    Tallied length limit tally time bucket := tallied.congr onwards rfl

/-- Two windows meet an interval that is no longer than one, and the call that opened the
first of them came before it. -/
theorem passed_both {tally : Tally} (begun : ∀ call ∈ tally.current, tally.start ≤ call.time)
    (mine : ∀ since till, passed limit since till tally.current ≤ limit)
    (apart : ∀ since till, tally.start < since + length → passed limit since till tally.earlier ≤ limit - 1)
    (bounded : ∀ since, passed limit since (since + length) tally.earlier ≤ 2 * limit - 1) (since : Nat) :
    passed limit since (since + length) tally.calls ≤ 2 * limit - 1 := by
  unfold Tally.calls
  rw [passed_append]
  by_cases meets : tally.start < since + length
  · have own := mine since (since + length)
    have theirs := apart since (since + length) meets
    omega
  · have own : passed limit since (since + length) tally.current = 0 := by
      apply passed_none
      intro call member
      have from' := begun call member
      omega
    have theirs := bounded since
    omega

theorem Tallied.earlier (tallied : Tallied length limit tally now bucket) (since : Nat) :
    passed limit since (since + length) tally.earlier ≤ 2 * limit - 1 := by
  have all := tallied.bounded since
  unfold Tally.calls at all
  rw [passed_append] at all
  omega

/-- A call in an open window. -/
def Tally.count (tally : Tally) (time : Nat) : Tally :=
  { tally with current := ⟨time, tally.current.length + 1⟩ :: tally.current }

/-- A call that opens a window. -/
def Tally.renew (tally : Tally) (time : Nat) : Tally := ⟨time, [⟨time, 1⟩], tally.calls⟩

theorem Tallied.continues (tallied : Tallied length limit tally now bucket) (onwards : now ≤ time)
    (some' : tally.current ≠ []) (inside : time < tally.start + length) :
    Tallied length limit (tally.count time) time (some ⟨tally.current.length + 1, tally.start + length⟩) := by
  have from' : tally.start ≤ time := tallied.start.trans onwards
  have positive : 0 < tally.current.length := List.length_pos_of_ne_nil some'
  have begun : ∀ call ∈ (tally.count time).current, tally.start ≤ call.time ∧ call.time < tally.start + length := by
    intro call member
    cases List.mem_cons.mp member with
    | inl new => exact new ▸ ⟨from', inside⟩
    | inr old => exact tallied.begun call old
  have opened : ∀ since till, passed limit since till (tally.count time).current ≤ min (tally.current.length + 1) limit ∧
      (tally.start < since →
        passed limit since till (tally.count time).current ≤ min (tally.current.length + 1) limit - 1) := by
    intro since till
    obtain ⟨all, inner⟩ := tallied.opened since till
    unfold Tally.count
    rw [passed_cons]
    split
    next passes =>
      have within : tally.current.length + 1 ≤ limit := by
        simp only [Call.passes, Bool.and_eq_true, decide_eq_true_eq] at passes
        exact passes.2
      refine ⟨by omega, ?_⟩
      intro later
      have := inner later
      omega
    next =>
      refine ⟨by omega, ?_⟩
      intro later
      have := inner later
      omega
  refine ⟨from', ?_, begun, tallied.before, opened, tallied.apart, ?_⟩
  · intro later after
    unfold live
    by_cases open' : later < tally.start + length
    · simp [Tally.count, Option.filter, open']
    · simp [Tally.count, Option.filter, open']
  · refine passed_both (fun call member => (begun call member).1) ?_ tallied.apart tallied.earlier
    intro since till
    have := (opened since till).1
    omega

theorem Tallied.renews (tallied : Tallied length limit tally now bucket) (onwards : now ≤ time) (positive : 0 < length)
    (over' : tally.current = [] ∨ tally.start + length ≤ time) :
    Tallied length limit (tally.renew time) time (some ⟨1, time + length⟩) := by
  have from' : tally.start ≤ time := tallied.start.trans onwards
  have begun : ∀ call ∈ (tally.renew time).current, time ≤ call.time ∧ call.time < time + length := by
    intro call member
    cases List.mem_singleton.mp member
    exact ⟨le_refl time, by change time < time + length; omega⟩
  have before : ∀ call ∈ tally.calls, call.time < time := by
    intro call member
    cases List.mem_append.mp member with
    | inl last =>
      have bounds := tallied.begun call last
      cases over' with
      | inl none => rw [none] at last; cases last
      | inr ended => omega
    | inr old =>
      have := tallied.before call old
      omega
  have opened : ∀ since till, passed limit since till (tally.renew time).current ≤ min 1 limit ∧
      (time < since → passed limit since till (tally.renew time).current ≤ min 1 limit - 1) := by
    intro since till
    unfold Tally.renew
    rw [passed_cons]
    simp only [Call.passes, Bool.and_eq_true, decide_eq_true_eq, passed, List.countP_nil]
    constructor
    · split <;> omega
    · intro later
      split <;> omega
  have apart : ∀ since till, time < since + length → passed limit since till tally.calls ≤ limit - 1 := by
    intro since till meets
    unfold Tally.calls
    rw [passed_append]
    by_cases none : tally.current = []
    · have theirs := tallied.apart since till (by omega)
      rw [none]
      simpa [passed] using theirs
    · have ended := over'.resolve_left none
      have last := (tallied.opened since till).2 (by omega)
      have old : passed limit since till tally.earlier = 0 := by
        apply passed_none
        intro call member
        have := tallied.before call member
        omega
      omega
  refine ⟨le_refl time, ?_, begun, before, opened, apart, ?_⟩
  · intro later after
    unfold live
    by_cases open' : later < time + length
    · simp [Tally.renew, Option.filter, open']
    · simp [Tally.renew, Option.filter, open']
  · refine passed_both (fun call member => (begun call member).1) ?_ apart tallied.bounded
    intro since till
    have := (opened since till).1
    omega

/-- A call: its window, and its number there. -/
theorem Tallied.call (tallied : Tallied length limit tally now bucket) (onwards : now ≤ time) (positive : 0 < length) :
    ∃ after : Tally, Tallied length limit after time (some (next length time bucket)) ∧
      after.calls = ⟨time, (next length time bucket).count⟩ :: tally.calls ∧
      after.current.length = (next length time bucket).count ∧ time < after.start + length := by
  have known := tallied.counted time onwards
  by_cases continues : tally.current ≠ [] ∧ time < tally.start + length
  · rw [if_pos continues] at known
    have same : next length time bucket = ⟨tally.current.length + 1, tally.start + length⟩ := by
      unfold next
      rw [known]
    rw [same]
    exact ⟨tally.count time, tallied.continues onwards continues.1 continues.2, rfl, rfl, continues.2⟩
  · rw [if_neg continues] at known
    have same : next length time bucket = ⟨1, time + length⟩ := by
      unfold next
      rw [known]
    rw [same]
    refine ⟨tally.renew time, tallied.renews onwards positive ?_, rfl, rfl, ?_⟩
    · by_contra both
      exact continues ⟨fun none => both (.inl none), by omega⟩
    · change time < time + length
      omega

/-- A call, or none, between two moments. -/
theorem Tallied.perhaps {asked : Prop} [Decidable asked] {other : Option Bucket}
    (tallied : Tallied length limit tally now bucket) (onwards : now ≤ time) (positive : 0 < length)
    (same : live time other = live time (if asked then some (next length time bucket) else bucket)) :
    ∃ after : Tally, Tallied length limit after time other ∧
      after.calls = (if asked then [⟨time, (next length time bucket).count⟩] else []) ++ tally.calls := by
  by_cases asks : asked
  · simp only [if_pos asks] at same ⊢
    obtain ⟨after, counted, calls, _⟩ := tallied.call onwards positive
    exact ⟨after, counted.congr (le_refl time) same, calls⟩
  · simp only [if_neg asks] at same ⊢
    exact ⟨tally, tallied.congr onwards same, rfl⟩

/-- A call beyond the limit had the calls that fill its window before it, no longer ago than
a window. -/
theorem Tallied.full (tallied : Tallied length limit tally now bucket) (onwards : now ≤ time) (positive : 0 < length)
    (excess : limit < (next length time bucket).count) : limit ≤ came (time + 1 - length) tally.calls := by
  obtain ⟨after, counted, calls, size, inside⟩ := tallied.call onwards positive
  have all : after.current.length ≤ came (time + 1 - length) after.calls := by
    have each : ∀ call ∈ after.current, decide (time + 1 - length ≤ call.time) = true := by
      intro call member
      have bounds := counted.begun call member
      exact decide_eq_true (by omega)
    unfold came Tally.calls
    rw [List.countP_append, List.countP_eq_length.mpr each]
    omega
  have one : came (time + 1 - length) after.calls ≤ came (time + 1 - length) tally.calls + 1 := by
    rw [calls]
    unfold came
    rw [List.countP_cons]
    split <;> omega
  omega

end Tallied

end PactAgent.Foundation.Windows
