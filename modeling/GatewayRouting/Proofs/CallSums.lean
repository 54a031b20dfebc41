import GatewayRouting.Proofs.Refusals
import Mathlib.Algebra.Order.BigOperators.Group.List
import Mathlib.Algebra.Order.Group.Int
import Mathlib.Algebra.Ring.Int.Defs

/-!
# Sums of recorded calls

Counters are added to with saturation, and that is no addition: what is beyond the range is lost,
so `(a + b) - b` need not be `a`, and in general the order of what is added matters. But as long as
everything that is added is on one side of zero, the sums move one way and reach the end of the
range once at most. Then holding each sum in the range is the same as holding the last one there
(`toInt_foldl_addSaturating`), and only the exact sum of what was added has a say.

So a counter is what it was at the start plus the exact sum of the recorded calls, held in the
range, whatever was recorded for other paths in between (`recorded_calls_add_up`).
-/

namespace GatewayRouting

/-! ## Adding on one side of zero -/

/-- The integer of the signed 64-bit range that is nearest. -/
def heldInRange (i : Int) : Int :=
  max (-2 ^ 63) (min (2 ^ 63 - 1) i)

/-- Integers of which none is below zero, or none is above. -/
def OneSided (amounts : List Int) : Prop :=
  (∀ amount ∈ amounts, 0 ≤ amount) ∨ ∀ amount ∈ amounts, amount ≤ 0

instance (amounts : List Int) : Decidable (OneSided amounts) :=
  inferInstanceAs (Decidable (_ ∨ _))

theorem sum_nonpos {amounts : List Int} (all : ∀ amount ∈ amounts, amount ≤ 0) :
    amounts.sum ≤ 0 := by
  induction amounts with
  | nil => simp
  | cons amount amounts ih =>
    obtain ⟨here, all⟩ := List.forall_mem_cons.mp all
    have rest := ih all
    rw [List.sum_cons]
    omega

namespace OneSided

variable {amount : Int} {amounts amounts' : List Int} {groups : List (List Int)}

theorem of_subset (sided : OneSided amounts) (subset : ∀ amount ∈ amounts', amount ∈ amounts) :
    OneSided amounts' :=
  sided.imp (fun all amount mem => all amount (subset amount mem))
    fun all amount mem => all amount (subset amount mem)

theorem tail (sided : OneSided (amount :: amounts)) : OneSided amounts :=
  sided.of_subset fun _ => List.mem_cons_of_mem amount

/-- The first integer and the sum of the others are on one side. -/
theorem signs (sided : OneSided (amount :: amounts)) :
    (0 ≤ amount ∧ 0 ≤ amounts.sum) ∨ (amount ≤ 0 ∧ amounts.sum ≤ 0) := by
  rcases sided with all | all
  · obtain ⟨here, all⟩ := List.forall_mem_cons.mp all
    exact .inl ⟨here, List.sum_nonneg all⟩
  · obtain ⟨here, all⟩ := List.forall_mem_cons.mp all
    exact .inr ⟨here, sum_nonpos all⟩

/-- The sums of groups are on one side. -/
theorem sums (sided : OneSided groups.flatten) : OneSided (groups.map List.sum) := by
  have inside {group : List Int} (mem : group ∈ groups) (amount : Int) (within : amount ∈ group) :
      amount ∈ groups.flatten := List.mem_flatten.mpr ⟨group, mem, within⟩
  rcases sided with all | all
  · refine .inl fun sum listed => ?_
    obtain ⟨group, mem, rfl⟩ := List.mem_map.mp listed
    exact List.sum_nonneg fun amount within => all amount (inside mem amount within)
  · refine .inr fun sum listed => ?_
    obtain ⟨group, mem, rfl⟩ := List.mem_map.mp listed
    exact sum_nonpos fun amount within => all amount (inside mem amount within)

end OneSided

theorem heldInRange_toInt (counter : Int64) : heldInRange counter.toInt = counter.toInt := by
  have low := counter.le_toInt
  have high := counter.toInt_lt
  rw [heldInRange]
  omega

theorem toInt_addSaturating (counter amount : Int64) :
    (Route.addSaturating counter amount).toInt = heldInRange (counter.toInt + amount.toInt) := by
  rw [Route.addSaturating, Int64.toInt_minValue, Int64.toInt_maxValue, ← heldInRange]
  refine Int64.toInt_ofInt_of_le ?_ ?_ <;> rw [heldInRange] <;> omega

section

variable {α : Type} {amount : α → Int64} {items sums : List α} {groups : List (List α)}

/-- **On one side of zero, only the last sum needs to be held in the range.** -/
theorem toInt_foldl_addSaturating (sided : OneSided (items.map fun item => (amount item).toInt))
    (counter : Int64) :
    ((items.map amount).foldl Route.addSaturating counter).toInt =
      heldInRange (counter.toInt + (items.map fun item => (amount item).toInt).sum) := by
  induction items generalizing counter with
  | nil =>
    rw [List.map_nil, List.map_nil, List.sum_nil, Int.add_zero, heldInRange_toInt]
    rfl
  | cons item items ih =>
    rw [List.map_cons] at sided
    have signs := sided.signs
    have low := counter.le_toInt
    have high := counter.toInt_lt
    rw [List.map_cons, List.map_cons, List.foldl_cons, ih sided.tail, toInt_addSaturating,
      List.sum_cons]
    simp only [heldInRange]
    omega

/-- What is never below zero takes nothing away. -/
theorem le_foldl_addSaturating (adds : ∀ i ∈ items.map fun item => (amount item).toInt, 0 ≤ i)
    (counter : Int64) : counter ≤ (items.map amount).foldl Route.addSaturating counter := by
  have sum : 0 ≤ (items.map fun item => (amount item).toInt).sum := List.sum_nonneg adds
  have low := counter.le_toInt
  have high := counter.toInt_lt
  rw [Int64.le_iff_toInt_le, toInt_foldl_addSaturating (.inl adds), heldInRange]
  omega

/-- On one side of zero it makes no difference in which order amounts are added, and which of them
are added at once. -/
theorem foldl_addSaturating_of_groups
    (sided : OneSided (items.map fun item => (amount item).toInt))
    (same : groups.flatten.Perm items)
    (gathers : List.Forall₂
      (fun group sum => (amount sum).toInt = (group.map fun item => (amount item).toInt).sum)
      groups sums) (counter : Int64) :
    (sums.map amount).foldl Route.addSaturating counter =
      (items.map amount).foldl Route.addSaturating counter := by
  have exactly : sums.map (fun item => (amount item).toInt) =
      (groups.map (List.map fun item => (amount item).toInt)).map List.sum := by
    clear same
    induction gathers with
    | nil => rfl
    | cons here _ ih => rw [List.map_cons, List.map_cons, List.map_cons, here, ih]
  have flat : (groups.map (List.map fun item => (amount item).toInt)).flatten.Perm
      (items.map fun item => (amount item).toInt) := by
    rw [← List.map_flatten]
    exact same.map _
  have sided' : OneSided (sums.map fun item => (amount item).toInt) := by
    rw [exactly]
    exact (sided.of_subset fun _ mem => flat.subset mem).sums
  rw [← Int64.toInt_inj, toInt_foldl_addSaturating sided', toInt_foldl_addSaturating sided,
    exactly, ← List.sum_flatten, flat.sum_eq]

end

/-! ## Recordings -/

/-- Some calls that are recorded for a path at once. -/
structure Recording where
  /-- the path of the route that was called -/
  path : String
  /-- how many calls are added -/
  calls : Int64
  /-- how long they took, in milliseconds -/
  time : Int64
  /-- whether a service is asked to record them, or the table itself -/
  byService : Bool := true

namespace Recording

/-- The use that is made of a table, or of a service over it. -/
def use {σ : Type} (recording : Recording) : Use σ :=
  if recording.byService then
    .service (.asked (.recordCalls recording.path recording.calls recording.time))
  else .direct (.recordCalls recording.path recording.calls recording.time)

/-- What a recording makes of the route of its path. -/
def applyTo (route : Route) (recording : Recording) : Route :=
  route.recordCalls recording.calls recording.time

/-- A recording that adds at once what some others add together. -/
structure Gathers (group : List Recording) (recording : Recording) : Prop where
  /-- as many calls -/
  calls : recording.calls.toInt = (group.map (·.calls.toInt)).sum
  /-- as much time -/
  time : recording.time.toInt = (group.map (·.time.toInt)).sum

end Recording

/-- The recordings for a path. -/
def recordingsFor (path : String) (recordings : List Recording) : List Recording :=
  recordings.filter (·.path = path)

namespace Deployment

variable {σ : Type} {d : Deployment σ} {world : World σ} {path : String}

theorem use_recording (recording : Recording) :
    d.use world recording.use =
      (world.change (·.recordCalls recording.path recording.calls recording.time)).2 := by
  rw [Recording.use]
  split <;> rfl

/-- One recording, in a table within reach, adds to the counters of its path. -/
theorem find?_use_recording (here : world.outage = none) (recording : Recording) :
    (d.use world recording.use).table.find? path =
      (world.table.find? path).map fun route =>
        if recording.path = path then recording.applyTo route else route := by
  rw [use_recording]
  obtain ⟨path', calls, time, byService⟩ := recording
  cases agrees : world.table.recordCalls path' calls time with
  | ok table =>
    rw [World.change_of_ok here agrees, (Table.of_recordCalls agrees).2]
    exact Table.find?_modify
  | error error =>
    -- it is refused if there is no route of its path, so none can be found
    have missing : path' ∉ world.table.routes.map (·.path) := by
      cases Table.recordCalls_eq_error_iff.mp agrees with
      | missingCalled missing => exact missing
    rw [World.change_of_error here agrees]
    cases found : world.table.find? path with
    | none => rfl
    | some route =>
      have other : path' ≠ path := by
        rintro rfl
        exact missing (Table.isRegistered_iff.mp (Option.isSome_iff_exists.mpr ⟨route, found⟩))
      simp [other]

theorem outage_use_recording (recording : Recording) :
    (d.use world recording.use).outage = world.outage := by
  rw [use_recording, World.change_snd]

/-- **Recordings add to the route of their path**, one after the other, and to no other one. -/
theorem find?_usage_recordings (here : world.outage = none) (recordings : List Recording) :
    (d.usage world (recordings.map Recording.use)).table.find? path =
      (world.table.find? path).map fun route =>
        (recordingsFor path recordings).foldl Recording.applyTo route := by
  induction recordings generalizing world with
  | nil => exact Option.map_id_apply.symm
  | cons recording recordings ih =>
    have there : (d.use world recording.use).outage = none :=
      (outage_use_recording recording).trans here
    have step := ih there
    rw [find?_use_recording here, Option.map_map] at step
    refine step.trans (congrArg (Option.map · _) (funext fun route => ?_))
    by_cases own : recording.path = path
    · simp [recordingsFor, own]
    · simp [recordingsFor, own]

end Deployment

/-! ## The result -/

/-- The recordings add the calls and the times, each to a counter of its own. -/
theorem foldl_applyTo (recordings : List Recording) (route : Route) :
    recordings.foldl Recording.applyTo route =
      { route with
        callCount := (recordings.map (·.calls)).foldl Route.addSaturating route.callCount
        totalResponseTime :=
          (recordings.map (·.time)).foldl Route.addSaturating route.totalResponseTime } := by
  induction recordings generalizing route with
  | nil => rfl
  | cons recording recordings ih => exact ih _

/-- **Recorded calls add up.** Let a route be found under a path, in a table within reach, with any
counters, and let calls be recorded, for that path and for any others, by a service or without one.
Then the route is found as it was but for its counters. If the calls that were recorded for the path
are all on one side of zero, then its first counter is what it was plus their exact sum, held in the
range; and if none is below zero, then the counter is not less than it was. The same goes for the
times and the second counter, whatever the calls are. So nothing is changed if the recordings come
in another order, or amid recordings for other paths that are not the same, or if some of them are
recorded at once. -/
theorem recorded_calls_add_up {σ : Type} (d : Deployment σ) (world : World σ)
    (here : world.outage = none) (path : String) (route : Route)
    (found : world.table.find? path = some route) (recordings : List Recording) :
    let own := recordingsFor path recordings
    let calls := own.map (·.calls.toInt)
    let times := own.map (·.time.toInt)
    ∃ after, (d.usage world (recordings.map Recording.use)).table.find? path = some after ∧
      after.SameUpToCounters route ∧
      (OneSided calls →
        after.callCount.toInt = heldInRange (route.callCount.toInt + calls.sum)) ∧
      (OneSided times →
        after.totalResponseTime.toInt =
          heldInRange (route.totalResponseTime.toInt + times.sum)) ∧
      ((∀ amount ∈ calls, 0 ≤ amount) → route.callCount ≤ after.callCount) ∧
      ((∀ amount ∈ times, 0 ≤ amount) → route.totalResponseTime ≤ after.totalResponseTime) ∧
      ∀ (groups : List (List Recording)) (others : List Recording), groups.flatten.Perm own →
        List.Forall₂ Recording.Gathers groups (recordingsFor path others) →
        ∃ other, (d.usage world (others.map Recording.use)).table.find? path = some other ∧
          (OneSided calls → other.callCount = after.callCount) ∧
          (OneSided times → other.totalResponseTime = after.totalResponseTime) := by
  intro own calls times
  have finds (recordings : List Recording) :
      (d.usage world (recordings.map Recording.use)).table.find? path =
        some ((recordingsFor path recordings).foldl Recording.applyTo route) := by
    rw [Deployment.find?_usage_recordings here, found, Option.map_some]
  refine ⟨_, finds recordings, ?_⟩
  rw [foldl_applyTo]
  refine ⟨rfl, fun sided => toInt_foldl_addSaturating sided _,
    fun sided => toInt_foldl_addSaturating sided _, fun adds => le_foldl_addSaturating adds _,
    fun adds => le_foldl_addSaturating adds _, ?_⟩
  intro groups others perm gathers
  refine ⟨_, finds others, ?_⟩
  rw [foldl_applyTo]
  constructor
  · intro sided
    exact foldl_addSaturating_of_groups sided perm (gathers.imp fun _ _ sums => sums.calls) _
  · intro sided
    exact foldl_addSaturating_of_groups sided perm (gathers.imp fun _ _ sums => sums.time) _

/-- Calls of two routes. Those of one are too many for its counter, and their times are negative. -/
def manyCalls : List Recording :=
  [⟨"/orders", 9223372036854775800, -5, true⟩, ⟨"/users/:id", -1, 9, false⟩,
    ⟨"/orders", 4, -7, false⟩, ⟨"/orders", 0, Int64.minValue, true⟩]

/-- The calls of that one route, the last ones first and the others at once. -/
def manyCallsAtOnce : List Recording :=
  [⟨"/orders", 0, Int64.minValue, false⟩, ⟨"/orders", 9223372036854775804, -12, true⟩]

/-- Both counters end up at an end of the range, and do so as well if calls are recorded at once. -/
theorem many_calls_add_up :
    let d := plainDeployment false
    busyWorld.outage = none ∧
      (d.usage busyWorld (manyCalls.map Recording.use)).table.counters? "/orders" =
        some (Int64.maxValue, Int64.minValue) ∧
      (d.usage busyWorld (manyCallsAtOnce.map Recording.use)).table.counters? "/orders" =
        some (Int64.maxValue, Int64.minValue) := by
  intro d
  obtain ⟨after, found, -, calls, times, -, -, regrouped⟩ :=
    recorded_calls_add_up d busyWorld rfl "/orders"
      { path := "/orders", service := "http://orders", callCount := 7 } (by decide) manyCalls
  have calls : after.callCount.toInt = Int64.maxValue.toInt := calls (by decide)
  have times : after.totalResponseTime.toInt = Int64.minValue.toInt := times (by decide)
  rw [Int64.toInt_inj] at calls times
  let groups : List (List Recording) :=
    [[⟨"/orders", 0, Int64.minValue, true⟩],
      [⟨"/orders", 9223372036854775800, -5, true⟩, ⟨"/orders", 4, -7, false⟩]]
  have same : groups.flatten.Perm (recordingsFor "/orders" manyCalls) := List.perm_append_comm
  have gathers : List.Forall₂ Recording.Gathers groups (recordingsFor "/orders" manyCallsAtOnce) :=
    .cons ⟨by decide, by decide⟩ (.cons ⟨by decide, by decide⟩ .nil)
  obtain ⟨other, found', calls', times'⟩ := regrouped groups manyCallsAtOnce same gathers
  rw [Table.counters?, found, Table.counters?, found', Option.map_some, Option.map_some,
    Route.counters, Route.counters, calls' (by decide), times' (by decide), calls, times]
  exact ⟨rfl, rfl, rfl⟩

end GatewayRouting
