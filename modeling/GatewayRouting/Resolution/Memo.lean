/-!
# The memo of answered paths

A route that was found by trying the patterns is cached under the request path, so one pattern can
own any number of cache entries. The memo records for which paths that happened. A change of the
table then knows which entries it has to erase: it takes the recorded paths, forgets them, and
erases the entry of each.

A record lasts for some time and there is room for a number of them; a path without a record
keeps its entry until the entry's own time is over.
-/

namespace GatewayRouting

/-- A path that was answered by a pattern. -/
structure MemoRecord where
  /-- the request path -/
  path : String
  /-- the pattern that accepted it -/
  pattern : String
  /-- the first moment at which the record is gone, in nanoseconds -/
  expiry : Nat
deriving DecidableEq, Repr

/-- The records, at most one for a path. -/
structure Memo where
  /-- how many records there is room for -/
  capacity : Nat
  /-- how long a record lasts, in nanoseconds -/
  lifetime : Nat
  /-- the time, in nanoseconds -/
  now : Nat := 0
  /-- the records in order of first writing -/
  records : List MemoRecord := []
  /-- no path has two records -/
  distinct : (records.map (·.path)).Nodup := by first | exact List.nodup_nil | decide
deriving DecidableEq, Repr

namespace Memo

/-- The memo that has no records yet. -/
def empty (capacity lifetime : Nat) : Memo :=
  { capacity, lifetime }

/-- Whether a record still counts. -/
def isLive (memo : Memo) (record : MemoRecord) : Bool :=
  memo.now < record.expiry

/-- Whether a path has a record, live or not. -/
def holds (memo : Memo) (path : String) : Bool :=
  memo.records.any (·.path == path)

theorem holds_iff {memo : Memo} {path : String} :
    memo.holds path = true ↔ path ∈ memo.records.map (·.path) := by
  simp [holds]

/-- The records with that of a path written over. -/
def replaced (memo : Memo) (record : MemoRecord) : List MemoRecord :=
  memo.records.map fun old => if old.path = record.path then record else old

theorem paths_replaced (memo : Memo) (record : MemoRecord) :
    (memo.replaced record).map (·.path) = memo.records.map (·.path) := by
  rw [replaced, List.map_map]
  refine List.map_congr_left fun old _ => ?_
  rw [Function.comp_apply]
  split
  · next same => exact same.symm
  · rfl

theorem nodup_append {memo : Memo} {record : MemoRecord}
    (fresh : ¬ memo.holds record.path = true) :
    ((memo.records ++ [record]).map (·.path)).Nodup := by
  rw [holds_iff] at fresh
  rw [List.map_append, List.nodup_append]
  refine ⟨memo.distinct, List.pairwise_singleton _ _, fun path mem other here same => fresh ?_⟩
  rwa [same, List.mem_singleton.mp here] at mem

/-- Records a path. A record of the same path is written over; for a new one there has to be
room. -/
def remember (memo : Memo) (path pattern : String) : Memo :=
  let record : MemoRecord := ⟨path, pattern, memo.now + memo.lifetime⟩
  if known : memo.holds path then
    { memo with
      records := memo.replaced record
      distinct := memo.paths_replaced record ▸ memo.distinct }
  else if memo.records.length < memo.capacity then
    { memo with records := memo.records ++ [record], distinct := nodup_append known }
  else memo

/-- The paths with a live record, each with its pattern. -/
def recorded (memo : Memo) : List (String × String) :=
  (memo.records.filter memo.isLive).map fun record => (record.path, record.pattern)

/-- Forgets a path. -/
def forget (memo : Memo) (path : String) : Memo :=
  { memo with
    records := memo.records.filter (·.path ≠ path)
    distinct := List.Nodup.sublist (List.filter_sublist.map _) memo.distinct }

/-- Lets nanoseconds pass. -/
def advance (memo : Memo) (nanoseconds : Nat) : Memo :=
  { memo with now := memo.now + nanoseconds }

/-- Takes out all that is recorded. -/
def drain (memo : Memo) : List (String × String) × Memo :=
  (memo.recorded, memo.recorded.foldl (fun memo record => memo.forget record.1) memo)

end Memo
end GatewayRouting
