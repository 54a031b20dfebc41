import GatewayRouting.Cache.Timed
import GatewayRouting.Cache.Unreliable
import GatewayRouting.Resolution.World

/-!
# What a cache holds

A cache may fail in any call and may lose any entry at any time. All that is asked of it is that it
makes nothing up: what it answers for a key was written under that key, and not erased since. A
`Contents` says of a backend which values it may still answer, and that no call adds to them but a
write. What decides when a call fails or an entry is lost is part of the backend's state, so a
statement about all backends with contents is one about every pattern of failures and losses.

The same is said of the memo, by the paths that it has recorded.
-/

namespace GatewayRouting

/-- An account of what a cache holds: a call makes nothing up. -/
structure CacheBackend.Contents {σ : Type} (backend : CacheBackend σ) where
  /-- the values that may still be read under a key -/
  holds : σ → Key → Cached → Prop
  /-- a value that is read is held -/
  holds_of_read {cache : σ} {key : Key} {value : Cached}
    (read : (backend.read cache key).1 = .ok (some value)) : holds cache key value
  /-- reading adds nothing -/
  of_holds_read {cache : σ} {key other : Key} {value : Cached}
    (held : holds (backend.read cache key).2 other value) : holds cache other value
  /-- writing adds at most what is written -/
  of_holds_write {cache : σ} {key other : Key} {value new : Cached} {seconds : UInt64}
    (held : holds (backend.write cache key new seconds).2 other value) :
    holds cache other value ∨ (other = key ∧ value = new)
  /-- erasing adds nothing -/
  of_holds_erase {cache : σ} {key other : Key} {value : Cached}
    (held : holds (backend.erase cache key).2 other value) : holds cache other value
  /-- a key that was erased without a failure has no value -/
  not_holds_erase {cache : σ} {key : Key} {value : Cached}
    (erased : (backend.erase cache key).1 = .ok ()) :
    ¬ holds (backend.erase cache key).2 key value

/-- A cache in which erasing never fails. -/
def CacheBackend.ErasesSurely {σ : Type} (backend : CacheBackend σ) : Prop :=
  ∀ cache key, (backend.erase cache key).1 = .ok ()

/-! ## Caches that have contents -/

namespace TimedCache

variable {cache : TimedCache} {key other : Key} {entry new : TimedEntry} {reason : RemovalReason}

theorem find?_takeIn_self (held : (cache.takeIn key new).held.find? key = some entry) :
    cache.held.find? key = some entry ∨ entry = new := by
  rw [takeIn] at held
  split at held
  · exact .inl held
  · split at held
    · exact .inr (Option.some.inj (held.symm.trans (Entries.find?_put_self _ key new)))
    · split at held
      · exact .inr (Option.some.inj (held.symm.trans (Entries.find?_put_self _ key new)))
      · exact .inl held

/-- Taking a value in leaves the other keys alone. -/
theorem find?_takeIn_of_ne (ne : other ≠ key) :
    (cache.takeIn key new).held.find? other = cache.held.find? other := by
  rw [takeIn]
  split
  · rfl
  · split
    · exact Entries.find?_put_of_ne _ new ne
    · split
      · exact Entries.find?_put_of_ne _ new ne
      · rfl

theorem find?_drop_self : (cache.drop key reason).held.find? key = none := by
  rw [drop]
  split
  · exact Entries.find?_remove_self _ key
  · rename_i missing
    simpa using missing

theorem find?_drop_of_ne (ne : other ≠ key) :
    (cache.drop key reason).held.find? other = cache.held.find? other := by
  rw [drop]
  split
  · exact Entries.find?_remove_of_ne _ ne
  · rfl

end TimedCache

/-- The plain cache holds its entries. -/
def plainContents : plainCache.Contents where
  holds entries key value := entries.find? key = some value
  holds_of_read read := Except.ok.inj read
  of_holds_read held := held
  of_holds_write := by
    intro entries key other value new _ held
    by_cases h : other = key
    · subst h
      have read : (Entries.put entries other new).find? other = some value := held
      rw [Entries.find?_put_self] at read
      exact .inr ⟨rfl, (Option.some.inj read).symm⟩
    · exact .inl ((Entries.find?_put_of_ne entries new h).symm.trans held)
  of_holds_erase := by
    intro entries key other value held
    by_cases h : other = key
    · subst h
      have read : (Entries.remove entries other).find? other = some value := held
      rw [Entries.find?_remove_self] at read
      cases read
    · exact (Entries.find?_remove_of_ne entries h).symm.trans held
  not_holds_erase := by
    intro entries key value _ held
    have read : (Entries.remove entries key).find? key = some value := held
    rw [Entries.find?_remove_self] at read
    cases read

theorem plainCache_erasesSurely : plainCache.ErasesSurely := fun _ _ => rfl

/-- The cache with a clock holds its entries until they are dropped, live or not. -/
def timedContents : timedCache.Contents where
  holds cache key value := ∃ entry, cache.held.find? key = some entry ∧ entry.value = value
  holds_of_read := by
    intro cache key value read
    have found : cache.find? key = some value := Except.ok.inj read
    unfold TimedCache.find? at found
    split at found
    · rename_i entry held
      split at found
      · exact ⟨entry, held, Option.some.inj found⟩
      · cases found
    · cases found
  of_holds_read held := held
  of_holds_write := by
    rintro cache key other value new seconds ⟨entry, held, rfl⟩
    have held : (cache.takeIn key
      ⟨new, cache.now + seconds.toNat * nanosecondsPerSecond⟩).held.find? other = some entry := held
    by_cases same : other = key
    · subst same
      obtain old | rfl := TimedCache.find?_takeIn_self held
      · exact .inl ⟨entry, old, rfl⟩
      · exact .inr ⟨rfl, rfl⟩
    · rw [TimedCache.find?_takeIn_of_ne same] at held
      exact .inl ⟨entry, held, rfl⟩
  of_holds_erase := by
    rintro cache key other value ⟨entry, held, rfl⟩
    have held : (cache.drop key .manual).held.find? other = some entry := held
    by_cases same : other = key
    · subst same
      rw [TimedCache.find?_drop_self] at held
      cases held
    · rw [TimedCache.find?_drop_of_ne same] at held
      exact ⟨entry, held, rfl⟩
  not_holds_erase := by
    rintro cache key value _ ⟨entry, held, rfl⟩
    have held : (cache.drop key .manual).held.find? key = some entry := held
    rw [TimedCache.find?_drop_self] at held
    cases held

/-- A cache behind switches holds what the cache holds. -/
def Unreliable.contents {σ : Type} {inner : CacheBackend σ} (contents : inner.Contents) :
    (Unreliable.backend inner).Contents where
  holds cache key value := contents.holds cache.inner key value
  holds_of_read := by
    intro cache key value read
    simp only [backend] at read
    split at read
    · cases read
    · exact contents.holds_of_read read
  of_holds_read := by
    intro cache key other value held
    simp only [backend] at held
    split at held
    · exact held
    · exact contents.of_holds_read held
  of_holds_write := by
    intro cache key other value new seconds held
    simp only [backend] at held
    split at held
    · exact .inl held
    · exact contents.of_holds_write held
  of_holds_erase := by
    intro cache key other value held
    simp only [backend] at held
    split at held
    · exact held
    · exact contents.of_holds_erase held
  not_holds_erase := by
    intro cache key value erased
    simp only [backend] at erased ⊢
    split at erased
    · cases erased
    · rename_i h
      rw [if_neg h]
      exact contents.not_holds_erase erased

/-! ### Any pattern of failures -/

/-- A backend's state with a script that says for each of the calls to come whether it fails. -/
structure Scripted (σ : Type) where
  /-- the state of the backend -/
  inner : σ
  /-- which calls fail; after the script's end none does -/
  script : List Bool := []

namespace Scripted

variable {σ : Type}

/-- Whether the next call fails. -/
def fails (cache : Scripted σ) : Bool :=
  cache.script.headD false

/-- A backend that follows a script, in its erasures too or not. -/
def backend (inner : CacheBackend σ) (erasures : Bool) : CacheBackend (Scripted σ) where
  name := inner.name
  read cache key :=
    if cache.fails then (.error Unreliable.failure, { cache with script := cache.script.tail })
    else
      let (result, state) := inner.read cache.inner key
      (result, ⟨state, cache.script.tail⟩)
  write cache key value seconds :=
    if cache.fails then (.error Unreliable.failure, { cache with script := cache.script.tail })
    else
      let (result, state) := inner.write cache.inner key value seconds
      (result, ⟨state, cache.script.tail⟩)
  erase cache key :=
    if erasures && cache.fails then
      (.error Unreliable.failure, { cache with script := cache.script.tail })
    else
      let (result, state) := inner.erase cache.inner key
      (result, ⟨state, cache.script.tail⟩)

/-- Failing by a script makes nothing up. -/
def contents {inner : CacheBackend σ} (contents : inner.Contents) (erasures : Bool) :
    (backend inner erasures).Contents where
  holds cache key value := contents.holds cache.inner key value
  holds_of_read := by
    intro cache key value read
    simp only [backend] at read
    split at read
    · cases read
    · exact contents.holds_of_read read
  of_holds_read := by
    intro cache key other value held
    simp only [backend] at held
    split at held
    · exact held
    · exact contents.of_holds_read held
  of_holds_write := by
    intro cache key other value new seconds held
    simp only [backend] at held
    split at held
    · exact .inl held
    · exact contents.of_holds_write held
  of_holds_erase := by
    intro cache key other value held
    simp only [backend] at held
    split at held
    · exact held
    · exact contents.of_holds_erase held
  not_holds_erase := by
    intro cache key value erased
    simp only [backend] at erased ⊢
    split at erased
    · cases erased
    · rename_i h
      rw [if_neg h]
      exact contents.not_holds_erase erased

theorem erasesSurely {inner : CacheBackend σ} (surely : inner.ErasesSurely) :
    (backend inner false).ErasesSurely :=
  fun cache key => surely cache.inner key

end Scripted

/-! ## What the memo has recorded -/

namespace Memo

/-- The paths with a live record. -/
def paths (memo : Memo) : List String :=
  memo.recorded.map (·.1)

theorem mem_paths {memo : Memo} {path : String} :
    path ∈ memo.paths ↔
      ∃ record ∈ memo.records, memo.isLive record = true ∧ record.path = path := by
  simp [paths, recorded, and_assoc]

theorem mem_paths_forget {memo : Memo} {path other : String} :
    other ∈ (memo.forget path).paths ↔ other ∈ memo.paths ∧ other ≠ path := by
  simp only [mem_paths, forget, List.mem_filter]
  constructor
  · rintro ⟨record, ⟨mem, ne⟩, live, rfl⟩
    exact ⟨⟨record, mem, live, rfl⟩, by simpa using ne⟩
  · rintro ⟨⟨record, mem, live, rfl⟩, ne⟩
    exact ⟨record, ⟨mem, by simpa using ne⟩, live, rfl⟩

/-- Recording a path does nothing to the other paths. -/
theorem mem_paths_remember_of_ne {memo : Memo} {path pattern other : String} (ne : other ≠ path) :
    other ∈ (memo.remember path pattern).paths ↔ other ∈ memo.paths := by
  simp only [mem_paths, remember]
  split
  · simp only [isLive, replaced, List.mem_map]
    constructor
    · rintro ⟨_, ⟨record, mem, rfl⟩, live, same⟩
      by_cases h : record.path = path
      · rw [if_pos h] at same
        exact absurd same.symm ne
      · rw [if_neg h] at live same
        exact ⟨record, mem, live, same⟩
    · rintro ⟨record, mem, live, rfl⟩
      exact ⟨record, ⟨record, mem, if_neg ne⟩, live, rfl⟩
  · split
    · simp only [isLive, List.mem_append, List.mem_singleton]
      constructor
      · rintro ⟨record, mem | rfl, live, same⟩
        · exact ⟨record, mem, live, same⟩
        · exact absurd same.symm ne
      · rintro ⟨record, mem, live, same⟩
        exact ⟨record, .inl mem, live, same⟩
    · rfl

/-- Time only takes records away. -/
theorem mem_paths_of_advance {memo : Memo} {nanoseconds : Nat} {path : String}
    (later : path ∈ (memo.advance nanoseconds).paths) : path ∈ memo.paths := by
  obtain ⟨record, mem, live, rfl⟩ := mem_paths.mp later
  have lasts : memo.now + nanoseconds < record.expiry := of_decide_eq_true live
  exact mem_paths.mpr ⟨record, mem, decide_eq_true (by omega), rfl⟩

end Memo
end GatewayRouting
