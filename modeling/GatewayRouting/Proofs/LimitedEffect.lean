import GatewayRouting.Proofs.Cacheless
import GatewayRouting.Proofs.Precedence

/-!
# Whom a change concerns

A route is registered, replaced or removed, and a path is looked up before and after. Most paths are
answered as before: a new route comes last, so it answers only paths that nobody has answered yet; a
replaced route keeps its place, so it answers the same paths in its new form; and a removed route
leaves its paths to the next one behind it, and no other path to anybody.

That is a fact about first matches in a table (`firstMatch_add`, `firstMatch_update`,
`firstMatch_delete`). It becomes one about a service because its answers are those of its table,
whatever of them is cached: at every moment it finds the first match, up to counters
(`Coherent.finds`).
-/

namespace GatewayRouting

/-! ## First matches in a changed table -/

section Tables

variable {table changed : Table} {route : Route} {accepts : String → String → Bool}
  {path gone : String}

/-- The routes behind the one of a path. -/
def Table.behind (table : Table) (path : String) : List Route :=
  (table.routes.dropWhile (·.path != path)).tail

theorem firstMatch_cons (routes : List Route) :
    firstMatch accepts path (route :: routes) =
      if accepts route.path path then some route else firstMatch accepts path routes := by
  rw [firstMatch, List.find?_cons]
  cases accepts route.path path <;> rfl

/-- A new route is tried after all others. -/
theorem firstMatch_add (added : table.add route = .ok changed) :
    firstMatch accepts path changed.routes =
      (firstMatch accepts path table.routes).or
        (if accepts route.path path then some route else none) := by
  rw [Table.routes_of_add added, firstMatch, firstMatch, List.find?_append, List.find?_singleton]

/-- A replaced route is tried where the old one was, for the same paths. -/
theorem firstMatch_update (updated : table.update route = .ok changed) :
    firstMatch accepts path changed.routes =
      (firstMatch accepts path table.routes).map fun old =>
        if old.path = route.path then route else old := by
  obtain ⟨_, _, rfl⟩ := Table.of_update updated
  have same : (fun old : Route => accepts old.path path) ∘
      (fun old => if old.path = route.path then route else old) =
        fun old => accepts old.path path := by
    funext old
    by_cases here : old.path = route.path
    · simp [here]
    · simp [here]
  rw [firstMatch, firstMatch, Table.routes_modify, List.find?_map, same]

/-- The paths of a removed route are left to the routes behind it. -/
theorem firstMatch_delete (deleted : table.delete gone = .ok changed) :
    firstMatch accepts path changed.routes =
      (firstMatch accepts path table.routes).bind fun old =>
        if old.path = gone then firstMatch accepts path (table.behind gone) else some old := by
  rw [(Table.of_delete deleted).2, Table.behind]
  have distinct := table.nodup_paths
  generalize table.routes = routes at distinct
  induction routes with
  | nil => rfl
  | cons first rest ih =>
    obtain ⟨new, distinct⟩ := List.nodup_cons.mp distinct
    by_cases here : first.path = gone
    · have erased : (first :: rest).eraseP (·.path == gone) = rest := by simp [here]
      have behind : ((first :: rest).dropWhile (·.path != gone)).tail = rest := by simp [here]
      rw [erased, behind, firstMatch_cons]
      cases accepted : accepts first.path path with
      | true => simp [here]
      | false =>
        -- the removed route is the first one, so none of the others has its path
        cases found : firstMatch accepts path rest with
        | none => simp
        | some old =>
          have other : old.path ≠ gone := fun same =>
            new (List.mem_map.mpr ⟨old, List.mem_of_find?_eq_some found, same.trans here.symm⟩)
          simp [other]
    · have erased :
          (first :: rest).eraseP (·.path == gone) = first :: rest.eraseP (·.path == gone) := by
        simp [here]
      have behind :
          (first :: rest).dropWhile (·.path != gone) = rest.dropWhile (·.path != gone) := by
        simp [here]
      rw [erased, behind, firstMatch_cons, firstMatch_cons, ih distinct]
      cases accepted : accepts first.path path with
      | true => simp [here]
      | false => simp

end Tables

/-! ## What a service finds -/

theorem Route.SameUpToCounters.symm {a b : Route} (same : a.SameUpToCounters b) :
    b.SameUpToCounters a := by
  rw [SameUpToCounters] at same ⊢
  rw [← same]

section Services

variable {σ : Type} {d : Deployment σ} {contents : d.cache.Contents} {world : World σ}
  {operation : Operation} {path : String} {old route : Route} {result : Option Route}

/-- A service answers a path with a route, up to counters, or that there is none. -/
def Deployment.Finds (d : Deployment σ) (world : World σ) (path : String) : Option Route → Prop
  | some route => ∃ found, (d.ask (.resolve path) world).1 = .route (.ok found) ∧
      found.SameUpToCounters route
  | none => (d.ask (.resolve path) world).1 = .route (.error (.noMatch path))

namespace Deployment.Finds

/-- What is found for a path is found once, up to counters. -/
theorem eq_some (finds : d.Finds world path (some old)) (finds' : d.Finds world path result) :
    ∃ current, result = some current ∧ old.SameUpToCounters current := by
  obtain ⟨found, answer, same⟩ := finds
  cases result with
  | none => cases answer.symm.trans finds'
  | some current =>
    obtain ⟨found', answer', same'⟩ := finds'
    obtain rfl : found = found' := Except.ok.inj (Answer.route.inj (answer.symm.trans answer'))
    exact ⟨current, rfl, same.symm.trans same'⟩

theorem eq_none (finds : d.Finds world path none) (finds' : d.Finds world path result) :
    result = none := by
  cases result with
  | none => rfl
  | some current =>
    obtain ⟨found, answer, _⟩ := finds'
    cases answer.symm.trans finds

/-- Counters make no difference to what is found. -/
theorem of_same (finds : d.Finds world path (some old)) (same : old.SameUpToCounters route) :
    d.Finds world path (some route) := by
  obtain ⟨found, answer, same'⟩ := finds
  exact ⟨found, answer, same'.trans same⟩

end Deployment.Finds

/-- A coherent service whose table can be reached finds the first match of every path. -/
theorem Coherent.finds (coherent : Coherent contents world) (reached : world.outage = none)
    (path : String) : d.Finds world path (firstMatch d.accepts path world.table.routes) := by
  have looks : (Operation.resolve path).IsLookup := trivial
  have right : d.UpToDate world (.resolve path) (d.ask (.resolve path) world).1 :=
    Deployment.upToDate_of_explains ((coherent.covers world.outage).lookup
      Knowledge.coversTable_upToCounters (Knowledge.upToCounters_closed _ _ _) looks).1
  generalize answer : (d.ask (.resolve path) world).1 = reply at right
  cases reply with
  | route result =>
    rcases result with (missing | error) | found
    · obtain ⟨rfl, none⟩ := right
      rw [firstMatch, List.find?_eq_none.mpr fun route mem => by simp [none route mem]]
      exact answer
    · obtain ⟨reason, away, _⟩ := right
      rw [reached] at away
      cases away
    · obtain ⟨current, first, same⟩ := right
      rw [first]
      exact ⟨found, answer, same⟩
  | _ => exact right.elim

/-- A change that is answered to be done has been made, in a table that can be reached. -/
theorem Deployment.applied_of_done (changes : ¬ operation.IsLookup)
    (done : (d.ask operation world).1 = .done (.ok ())) :
    operation.applyTo world.table = .ok (d.ask operation world).2.table ∧
      (d.ask operation world).2.outage = none := by
  obtain ⟨answer, after⟩ :
      (d.ask operation world).1 = .done (world.cacheless.change operation.applyTo).1 ∧
        (d.ask operation world).2.cacheless = (world.cacheless.change operation.applyTo).2 :=
    Deployment.upkeep_cacheless changes
  have table :
      (d.ask operation world).2.table = (world.cacheless.change operation.applyTo).2.table :=
    congrArg Cacheless.table after
  have outage :
      (d.ask operation world).2.outage = (world.cacheless.change operation.applyTo).2.outage :=
    congrArg Cacheless.outage after
  have agreed := Answer.done.inj (answer.symm.trans done)
  rw [table, outage]
  rw [Cacheless.change] at agreed ⊢
  obtain ⟨routes, reason, cache, memo, loads, observed⟩ := world
  cases reason with
  | some reason => cases agreed
  | none =>
    cases applied : operation.applyTo routes with
    | error error => simp [World.cacheless, Cacheless.reach, Except.bind, applied] at agreed
    | ok changed => simp [World.cacheless, Cacheless.reach, Except.bind, applied]

/-- Lookups leave the table's side alone, however many there are. -/
theorem Deployment.cacheless_lookups {lookups : List Operation}
    (look : ∀ operation ∈ lookups, operation.IsLookup) :
    (d.course world (lookups.map .asked)).cacheless = world.cacheless := by
  induction lookups generalizing world with
  | nil => rfl
  | cons operation rest ih =>
    obtain ⟨looks, look⟩ := List.forall_mem_cons.mp look
    exact (ih look).trans (Deployment.cacheless_lookup looks)

/-- **A change concerns its own paths only.** Let no erasure fail, let the memo keep each record as
long as the entry that it records, and let the table be within reach. At every moment each path is
answered with a route or with the word that there is none. After a change that was done, with any
lookups before it, the answers compare to those from before as follows, up to counters. If a route
was added, then what was found stays found, and a path without a route gets the new one if that
accepts it. If a route was replaced, then the paths that it answered are answered with the new one.
If a route was removed, then the paths that it answered are answered with the first one behind it
that accepts them. Every other path is answered as before. -/
theorem change_concerns_own_paths (d : Deployment σ) (contents : d.cache.Contents)
    (surely : d.cache.ErasesSurely) (table : Table) (cache : σ) (memo : Memo)
    (happenings : List (Happening σ)) (lookups : List Operation)
    (look : ∀ operation ∈ lookups, operation.IsLookup)
    (empty : ∀ key value, ¬ contents.holds cache key value)
    (loses : d.Along contents.OnlyLoses (World.start table cache memo)
      (happenings ++ lookups.map .asked))
    (keeps : d.Along (d.MemoKeeps contents) (World.start table cache memo)
      (happenings ++ lookups.map .asked))
    (reached : (d.course (World.start table cache memo) happenings).outage = none)
    (path : String) :
    let now := d.course (World.start table cache memo) happenings
    let later := d.course now (lookups.map .asked)
    (∃ result, d.Finds now path result) ∧
      (∀ route, (d.ask (.add route) later).1 = .done (.ok ()) →
        let after := (d.ask (.add route) later).2
        (∀ old, d.Finds now path (some old) → d.Finds after path (some old)) ∧
          (d.Finds now path none →
            d.Finds after path (if d.accepts route.path path then some route else none))) ∧
      (∀ route, (d.ask (.update route) later).1 = .done (.ok ()) →
        let after := (d.ask (.update route) later).2
        (∀ old, d.Finds now path (some old) →
          d.Finds after path (some (if old.path = route.path then route else old))) ∧
          (d.Finds now path none → d.Finds after path none)) ∧
      ∀ gone, (d.ask (.delete gone) later).1 = .done (.ok ()) →
        let after := (d.ask (.delete gone) later).2
        (∀ old, d.Finds now path (some old) →
          d.Finds after path (if old.path = gone
            then firstMatch d.accepts path (now.table.behind gone) else some old)) ∧
          (d.Finds now path none → d.Finds after path none) := by
  intro now later
  have coherent : Coherent contents now :=
    coherent_course surely empty loses.of_append keeps.of_append
  have coherent' : Coherent contents later := by
    have whole := coherent_course surely empty loses keeps
    rwa [Deployment.course_append] at whole
  have same : later.table = now.table :=
    congrArg Cacheless.table (Deployment.cacheless_lookups look)
  have finds := coherent.finds reached path
  -- the table decides what is found after each change as well
  have step {operation : Operation} (changes : ¬ operation.IsLookup)
      (done : (d.ask operation later).1 = .done (.ok ())) :
      operation.applyTo now.table = .ok (d.ask operation later).2.table ∧
        d.Finds (d.ask operation later).2 path
          (firstMatch d.accepts path (d.ask operation later).2.table.routes) := by
    obtain ⟨applied, reached⟩ := Deployment.applied_of_done changes done
    exact ⟨same ▸ applied, (coherent'.upkeep surely changes).finds reached path⟩
  refine ⟨⟨_, finds⟩, ?_, ?_, ?_⟩
  · intro route done after
    obtain ⟨added, finds'⟩ := step id done
    rw [firstMatch_add added] at finds'
    constructor
    · intro old found
      obtain ⟨current, first, like⟩ := found.eq_some finds
      rw [first] at finds'
      exact finds'.of_same like.symm
    · intro missing
      rw [missing.eq_none finds] at finds'
      exact finds'
  · intro route done after
    obtain ⟨updated, finds'⟩ := step id done
    rw [firstMatch_update updated] at finds'
    constructor
    · intro old found
      obtain ⟨current, first, like⟩ := found.eq_some finds
      rw [first, Option.map_some, ← like.path_eq] at finds'
      split
      · rename_i replaced
        rwa [if_pos replaced] at finds'
      · rename_i other
        rw [if_neg other] at finds'
        exact finds'.of_same like.symm
    · intro missing
      rw [missing.eq_none finds] at finds'
      exact finds'
  · intro gone done after
    obtain ⟨deleted, finds'⟩ := step id done
    rw [firstMatch_delete deleted] at finds'
    constructor
    · intro old found
      obtain ⟨current, first, like⟩ := found.eq_some finds
      rw [first, Option.bind_some, ← like.path_eq] at finds'
      split
      · rename_i removed
        rwa [if_pos removed] at finds'
      · rename_i other
        rw [if_neg other] at finds'
        exact finds'.of_same like.symm
    · intro missing
      rw [missing.eq_none finds] at finds'
      exact finds'

end Services

/-- The route of every path that no other route answers. -/
def restRoute : Route where
  path := "/*"
  service := "http://rest"

/-- A table in which it comes last. -/
def usersAndRest : Table :=
  .listing [userRoute "http://users", restRoute]

/-- A path is looked up, the table gets out of reach and comes back, and calls are recorded. -/
def lookedUpThenAway : List (Happening (Entries Cached)) :=
  [.asked (.resolve "/users/42"), .outage (some "down"), .asked (.resolve "/users/43"),
    .outage none, .asked (.recordCalls "/users/:id" 1 5)]

/-- A path that is cached as the answer of a route is left to the next one when that is removed. -/
theorem path_left_to_next_route :
    let d := plainDeployment true
    let now := d.course (World.start usersAndRest [] (.empty 100 1000)) lookedUpThenAway
    let later := d.course now ([.resolve "/users/42", .routes].map .asked)
    Table.ofList [userRoute "http://users", restRoute] = .ok usersAndRest ∧
      d.Finds now "/users/42" (some (userRoute "http://users")) ∧
      (d.ask (.delete "/users/:id") later).1 = .done (.ok ()) ∧
      d.Finds (d.ask (.delete "/users/:id") later).2 "/users/42" (some restRoute) := by
  refine ⟨by decide +kernel, ⟨userRoute "http://users", rfl, rfl⟩, rfl, ?_⟩
  have empty (key : Key) (value : Cached) : ¬ plainContents.holds [] key value := by rintro ⟨⟩
  obtain ⟨_, _, _, removed⟩ := change_concerns_own_paths (plainDeployment true) plainContents
    plainCache_erasesSurely usersAndRest [] (.empty 100 1000) lookedUpThenAway
    [.resolve "/users/42", .routes] (by simp [Operation.IsLookup]) empty
    ⟨trivial, trivial, trivial, trivial, trivial, trivial, trivial, trivial⟩
    ⟨Deployment.memoKeeps_asked (by decide), trivial, Deployment.memoKeeps_asked (by decide),
      trivial, Deployment.memoKeeps_asked (by decide), Deployment.memoKeeps_asked (by decide),
      Deployment.memoKeeps_asked (by decide), trivial⟩
    rfl "/users/42"
  have finds := (removed "/users/:id" rfl).1 (userRoute "http://users")
    ⟨userRoute "http://users", rfl, rfl⟩
  have left : firstMatch (plainDeployment true).accepts "/users/42"
      (((plainDeployment true).course (World.start usersAndRest [] (.empty 100 1000))
        lookedUpThenAway).table.behind "/users/:id") = some restRoute := by decide +kernel
  have own : (userRoute "http://users").path = "/users/:id" := rfl
  rw [if_pos own, left] at finds
  exact finds

end GatewayRouting
