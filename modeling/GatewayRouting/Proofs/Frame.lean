import GatewayRouting.Proofs.Course

/-!
# What a request leaves alone

Each request acts on one part of the world: on the cache, the memo, the table, the shared loads or
the list of observations. The lemmas here say for each part what can be different after a request
was answered, for all requests at once, and for whole programs that do not ask for certain things.
-/

namespace GatewayRouting

variable {σ : Type}

namespace World

variable {α : Type} {world : World σ} {reply : Table → Except StoreError (α × Table)}
  {step : Table → Except StoreError Table}

/-- A reply of the table leaves everything but the table alone. -/
theorem ofTable_snd :
    (world.ofTable reply).2 = { world with table := (world.ofTable reply).2.table } := by
  rw [ofTable]
  split
  · rfl
  · split <;> rfl

theorem change_snd : (world.change step).2 = { world with table := (world.change step).2.table } :=
  ofTable_snd

/-- A table that cannot be reached is not changed. -/
theorem change_of_outage {reason : String} (away : world.outage = some reason) :
    world.change step = (.error (.unavailable reason), world) := by
  simp only [change, ofTable, away]

/-- A table that can be reached is changed if it agrees. -/
theorem change_of_ok {table : Table} (here : world.outage = none)
    (agrees : step world.table = .ok table) :
    world.change step = (.ok (), { world with table }) := by
  simp only [change, ofTable, here, agrees]
  rfl

theorem change_of_error {error : StoreError} (here : world.outage = none)
    (refuses : step world.table = .error error) : world.change step = (.error error, world) := by
  simp only [change, ofTable, here, refuses]
  rfl

/-- Either a change is refused and nothing is different, or the table agreed to it. -/
theorem change_cases (world : World σ) (step : Table → Except StoreError Table) :
    (∃ error, world.change step = (.error error, world)) ∨
      ∃ table, world.outage = none ∧ step world.table = .ok table ∧
        world.change step = (.ok (), { world with table }) := by
  obtain away | ⟨reason, away⟩ := Option.eq_none_or_eq_some world.outage
  · cases agrees : step world.table with
    | error error => exact .inl ⟨error, change_of_error away agrees⟩
    | ok table => exact .inr ⟨table, away, rfl, change_of_ok away agrees⟩
  · exact .inl ⟨_, change_of_outage away⟩

/-- A refused change changes nothing. -/
theorem change_of_refused {error : StoreError} (refused : (world.change step).1 = .error error) :
    (world.change step).2 = world := by
  obtain ⟨_, replied⟩ | ⟨table, _, _, replied⟩ := change_cases world step
  · rw [replied]
  · rw [replied] at refused
    cases refused

/-- A table that agrees to a change can be reached. -/
theorem reached_of_change {done : Unit} (agreed : (world.change step).1 = .ok done) :
    world.outage = none := by
  obtain ⟨_, replied⟩ | ⟨table, here, _, _⟩ := change_cases world step
  · rw [replied] at agreed
    cases agreed
  · exact here

/-- If a table agrees to a change, it is changed accordingly. -/
theorem table_of_change {done : Unit} (agreed : (world.change step).1 = .ok done) :
    step world.table = .ok (world.change step).2.table := by
  obtain ⟨_, replied⟩ | ⟨table, _, agrees, replied⟩ := change_cases world step
  · rw [replied] at agreed
    cases agreed
  · rw [replied]
    exact agrees

end World

namespace SharedLoads

variable {loads : SharedLoads} {number other : Nat} {result new : Except StoreError (List Route)}

theorem slot_join : loads.join.2.slot = some loads.join.1 := by
  rw [join]
  split
  · assumption
  · rfl

theorem slot_takeTurn : (loads.takeTurn number).2.slot = loads.slot := by
  rw [takeTurn]
  split <;> rfl

theorem slot_release (here : loads.slot = some number) : (loads.release number).slot = none := by
  rw [release, if_pos here]

/-- What is in the slot after a load was let go was there before, and is another one. -/
theorem slot_of_slot_release (slot : (loads.release other).slot = some number) :
    loads.slot = some number ∧ number ≠ other := by
  rw [release] at slot
  split at slot
  · cases slot
  · rename_i elsewhere
    refine ⟨slot, ?_⟩
    rintro rfl
    exact elsewhere slot

/-- Letting go of another load leaves the slot alone. -/
theorem slot_release_of_ne (slot : loads.slot = some number) (ne : number ≠ other) :
    (loads.release other).slot = some number := by
  rw [release, if_neg]
  · exact slot
  · intro same
    exact ne (Option.some.inj (slot.symm.trans same))

theorem states_release : (loads.release number).states = loads.states := by
  rw [release]
  split <;> rfl

theorem join_of_slot (here : loads.slot = some number) : loads.join = (number, loads) := by
  rw [join]
  split
  · rename_i same
    rw [Option.some.inj (same.symm.trans here)]
  · rename_i empty
    cases empty.symm.trans here

theorem join_of_empty (empty : loads.slot = none) :
    loads.join = (loads.states.length, ⟨some loads.states.length, loads.states ++ [.idle]⟩) := by
  rw [join]
  split
  · rename_i number here
    cases here.symm.trans empty
  · rfl

/-- With nothing in the slot, who joins starts a load. -/
theorem idle_join (empty : loads.slot = none) :
    loads.join.2.states[loads.join.1]? = some .idle := by
  rw [join]
  split
  · rename_i number here
    rw [empty] at here
    cases here
  · exact List.getElem?_concat_length

theorem settled_of_settled_join
    (settled : loads.join.2.states[number]? = some (.settled result)) :
    loads.states[number]? = some (.settled result) := by
  rw [join] at settled
  split at settled
  · exact settled
  · simp only [List.getElem?_append] at settled
    split at settled
    · exact settled
    · rw [List.getElem?_singleton] at settled
      split at settled <;> cases settled

theorem settled_of_settled_takeTurn
    (settled : (loads.takeTurn other).2.states[number]? = some (.settled result)) :
    loads.states[number]? = some (.settled result) := by
  rw [takeTurn] at settled
  split at settled
  · exact settled
  · simp only [List.getElem?_set] at settled
    split at settled
    · split at settled <;> cases settled
    · exact settled

theorem settled_of_settled_settle
    (settled : (loads.settle other new).states[number]? = some (.settled result)) :
    (number = other ∧ result = new) ∨ loads.states[number]? = some (.settled result) := by
  simp only [settle, List.getElem?_set] at settled
  split at settled
  · rename_i same
    split at settled
    · cases settled
      exact .inl ⟨same.symm, rfl⟩
    · cases settled
  · exact .inr settled

theorem running_of_isRunning (runs : loads.isRunning number = true) :
    loads.states[number]? = some .running := by
  rw [isRunning] at runs
  split at runs
  · assumption
  · cases runs

/-- Without a result, the turn is to run the load. -/
theorem takeTurn_of_lead (leads : (loads.takeTurn number).1 = .lead) :
    (∀ result, loads.states[number]? ≠ some (.settled result)) ∧
      (loads.takeTurn number).2 = { loads with states := loads.states.set number .running } := by
  rw [takeTurn] at leads ⊢
  split at leads
  · cases leads
  · rename_i unsettled
    exact ⟨fun result => unsettled result, rfl⟩

theorem takeTurn_of_follow (follows : (loads.takeTurn number).1 = .follow result) :
    (loads.takeTurn number).2 = loads := by
  rw [takeTurn] at follows ⊢
  split at follows
  · rfl
  · cases follows

/-- A result is handed on only if it is there. -/
theorem settled_of_takeTurn (follows : (loads.takeTurn number).1 = .follow result) :
    loads.states[number]? = some (.settled result) := by
  rw [takeTurn] at follows
  split at follows
  · rename_i settled
    cases follows
    exact settled
  · cases follows

end SharedLoads

/-- What asks for a change of the table. -/
def Request.ChangesTable : Request → Prop
  | .addRoute _ | .updateRoute _ | .deleteRoute _ | .recordCalls .. => True
  | _ => False

/-- What acts on the shared loads. -/
def Request.SharesLoad : Request → Prop
  | .joinLoad | .awaitLoad _ | .settleLoad .. | .releaseLoad _ => True
  | _ => False

/-- What is granted to programs: that a pattern is tested by the matcher. -/
def granted (accepts : String → String → Bool) : (q : Request) → q.Reply → Prop
  | .test pattern path, reply => reply = accepts pattern path
  | _, _ => True

namespace Deployment

variable {d : Deployment σ} {world : World σ} {q : Request}

theorem granted_handler : granted d.accepts q (d.handler q world).1 := by
  cases q <;> first | rfl | trivial

/-- What the table is asked for leaves everything but the table alone. -/
theorem handler_snd_of_table
    (asksTable : q = .listRoutes ∨ q.ChangesTable) :
    (d.handler q world).2 = { world with table := (d.handler q world).2.table } := by
  cases q with
  | listRoutes => exact World.ofTable_snd
  | addRoute route => exact World.change_snd
  | updateRoute route => exact World.change_snd
  | deleteRoute path => exact World.change_snd
  | recordCalls path calls time => exact World.change_snd
  | _ => exact absurd asksTable (by simp [Request.ChangesTable])

/-- The table answers with its list, or with why it is out of reach. -/
theorem handler_listRoutes :
    (d.handler .listRoutes world).1 = match world.outage with
      | some reason => .error (.unavailable reason)
      | none => .ok world.table.routes := by
  change (world.ofTable _).1 = _
  cases away : world.outage with
  | none => simp only [World.ofTable, away]
  | some reason => simp only [World.ofTable, away]

theorem routes_of_listRoutes {routes : List Route}
    (replied : (d.handler .listRoutes world).1 = .ok routes) : world.table.routes = routes := by
  rw [handler_listRoutes] at replied
  split at replied
  · cases replied
  · exact Except.ok.inj replied

/-- No request decides whether the table can be reached. -/
theorem outage_handler : (d.handler q world).2.outage = world.outage := by
  by_cases asksTable : q = .listRoutes ∨ q.ChangesTable
  · rw [handler_snd_of_table asksTable]
  · cases q <;> first | rfl | simp [Request.ChangesTable] at asksTable

theorem table_handler (leaves : ¬ q.ChangesTable) :
    (d.handler q world).2.table = world.table := by
  cases q with
  | listRoutes =>
    change (world.ofTable _).2.table = _
    rw [World.ofTable]
    split <;> rfl
  | _ => first | rfl | exact absurd trivial leaves

theorem loads_handler (leaves : ¬ q.SharesLoad) : (d.handler q world).2.loads = world.loads := by
  by_cases asksTable : q = .listRoutes ∨ q.ChangesTable
  · rw [handler_snd_of_table asksTable]
  · cases q <;> first
      | rfl | exact absurd trivial leaves | simp [Request.ChangesTable] at asksTable

/-- Only a value that is written is held afterwards and was not before. -/
theorem holds_of_holds_handler {contents : d.cache.Contents} {key : Key} {value : Cached}
    (held : contents.holds (d.handler q world).2.cache key value) :
    contents.holds world.cache key value ∨ ∃ seconds, q = .writeCache key value seconds := by
  by_cases asksTable : q = .listRoutes ∨ q.ChangesTable
  · rw [handler_snd_of_table asksTable] at held
    exact .inl held
  · cases q with
    | readCache other => exact .inl (contents.of_holds_read held)
    | writeCache other new seconds =>
      obtain old | ⟨rfl, rfl⟩ := contents.of_holds_write held
      · exact .inl old
      · exact .inr ⟨seconds, rfl⟩
    | eraseCache other => exact .inl (contents.of_holds_erase held)
    | _ => first | exact .inl held | simp [Request.ChangesTable] at asksTable

/-- Only recording and forgetting act on the memo. -/
theorem memo_handler (records : ∀ path pattern, q ≠ .remember path pattern)
    (forgets : ∀ path, q ≠ .forget path) : (d.handler q world).2.memo = world.memo := by
  by_cases asksTable : q = .listRoutes ∨ q.ChangesTable
  · rw [handler_snd_of_table asksTable]
  · cases q with
    | remember path pattern => exact absurd rfl (records path pattern)
    | forget path => exact absurd rfl (forgets path)
    | _ => first | rfl | simp [Request.ChangesTable] at asksTable

/-- Only recording adds to the paths that are recorded. -/
theorem paths_of_paths_handler {path : String} (mem : path ∈ (d.handler q world).2.memo.paths) :
    path ∈ world.memo.paths ∨ ∃ pattern, q = .remember path pattern := by
  by_cases asksTable : q = .listRoutes ∨ q.ChangesTable
  · rw [handler_snd_of_table asksTable] at mem
    exact .inl mem
  · cases q with
    | remember other pattern =>
      by_cases same : path = other
      · exact .inr ⟨pattern, by rw [same]⟩
      · exact .inl ((Memo.mem_paths_remember_of_ne same).mp mem)
    | forget other => exact .inl (Memo.mem_paths_forget.mp mem).1
    | _ => first | exact .inl mem | simp [Request.ChangesTable] at asksTable

/-- Only forgetting takes a path away, and recording the path anew. -/
theorem paths_handler_of_paths {path : String} (mem : path ∈ world.memo.paths)
    (forgets : q ≠ .forget path) (records : ∀ pattern, q ≠ .remember path pattern) :
    path ∈ (d.handler q world).2.memo.paths := by
  by_cases asksTable : q = .listRoutes ∨ q.ChangesTable
  · rw [handler_snd_of_table asksTable]
    exact mem
  · cases q with
    | remember other pattern =>
      refine (Memo.mem_paths_remember_of_ne ?_).mpr mem
      rintro rfl
      exact records pattern rfl
    | forget other =>
      refine Memo.mem_paths_forget.mpr ⟨mem, ?_⟩
      rintro rfl
      exact forgets rfl
    | _ => first | exact mem | simp [Request.ChangesTable] at asksTable

/-! ### The shared loads -/

/-- Only ending a load gives it a result. -/
theorem settled_of_settled_handler {number : Nat} {result : Except StoreError (List Route)}
    (settled : (d.handler q world).2.loads.states[number]? = some (.settled result)) :
    world.loads.states[number]? = some (.settled result) ∨ q = .settleLoad number result := by
  by_cases shares : q.SharesLoad
  · cases q with
    | joinLoad => exact .inl (SharedLoads.settled_of_settled_join settled)
    | awaitLoad other => exact .inl (SharedLoads.settled_of_settled_takeTurn settled)
    | settleLoad other new =>
      obtain ⟨rfl, rfl⟩ | old := SharedLoads.settled_of_settled_settle settled
      · exact .inr rfl
      · exact .inl old
    | releaseLoad other =>
      refine .inl ?_
      change (world.loads.release other).states[number]? = _ at settled
      rwa [SharedLoads.states_release] at settled
    | _ => exact shares.elim
  · rw [loads_handler shares] at settled
    exact .inl settled

/-- Only joining and letting go act on the slot. -/
theorem slot_handler (joins : q ≠ .joinLoad) (releases : ∀ number, q ≠ .releaseLoad number) :
    (d.handler q world).2.loads.slot = world.loads.slot := by
  by_cases shares : q.SharesLoad
  · cases q with
    | joinLoad => exact absurd rfl joins
    | awaitLoad other => exact SharedLoads.slot_takeTurn
    | settleLoad other new => rfl
    | releaseLoad other => exact absurd rfl (releases other)
    | _ => exact shares.elim
  · rw [loads_handler shares]

end Deployment
end GatewayRouting
