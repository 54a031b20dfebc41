import GatewayRouting.Proofs.Coherence
import GatewayRouting.Proofs.Guard

/-!
# Reading one's writes

A change of the table is done, and somebody looks a route up: is the answer the one of the changed
table? Not always. A lookup that had begun before may have loaded the old list, and may write it
into the cache after the change has erased the list, or give it to somebody with whom it shares the
load. Nor if the memo has no room: then the change does not find the entries that it has to erase.

If neither is the case, then every lookup that begins after the change has returned answers from the
table as it is then, however the lookups that were under way before are interleaved with the change
and with each other.
-/

namespace GatewayRouting

variable {σ : Type} {d : Deployment σ} {contents : d.cache.Contents} {scene : Scene σ}
  {operations : List Operation} {operation mutation : Operation} {k : Knowledge} {i j m : Nat}
  {schedule : List Nat} {table : Table}

/-! ## What one table says -/

/-- What is right of one table that can be reached. -/
def Knowledge.ofTable (accepts : String → String → Bool) (table : Table) : Knowledge where
  lists routes := routes = table.routes
  answers path route := firstMatch accepts path table.routes = some route
  failures _ := False

instance (accepts : String → String → Bool) (table : Table) :
    (result : Except StoreError (List Route)) →
      Decidable ((Knowledge.ofTable accepts table).loaded result)
  | .ok routes => inferInstanceAs (Decidable (routes = table.routes))
  | .error _ => inferInstanceAs (Decidable False)

theorem Knowledge.ofTable_closed (accepts : String → String → Bool) (table : Table) :
    (ofTable accepts table).Closed accepts := by
  rintro routes path route rfl found
  exact found

/-- The route that a table has for a path. -/
def Deployment.routeOf (d : Deployment σ) (table : Table) (path : String) :
    Except LookupError Route :=
  match firstMatch d.accepts path table.routes with
  | some route => .ok route
  | none => .error (.noMatch path)

/-- The answer of a table to what only looks. -/
def Deployment.answerOf (d : Deployment σ) (table : Table) : Operation → Answer
  | .routes => .routes (.ok table.routes)
  | .resolve path => .route (d.routeOf table path)
  | .permits path method =>
    .verdict ((d.routeOf table path).map (Service.letsThrough d.options · method))
  | _ => .done (.ok ())

theorem Deployment.routeOf_of_explains {path : String} {result : Except LookupError Route}
    (right : (Knowledge.ofTable d.accepts table).explains d.accepts path result) :
    result = d.routeOf table path := by
  rcases result with (missing | error) | route
  · obtain ⟨rfl, routes, rfl, none⟩ := right
    simp only [routeOf, none]
  · exact right.elim
  · have found : firstMatch d.accepts path table.routes = some route := right
    simp only [routeOf, found]

theorem Deployment.answerOf_of_explains {answer : Answer}
    (right : (Knowledge.ofTable d.accepts table).explainsAnswer d operation answer) :
    answer = d.answerOf table operation := by
  cases operation with
  | routes =>
    cases answer with
    | routes result =>
      cases result with
      | ok routes => exact congrArg (fun routes => Answer.routes (.ok routes)) right
      | error error => exact right.elim
    | _ => exact right.elim
  | resolve path =>
    cases answer with
    | route result => exact congrArg Answer.route (routeOf_of_explains right)
    | _ => exact right.elim
  | permits path method =>
    cases answer with
    | verdict verdict =>
      obtain ⟨result, right, rfl⟩ := right
      rw [routeOf_of_explains right]
      rfl
    | _ => exact right.elim
  | _ => exact right.elim

/-! ## While a change runs -/

/-- What is given of a turn. -/
structure Scene.Tended (contents : d.cache.Contents) (k : Knowledge) (m : Nat) (scene : Scene σ)
    (i : Nat) : Prop where
  /-- the memo takes in what is to be recorded -/
  takesIn (q : Request) (asks : scene.asks i = some q) : contents.TakesIn q scene.world
  /-- an early lookup that has loaded a wrong list does not write it once the list was erased -/
  writes (value : Cached) (seconds : UInt64)
    (asks : scene.asks i = some (.writeCache .list value seconds)) : scene.MayWriteList k m i
  /-- early lookups are fast enough -/
  quiet : (scene.advance d i).Quiet k m

/-- Whether a request is to write the list. -/
def Request.writesList : Request → Bool
  | .writeCache .list _ _ => true
  | _ => false

/-- The same, if the memo takes in whatever it is asked to record. -/
def Scene.TendedSurely (d : Deployment σ) (k : Knowledge) (m : Nat) (scene : Scene σ) (i : Nat) :
    Prop :=
  (scene.asks i).all (takesRecord · scene.world) = true ∧
    ((scene.asks i).any Request.writesList = true → scene.MayWriteList k m i) ∧
      (scene.advance d i).Quiet k m

instance [∀ result, Decidable (k.loaded result)] (scene : Scene σ) (i : Nat) :
    Decidable (scene.TendedSurely d k m i) :=
  inferInstanceAs (Decidable (_ ∧ (_ → _) ∧ _))

theorem Scene.TendedSurely.tended (surely : scene.TendedSurely d k m i) :
    scene.Tended contents k m i := by
  obtain ⟨takes, writes, quiet⟩ := surely
  refine ⟨fun q asks => takesIn_of_takesRecord ?_, fun value seconds asks => writes ?_, quiet⟩
  · rw [asks] at takes
    exact takes
  · rw [asks]
    rfl

/-- What is known at some point of a schedule. -/
structure Scene.Standing (contents : d.cache.Contents) (k : Knowledge) (operations : List Operation)
    (m : Nat) (scene : Scene σ) : Prop where
  /-- everybody keeps to their protocol -/
  keeps : scene.KeepsTo k d operations
  /-- early lookups are fast enough -/
  quiet : scene.Quiet k m
  /-- everything wrong is accounted for -/
  guarded : Guarded contents k m scene.trace scene.world

/-- The table at the end of a schedule is the one that the change has left. -/
theorem Scene.KeepsTo.table_play (keeps : scene.KeepsTo k d operations)
    (amid : Amid operations m mutation)
    (changed : (progress (eventsBy m scene.trace)).changed = true) :
    (progress (eventsBy m (scene.play d schedule).trace)).changed = true ∧
      (scene.play d schedule).world.table = scene.world.table := by
  induction schedule generalizing scene with
  | nil => exact ⟨changed, rfl⟩
  | cons i schedule ih =>
    obtain ⟨still, same⟩ := keeps.table_advance (i := i) amid changed
    obtain ⟨after, later⟩ := ih (keeps.advance i) still
    exact ⟨after, later.trans same⟩

theorem Scene.Standing.advance (standing : scene.Standing contents k operations m)
    (surely : d.cache.ErasesSurely) (amid : Amid operations m mutation)
    (table : (progress (eventsBy m scene.trace)).changed = true →
      k.lists scene.world.table.routes)
    (tended : scene.Tended contents k m i) :
    (scene.advance d i).Standing contents k operations m where
  keeps := standing.keeps.advance i
  quiet := tended.quiet
  guarded := standing.guarded.advance ⟨amid, standing.keeps, standing.quiet, table⟩ surely
    tended.takesIn tended.writes

/-- What is known stays known, if the table at the end lists what is right. -/
theorem Scene.Standing.play (standing : scene.Standing contents k operations m)
    (surely : d.cache.ErasesSurely) (amid : Amid operations m mutation)
    (table : k.lists (scene.play d schedule).world.table.routes)
    (along : scene.Along d (Scene.Tended contents k m) schedule) :
    (scene.play d schedule).Standing contents k operations m := by
  induction schedule generalizing scene with
  | nil => exact standing
  | cons i schedule ih =>
    refine ih (standing.advance surely amid (fun changed => ?_) along.1) table along.2
    have same : (scene.play d (i :: schedule)).world.table = scene.world.table :=
      (standing.keeps.table_play amid changed).2
    rw [← same]
    exact table

/-- At rest, an entry that is recorded is accounted for. -/
theorem standing_opening {world : World σ} (closed : k.Closed d.accepts)
    (recorded : ∀ path value, contents.holds world.cache (.single path) value →
      path ∈ world.memo.paths)
    (idle : world.loads.slot = none) :
    (Scene.opening d operations world).Standing contents k operations m where
  keeps := Scene.keepsTo_opening closed world
  quiet := ⟨Bool.noConfusion, Bool.noConfusion⟩
  guarded :=
    { unlisted := Bool.noConfusion
      changed := Bool.noConfusion
      reached := Bool.noConfusion
      list := Bool.noConfusion
      entry := fun held => .recorded rfl (recorded _ _ held)
      slot := fun slot _ => nomatch idle.symm.trans slot
      late := Bool.noConfusion
      lateLoad := Bool.noConfusion }

/-- A service that was asked one thing after the other is at rest: every entry is recorded, and no
load can be joined. So what is under way side by side may follow any course. -/
theorem rest_of_course {table : Table} {cache : σ} {memo : Memo} {happenings : List (Happening σ)}
    (surely : d.cache.ErasesSurely) (empty : ∀ key value, ¬ contents.holds cache key value)
    (loses : d.Along contents.OnlyLoses (World.start table cache memo) happenings)
    (keeps : d.Along (d.MemoKeeps contents) (World.start table cache memo) happenings) :
    let now := d.course (World.start table cache memo) happenings
    (∀ path value, contents.holds now.cache (.single path) value → path ∈ now.memo.paths) ∧
      now.loads.slot = none := by
  intro now
  have coherent : Coherent contents now := coherent_course surely empty loses keeps
  refine ⟨fun path value held => ?_, (coherent.covers none).idle⟩
  rcases (coherent.tracked path).known .routes held with behind | mem | ⟨clears, _⟩
  · cases behind
  · exact mem
  · cases clears

/-! ## What a change makes of the table -/

/-- What a change makes of a table. -/
def Operation.revise : Operation → Table → Except StoreError Table
  | .add route, table => table.add route
  | .update route, table => table.update route
  | .delete path, table => table.delete path
  | _, table => .ok table

variable {q : Request} {past : List Event} {world : World σ} {start : Table}

theorem Deployment.revise_of_changes (allowed : mutation.upkeepAllows past q)
    (changes : (⟨q, (d.handler q world).1⟩ : Event).changes = true) :
    mutation.revise world.table = .ok (d.handler q world).2.table := by
  generalize replied : (d.handler q world).1 = reply at changes
  unfold Event.changes at changes
  split at changes
  · rename_i h
    cases h
    obtain ⟨rfl, _⟩ := allowed
    exact World.table_of_change replied
  · rename_i h
    cases h
    obtain ⟨rfl, _⟩ := allowed
    exact World.table_of_change replied
  · rename_i h
    cases h
    obtain ⟨rfl, _⟩ := allowed
    exact World.table_of_change replied
  · cases changes

/-- What does not change the table leaves it as it is. -/
theorem Deployment.table_of_not_changes (changes : mutation.IsChange)
    (allowed : mutation.upkeepAllows past q)
    (idle : (⟨q, (d.handler q world).1⟩ : Event).changes = false) :
    (d.handler q world).2.table = world.table := by
  generalize replied : (d.handler q world).1 = reply at idle
  cases q with
  | addRoute route =>
    cases reply with
    | ok done => cases idle
    | error error => exact congrArg World.table (World.change_of_refused replied)
  | updateRoute route =>
    cases reply with
    | ok done => cases idle
    | error error => exact congrArg World.table (World.change_of_refused replied)
  | deleteRoute path =>
    cases reply with
    | ok done => cases idle
    | error error => exact congrArg World.table (World.change_of_refused replied)
  | recordCalls path calls time =>
    obtain ⟨rfl, _⟩ := allowed
    exact changes.elim
  | _ => exact Deployment.table_handler id

/-- The table is as it was at the start, or as the change makes it. -/
structure Scene.Revised (mutation : Operation) (m : Nat) (start : Table) (scene : Scene σ) :
    Prop where
  /-- before the change -/
  unchanged (before : (progress (eventsBy m scene.trace)).changed = false) :
    scene.world.table = start
  /-- after the change -/
  revised (changed : (progress (eventsBy m scene.trace)).changed = true) :
    mutation.revise start = .ok scene.world.table

theorem Scene.Revised.advance (revised : scene.Revised mutation m start)
    (keeps : scene.KeepsTo k d operations) (amid : Amid operations m mutation) (i : Nat) :
    (scene.advance d i).Revised mutation m start := by
  cases changed : (progress (eventsBy m scene.trace)).changed with
  | true =>
    obtain ⟨still, same⟩ := keeps.table_advance (i := i) amid changed
    refine ⟨fun before => absurd (before.symm.trans still) Bool.false_ne_true, fun _ => ?_⟩
    rw [same]
    exact revised.revised changed
  | false =>
    have before := revised.unchanged changed
    have move := Scene.move_advance d scene i
    generalize scene.advance d i = after at move ⊢
    cases move with
    | stay => exact revised
    | finish here => exact ⟨revised.unchanged, revised.revised⟩
    | @answer q next leads here free =>
      by_cases same : i = m
      · subst same
        have allowed := (keeps.allowed amid.asked here).2 amid.changes.not_isLookup
        constructor
        · rw [eventsBy_append_self, progress_append, Progress.changed_after, changed, Bool.false_or]
          exact fun idle => (Deployment.table_of_not_changes amid.changes allowed idle).trans before
        · rw [eventsBy_append_self, progress_append, Progress.changed_after, changed, Bool.false_or,
            ← before]
          exact Deployment.revise_of_changes allowed
      · obtain ⟨operation, asked⟩ := keeps.exists_operation here
        have allowed := (keeps.allowed asked here).1 (amid.looks same asked)
        have leaves : ¬ q.ChangesTable := by
          intro again
          cases q <;> first | exact again | exact allowed
        constructor
        · exact fun _ => (Deployment.table_handler leaves).trans before
        · rw [eventsBy_append_of_ne _ _ same]
          exact fun already => nomatch already.symm.trans changed

theorem Scene.Revised.play (revised : scene.Revised mutation m start)
    (keeps : scene.KeepsTo k d operations) (amid : Amid operations m mutation) :
    (scene.play d schedule).Revised mutation m start := by
  induction schedule generalizing scene with
  | nil => exact revised
  | cons i schedule ih => exact ih (revised.advance keeps amid i) (keeps.advance i)

/-! ## After a change -/

/-- A change that has returned has done everything. -/
theorem Scene.KeepsTo.complete (keeps : scene.KeepsTo k d operations)
    (amid : Amid operations m mutation)
    (returned : scene.callers[m]? = some (.finished (.done (.ok ())))) :
    (progress (eventsBy m scene.trace)).changed = true ∧
      (progress (eventsBy m scene.trace)).Complete := by
  have ended : mutation.ends k d (eventsBy m scene.trace) (.done (.ok ())) :=
    keeps.caller amid.asked returned
  cases ended.2 amid.changes.not_isLookup with
  | complete all listed changed =>
    refine ⟨changed ?_, all⟩
    rintro rfl
    exact amid.changes
  | counted counts nothing =>
    subst counts
    exact amid.changes.elim

/-- A change has returned, and a lookup that began later was told nothing wrong. -/
structure Scene.Since (k : Knowledge) (m i : Nat) (scene : Scene σ) : Prop where
  /-- the change has returned -/
  returned : scene.callers[m]? = some (.finished (.done (.ok ())))
  /-- and has done everything -/
  complete : (progress (eventsBy m scene.trace)).Complete
  /-- the lookup began later -/
  late : i ∉ early m scene.trace
  /-- and was told nothing wrong -/
  told : ¬ k.mistold (eventsBy i scene.trace)

/-- After a change has returned, every entry of a path is right. -/
theorem Scene.Since.fits {path : String} {value : Cached} (since : scene.Since k m i)
    (standing : scene.Standing contents k operations m) (amid : Amid operations m mutation)
    (table : k.lists scene.world.table.routes)
    (held : contents.holds scene.world.cache (.single path) value) :
    k.fits (.single path) value := by
  cases standing.guarded.entry held with
  | right fits => exact fits
  | recorded early mem => cases early.symm.trans since.complete.swept
  | due mem =>
    rw [since.complete.due] at mem
    cases mem
  | @owed j ne debt wrong =>
    exact absurd wrong (not_misled_of_owed standing.guarded
      ⟨amid, standing.keeps, standing.quiet, fun _ => table⟩ since.complete.swept ne debt)

theorem Scene.Since.advance (since : scene.Since k m i)
    (standing : scene.Standing contents k operations m) (amid : Amid operations m mutation)
    (table : k.lists scene.world.table.routes) (j : Nat) : (scene.advance d j).Since k m i := by
  have move := Scene.move_advance d scene j
  generalize scene.advance d j = after at move ⊢
  cases move with
  | stay => exact since
  | finish here =>
    refine ⟨?_, since.complete, since.late, since.told⟩
    rw [List.getElem?_set_ne]
    · exact since.returned
    · rintro rfl
      cases here.symm.trans since.returned
  | @answer q next leads here free =>
    have ne : j ≠ m := by
      rintro rfl
      cases here.symm.trans since.returned
    refine ⟨?_, ?_, ?_, ?_⟩
    · rw [List.getElem?_set_ne ne]
      exact since.returned
    · rw [eventsBy_append_of_ne _ _ ne]
      exact since.complete
    · rw [early_append_of_unlisted since.complete.unlisted]
      exact since.late
    · by_cases same : j = i
      · subst same
        rw [eventsBy_append_self, Knowledge.mistold_append]
        rintro (wrong | ⟨path, route, tells, wrong⟩)
        · exact since.told wrong
        · exact wrong (since.fits standing amid table (Deployment.tells_cases tells))
      · rw [eventsBy_append_of_ne _ _ same]
        exact since.told

/-- After a change has returned, a lookup is told nothing wrong any more. -/
theorem Scene.Since.play (since : scene.Since k m i)
    (standing : scene.Standing contents k operations m) (surely : d.cache.ErasesSurely)
    (amid : Amid operations m mutation) (table : k.lists scene.world.table.routes)
    (along : scene.Along d (Scene.Tended contents k m) schedule) :
    (scene.play d schedule).Since k m i := by
  induction schedule generalizing scene with
  | nil => exact since
  | cons j schedule ih =>
    have changed := (standing.keeps.complete amid since.returned).1
    refine ih (since.advance standing amid table j)
      (standing.advance surely amid (fun _ => table) along.1) ?_ along.2
    rw [(standing.keeps.table_advance amid changed).2]
    exact table

/-- What a lookup that began later answers is right. -/
theorem Scene.Since.explains {answer : Answer} (since : scene.Since k m i)
    (standing : scene.Standing contents k operations m) (amid : Amid operations m mutation)
    (asked : operations[i]? = some operation) (ne : i ≠ m)
    (ended : scene.callers[i]? = some (.finished answer)) :
    k.explainsAnswer d operation answer := by
  have right : operation.ends k d (eventsBy i scene.trace) answer :=
    standing.keeps.caller asked ended
  exact (right.1 (amid.looks ne asked)).2
    (standing.guarded.late since.complete.unlisted ne since.late) since.told

/-- **Reading one's writes.** Operations run side by side, in any order of their requests; one of
them changes the table, and the others only look. Let no erasure fail. Let every entry that the
cache holds at first be recorded, and let the memo take in what it is asked to record. And let the
lookups that had begun when the change erased the list be fast enough: those that have loaded
another list than the new one neither write it later nor are with a shared load any more, and those
that were brought one in any way have recorded what they have cached of it when the change takes
over what the memo has recorded, and cache nothing of it later.

Then every lookup that begins after the change has returned answers from the table as the change has
made it. -/
theorem answers_from_changed_table (d : Deployment σ) (contents : d.cache.Contents)
    (surely : d.cache.ErasesSurely) (operations : List Operation) (m : Nat) (mutation : Operation)
    (amid : Amid operations m mutation) (world : World σ)
    (recorded : ∀ path value, contents.holds world.cache (.single path) value →
      path ∈ world.memo.paths)
    (idle : world.loads.slot = none) (before after : List Nat) (middle : Scene σ)
    (reached : (Scene.opening d operations world).play d before = middle)
    (returned : middle.callers[m]? = some (.finished (.done (.ok ()))))
    (tended : (Scene.opening d operations world).Along d
      (Scene.Tended contents (Knowledge.ofTable d.accepts middle.world.table) m) (before ++ after))
    (i : Nat) (operation : Operation) (asked : operations[i]? = some operation)
    (later : eventsBy i middle.trace = []) (answer : Answer)
    (ended : (middle.play d after).callers[i]? = some (.finished answer)) :
    mutation.revise world.table = .ok middle.world.table ∧
      answer = d.answerOf middle.world.table operation := by
  obtain ⟨tendedBefore, tendedAfter⟩ := Scene.along_append.mp tended
  rw [reached] at tendedAfter
  have right : (Knowledge.ofTable d.accepts middle.world.table).lists
      ((Scene.opening d operations world).play d before).world.table.routes := by
    rw [reached]
    rfl
  -- what is right is what the table says that the change has made
  have standing := (standing_opening (Knowledge.ofTable_closed d.accepts _) recorded idle).play
    surely amid right tendedBefore
  rw [reached] at standing
  obtain ⟨changed, complete⟩ := standing.keeps.complete amid returned
  have ne : i ≠ m := by
    rintro rfl
    rw [later] at changed
    cases changed
  have since : middle.Since (Knowledge.ofTable d.accepts middle.world.table) m i := by
    refine ⟨returned, complete, not_mem_early_of_silent later, ?_⟩
    rw [later]
    rintro ⟨_, ⟨⟩, _⟩
  have same : (middle.play d after).world.table = middle.world.table :=
    (standing.keeps.table_play amid changed).2
  have since' := since.play standing surely amid rfl tendedAfter
  have standing' := standing.play surely amid (congrArg Table.routes same) tendedAfter
  have opening : (Scene.opening d operations world).Revised mutation m world.table :=
    ⟨fun _ => rfl, Bool.noConfusion⟩
  have revised :
      ((Scene.opening d operations world).play d before).Revised mutation m world.table :=
    opening.play (Scene.keepsTo_opening Knowledge.anything_closed world) amid
  rw [reached] at revised
  exact ⟨revised.revised changed,
    Deployment.answerOf_of_explains (since'.explains standing' amid asked ne ended)⟩

/-- A path is looked up, its route is replaced, the path is looked up again, and so is another. -/
def replacedAmongLookups : List Operation :=
  [.resolve "/users/42", .update (userRoute "http://new"), .resolve "/users/42",
    .resolve "/users/7"]

/-- At first there is one route. -/
def oldRouteOnly (memo : Memo) : World (Entries Cached) :=
  World.start (.single (userRoute "http://old")) [] memo

/-- The change returns before the third caller begins to look, but that one is answered with the
route as it was. -/
def AnsweredWithOld (sharedLoads : Bool) (memo : Memo) (before after : List Nat) : Prop :=
  let d := plainDeployment sharedLoads
  let middle := (Scene.opening d replacedAmongLookups (oldRouteOnly memo)).play d before
  let final := middle.play d after
  middle.callers[1]? = some (.finished (.done (.ok ()))) ∧
    eventsBy 2 middle.trace = [] ∧ final.world.table.routes = [userRoute "http://new"] ∧
    final.callers[2]? = some (.finished (.route (.ok (userRoute "http://old"))))

/-- There are three ways to get old answers. The first lookup loads the list, the change runs to its
end, and then the lookup writes what it has loaded. Or the first lookup runs a load for others too,
and the third caller joins it after the change. Or each runs after the other, and the memo has no
room to record the path that the first has cached. -/
theorem old_answers_after_change :
    AnsweredWithOld false (.empty 100 1000)
        (List.replicate 4 0 ++ List.replicate 5 1) (List.replicate 6 0 ++ List.replicate 3 2) ∧
      AnsweredWithOld true (.empty 100 1000)
        (List.replicate 6 0 ++ List.replicate 5 1)
        (List.replicate 3 2 ++ List.replicate 2 0 ++ List.replicate 7 2) ∧
      AnsweredWithOld false (.empty 0 1000)
        (List.replicate 10 0 ++ List.replicate 5 1) (List.replicate 3 2) :=
  ⟨⟨rfl, rfl, rfl, rfl⟩, ⟨rfl, rfl, rfl, rfl⟩, rfl, rfl, rfl, rfl⟩

/-- One lookup has found nothing cached so far, and another has cached and recorded the old route,
when the route is replaced; the first then loads the new list while the change erases. -/
def loadsAmidErasures : List Nat :=
  [0, 0] ++ List.replicate 12 3 ++ [1] ++ List.replicate 6 0 ++ [1, 1] ++ List.replicate 3 0 ++
    List.replicate 4 1

/-- The scene when the change has returned. -/
def replacedScene : Scene (Entries Cached) :=
  (Scene.opening (plainDeployment true) replacedAmongLookups (oldRouteOnly (.empty 100 1000))).play
    (plainDeployment true) loadsAmidErasures

/-- The third caller is then answered with the new route while the others are still on their way. -/
theorem new_route_amid_lookups :
    replacedScene.underWay 0 = true ∧ replacedScene.underWay 3 = true ∧
      (Operation.update (userRoute "http://new")).revise (.single (userRoute "http://old")) =
        .ok replacedScene.world.table ∧
      Answer.route (.ok (userRoute "http://new")) =
        (plainDeployment true).answerOf replacedScene.world.table (.resolve "/users/42") := by
  have amid : Amid replacedAmongLookups 1 (.update (userRoute "http://new")) := by
    refine ⟨rfl, trivial, fun {j operation} ne asked => ?_⟩
    match j, ne, asked with
    | 0, _, rfl => trivial
    | 2, _, rfl => trivial
    | 3, _, rfl => trivial
  have tended : (Scene.opening (plainDeployment true) replacedAmongLookups
      (oldRouteOnly (.empty 100 1000))).Along (plainDeployment true)
      (Scene.TendedSurely (plainDeployment true)
        (Knowledge.ofTable Pattern.accepts (.single (userRoute "http://new"))) 1)
      (loadsAmidErasures ++ [0, 2, 3, 2, 0, 2]) := by
    decide +kernel
  exact ⟨rfl, rfl, answers_from_changed_table (plainDeployment true) plainContents
    plainCache_erasesSurely replacedAmongLookups 1 _ amid (oldRouteOnly (.empty 100 1000))
    (fun _ _ held => nomatch held) rfl loadsAmidErasures [0, 2, 3, 2, 0, 2] replacedScene rfl rfl
    (tended.mono fun _ _ surely => surely.tended) 2 _ rfl rfl _ rfl⟩

end GatewayRouting
