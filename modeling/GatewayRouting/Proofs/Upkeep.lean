import GatewayRouting.Proofs.Lookup

/-!
# What changes and clearings do

An operation that changes the table has to see to it that no entry outlives its truth, and a
clearing that no entry outlives anything. Both erase the list, then take over what the memo has
recorded, and erase the entry of each path that they took over; each also takes over the paths that
it knows of itself, without the memo.

How far such an operation has come is its `Progress`. The paths that were taken over and whose
entries are still to be erased are *due*: they are the ones that the memo no longer vouches for. The
protocol allows nothing to be erased that is not due, and lets the operation end in one of two ways
only: complete, or without having touched anything (`Ends`).
-/

namespace GatewayRouting

/-! ## Progress -/

/-- How far a change or a clearing has come. -/
structure Progress where
  /-- it has changed the table -/
  changed : Bool := false
  /-- it has erased the list -/
  unlisted : Bool := false
  /-- it has been given the table's list -/
  listed : Bool := false
  /-- it has taken over what the memo has recorded -/
  swept : Bool := false
  /-- the paths that it took over from the memo and that the memo is still to forget -/
  kept : List String := []
  /-- the paths that it took over and whose entries are still to be erased -/
  due : List String := []
  /-- the paths whose entries it has erased, or tried to -/
  erased : List String := []

/-- Whether an event is a change of the table that entries could outlive. A change of counters is
none. -/
def Event.changes : Event → Bool
  | ⟨.addRoute _, .ok _⟩ | ⟨.updateRoute _, .ok _⟩ | ⟨.deleteRoute _, .ok _⟩ => true
  | _ => false

/-- Whether an event is an erasure of the list. -/
def Event.unlists : Event → Bool
  | ⟨.eraseCache .list, _⟩ => true
  | _ => false

namespace Progress

/-- The progress after an event. -/
def after (progress : Progress) : Event → Progress
  | ⟨.addRoute _, .ok _⟩ => { progress with changed := true }
  | ⟨.updateRoute route, .ok _⟩ =>
    { progress with changed := true, due := route.path :: progress.due }
  | ⟨.deleteRoute path, .ok _⟩ => { progress with changed := true, due := path :: progress.due }
  | ⟨.listRoutes, .ok routes⟩ =>
    { progress with listed := true, due := progress.due ++ routes.map (·.path) }
  | ⟨.recorded, records⟩ =>
    { progress with
      swept := true, kept := records.map (·.1), due := progress.due ++ records.map (·.1) }
  | ⟨.forget path, _⟩ => { progress with kept := progress.kept.erase path }
  | ⟨.eraseCache .list, _⟩ => { progress with unlisted := true }
  | ⟨.eraseCache (.single path), _⟩ =>
    { progress with due := progress.due.erase path, erased := path :: progress.erased }
  | _ => progress

/-- Nothing is left to do. -/
structure Complete (progress : Progress) : Prop where
  /-- the list was erased -/
  unlisted : progress.unlisted = true
  /-- the memo was asked -/
  swept : progress.swept = true
  /-- and forgot everything -/
  kept : progress.kept = []
  /-- every entry that was due was erased -/
  due : progress.due = []

/-- Nothing was changed or taken over, and no entry of a path was erased. -/
structure Untouched (progress : Progress) : Prop where
  /-- the table was not changed -/
  changed : progress.changed = false
  /-- the memo was not asked -/
  swept : progress.swept = false
  /-- no entry of a path was erased -/
  erased : progress.erased = []

variable {progress : Progress} {q : Request} {reply : q.Reply} {path : String}

/-- A path stays due until its entry is erased. -/
theorem mem_due_after (mem : path ∈ progress.due) (erases : q ≠ .eraseCache (.single path)) :
    path ∈ (progress.after ⟨q, reply⟩).due := by
  cases q with
  | updateRoute route =>
    cases reply with
    | ok done => exact List.mem_cons_of_mem _ mem
    | error error => exact mem
  | deleteRoute other =>
    cases reply with
    | ok done => exact List.mem_cons_of_mem _ mem
    | error error => exact mem
  | listRoutes =>
    cases reply with
    | ok routes => exact List.mem_append_left _ mem
    | error error => exact mem
  | recorded => exact List.mem_append_left _ mem
  | eraseCache key =>
    cases key with
    | list => exact mem
    | single other =>
      refine (List.mem_erase_of_ne ?_).mpr mem
      rintro rfl
      exact erases rfl
  | addRoute route => cases reply <;> exact mem
  | _ => exact mem

theorem changed_after (progress : Progress) (event : Event) :
    (progress.after event).changed = (progress.changed || event.changes) := by
  obtain ⟨q, reply⟩ := event
  cases q with
  | addRoute route => cases reply <;> simp [after, Event.changes]
  | updateRoute route => cases reply <;> simp [after, Event.changes]
  | deleteRoute path => cases reply <;> simp [after, Event.changes]
  | listRoutes => cases reply <;> exact (Bool.or_false _).symm
  | eraseCache key => cases key <;> exact (Bool.or_false _).symm
  | _ => exact (Bool.or_false _).symm

theorem unlisted_after (erases : q ≠ .eraseCache .list) :
    (progress.after ⟨q, reply⟩).unlisted = progress.unlisted := by
  unfold after
  split <;> first | rfl | (rename_i h; cases h; exact absurd rfl erases)

theorem unlisted_after_eq (progress : Progress) (event : Event) :
    (progress.after event).unlisted = (progress.unlisted || event.unlists) := by
  obtain ⟨q, reply⟩ := event
  cases q with
  | eraseCache key => cases key <;> simp [after, Event.unlists]
  | addRoute route => cases reply <;> exact (Bool.or_false _).symm
  | updateRoute route => cases reply <;> exact (Bool.or_false _).symm
  | deleteRoute path => cases reply <;> exact (Bool.or_false _).symm
  | listRoutes => cases reply <;> exact (Bool.or_false _).symm
  | _ => exact (Bool.or_false _).symm

theorem listed_after (lists : q ≠ .listRoutes) :
    (progress.after ⟨q, reply⟩).listed = progress.listed := by
  unfold after
  split <;> first | rfl | (rename_i h; cases h; exact absurd rfl lists)

theorem swept_after (takes : q ≠ .recorded) :
    (progress.after ⟨q, reply⟩).swept = progress.swept := by
  unfold after
  split <;> first | rfl | (rename_i h; cases h; exact absurd rfl takes)

theorem kept_after (takes : q ≠ .recorded) (forgets : ∀ path, q ≠ .forget path) :
    (progress.after ⟨q, reply⟩).kept = progress.kept := by
  unfold after
  split <;> first
    | rfl
    | (rename_i h; cases h; first | exact absurd rfl takes | exact absurd rfl (forgets _))

theorem erased_after (erases : ∀ path, q ≠ .eraseCache (.single path)) :
    (progress.after ⟨q, reply⟩).erased = progress.erased := by
  unfold after
  split <;> first | rfl | (rename_i h; cases h; exact absurd rfl (erases _))

end Progress

/-- The progress after some events. -/
def progress (past : List Event) : Progress :=
  past.foldl Progress.after {}

theorem progress_append (past : List Event) (event : Event) :
    progress (past ++ [event]) = (progress past).after event := by
  simp [progress]

/-! ## The protocol -/

namespace Operation

/-- The operations that change which routes there are, or what they say. -/
def IsChange : Operation → Prop
  | .add _ | .update _ | .delete _ => True
  | _ => False

theorem IsChange.not_isLookup {operation : Operation} (changes : operation.IsChange) :
    ¬ operation.IsLookup := by
  cases operation with
  | add route => exact id
  | update route => exact id
  | delete path => exact id
  | _ => exact changes.elim

/-- What an operation that does not look may ask for. -/
def upkeepAllows (operation : Operation) (past : List Event) : Request → Prop
  | .addRoute route => operation = .add route ∧ past = []
  | .updateRoute route => operation = .update route ∧ past = []
  | .deleteRoute path => operation = .delete path ∧ past = []
  | .recordCalls path calls time => operation = .recordCalls path calls time ∧ past = []
  | .listRoutes => operation = .clear
  | .eraseCache .list => operation = .clear ∨ (progress past).changed = true
  | .eraseCache (.single path) => path ∈ (progress past).due
  | .recorded => (progress past).unlisted = true ∧ (progress past).due = []
  | .forget path => (progress past).swept = true ∧ path ∈ (progress past).due
  | .note _ => True
  | _ => False

/-- Only lookups record. -/
theorem upkeepAllows.ne_remember {operation : Operation} {past : List Event} {q : Request}
    (allowed : operation.upkeepAllows past q) (path pattern : String) :
    q ≠ .remember path pattern := by
  rintro rfl
  exact allowed

/-- How an operation that does not look may end. -/
inductive Ends (operation : Operation) (past : List Event) : Answer → Prop where
  /-- everything was done -/
  | complete (all : (progress past).Complete)
      (listed : operation = .clear → (progress past).listed = true)
      (changed : operation ≠ .clear → (progress past).changed = true) :
      Ends operation past (.done (.ok ()))
  /-- calls were recorded, which leaves every entry as it is -/
  | counted {path : String} {calls time : Int64} (counts : operation = .recordCalls path calls time)
      (nothing : (progress past).Untouched) : Ends operation past (.done (.ok ()))
  /-- the table refused -/
  | refused {error : StoreError} (nothing : (progress past).Untouched) :
      Ends operation past (.done (.error error))

theorem Ends.complete_or_untouched {operation : Operation} {past : List Event} {answer : Answer}
    (ends : operation.Ends past answer) :
    ((progress past).Complete ∧ (operation = .clear → (progress past).listed = true)) ∨
      (progress past).Untouched := by
  cases ends with
  | complete all listed changed => exact .inl ⟨all, listed⟩
  | counted counts nothing => exact .inr nothing
  | refused nothing => exact .inr nothing

end Operation

/-! ## Upkeep keeps to it -/

namespace Service

open Program

variable {accepts : String → String → Bool} {operation : Operation} {past : List Event}
  {now : Progress}

theorem keepsTo_invalidate {key : Key} (here : progress past = now)
    (allowed : operation.upkeepAllows past (.eraseCache key)) :
    (invalidate key).KeepsTo operation.upkeepAllows (granted accepts)
      (fun later _ => progress later = now.after ⟨.eraseCache key, .ok ()⟩) past := by
  refine ⟨allowed, fun reply _ => ?_⟩
  have erased : progress (past ++ [⟨.eraseCache key, reply⟩]) =
      now.after ⟨.eraseCache key, .ok ()⟩ := by
    rw [progress_append, here]
    cases key <;> rfl
  cases reply with
  | ok done => exact erased
  | error error =>
    -- a failure is observed, and counts as an attempt all the same
    refine ⟨trivial, fun noted _ => ?_⟩
    rw [keepsTo_done, progress_append, erased]
    rfl

/-- Invalidating the paths that are due, in their order, leaves nothing due. -/
theorem keepsTo_invalidateAll {paths : List String} (here : progress past = now)
    (due : now.due = paths) :
    (invalidateAll paths).KeepsTo operation.upkeepAllows (granted accepts)
      (fun later _ => ∃ erased, progress later = { now with due := [], erased }) past := by
  induction paths generalizing past now with
  | nil => exact ⟨now.erased, by rw [here, ← due]⟩
  | cons path paths ih =>
    have allowed : operation.upkeepAllows past (.eraseCache (.single path)) := by
      change path ∈ (progress past).due
      rw [here, due]
      exact List.mem_cons_self
    refine KeepsTo.bind (keepsTo_invalidate here allowed) ?_
    intro later _ _ here
    have rest : (now.after ⟨.eraseCache (.single path), .ok ()⟩).due = paths := by
      change now.due.erase path = paths
      rw [due, List.erase_cons_head]
    have kept := ih here rest
    exact kept

theorem keepsTo_forgetAll {records : List (String × String)} (here : progress past = now)
    (swept : now.swept = true) (kept : now.kept = records.map (·.1))
    (due : ∀ record ∈ records, record.1 ∈ now.due) :
    (forgetAll records).KeepsTo operation.upkeepAllows (granted accepts)
      (fun later _ => progress later = { now with kept := [] }) past := by
  induction records generalizing past now with
  | nil => exact here.trans (by rw [← show now.kept = [] from kept])
  | cons record records ih =>
    have mem : record.1 ∈ now.due := due record List.mem_cons_self
    refine ⟨⟨here ▸ swept, here ▸ mem⟩, fun forgot _ => ?_⟩
    have here : progress (past ++ [⟨.forget record.1, forgot⟩]) =
        { now with kept := records.map (·.1) } := by
      rw [progress_append, here]
      simp [Progress.after, kept]
    have rest := ih here swept rfl fun other mem => due other (List.mem_cons_of_mem _ mem)
    exact rest

/-- A sweep that starts with nothing due ends with nothing due. -/
theorem keepsTo_sweep (here : progress past = now) (unlisted : now.unlisted = true)
    (due : now.due = []) :
    sweep.KeepsTo operation.upkeepAllows (granted accepts)
      (fun later _ => ∃ erased,
        progress later = { now with swept := true, kept := [], due := [], erased }) past := by
  refine ⟨⟨here ▸ unlisted, here ▸ due⟩, fun records _ => ?_⟩
  have taken : progress (past ++ [⟨.recorded, records⟩]) =
      { now with swept := true, kept := records.map (·.1), due := records.map (·.1) } := by
    rw [progress_append, here]
    simp [Progress.after, due]
  have due (record : String × String) (mem : record ∈ records) :
      record.1 ∈ records.map (·.1) := List.mem_map_of_mem mem
  change KeepsTo _ _ _ _ ((forgetAll records).bind _)
  refine KeepsTo.bind (keepsTo_forgetAll taken rfl rfl due) ?_
  intro later _ _ taken
  exact keepsTo_invalidateAll taken rfl

/-- The end of every change: with nothing due, the list is erased and the memo is swept. -/
theorem keepsTo_unlist (stays : operation ≠ .clear) (here : progress past = now)
    (changed : now.changed = true) (due : now.due = []) :
    ((invalidate .list).bind fun _ => sweep.bind fun _ => done (.ok ())).KeepsTo
      operation.upkeepAllows (granted accepts)
      (fun later result => operation.Ends later (.done result)) past := by
  refine KeepsTo.bind (keepsTo_invalidate here (.inr (here ▸ changed))) ?_
  intro later _ _ here
  refine KeepsTo.bind (keepsTo_sweep here rfl due) ?_
  rintro later _ _ ⟨erased, here⟩
  have all : (progress later).Complete := by
    rw [here]
    exact ⟨rfl, rfl, rfl, rfl⟩
  exact .complete all (fun clears => absurd clears stays) fun _ => here ▸ changed

/-- A change whose own path is erased first. -/
theorem keepsTo_uncache {path : String} (stays : operation ≠ .clear) (here : progress past = now)
    (changed : now.changed = true) (due : now.due = [path]) :
    ((invalidate (.single path)).bind fun _ =>
      (invalidate .list).bind fun _ => sweep.bind fun _ => done (.ok ())).KeepsTo
      operation.upkeepAllows (granted accepts)
      (fun later result => operation.Ends later (.done result)) past := by
  have allowed : operation.upkeepAllows past (.eraseCache (.single path)) := by
    change path ∈ (progress past).due
    rw [here, due]
    exact List.mem_singleton_self path
  refine KeepsTo.bind (keepsTo_invalidate here allowed) ?_
  intro later _ _ here
  refine keepsTo_unlist stays here changed ?_
  change now.due.erase path = []
  rw [due, List.erase_cons_head]

/-- A change that the table refuses is over at once. -/
theorem ends_of_refused {q : Request} {reply : q.Reply} {error : StoreError}
    (refused : ({} : Progress).after ⟨q, reply⟩ = {}) :
    operation.Ends [⟨q, reply⟩] (.done (.error error)) := by
  refine .refused ?_
  have here : progress [⟨q, reply⟩] = {} := refused
  constructor <;> rw [here]

theorem keepsTo_add (route : Route) :
    (add route).KeepsTo (Operation.upkeepAllows (.add route)) (granted accepts)
      (fun past result => Operation.Ends (.add route) past (.done result)) [] := by
  refine ⟨⟨rfl, rfl⟩, fun reply _ => ?_⟩
  cases reply with
  | ok done => exact keepsTo_unlist Operation.noConfusion rfl rfl rfl
  | error error => exact ends_of_refused rfl

theorem keepsTo_update (route : Route) :
    (update route).KeepsTo (Operation.upkeepAllows (.update route)) (granted accepts)
      (fun past result => Operation.Ends (.update route) past (.done result)) [] := by
  refine ⟨⟨rfl, rfl⟩, fun reply _ => ?_⟩
  cases reply with
  | ok done => exact keepsTo_uncache Operation.noConfusion rfl rfl rfl
  | error error => exact ends_of_refused rfl

theorem keepsTo_delete (path : String) :
    (delete path).KeepsTo (Operation.upkeepAllows (.delete path)) (granted accepts)
      (fun past result => Operation.Ends (.delete path) past (.done result)) [] := by
  refine ⟨⟨rfl, rfl⟩, fun reply _ => ?_⟩
  cases reply with
  | ok done => exact keepsTo_uncache Operation.noConfusion rfl rfl rfl
  | error error => exact ends_of_refused rfl

theorem keepsTo_recordCalls (path : String) (calls time : Int64) :
    (recordCalls path calls time).KeepsTo
      (Operation.upkeepAllows (.recordCalls path calls time)) (granted accepts)
      (fun past result => Operation.Ends (.recordCalls path calls time) past (.done result))
      [] := by
  refine ⟨⟨rfl, rfl⟩, fun reply _ => ?_⟩
  cases reply with
  | ok done => exact .counted rfl ⟨rfl, rfl, rfl⟩
  | error error => exact ends_of_refused rfl

theorem keepsTo_clear :
    clear.KeepsTo (Operation.upkeepAllows .clear) (granted accepts)
      (fun past result => Operation.Ends .clear past (.done result)) [] := by
  refine KeepsTo.bind (keepsTo_invalidate rfl (.inl rfl)) ?_
  intro past _ _ here
  refine ⟨rfl, fun reply _ => ?_⟩
  have here : progress (past ++ [⟨.listRoutes, reply⟩]) =
      (({} : Progress).after ⟨.eraseCache .list, .ok ()⟩).after ⟨.listRoutes, reply⟩ := by
    rw [progress_append, here]
    rfl
  cases reply with
  | error error =>
    have nothing : (progress (past ++ [⟨.listRoutes, .error error⟩])).Untouched := by
      rw [here]
      exact ⟨rfl, rfl, rfl⟩
    exact .refused nothing
  | ok routes =>
    change KeepsTo _ _ _ _ ((invalidateAll (routes.map (·.path))).bind _)
    refine KeepsTo.bind (keepsTo_invalidateAll here rfl) ?_
    rintro past _ _ ⟨erased, here⟩
    change KeepsTo _ _ _ _ (sweep.bind _)
    refine KeepsTo.bind (keepsTo_sweep here rfl rfl) ?_
    rintro past _ _ ⟨erased, here⟩
    have all : (progress past).Complete := by
      rw [here]
      exact ⟨rfl, rfl, rfl, rfl⟩
    exact .complete all (fun _ => here ▸ rfl) (fun stays => absurd rfl stays)

end Service

/-- **Changes and clearings keep to the protocol**, and end complete or without having touched
anything. -/
theorem Operation.keepsTo_upkeep {accepts : String → String → Bool} {options : Options}
    {operation : Operation} (changes : ¬ operation.IsLookup) :
    (operation.program options).KeepsTo operation.upkeepAllows (granted accepts)
      operation.Ends [] := by
  cases operation with
  | routes => exact absurd trivial changes
  | resolve path => exact absurd trivial changes
  | permits path method => exact absurd trivial changes
  | add route => exact (Service.keepsTo_add route).bind fun _ _ _ ends => ends
  | update route => exact (Service.keepsTo_update route).bind fun _ _ _ ends => ends
  | delete path => exact (Service.keepsTo_delete path).bind fun _ _ _ ends => ends
  | recordCalls path calls time =>
    exact (Service.keepsTo_recordCalls path calls time).bind fun _ _ _ ends => ends
  | clear => exact Service.keepsTo_clear.bind fun _ _ _ ends => ends

section

variable {σ : Type} {d : Deployment σ} {operation : Operation} {world : World σ}

/-- What each request of an operation that does not look keeps, all of it keeps. -/
theorem Deployment.upkeep_induction {inv : List Event → World σ → Prop}
    (changes : ¬ operation.IsLookup)
    (step : ∀ past q now, inv past now → operation.upkeepAllows past q →
      inv (past ++ [⟨q, (d.handler q now).1⟩]) (d.handler q now).2)
    (start : inv [] world) : inv (d.eventsOf operation world) (d.ask operation world).2 := by
  have keeps : (operation.program d.options).KeepsTo operation.upkeepAllows (granted d.accepts)
      operation.Ends [] := Operation.keepsTo_upkeep changes
  exact (keeps.run_of_forall
    (fun past q now kept allowed => ⟨granted_handler, step past q now kept allowed⟩) start).2

/-- An operation that does not look ends complete, or without having touched anything. -/
theorem Deployment.ends_ask (changes : ¬ operation.IsLookup) :
    operation.Ends (d.eventsOf operation world) (d.ask operation world).1 := by
  have keeps : (operation.program d.options).KeepsTo operation.upkeepAllows (granted d.accepts)
      operation.Ends [] := Operation.keepsTo_upkeep changes
  have step (past : List Event) (q : Request) (now : World σ) (_ : True)
      (_ : operation.upkeepAllows past q) : granted d.accepts q (d.handler q now).1 ∧ True :=
    ⟨granted_handler, trivial⟩
  exact (keeps.run_of_forall step trivial).1

end

end GatewayRouting
