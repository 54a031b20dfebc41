import GatewayRouting.Proofs.Precedence
import GatewayRouting.Proofs.Refusals

/-!
# Tables that are filled

A table is filled with the routes of a list in their order, and it takes all of them or none. It
takes them if each is well formed and no two have one path (`Table.ofList_eq_ok_iff`), and then it
holds that very list. Otherwise one route is to blame, the first one that the table does not take
behind those before it (`Table.ofList_eq_error_iff`).

Somebody who has an empty table and registers the routes one by one gets as far, and is told the
same (`Deployment.run_addEach`).
-/

namespace GatewayRouting

/-- A fold that fails does so at one place, behind which nothing matters. -/
theorem foldlM_eq_error_iff {α β ε : Type} {step : β → α → Except ε β} {items : List α} {start : β}
    {error : ε} :
    items.foldlM step start = .error error ↔
      ∃ before item behind now, items = before ++ item :: behind ∧
        before.foldlM step start = .ok now ∧ step now item = .error error := by
  constructor
  · intro fails
    induction items generalizing start with
    | nil => cases fails
    | cons item items ih =>
      cases first : step start item with
      | error other =>
        rw [List.foldlM_cons, first] at fails
        cases fails
        exact ⟨[], item, items, start, rfl, rfl, first⟩
      | ok next =>
        rw [List.foldlM_cons, first] at fails
        obtain ⟨before, blamed, behind, now, rfl, done, fails⟩ := ih fails
        refine ⟨item :: before, blamed, behind, now, rfl, ?_, fails⟩
        rw [List.foldlM_cons, first]
        exact done
  · rintro ⟨before, item, behind, now, rfl, done, fails⟩
    rw [List.foldlM_append, done]
    change (item :: behind).foldlM step now = .error error
    rw [List.foldlM_cons, fails]
    rfl

namespace Table

variable {table changed : Table} {route : Route} {routes : List Route} {error : StoreError}

/-! ## Which lists are taken -/

/-- A route is registered if it is well formed and its path is not taken, and comes last. -/
theorem add_eq_ok_iff : table.add route = .ok changed ↔
    route.flaw? = none ∧ route.path ∉ table.routes.map (·.path) ∧
      changed.routes = table.routes ++ [route] := by
  constructor
  · exact of_add
  · rintro ⟨flawless, new, same⟩
    have unregistered : ¬ table.isRegistered route.path = true := mt isRegistered_iff.mp new
    obtain rfl : changed = table.append route unregistered :=
      eq_of_routes_eq (same.trans (routes_append unregistered).symm)
    simp only [add, refuse?_of_flawless flawless, dif_neg unregistered]

/-- Behind some routes, others are taken if they are well formed and have paths of their own. -/
theorem foldlM_add {past : Table} (flawless : ∀ route ∈ routes, route.flaw? = none)
    (whole : table.routes = past.routes ++ routes) : routes.foldlM add past = .ok table := by
  induction routes generalizing past with
  | nil => exact congrArg Except.ok (eq_of_routes_eq (whole.trans (List.append_nil _))).symm
  | cons route routes ih =>
    obtain ⟨here, flawless⟩ := List.forall_mem_cons.mp flawless
    have new : route.path ∉ past.routes.map (·.path) := by
      intro taken
      have distinct := table.nodup_paths
      rw [whole, List.map_append, List.map_cons, List.nodup_append] at distinct
      exact distinct.2.2 _ taken _ List.mem_cons_self rfl
    have unregistered : ¬ past.isRegistered route.path = true := mt isRegistered_iff.mp new
    have added : past.add route = .ok (past.append route unregistered) :=
      add_eq_ok_iff.mpr ⟨here, new, routes_append unregistered⟩
    rw [List.foldlM_cons, added]
    refine ih flawless ?_
    rw [whole, routes_append, List.append_assoc]
    rfl

/-- **A list is taken** if its routes are well formed and no two have one path, and as it is. -/
theorem ofList_eq_ok_iff : ofList routes = .ok table ↔
    (∀ route ∈ routes, route.flaw? = none) ∧ (routes.map (·.path)).Nodup ∧
      table.routes = routes := by
  constructor
  · intro built
    have same : table.routes = routes := routes_of_ofList built
    have flawless : table.Flawless := Seeded.flawless (.ofList routes built)
    exact ⟨same ▸ flawless, same ▸ table.nodup_paths, same⟩
  · rintro ⟨flawless, -, same⟩
    exact foldlM_add flawless same

/-- What comes first in a list that is taken is taken as well. -/
theorem exists_ofList_of_append {before behind : List Route}
    (built : ofList (before ++ behind) = .ok table) : ∃ first, ofList before = .ok first := by
  obtain ⟨flawless, distinct, -⟩ := ofList_eq_ok_iff.mp built
  rw [List.map_append, List.nodup_append] at distinct
  exact ⟨.listing before distinct.1, ofList_eq_ok_iff.mpr
    ⟨(List.forall_mem_append.mp flawless).1, distinct.1, routes_listing before distinct.1⟩⟩

/-! ## Which route is to blame -/

/-- The route at a place of a list is refused by a table of those before it. -/
def RefusedAt (routes : List Route) (place : Nat) (error : StoreError) : Prop :=
  ∃ (route : Route) (table : Table), routes[place]? = some route ∧
    table.routes = routes.take place ∧ table.Refuses (.add route) error

/-- What is refused at a place is so whatever comes behind it. -/
theorem refusedAt_take {place limit : Nat} (early : place < limit) :
    RefusedAt (routes.take limit) place error ↔ RefusedAt routes place error := by
  rw [RefusedAt, RefusedAt, List.getElem?_take_of_lt early, List.take_take,
    Nat.min_eq_left (Nat.le_of_lt early)]

/-- A list with a refused route is not taken. -/
theorem RefusedAt.ne_ok {place : Nat} (refused : RefusedAt routes place error) :
    ofList routes ≠ .ok table := by
  intro built
  obtain ⟨route, past, here, earlier, refuses⟩ := refused
  obtain ⟨inside, same⟩ := List.getElem?_eq_some_iff.mp here
  have whole : routes = routes.take place ++ route :: routes.drop (place + 1) := by
    rw [← same, List.getElem_cons_drop, List.take_append_drop]
  rw [whole] at built
  obtain ⟨first, taken⟩ := exists_ofList_of_append built
  obtain rfl : first = past := eq_of_routes_eq ((routes_of_ofList taken).trans earlier.symm)
  have fails : ofList (routes.take place ++ route :: routes.drop (place + 1)) = .error error :=
    foldlM_eq_error_iff.mpr ⟨_, _, _, _, rfl, taken, add_eq_error_iff.mpr refuses⟩
  rw [fails] at built
  cases built

/-- **The first refused route is to blame** if a list is not taken. -/
theorem ofList_eq_error_iff : ofList routes = .error error ↔
    ∃ place, RefusedAt routes place error ∧
      ∀ earlier < place, ∀ other, ¬ RefusedAt routes earlier other := by
  have blame {routes : List Route} {error : StoreError} (fails : ofList routes = .error error) :
      ∃ place < routes.length, RefusedAt routes place error ∧
        ∀ earlier < place, ∀ other, ¬ RefusedAt routes earlier other := by
    obtain ⟨before, route, behind, now, rfl, built, refuses⟩ := foldlM_eq_error_iff.mp fails
    have refused : RefusedAt (before ++ route :: behind) before.length error :=
      ⟨route, now, by simp, by rw [routes_of_ofList built, List.take_left],
        add_eq_error_iff.mp refuses⟩
    refine ⟨before.length, by simp, refused, ?_⟩
    intro earlier early other refused
    rw [← refusedAt_take early, List.take_left] at refused
    exact refused.ne_ok built
  constructor
  · intro fails
    obtain ⟨place, -, blamed⟩ := blame fails
    exact ⟨place, blamed⟩
  · rintro ⟨place, refused, first⟩
    cases built : ofList routes with
    | ok table => exact absurd built refused.ne_ok
    | error other =>
      -- the route that is to blame is neither before the place nor behind it
      obtain ⟨place', -, refused', first'⟩ := blame built
      obtain before | rfl | behind := Nat.lt_trichotomy place' place
      · exact absurd refused' (first place' before other)
      · obtain ⟨route, past, here, whole, refuses⟩ := refused
        obtain ⟨route', past', here', whole', refuses'⟩ := refused'
        obtain rfl := Option.some.inj (here.symm.trans here')
        obtain rfl := eq_of_routes_eq (whole.trans whole'.symm)
        rw [← add_eq_error_iff] at refuses refuses'
        rw [← Except.error.inj (refuses.symm.trans refuses')]
      · exact absurd refused (first' place behind error)

/-! ## Files -/

/-- A table is filled from a file if the file's routes can be loaded and are taken. -/
theorem loadTable_eq_ok_iff {read : RawPath → Except LoadFault (List UInt8)} {path : RawPath} :
    Document.loadTable read path = .ok table ↔
      Document.load read path = .ok table.routes ∧ ofList table.routes = .ok table := by
  rw [Document.loadTable]
  cases Document.load read path with
  | error error =>
    constructor
    · intro filled
      cases filled
    · rintro ⟨loaded, -⟩
      cases loaded
  | ok routes =>
    constructor
    · intro built
      have built : ofList routes = .ok table := built
      obtain rfl := routes_of_ofList built
      exact ⟨rfl, built⟩
    · rintro ⟨⟨⟩, built⟩
      exact built

end Table

/-! ## One by one -/

/-- Registers routes one after the other, up to the first one that is refused. -/
def addEach : List Route → Program (Except StoreError Unit)
  | [] => return .ok ()
  | route :: routes => do
    match ← .request (.addRoute route) with
    | .ok () => addEach routes
    | .error error => return .error error

variable {σ : Type} {d : Deployment σ} {world : World σ} {routes : List Route}

/-- **Adding one by one** to a table within reach comes to what filling it does. -/
theorem Deployment.run_addEach (here : world.outage = none) :
    match routes.foldlM Table.add world.table with
    | .ok table => (addEach routes).run d.handler world = (.ok (), { world with table })
    | .error error => ((addEach routes).run d.handler world).1 = .error error := by
  induction routes generalizing world with
  | nil => exact rfl
  | cons route routes ih =>
    have asks : d.handler (.addRoute route) world = world.change (·.add route) := rfl
    rw [List.foldlM_cons, addEach, Program.bind_eq, Program.request_bind, Program.run_ask, asks]
    cases added : world.table.add route with
    | error error =>
      have replied : world.change (·.add route) = (.error error, world) :=
        World.change_of_error here added
      rw [replied]
      rfl
    | ok table =>
      have replied : world.change (·.add route) = (.ok (), { world with table }) :=
        World.change_of_ok here added
      rw [replied]
      exact @ih { world with table } here

/-! ## The result -/

/-- **Filling a table is adding one by one.** A list of routes fills a table exactly if every route
is well formed and no two have one path, and the table then lists these routes in this order. If it
does not, then the first route that is not well formed or has a path from before is to blame, and
the one for the other only if it is well formed. Whoever registers the routes one after the other,
in a table within reach that has none, is told the same and gets the same table. And a table is
filled from a file exactly if its routes can be loaded and fill a table, which is that one. -/
theorem seeding_is_adding_one_by_one (d : Deployment σ) (cache : σ) (memo : Memo)
    (routes : List Route) :
    (∀ table, Table.ofList routes = .ok table ↔
      (∀ route ∈ routes, route.flaw? = none) ∧ (routes.map (·.path)).Nodup ∧
        (d.handler .listRoutes (World.start table cache memo)).1 = .ok routes) ∧
      (∀ error, Table.ofList routes = .error error ↔
        ∃ place, Table.RefusedAt routes place error ∧
          ∀ earlier < place, ∀ other, ¬ Table.RefusedAt routes earlier other) ∧
      (∀ table, Table.ofList routes = .ok table ↔
        (addEach routes).run d.handler (World.start {} cache memo) =
          (.ok (), World.start table cache memo)) ∧
      (∀ error, Table.ofList routes = .error error ↔
        ((addEach routes).run d.handler (World.start {} cache memo)).1 = .error error) ∧
      ∀ read path table, Document.loadTable read path = .ok table ↔
        Document.load read path = .ok table.routes ∧ Table.ofList table.routes = .ok table := by
  have adds := @Deployment.run_addEach σ d (World.start {} cache memo) routes rfl
  change match Table.ofList routes with | .ok table => _ | .error error => _ at adds
  refine ⟨?_, fun error => Table.ofList_eq_error_iff, ?_, ?_, ?_⟩
  · intro table
    have lists : (d.handler .listRoutes (World.start table cache memo)).1 = .ok table.routes :=
      Deployment.handler_listRoutes
    rw [Table.ofList_eq_ok_iff, lists, Except.ok.injEq]
  · intro table
    cases built : Table.ofList routes with
    | ok other =>
      rw [built] at adds
      rw [adds]
      constructor
      · rintro ⟨⟩
        rfl
      · intro same
        exact congrArg Except.ok (congrArg World.table (Prod.mk.inj same).2)
    | error error =>
      rw [built] at adds
      refine ⟨nofun, fun same => ?_⟩
      rw [same] at adds
      cases adds
  · intro error
    cases built : Table.ofList routes with
    | ok table =>
      rw [built] at adds
      rw [adds]
      exact ⟨nofun, nofun⟩
    | error other =>
      rw [built] at adds
      rw [adds]
      exact ⟨congrArg _ ∘ Except.error.inj, congrArg _ ∘ Except.error.inj⟩
  · intro read path table
    exact Table.loadTable_eq_ok_iff

/-- A route that is to blame for both reasons is not well formed, first of all. -/
example :
    Table.ofList [userRoute "http://users", { path := "/orders", service := "http://orders" },
        { path := "/users/:id", service := "\t" }, { path := "/orders", service := "http://new" }] =
      .error (.invalidRoute "/users/:id" "service URL cannot be empty") := by
  decide

end GatewayRouting
