import GatewayRouting.Proofs.WrittenRecords
import GatewayRouting.Route.Record
import GatewayRouting.Route.Written

/-!
# Routes that were written are read

What is written of a route is the record of all its fields (`Route.tokens_record`), and a route is
read back from that record (`Route.ofRecord_record`), its methods too, of which a set lists none
twice (`MethodSet.ofList_tokens`). So both layouts of a route are read as the route, and no two
routes are written alike (`written_routes_read_back`).
-/

namespace GatewayRouting

open Json (Token separated itemTokens)

/-! ## Method sets -/

/-- Distinct tokens are taken into a set one behind the other. -/
theorem MethodSet.tokens_foldl_insert (methods : MethodSet) {tokens : List String}
    (distinct : (methods.tokens ++ tokens).Nodup) :
    (tokens.foldl insert methods).tokens = methods.tokens ++ tokens := by
  induction tokens generalizing methods with
  | nil => exact (List.append_nil _).symm
  | cons token tokens ih =>
    have fresh : methods.contains token = false := by
      have apart := (List.nodup_append.mp distinct).2.2
      exact Bool.eq_false_iff.mpr fun member =>
        apart token (contains_iff.mp member) token (by simp) rfl
    have inserted := tokens_insert_of_not_contains fresh
    rw [List.foldl_cons, ih _ (by simpa [inserted] using distinct), inserted]
    simp

/-- The set of the tokens that a set lists is that set. -/
theorem MethodSet.ofList_tokens (methods : MethodSet) : ofList methods.tokens = methods :=
  MethodSet.ext (tokens_foldl_insert {} methods.distinct)

namespace Route

/-! ## The record of a route -/

/-- The record of a route, with a value for every field. -/
def record (route : Route) : Record :=
  [("path", .text route.path),
   ("serviceURL", .text route.service),
   ("methods", .tokens route.methods.tokens),
   ("isActive", .flag route.isActive),
   ("callCount", .signed route.callCount.toInt),
   ("totalResponseTime", .signed route.totalResponseTime.toInt)]

theorem counter_range (counter : Int64) : inSignedRange 64 counter.toInt = true := by
  have low := counter.le_toInt
  have high := counter.toInt_lt
  have bound : (twoTo (64 - 1) : Int) = 2 ^ 63 := rfl
  simp only [inSignedRange, Bool.and_eq_true, decide_eq_true_eq, bound]
  exact ⟨low, high⟩

theorem admits_record (route : Route) : shape.Admits route.record where
  fields := by
    simp only [record, List.forall_mem_cons, List.not_mem_nil, false_implies, implies_true,
      and_true]
    exact ⟨⟨_, rfl, .text _⟩, ⟨_, rfl, .text _⟩, ⟨_, rfl, .tokens _⟩, ⟨_, rfl, .flag _⟩,
      ⟨_, rfl, .signed (counter_range _)⟩, ⟨_, rfl, .signed (counter_range _)⟩⟩
  distinct := by
    show ["path", "serviceURL", "methods", "isActive", "callCount", "totalResponseTime"].Nodup
    decide
  required := by
    simp only [shape, List.forall_mem_cons, List.not_mem_nil, false_implies, implies_true,
      and_true]
    exact ⟨fun _ => rfl, fun _ => rfl, nofun, nofun, nofun, nofun⟩

/-- A route is what its record stands for. -/
theorem ofRecord_record (route : Route) : ofRecord route.record = route := by
  have methods : MethodSet.ofList (route.record.tokens "methods") = route.methods :=
    route.methods.ofList_tokens
  have calls : route.record.signed "callCount" 0 = route.callCount := Int64.ofInt_toInt _
  have time : route.record.signed "totalResponseTime" 0 = route.totalResponseTime :=
    Int64.ofInt_toInt _
  rw [ofRecord, methods, calls, time]
  rfl

/-! ## The text of a route -/

theorem separated_methods (methods : List String) :
    separated (itemTokens (methods.map textTree)) = methodTokens methods := by
  induction methods with
  | nil => rfl
  | cons method methods ih =>
    cases methods with
    | nil => rfl
    | cons next methods =>
      rw [methodTokens, ← ih]
      · rfl
      · nofun

/-- What is written of a route is its record. -/
theorem tokens_record (route : Route) : route.record.tree.tokens = route.tokens := by
  rw [tokens, ← separated_methods]
  simp [Record.tree, Record.members, record, FieldValue.tree, textTree, textToken, counterToken,
    Json.Tree.tokens, Json.memberTokens, separated]

theorem ofJson_of_read {route : Route} {text : String}
    (reads : Json.read text.toList = ⟨route.record.tree, true⟩) : ofJson text = .ok route := by
  rw [ofJson, Json.recordOfText_of_read route.admits_record reads]
  exact congrArg Except.ok route.ofRecord_record

theorem ofJson_compactJson (route : Route) : ofJson route.compactJson = .ok route := by
  refine ofJson_of_read ?_
  rw [compactJson, String.toList_ofList, ← tokens_record]
  exact route.record.tree_written.read_compact

theorem ofJson_prettyJson (route : Route) : ofJson route.prettyJson = .ok route := by
  refine ofJson_of_read ?_
  rw [prettyJson, String.toList_ofList, ← tokens_record]
  exact route.record.tree_written.read_pretty

end Route

/-- Every route is read back from either layout of it, the order of the methods included. So two
routes that differ in anything are not written alike in either layout. -/
theorem written_routes_read_back (route : Route) :
    Route.ofJson route.compactJson = .ok route ∧ Route.ofJson route.prettyJson = .ok route ∧
      ∀ other : Route, other ≠ route →
        other.compactJson ≠ route.compactJson ∧ other.prettyJson ≠ route.prettyJson := by
  refine ⟨route.ofJson_compactJson, route.ofJson_prettyJson,
    fun other different => ⟨fun same => ?_, fun same => ?_⟩⟩
  · have read := other.ofJson_compactJson
    rw [same, route.ofJson_compactJson] at read
    exact different (Except.ok.inj read).symm
  · have read := other.ofJson_prettyJson
    rw [same, route.ofJson_prettyJson] at read
    exact different (Except.ok.inj read).symm

/-- A route with marks, a control character and letters of every length in it, and with counters
at both ends of their range. -/
def oddRoute : Route where
  path := "/\"a\\b\n\x01é水😀"
  service := "http://a\tb"
  methods := { tokens := ["post", "", "GET"] }
  isActive := false
  callCount := Int64.minValue
  totalResponseTime := Int64.maxValue

/-- It is read back, and is not written like the one with its methods in another order. -/
theorem odd_route_read_back :
    let reordered := { oddRoute with methods := { tokens := ["GET", "", "post"] } }
    Route.ofJson oddRoute.compactJson = .ok oddRoute ∧
      Route.ofJson oddRoute.prettyJson = .ok oddRoute ∧ reordered ≠ oddRoute ∧
      reordered.compactJson ≠ oddRoute.compactJson := by
  intro reordered
  obtain ⟨compact, pretty, apart⟩ := written_routes_read_back oddRoute
  have different : reordered ≠ oddRoute := by decide
  exact ⟨compact, pretty, different, (apart _ different).1⟩

end GatewayRouting
