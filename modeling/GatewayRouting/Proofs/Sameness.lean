import GatewayRouting.Document.Routes
import GatewayRouting.Proofs.TwoDecodings
import Mathlib.Data.List.Induction
import Mathlib.Data.List.Perm.Subperm

/-!
# Routes that are the same

Two routes are the same route if they agree in every field, where the methods agree if there are as
many of one as of the other and each of one is among the other's. That is the same as allowing the
same methods, as no set lists a method twice (`MethodSet.sameMembers_iff`). Every way to make a
route takes the tokens that it is given in one by one, and leaves out those that it has
(`Route.Made.methods_eq`, `MethodSet.tokens_ofList`).

So routes are the same exactly if nothing that can be asked of them tells them apart
(`same_iff_alike_to_all_questions`).
-/

namespace GatewayRouting

namespace MethodSet

/-! ## The tokens that are taken in -/

theorem mem_tokens_insert {methods : MethodSet} {token other : String} :
    other ∈ (methods.insert token).tokens ↔ other ∈ methods.tokens ∨ other = token := by
  by_cases known : methods.contains token = true
  · have known' := contains_iff.mp known
    rw [insert_of_contains known]
    exact ⟨.inl, fun either => either.elim id fun same => same ▸ known'⟩
  · rw [tokens_insert_of_not_contains (Bool.eq_false_iff.mpr known), List.mem_append,
      List.mem_singleton]

theorem ofList_concat (given : List String) (token : String) :
    ofList (given ++ [token]) = (ofList given).insert token := by
  rw [ofList, List.foldl_append, ← ofList]
  rfl

theorem mem_tokens_ofList {given : List String} {token : String} :
    token ∈ (ofList given).tokens ↔ token ∈ given := by
  induction given using List.reverseRecOn with
  | nil => exact Iff.rfl
  | append_singleton given last ih =>
    rw [ofList_concat, mem_tokens_insert, ih, List.mem_append, List.mem_singleton]

/-- Tokens in the order in which they first occur among those that were given. -/
def InOrderOf (given tokens : List String) : Prop :=
  tokens.Pairwise fun one other => given.idxOf one < given.idxOf other

/-- Tokens stay in order when more are given. -/
theorem InOrderOf.concat {given tokens : List String} (ordered : InOrderOf given tokens)
    (among : ∀ token ∈ tokens, token ∈ given) (last : String) :
    InOrderOf (given ++ [last]) tokens := by
  refine ordered.imp_of_mem fun {one other} inside inside' before => ?_
  rwa [List.idxOf_append_of_mem (among one inside), List.idxOf_append_of_mem (among other inside')]

/-- **A set lists the tokens that it is given in the order of their first occurrences.** -/
theorem tokens_ofList (given : List String) : InOrderOf given (ofList given).tokens := by
  induction given using List.reverseRecOn with
  | nil => exact .nil
  | append_singleton given last ih =>
    have before := ih.concat (fun token => mem_tokens_ofList.mp) last
    rw [ofList_concat]
    by_cases known : (ofList given).contains last = true
    · rwa [insert_of_contains known]
    · have new : last ∉ given := fun among => known (contains_iff.mpr (mem_tokens_ofList.mpr among))
      rw [tokens_insert_of_not_contains (Bool.eq_false_iff.mpr known)]
      refine List.pairwise_append.mpr ⟨before, List.pairwise_singleton _ _, ?_⟩
      intro one inside other here
      obtain rfl := List.mem_singleton.mp here
      have among : one ∈ given := mem_tokens_ofList.mp inside
      rw [List.idxOf_append_of_mem among, List.idxOf_append_of_notMem new]
      exact Nat.lt_of_lt_of_le (List.idxOf_lt_length_of_mem among) (Nat.le_add_right _ _)

/-! ## Sets with the same members -/

/-- **Sets are the same exactly if they have the same members.** No set lists a token twice, so if
all members of one are among as many others, there is no room for a further one. -/
theorem sameMembers_iff {a b : MethodSet} :
    a.sameMembers b = true ↔ ∀ token, a.contains token = b.contains token := by
  have same_iff : (∀ token, a.contains token = b.contains token) ↔
      ∀ token, token ∈ a.tokens ↔ token ∈ b.tokens := by
    refine forall_congr' fun token => ?_
    rw [Bool.eq_iff_iff, contains_iff, contains_iff]
  rw [same_iff, ← List.perm_ext_iff_of_nodup a.distinct b.distinct, sameMembers, Bool.and_eq_true,
    beq_iff_eq, List.all_eq_true]
  simp only [contains_iff]
  constructor
  · rintro ⟨size, among⟩
    exact (List.subperm_of_subset a.distinct among).perm_of_length_le (Nat.le_of_eq size.symm)
  · intro perm
    exact ⟨perm.length_eq, fun token => perm.mem_iff.mp⟩

end MethodSet

namespace Route

/-- The ways in which routes are made, with the method tokens that were given for each. -/
inductive Made : List String → Route → Prop where
  /-- from a path and a service -/
  | fresh (path service : String) : Made [] { path, service }
  /-- from a route, with other methods -/
  | withMethods (tokens : List String) {given : List String} {route : Route}
      (made : Made given route) : Made tokens { route with methods := .ofList tokens }
  /-- from a route, switched on or off -/
  | withActive (isActive : Bool) {given : List String} {route : Route} (made : Made given route) :
      Made given { route with isActive }
  /-- from a route, with any counters -/
  | withCounters (callCount totalResponseTime : Int64) {given : List String} {route : Route}
      (made : Made given route) : Made given { route with callCount, totalResponseTime }
  /-- decoded from JSON, on its own -/
  | decoded {text : String} {tokens : List String} {route : Route}
      (decodes : ofJson text = .ok route)
      (given : (Json.recordOfText shape text).map (·.tokens "methods") = .ok tokens) :
      Made tokens route
  /-- decoded as part of a document -/
  | listed {datum : Datum} {tokens : List String} {route : Route}
      (decodes : datum.route? = some route)
      (given : (datum.record? shape).map (·.tokens "methods") = some tokens) : Made tokens route

/-- **However a route is made, its methods are the set of the tokens that were given.** -/
theorem Made.methods_eq {given : List String} {route : Route} (made : Made given route) :
    route.methods = .ofList given := by
  induction made with
  | fresh path service => rfl
  | withMethods => rfl
  | withActive isActive _ ih => exact ih
  | withCounters callCount totalResponseTime _ ih => exact ih
  | @decoded text tokens route decodes given =>
    rw [ofJson] at decodes
    cases reads : Json.recordOfText shape text with
    | error fault =>
      rw [reads] at decodes
      cases decodes
    | ok record =>
      rw [reads] at decodes given
      cases decodes
      cases given
      rfl
  | listed decodes given =>
    obtain ⟨record, reads, rfl⟩ := Option.map_eq_some_iff.mp decodes
    rw [reads] at given
    cases given
    rfl

end Route

/-- **Routes are the same exactly if they answer all questions alike.** Two routes are the same if
and only if their paths, services, switches and counters are equal and no method is allowed by one
and not by the other. However a route was made, its methods are listed once each, in the order in
which they first occur among the tokens that were given, and a method is allowed exactly if it is
one of these tokens. -/
theorem same_iff_alike_to_all_questions {given : List String} {a : Route} (made : a.Made given)
    (b : Route) :
    (a.same b = true ↔
        a.path = b.path ∧ a.service = b.service ∧ a.isActive = b.isActive ∧
          a.callCount = b.callCount ∧ a.totalResponseTime = b.totalResponseTime ∧
          ∀ method, a.allows method = b.allows method) ∧
      a.methods.tokens.Nodup ∧ MethodSet.InOrderOf given a.methods.tokens ∧
      ∀ method, a.allows method = true ↔ method ∈ given := by
  have ordered : MethodSet.InOrderOf given a.methods.tokens :=
    made.methods_eq ▸ MethodSet.tokens_ofList given
  refine ⟨?_, a.methods.distinct, ordered, fun method => ?_⟩
  · simp only [Route.same, Bool.and_eq_true, beq_iff_eq, MethodSet.sameMembers_iff, and_assoc]
    -- the methods come third there and last here
    constructor
    · rintro ⟨path, service, methods, active, calls, time⟩
      exact ⟨path, service, active, calls, time, methods⟩
    · rintro ⟨path, service, active, calls, time, methods⟩
      exact ⟨path, service, methods, active, calls, time⟩
  · rw [Route.allows, made.methods_eq, MethodSet.contains_iff, MethodSet.mem_tokens_ofList]

/-- A route of repeated methods and its decoded likeness, where they come in another order and as
often as not. -/
theorem repeated_methods_make_no_difference :
    let built : Route := { path := "/a", service := "b", methods := .ofList ["GET", "PUT", "GET"] }
    let text := "[\"/a\",\"b\",[\"PUT\",\"PUT\",\"G\\u0045T\"]]"
    ∃ decoded, Route.ofJson text = .ok decoded ∧ built.Made ["GET", "PUT", "GET"] ∧
      decoded.Made ["PUT", "PUT", "GET"] ∧ built.same decoded = true ∧ built ≠ decoded := by
  intro built text
  have made : built.Made ["GET", "PUT", "GET"] := .withMethods _ (.fresh "/a" "b")
  have decodes : Route.ofJson text =
      .ok { path := "/a", service := "b", methods := { tokens := ["PUT", "GET"] } } :=
    toOption_eq_some_iff.mp (by decide +kernel)
  have given : (Json.recordOfText Route.shape text).map (·.tokens "methods") =
      .ok ["PUT", "PUT", "GET"] := toOption_eq_some_iff.mp (by decide +kernel)
  have made' := Route.Made.decoded decodes given
  obtain ⟨questions, -, -, allowed⟩ := same_iff_alike_to_all_questions made
    { path := "/a", service := "b", methods := { tokens := ["PUT", "GET"] } }
  have allowed' := (same_iff_alike_to_all_questions made' built).2.2.2
  refine ⟨_, decodes, made, made', questions.mpr ⟨rfl, rfl, rfl, rfl, rfl, fun method => ?_⟩,
    by decide⟩
  rw [Bool.eq_iff_iff, allowed, allowed']
  grind

end GatewayRouting
