import GatewayRouting.Proofs.JsonTexts
import GatewayRouting.Proofs.TwoDecodings

/-!
# Lists of routes, item by item

A document in JSON holds routes if it is an array of them, or an object that has such an array under
`routes`. It is made data as a whole, and only then looked at as one or the other. A single route is
decoded off its own text, by other code and with nothing made of what it skips.

Still a document holds just the routes that its items are, each on its own
(`routes_decode_item_by_item`): the text of every item is read as the same tree in either place
(`Json.Spells.read`), and off a tree that can be made a datum both decodings make one route
(`Json.Tree.Means.record`).
-/

namespace GatewayRouting

open Json (Tree RawText MemberText MemberMeans Spells Bracketed Around)

/-- The texts of values that can be made data. -/
def Json.Meaningful (levels : Nat) (text : List Char) : Prop :=
  ∃ tree, Spells text tree ∧ tree.Sound levels

/-! ## Routes on their own -/

/-- A route on its own is the route that its datum is. -/
theorem Route.ofJson_of_spells {levels : Nat} {text : List Char} {tree : Tree} {datum : Datum}
    (spells : Spells text tree) (means : tree.datum? levels = some datum) :
    (Route.ofJson (String.ofList text)).toOption = datum.route? := by
  have record := (Json.Tree.means_of_datum? means).record Route.shape
  have read := spells.read
  rw [Route.ofJson, toOption_map, Json.recordOfText, String.toList_ofList, read, Datum.route?,
    ← record]
  cases tree.record Route.shape <;> rfl

/-! ## Documents -/

/-- A member that is not called `routes`, beside a list of routes. -/
structure Json.MemberText.IsOther (levels : Nat) (member : MemberText) : Prop where
  /-- the name is spelled as it is said to be -/
  spelled : Spells member.nameText (.string member.name)
  /-- it means something else -/
  other : ∃ name, member.name.text? = some name ∧ name ≠ "routes"
  /-- so is the value -/
  value : Spells member.valueText member.value
  /-- it can be made a datum -/
  sound : member.value.Sound levels

/-- The texts of documents that list routes, by the texts of these: an array of them, or an object
with such an array as its one member of that name, among any others. -/
inductive Document.Lists (levels : Nat) (items : List (List Char)) : List Char → Prop where
  | bare {text : List Char} (listed : Bracketed '[' ']' items text) : Lists levels items text
  | wrapped {before behind : List MemberText} {nameText valueText text : List Char}
      {name : RawText} (spelled : Spells nameText (.string name))
      (routes : name.text? = some "routes") (listed : Bracketed '[' ']' items valueText)
      (others : ∀ member ∈ before ++ behind, member.IsOther (levels + 1))
      (object : Bracketed '{' '}' (before.map MemberText.text ++
        (nameText ++ ':' :: valueText) :: behind.map MemberText.text) text) :
      Lists levels items text

section

variable {levels : Nat} {items : List (List Char)} {text : List Char} {datum : Datum}

/-- The items of an array as trees. -/
theorem exists_trees (meaningful : ∀ item ∈ items, Json.Meaningful levels item) :
    ∃ pairs : List (List Char × Tree), pairs.map Prod.fst = items ∧
      ∀ pair ∈ pairs, Spells pair.1 pair.2 ∧ pair.2.Sound levels := by
  induction items with
  | nil => exact ⟨[], rfl, nofun⟩
  | cons item items ih =>
    obtain ⟨here, meaningful⟩ := List.forall_mem_cons.mp meaningful
    obtain ⟨tree, spells, sound⟩ := here
    obtain ⟨pairs, same, each⟩ := ih meaningful
    refine ⟨(item, tree) :: pairs, ?_, List.forall_mem_cons.mpr ⟨⟨spells, sound⟩, each⟩⟩
    rw [List.map_cons, same]

/-- The routes of data are those of the texts that were made these data. -/
theorem mapM_route? {pairs : List (List Char × Tree)} {data : List Datum}
    (spells : ∀ pair ∈ pairs, Spells pair.1 pair.2)
    (each : List.Forall₂ (fun tree datum => tree.datum? levels = some datum)
      (pairs.map Prod.snd) data) :
    data.mapM Datum.route? =
      (pairs.map Prod.fst).mapM fun item => (Route.ofJson (String.ofList item)).toOption := by
  induction pairs generalizing data with
  | nil =>
    cases each
    rfl
  | cons pair pairs ih =>
    obtain ⟨here, spells⟩ := List.forall_mem_cons.mp spells
    cases each with
    | cons means each =>
      rw [List.map_cons, List.mapM_cons, List.mapM_cons, Route.ofJson_of_spells here means,
        ih spells each]

/-- Other entries make no difference, before the list of routes and behind it. -/
theorem Datum.routesOfEntries?_append {others : List (Datum × Datum)}
    (other : ∀ entry ∈ others, isRoutesKey? entry.1 = some false) (routes : Option (List Route))
    (entries : List (Datum × Datum)) :
    routesOfEntries? routes (others ++ entries) = routesOfEntries? routes entries := by
  induction others with
  | nil => rfl
  | cons entry others ih =>
    obtain ⟨key, value⟩ := entry
    obtain ⟨here, other⟩ := List.forall_mem_cons.mp other
    rw [List.cons_append, routesOfEntries?, here]
    exact ih other

theorem Datum.routesOfEntries?_of_only {before behind : List (Datum × Datum)}
    (other : ∀ entry ∈ before ++ behind, isRoutesKey? entry.1 = some false) (value : Datum) :
    routesOfEntries? none (before ++ (.text "routes", value) :: behind) = value.listedRoutes? := by
  rw [List.forall_mem_append] at other
  have rest (routes : Option (List Route)) : routesOfEntries? routes behind = routes := by
    have skipped := routesOfEntries?_append other.2 routes []
    rw [List.append_nil] at skipped
    exact skipped
  rw [routesOfEntries?_append other.1, routesOfEntries?]
  dsimp only [isRoutesKey?, decide_true, Option.isSome_none]
  cases value.listedRoutes? with
  | none => rfl
  | some routes => exact rest _

/-- What is related to a list with an item in the middle has one in the middle as well. -/
theorem exists_of_forall₂_middle {α β : Type} {R : α → β → Prop} {before behind : List α} {a : α}
    {all : List β} (each : List.Forall₂ R (before ++ a :: behind) all) :
    ∃ before' b behind', all = before' ++ b :: behind' ∧ R a b ∧
      List.Forall₂ R before before' ∧ List.Forall₂ R behind behind' := by
  induction before generalizing all with
  | nil =>
    cases each with
    | cons here each => exact ⟨[], _, _, rfl, here, .nil, each⟩
  | cons c before ih =>
    cases each with
    | @cons _ d _ rest here each =>
      obtain ⟨before', b, behind', rfl, middle, first, last⟩ := ih each
      exact ⟨d :: before', b, behind', rfl, middle, .cons here first, last⟩

/-- The entries that other members are made are other entries. -/
theorem isRoutesKey?_of_others {deep : Nat} {members : List MemberText}
    {entries : List (Datum × Datum)} (others : ∀ member ∈ members, member.IsOther levels)
    (each : List.Forall₂ (fun member entry => MemberMeans deep (member.name, member.value) entry)
      members entries) : ∀ entry ∈ entries, Datum.isRoutesKey? entry.1 = some false := by
  induction each with
  | nil => exact nofun
  | @cons member entry members entries means _ ih =>
    obtain ⟨here, others⟩ := List.forall_mem_cons.mp others
    refine List.forall_mem_cons.mpr ⟨?_, ih others⟩
    obtain ⟨name, paired, other⟩ := here.other
    have same : some (.text name) = some entry.1 := by
      rw [← means.name, paired, Option.map_some]
    rw [← Option.some.inj same, Datum.isRoutesKey?, decide_eq_false other]

/-- A text that can be made data in time is read as a whole. -/
theorem read?_of_spells {tree : Tree} (spells : Spells text tree) (sound : tree.Sound levels)
    (few : levels ≤ Json.deepest) :
    ∃ datum, tree.Means Json.deepest datum ∧ Format.read? .json text = some (datum, true) := by
  obtain ⟨datum, means⟩ := sound.exists_datum few
  refine ⟨datum, Json.Tree.means_of_datum? means, ?_⟩
  rw [Format.read?, Json.read?, spells.read]
  simp only [means, Option.bind_eq_bind, Option.bind_some, Option.pure_def]

/-- The routes of an array are those that its items are on their own. -/
theorem listedRoutes?_of_means {pairs : List (List Char × Tree)} {deep : Nat}
    (spells : ∀ pair ∈ pairs, Spells pair.1 pair.2)
    (means : (Tree.array (pairs.map Prod.snd) true).Means deep datum) :
    datum.listedRoutes? =
      (pairs.map Prod.fst).mapM fun item => (Route.ofJson (String.ofList item)).toOption := by
  cases means with
  | array each => exact mapM_route? spells each

/-- So are those of an object, which has the array as its one member of that name. -/
theorem routes?_of_means {pairs : List (List Char × Tree)} {before behind : List MemberText}
    {name : RawText} {deep : Nat} (spells : ∀ pair ∈ pairs, Spells pair.1 pair.2)
    (routes : name.text? = some "routes")
    (others : ∀ member ∈ before ++ behind, member.IsOther levels)
    (means : (Tree.object (before.map (fun member => (member.name, member.value)) ++
      (name, .array (pairs.map Prod.snd) true) ::
        behind.map fun member => (member.name, member.value)) true).Means deep datum) :
    datum.routes? =
      (pairs.map Prod.fst).mapM fun item => (Route.ofJson (String.ofList item)).toOption := by
  cases means with
  | object each =>
    obtain ⟨before', ⟨key, list⟩, behind', rfl, here, first, last⟩ := exists_of_forall₂_middle each
    rw [List.forall₂_map_left_iff] at first last
    obtain ⟨othersBefore, othersBehind⟩ := List.forall_mem_append.mp others
    have other : ∀ entry ∈ before' ++ behind', Datum.isRoutesKey? entry.1 = some false :=
      List.forall_mem_append.mpr
        ⟨isRoutesKey?_of_others othersBefore first, isRoutesKey?_of_others othersBehind last⟩
    have named : some (.text "routes") = some key := by
      rw [← here.name, routes, Option.map_some]
    obtain rfl := Option.some.inj named
    rw [Datum.routes?, Datum.routesOfEntries?_of_only other]
    exact listedRoutes?_of_means spells (Json.Tree.means_of_datum? here.value)

/-- **A document that lists routes is read**, and holds those that its items are on their own. -/
theorem Document.read?_of_lists (few : levels + 2 ≤ Json.deepest)
    (meaningful : ∀ item ∈ items, Json.Meaningful levels item)
    (lists : Document.Lists levels items text) :
    ∃ datum, Format.read? .json text = some (datum, true) ∧
      datum.routes? = items.mapM fun item => (Route.ofJson (String.ofList item)).toOption := by
  obtain ⟨pairs, rfl, each⟩ := exists_trees meaningful
  have spells : ∀ pair ∈ pairs, Spells pair.1 pair.2 := fun pair inside => (each pair inside).1
  have sound : (Tree.array (pairs.map Prod.snd) true).Sound (levels + 1) :=
    .array (List.forall_mem_map.mpr fun pair inside => (each pair inside).2)
  cases lists with
  | bare listed =>
    obtain ⟨datum, means, read⟩ := read?_of_spells (.array spells listed) sound (by omega)
    refine ⟨datum, read, ?_⟩
    rw [← listedRoutes?_of_means spells means]
    cases means
    rfl
  | @wrapped before behind nameText valueText _ name spelled routes listed others object =>
    obtain ⟨othersBefore, othersBehind⟩ := List.forall_mem_append.mp others
    -- the list is a member like the others, but for its name
    let member : MemberText := ⟨nameText, name, valueText, .array (pairs.map Prod.snd) true⟩
    have all {P : MemberText → Prop} (here : P member)
        (rest : ∀ other, other.IsOther (levels + 1) → P other) :
        ∀ other ∈ before ++ member :: behind, P other :=
      List.forall_mem_append.mpr ⟨fun other inside => rest other (othersBefore other inside),
        List.forall_mem_cons.mpr ⟨here, fun other inside => rest other (othersBehind other inside)⟩⟩
    have whole := Spells.object (all spelled fun _ other => other.spelled)
      (all (.array spells listed) fun _ other => other.value)
      (by rwa [List.map_append, List.map_cons])
    have named : ∀ other ∈ before ++ member :: behind, other.name.text? ≠ none := by
      refine all (by simp [member, routes]) fun other isOther => ?_
      obtain ⟨name, paired, -⟩ := isOther.other
      simp [paired]
    obtain ⟨datum, means, read⟩ := read?_of_spells whole
      (.object (List.forall_mem_map.mpr named)
        (List.forall_mem_map.mpr (all sound fun _ other => other.sound))) few
    refine ⟨datum, read, ?_⟩
    rw [List.map_append, List.map_cons] at means
    exact routes?_of_means spells routes others means

end

/-! ## The result -/

/-- **A document decodes item by item.** Let a text be an array, or an object with an array as its
one member called `routes`, however that name is written, among any other members; let the items be
texts of values that nest at most so deep that the document does not nest deeper than it may, with
numbers in range and texts that mean something. Then the document holds routes exactly if every item
is a route on its own, and it holds just these, in the order of the items. Otherwise it cannot be
loaded, which is said of the source, and nothing is told about the item that is no route. -/
theorem routes_decode_item_by_item {levels : Nat} (few : levels + 2 ≤ Json.deepest)
    {items : List (List Char)} (meaningful : ∀ item ∈ items, Json.Meaningful levels item)
    {text : List Char} (lists : Document.Lists levels items text) (source : String) :
    (∀ routes, Document.parse .json (String.ofList text) source = .ok routes ↔
        List.Forall₂ (fun item route => Route.ofJson (String.ofList item) = .ok route)
          items routes) ∧
      (∀ error, Document.parse .json (String.ofList text) source = .error error ↔
        error = .load source .wrongShape ∧
          ∃ item ∈ items, ∀ route, Route.ofJson (String.ofList item) ≠ .ok route) ∧
      (StoreError.load source .wrongShape).message =
        "failed to load routes from '" ++ source ++ "': " ++
          "data did not match any variant of untagged enum RouteDocument" := by
  obtain ⟨datum, read, same⟩ := Document.read?_of_lists few meaningful lists
  have all (routes : List Route) :
      datum.routes? = some routes ↔
        List.Forall₂ (fun item route => Route.ofJson (String.ofList item) = .ok route)
          items routes := by
    rw [same, mapM_eq_some_iff]
    simp only [toOption_eq_some_iff]
  have lacking :
      datum.routes? = none ↔
        ∃ item ∈ items, ∀ route, Route.ofJson (String.ofList item) ≠ .ok route := by
    rw [same, mapM_eq_none_iff]
    simp only [toOption_eq_none_iff]
  rw [Document.parse, Document.routes, String.toList_ofList, read]
  simp only [← all, ← lacking]
  cases datum.routes? with
  | none =>
    refine ⟨fun routes => ⟨nofun, nofun⟩, fun error => ?_, rfl⟩
    simp [eq_comm]
  | some routes =>
    refine ⟨fun other => ?_, fun error => ?_, rfl⟩
    · simp
    · simp

/-- A route with its members in another order and at the ends of their ranges, among another one. -/
def shuffledRoute : Tree :=
  .object [(.ofChars "serviceURL".toList, .string (.ofChars "b".toList)),
    (.ofChars "z".toList, .array [.number (.ofInt 18446744073709551615), .object [] true] true),
    (.ofChars "callCount".toList, .number (.ofInt (-9223372036854775808))),
    (.ofChars "path".toList, .string (.ofChars "a".toList))] true

/-- A route that is an array of its first two fields. -/
def positionalRoute : Tree :=
  .array [.string (.ofChars "c".toList), .string (.ofChars "d".toList)] true

theorem written_example_routes : shuffledRoute.Written ∧ positionalRoute.Written := by
  constructor
  · refine .object ?_ ?_
    · simp only [List.forall_mem_cons, List.not_mem_nil, false_implies, implies_true, and_true]
      exact ⟨⟨_, rfl⟩, ⟨_, rfl⟩, ⟨_, rfl⟩, ⟨_, rfl⟩⟩
    · simp only [List.forall_mem_cons, List.not_mem_nil, false_implies, implies_true, and_true]
      refine ⟨.string _, .array ?_, .number _, .string _⟩
      simp only [List.forall_mem_cons, List.not_mem_nil, false_implies, implies_true, and_true]
      exact ⟨.number _, .object nofun nofun⟩
  · refine .array ?_
    simp only [List.forall_mem_cons, List.not_mem_nil, false_implies, implies_true, and_true]
    exact ⟨.string _, .string _⟩

/-- Both are found under an escaped name, between two members that have one name. -/
theorem routes_under_escaped_name :
    let items := [Json.compact shuffledRoute.tokens, Json.compact positionalRoute.tokens]
    let text := "\x7b\"n\":\x7b \x7d,\"rou\\u0074es\": [\x7b\"serviceURL\":\"b\"," ++
      "\"z\":[18446744073709551615,\x7b\x7d],\"callCount\":-9223372036854775808," ++
      "\"path\":\"a\"\x7d,[\"c\",\"d\"]]\n,\"n\":null\x7d "
    98 + 2 ≤ Json.deepest ∧ (∀ item ∈ items, Json.Meaningful 98 item) ∧
      Document.Lists 98 items text.toList ∧
      Document.parse .json text "routes.json" =
        .ok [{ path := "a", service := "b", callCount := Int64.minValue },
          { path := "c", service := "d" }] := by
  intro items text
  obtain ⟨shuffled, positional⟩ := written_example_routes
  have few : 98 + 2 ≤ Json.deepest := by decide
  have meaningful : ∀ item ∈ items, Json.Meaningful 98 item := by
    simp only [items, List.forall_mem_cons, List.not_mem_nil, false_implies, implies_true, and_true]
    have sound {tree : Tree} (some : (tree.datum? 98).isSome = true) : tree.Sound 98 :=
      Json.Tree.sound_iff.mpr (Option.isSome_iff_exists.mp some)
    exact ⟨⟨_, shuffled.spells, sound (by decide)⟩, ⟨_, positional.spells, sound (by decide)⟩⟩
  have lists : Document.Lists 98 items text.toList := by
    have blank {c : Char} (space : Json.isSpace c = true) : Json.Blank [c] :=
      List.forall_mem_singleton.mpr space
    have unescaped {c : Char} (plain : ¬ c < ' ' ∧ c ≠ '"' ∧ c ≠ '\\') :
        (Json.RawChar.plain c).Spelled [c] := .plain plain.1 plain.2.1 plain.2.2
    have escaped : RawText.Spelled
        [.plain 'r', .plain 'o', .plain 'u', .unit 0x74, .plain 'e', .plain 's']
        ['r', 'o', 'u', '\\', 'u', '0', '0', '7', '4', 'e', 's'] :=
      .cons (unescaped (by decide)) <| .cons (unescaped (by decide)) <|
        .cons (unescaped (by decide)) <| .cons (.unit rfl) <| .cons (unescaped (by decide)) <|
          .cons (unescaped (by decide)) .nil
    have array : Bracketed '[' ']' items
        ([' '] ++ ('[' :: (items[0] ++ [items[1]].flatMap (',' :: ·) ++ [']']) ++ ['\n'])) :=
      ⟨_, .some _ _, .mk (blank rfl) (blank rfl)⟩
    have n : Spells "\"n\"".toList (.string (.ofChars "n".toList)) :=
      (Json.Tree.Written.string "n".toList).spells
    have empty : Spells "\x7b \x7d".toList (.object [] true) :=
      @Spells.object [] _ nofun nofun ⟨[' '], .none (blank rfl), .self _⟩
    have whole := @Document.Lists.wrapped 98 items
      [⟨"\"n\"".toList, .ofChars "n".toList, "\x7b \x7d".toList, .object [] true⟩]
      [⟨"\"n\"".toList, .ofChars "n".toList, "null".toList, .null⟩] _ _ _ _
      (.string (.string escaped) (.self _)) (by decide) array
      (by
        simp only [List.cons_append, List.nil_append, List.forall_mem_cons, List.not_mem_nil,
          false_implies, implies_true, and_true]
        exact ⟨⟨n, ⟨"n", by decide, by decide⟩, empty, .object nofun nofun⟩,
          ⟨n, ⟨"n", by decide, by decide⟩, .null .null (.self _), .null⟩⟩)
      ⟨_, .some _ _, @Around.mk _ [] [' '] nofun (blank rfl)⟩
    convert whole using 1
    decide +kernel
  have decodes := (routes_decode_item_by_item few meaningful lists "routes.json").1
  refine ⟨few, meaningful, lists, ?_⟩
  rw [← String.ofList_toList (s := text), decodes]
  exact .cons (by decide) (.cons (by decide) .nil)

end GatewayRouting
