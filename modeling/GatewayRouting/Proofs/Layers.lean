import GatewayRouting.CommandLine
import GatewayRouting.Proofs.Sections
import Mathlib.Data.List.Induction

/-!
# Settings in layers

Each setting has a section, a key in that section, a type and a default (`Settings.Field`). What
counts for it is what its variable holds, if that is set; otherwise what the file has under its key;
otherwise the default (`Settings.Field.decided`). The layers are joined as trees before anything is
converted. But if sections are tables, and variables each name a section and a key, then the joined
tree holds under each key just what counts there (`Setting.valueAt_withEnvironment`): nothing that
was overridden is ever converted, and no value depends on any other.
-/

namespace GatewayRouting
namespace Setting

/-! ## Two steps into a tree -/

/-- What a tree holds under a key of a section. -/
def valueAt (tree : Setting) (title key : String) : Option Setting :=
  ((tree.entries.lookup title).getD .nothing).entries.lookup key

/-- A section of a tree is a table, if it is there. -/
def HasTable (tree : Setting) (title : String) : Prop :=
  ∀ value, tree.entries.lookup title = some value → ∃ entries, value = .table entries

instance (tree : Setting) (title : String) : Decidable (tree.HasTable title) :=
  decidable_of_iff ((tree.entries.lookup title).all fun | .table _ => true | _ => false) <| by
    rw [HasTable]
    cases tree.entries.lookup title with
    | none => simp
    | some value => cases value <;> simp

variable {tree : Setting} {environment : List (String × String)} {title key other : String}

/-- A variable that names a section and a key changes what the tree holds there. -/
theorem valueAt_put (text name : String) (tree : Setting) (title key : String) :
    ((ofVariable text).put [.name other, .name name] tree).valueAt title key =
      if other = title ∧ name = key then some (ofVariable text) else tree.valueAt title key := by
  rw [valueAt, lookup_put]
  by_cases here : title = other
  · subst here
    rw [if_pos rfl, Option.getD_some, lookup_put]
    by_cases same : key = name
    · rw [if_pos same, if_pos ⟨rfl, same.symm⟩, put_ofVariable]
    · rw [if_neg same, if_neg fun both => same both.2.symm]
      rfl
  · rw [if_neg here, if_neg fun both => here both.1.symm]
    rfl

theorem HasTable.put (table : tree.HasTable title) (value : Setting) (other name : String) :
    (value.put [.name other, .name name] tree).HasTable title := by
  intro inside found
  rw [lookup_put] at found
  split at found
  · exact ⟨_, (Option.some.inj found).symm⟩
  · exact table inside found

/-! ## Variables -/

/-- Every variable that sets something names a section and a key. -/
def NamesKeys (environment : List (String × String)) : Prop :=
  ∀ entry ∈ environment, ∀ place, placeOfVariable? entry.1 = some place →
    ∃ title key, place = [.name title, .name key]

/-- What the variable of a key holds; if several are, the last one. -/
def variableAt? (environment : List (String × String)) (title key : String) : Option Setting :=
  ((environment.filter fun entry =>
    placeOfVariable? entry.1 = some [.name title, .name key]).getLast?).map
    fun entry => ofVariable entry.2

theorem keyPlace_inj {title' key' : String} :
    some [Step.name title, .name key] = some [.name title', .name key'] ↔
      title = title' ∧ key = key' := by
  simp

theorem withEnvironment_concat (tree : Setting) (environment : List (String × String))
    (entry : String × String) :
    tree.withEnvironment (environment ++ [entry]) =
      match placeOfVariable? entry.1 with
      | some place => (ofVariable entry.2).put place (tree.withEnvironment environment)
      | none => tree.withEnvironment environment := by
  rw [withEnvironment, List.foldl_append]
  rfl

theorem variableAt?_concat (environment : List (String × String)) (entry : String × String)
    (title key : String) :
    variableAt? (environment ++ [entry]) title key =
      if placeOfVariable? entry.1 = some [.name title, .name key] then some (ofVariable entry.2)
      else variableAt? environment title key := by
  rw [variableAt?, List.filter_append]
  split
  · next place => simp [place]
  · next place => simp [place, variableAt?]

/-- **Under each key, the environment goes before the file.** -/
theorem valueAt_withEnvironment (names : NamesKeys environment) (tree : Setting)
    (title key : String) :
    (tree.withEnvironment environment).valueAt title key =
      (variableAt? environment title key).or (tree.valueAt title key) := by
  -- the last variable is put last, so the induction is from the end
  induction environment using List.reverseRecOn with
  | nil => rfl
  | append_singleton environment entry ih =>
    have ih := ih fun other mem => names other (List.mem_append_left _ mem)
    rw [withEnvironment_concat, variableAt?_concat]
    cases place : placeOfVariable? entry.1 with
    | none => exact ih
    | some steps =>
      obtain ⟨other, name, rfl⟩ := names entry (by simp) steps place
      dsimp only
      rw [valueAt_put, ih]
      by_cases same : other = title ∧ name = key
      · obtain ⟨rfl, rfl⟩ := same
        simp
      · rw [if_neg same, if_neg (mt keyPlace_inj.mp same)]

theorem HasTable.withEnvironment (table : tree.HasTable title) (names : NamesKeys environment) :
    (tree.withEnvironment environment).HasTable title := by
  induction environment using List.reverseRecOn with
  | nil => exact table
  | append_singleton environment entry ih =>
    have ih := ih fun other mem => names other (List.mem_append_left _ mem)
    rw [withEnvironment_concat]
    cases place : placeOfVariable? entry.1 with
    | none => exact ih
    | some steps =>
      obtain ⟨other, name, rfl⟩ := names entry (by simp) steps place
      exact ih.put _ other name

/-! ## Names of variables -/

section Names

variable {fuel : Nat} {text : List Char} {title key : String}

theorem eq_nil_of_steps (steps : stepsOfText? fuel text = some []) : text = [] := by
  unfold stepsOfText? at steps
  split at steps
  · rfl
  · cases steps
  · split at steps
    · cases steps
    · simp at steps
  · simp [Option.bind_eq_some_iff] at steps
  · cases steps

theorem eq_of_steps_name (steps : stepsOfText? fuel text = some [.name key]) :
    text = '.' :: key.toList := by
  unfold stepsOfText? at steps
  split at steps
  · cases steps
  · cases steps
  · next rest =>
    split at steps
    · cases steps
    · obtain ⟨behind, none_behind, equal⟩ := Option.map_eq_some_iff.mp steps
      obtain ⟨same, rfl⟩ := List.cons.inj equal
      rw [← Step.name.inj same, String.toList_ofList]
      have whole := List.takeWhile_append_dropWhile (p := isNameChar) (l := rest)
      rw [eq_nil_of_steps none_behind, List.append_nil] at whole
      rw [whole]
  · simp [Option.bind_eq_some_iff] at steps
  · cases steps

/-- A text that names a section and a key has a point between them. -/
theorem toList_of_placeOfText {text : String}
    (place : placeOfText text = [.name title, .name key]) :
    text.toList = title.toList ++ '.' :: key.toList := by
  unfold placeOfText at place
  dsimp only at place
  split at place
  · simp at place
  · cases steps : stepsOfText? text.length (text.toList.dropWhile isNameChar) with
    | none => simp [steps] at place
    | some behind =>
      rw [steps, Option.map_some, Option.getD_some] at place
      obtain ⟨same, rfl⟩ := List.cons.inj place
      rw [← Step.name.inj same, String.toList_ofList, ← eq_of_steps_name steps,
        List.takeWhile_append_dropWhile]

/-- Two underscores for each point. -/
def unpointed (text : List Char) : List Char :=
  text.flatMap fun c => if c = '.' then ['_', '_'] else [c]

/-- Without points in it, a name can be told from its points. -/
theorem unpointed_pointed {text : List Char} (pointless : '.' ∉ text) :
    unpointed (pointed text) = text := by
  fun_induction pointed text with
  | case1 rest ih =>
    have ih := ih fun mem => pointless (by simp [mem])
    rw [unpointed, List.flatMap_cons, ← unpointed, ih]
    rfl
  | case2 c rest _ ih =>
    have ih := ih fun mem => pointless (List.mem_cons_of_mem _ mem)
    have other : c ≠ '.' := fun same => pointless (by simp [same])
    rw [unpointed, List.flatMap_cons, ← unpointed, ih, if_neg other]
    rfl
  | case3 => rfl

theorem point_not_mem_asciiLower {text : List Char} (pointless : '.' ∉ text) :
    '.' ∉ asciiLower text := by
  intro mem
  obtain ⟨c, mem, lowered⟩ := List.mem_map.mp mem
  have same : c = '.' := by
    unfold Char.toLower at lowered
    split at lowered
    · next upper =>
      have moved : (c.val.toNat + 32) % 2 ^ 32 = 46 := congrArg (·.val.toNat) lowered
      have capital : 65 ≤ c.val.toNat ∧ c.val.toNat ≤ 90 := upper
      omega
    · exact lowered
  exact pointless (same ▸ mem)

/-- A variable's name in lower case, if it has no point in it and names a section and a key. -/
theorem asciiLower_of_place {name : String} (pointless : '.' ∉ name.toList)
    (place : placeOfVariable? name = some [.name title, .name key]) :
    asciiLower name.toList = variablePrefix ++ unpointed (title.toList ++ '.' :: key.toList) := by
  unfold placeOfVariable? at place
  dsimp only at place
  split at place
  · next starts =>
    have whole := List.prefix_iff_eq_append.mp (List.isPrefixOf_iff_prefix.mp starts)
    have inside := toList_of_placeOfText (Option.some.inj place)
    rw [String.toList_ofList] at inside
    rw [← inside, unpointed_pointed, whole]
    exact fun mem => point_not_mem_asciiLower pointless (List.mem_of_mem_drop mem)
  · cases place
end Names

/-- The variables that set something have no point in their names, and differ in them whatever the
letter case. -/
structure DistinctNames (environment : List (String × String)) : Prop where
  /-- no name has a point in it -/
  pointless : ∀ entry ∈ environment, placeOfVariable? entry.1 ≠ none → '.' ∉ entry.1.toList
  /-- no two names are the same in lower case -/
  distinct : ∀ entry ∈ environment, ∀ other ∈ environment, placeOfVariable? entry.1 ≠ none →
    lower entry.1 = lower other.1 → entry = other

/-! ## Other variables -/

/-- The variables that set something else than the value of a key. -/
def othersThan (title key : String) (environment : List (String × String)) :
    List (String × String) :=
  environment.filter fun entry => placeOfVariable? entry.1 ≠ some [.name title, .name key]

/-- No other variable matters to a key. -/
theorem variableAt?_othersThan {title' key' : String} (apart : (title', key') ≠ (title, key))
    (environment : List (String × String)) :
    variableAt? (othersThan title key environment) title' key' =
      variableAt? environment title' key' := by
  rw [variableAt?, othersThan, List.filter_filter, variableAt?]
  congr 2
  refine List.filter_congr fun entry _ => ?_
  by_cases here : placeOfVariable? entry.1 = some [.name title', .name key']
  · have other : some [Step.name title', .name key'] ≠ some [.name title, .name key] :=
      fun same => apart (Prod.ext_iff.mpr (keyPlace_inj.mp same))
    simp [here, other]
  · simp [here]

/-- Two files, each with its variables, that differ at most in what they have for one key. -/
structure SameBut (title key : String) (file : Setting) (environment : List (String × String))
    (file' : Setting) (environment' : List (String × String)) : Prop where
  /-- the variables of all else are the same -/
  others : othersThan title key environment' = othersThan title key environment
  /-- the files have the same under all other keys -/
  values : ∀ title' key', (title', key') ≠ (title, key) →
    file'.valueAt title' key' = file.valueAt title' key'

end Setting

namespace Settings

open Setting

/-! ## Fields -/

/-- A single setting. -/
inductive Field where
  /-- how long a cache entry lasts -/
  | ttlSeconds
  /-- how many entries the cache has room for -/
  | cacheCapacity
  /-- how many answered paths are recorded -/
  | memoCapacity
  /-- whether concurrent loads of the route list are shared -/
  | sharedLoads
  /-- whether a route without methods allows every method -/
  | emptyMethodsAllowAll
  /-- the file that the table of routes is filled from -/
  | routesFile
  /-- whether metrics are published -/
  | metricsEnabled
  /-- whether they are printed at the end -/
  | metricsOnExit
  /-- the signing secret -/
  | secret
deriving DecidableEq

namespace Field

/-- The section of a field. -/
def title : Field → String
  | ttlSeconds | cacheCapacity => "cache"
  | memoCapacity | sharedLoads | emptyMethodsAllowAll => "resolver"
  | routesFile => "store"
  | metricsEnabled | metricsOnExit => "metrics"
  | secret => "auth"

/-- Its key in the section. -/
def key : Field → String
  | ttlSeconds => "ttl_seconds"
  | cacheCapacity => "max_capacity"
  | memoCapacity => "memo_capacity"
  | sharedLoads => "coalesce_list_loads"
  | emptyMethodsAllowAll => "empty_methods_allow_all"
  | routesFile => "routes_file"
  | metricsEnabled => "enabled"
  | metricsOnExit => "render_on_exit"
  | secret => "jwt_secret"

/-- The type of its values. -/
abbrev Value : Field → Type
  | ttlSeconds | cacheCapacity | memoCapacity => UInt64
  | sharedLoads | emptyMethodsAllowAll | metricsEnabled | metricsOnExit => Bool
  | routesFile | secret => Option String

/-- How a value is converted. Where a text may be missing, nothing stands for that. -/
def convert : (field : Field) → Setting → Except SettingsFault field.Value
  | ttlSeconds | cacheCapacity | memoCapacity => toUnsigned
  | sharedLoads | emptyMethodsAllowAll | metricsEnabled | metricsOnExit => toFlag
  | routesFile | secret => toOptionalText

/-- What it is unless it is given. -/
def default : (field : Field) → field.Value
  | ttlSeconds => 300
  | cacheCapacity | memoCapacity => 10000
  | sharedLoads | emptyMethodsAllowAll | metricsEnabled | metricsOnExit => false
  | routesFile | secret => none

/-- The value among the settings. -/
def get (settings : Settings) : (field : Field) → field.Value
  | ttlSeconds => settings.ttlSeconds
  | cacheCapacity => settings.cacheCapacity
  | memoCapacity => settings.memoCapacity
  | sharedLoads => settings.sharedLoads
  | emptyMethodsAllowAll => settings.emptyMethodsAllowAll
  | routesFile => settings.routesFile
  | metricsEnabled => settings.metricsEnabled
  | metricsOnExit => settings.metricsOnExit
  | secret => settings.secret

/-- The name of its variable in lower case. -/
def variableName (field : Field) : String :=
  "waypoint__" ++ field.title ++ "__" ++ field.key

/-- A variable has the name, in any letter case. -/
def Names (field : Field) (name : String) : Prop :=
  lower name = field.variableName

theorem placeOfVariable?_of_names {field : Field} {name : String} (names : field.Names name) :
    placeOfVariable? name = some [.name field.title, .name field.key] := by
  have lowered : asciiLower name.toList = field.variableName.toList := by
    rw [← names, lower, String.toList_ofList]
  rw [placeOfVariable?, lowered]
  cases field <;> decide

theorem names_of_placeOfVariable? {field : Field} {name : String} (pointless : '.' ∉ name.toList)
    (place : placeOfVariable? name = some [.name field.title, .name field.key]) :
    field.Names name := by
  rw [Names, lower, asciiLower_of_place pointless place]
  cases field <;> decide

/-- A value converted, or the default. -/
def ofGiven (field : Field) : Option Setting → Except SettingsFault field.Value
  | some value => field.convert value
  | none => .ok field.default

/-- For a text that may be missing, nothing is as good as no value. -/
theorem ofGiven_nothing {field : Field} (text : field = .routesFile ∨ field = .secret) :
    field.ofGiven (some .nothing) = field.ofGiven none := by
  obtain rfl | rfl := text <;> rfl

/-- What counts for a field: what its variable holds, or else what the file has under its key. -/
def effective? (field : Field) (file : Setting) (environment : List (String × String)) :
    Option Setting :=
  (variableAt? environment field.title field.key).or (file.valueAt field.title field.key)

/-- What a field comes to. -/
def decided (field : Field) (file : Setting) (environment : List (String × String)) :
    Except SettingsFault field.Value :=
  field.ofGiven (field.effective? file environment)

variable {field : Field} {file file' : Setting} {environment environment' : List (String × String)}

/-- If the variable of a field is set, that counts. -/
theorem effective?_of_names (distinct : DistinctNames environment) {entry : String × String}
    (member : entry ∈ environment) (names : field.Names entry.1) :
    field.effective? file environment = some (ofVariable entry.2) := by
  have place := placeOfVariable?_of_names names
  let own := environment.filter fun entry =>
    placeOfVariable? entry.1 = some [.name field.title, .name field.key]
  have mem_own : entry ∈ own := List.mem_filter.mpr ⟨member, by simpa using place⟩
  have last : own.getLast? = some entry := by
    rw [List.getLast?_eq_some_getLast (List.ne_nil_of_mem mem_own), Option.some.injEq]
    obtain ⟨listed, here⟩ := List.mem_filter.mp (List.getLast_mem (List.ne_nil_of_mem mem_own))
    have here := of_decide_eq_true here
    have set : placeOfVariable? (own.getLast (List.ne_nil_of_mem mem_own)).1 ≠ none := by
      simp [here]
    have named := names_of_placeOfVariable? (distinct.pointless _ listed set) here
    exact distinct.distinct _ listed _ member set (named.trans names.symm)
  rw [effective?, variableAt?, last]
  rfl

/-- If it is not set, what the file has under the key counts. -/
theorem effective?_of_not_names (distinct : DistinctNames environment)
    (unset : ∀ entry ∈ environment, ¬ field.Names entry.1) :
    field.effective? file environment = file.valueAt field.title field.key := by
  have nothing : (environment.filter fun entry =>
      placeOfVariable? entry.1 = some [.name field.title, .name field.key]) = [] := by
    refine List.filter_eq_nil_iff.mpr fun entry member here => ?_
    have here := of_decide_eq_true here
    exact unset entry member
      (names_of_placeOfVariable? (distinct.pointless entry member (by simp [here])) here)
  rw [effective?, variableAt?, nothing]
  rfl

/-- What counts for a field does not depend on what is given for another key. -/
theorem effective?_of_sameBut {title key : String}
    (same : SameBut title key file environment file' environment')
    (apart : (field.title, field.key) ≠ (title, key)) :
    field.effective? file' environment' = field.effective? file environment := by
  rw [effective?, effective?, same.values _ _ apart, ← variableAt?_othersThan apart,
    same.others, variableAt?_othersThan apart]

end Field

/-- The settings of a value for each field. -/
def ofFields (values : (field : Field) → field.Value) : Settings where
  ttlSeconds := values .ttlSeconds
  cacheCapacity := values .cacheCapacity
  memoCapacity := values .memoCapacity
  sharedLoads := values .sharedLoads
  emptyMethodsAllowAll := values .emptyMethodsAllowAll
  routesFile := values .routesFile
  metricsEnabled := values .metricsEnabled
  metricsOnExit := values .metricsOnExit
  secret := values .secret

theorem get_ofFields (values : (field : Field) → field.Value) (field : Field) :
    field.get (ofFields values) = values field := by
  cases field <;> rfl

/-! ## Reading a tree -/

variable {tree : Setting} {settings : Settings}

/-- A section that is a table gives what it holds under each key. -/
theorem sectionOf_of_hasTable {title : String} (table : tree.HasTable title) :
    ∃ entries, sectionOf tree title = .ok (.named entries) ∧
      ∀ key, entries.lookup key = tree.valueAt title key := by
  cases found : tree.entries.lookup title with
  | none =>
    refine ⟨[], by rw [sectionOf, found], fun key => ?_⟩
    rw [valueAt, found]
    rfl
  | some value =>
    obtain ⟨entries, rfl⟩ := table value found
    refine ⟨entries, by rw [sectionOf, found], fun key => ?_⟩
    rw [valueAt, found]
    rfl

/-- A field is read from its own key. -/
theorem get_of_sectionOf (field : Field) (table : tree.HasTable field.title) {given : Section}
    (inside : sectionOf tree field.title = .ok given) (position : Nat) :
    given.get field.key position field.convert field.default =
      field.ofGiven (tree.valueAt field.title field.key) := by
  obtain ⟨entries, here, values⟩ := sectionOf_of_hasTable table
  obtain rfl := Except.ok.inj (here.symm.trans inside)
  rw [Section.get, Section.find?, values]
  rfl

/-- The settings of a tree are those whose fields are each read from its own key. -/
theorem readFrom_iff (tables : ∀ field : Field, tree.HasTable field.title) :
    ReadFrom tree settings ↔ ∀ field : Field,
      field.ofGiven (tree.valueAt field.title field.key) = .ok (field.get settings) := by
  have own (field : Field) {given : Section} (inside : sectionOf tree field.title = .ok given)
      (position : Nat) := get_of_sectionOf field (tables field) inside position
  constructor
  · rintro ⟨⟨_, cache, ttl, capacity⟩, ⟨_, resolver, memo, shared, allow⟩, ⟨_, store, file⟩,
      ⟨_, metrics, enabled, onExit⟩, ⟨_, auth, secret⟩⟩ field
    cases field with
    | ttlSeconds => exact (own .ttlSeconds cache 0).symm.trans ttl
    | cacheCapacity => exact (own .cacheCapacity cache 1).symm.trans capacity
    | memoCapacity => exact (own .memoCapacity resolver 0).symm.trans memo
    | sharedLoads => exact (own .sharedLoads resolver 1).symm.trans shared
    | emptyMethodsAllowAll => exact (own .emptyMethodsAllowAll resolver 2).symm.trans allow
    | routesFile => exact (own .routesFile store 0).symm.trans file
    | metricsEnabled => exact (own .metricsEnabled metrics 0).symm.trans enabled
    | metricsOnExit => exact (own .metricsOnExit metrics 1).symm.trans onExit
    | secret => exact (own .secret auth 0).symm.trans secret
  · intro read
    obtain ⟨_, cache, -⟩ := sectionOf_of_hasTable (tables .ttlSeconds)
    obtain ⟨_, resolver, -⟩ := sectionOf_of_hasTable (tables .memoCapacity)
    obtain ⟨_, store, -⟩ := sectionOf_of_hasTable (tables .routesFile)
    obtain ⟨_, metrics, -⟩ := sectionOf_of_hasTable (tables .metricsEnabled)
    obtain ⟨_, auth, -⟩ := sectionOf_of_hasTable (tables .secret)
    constructor
    · exact ⟨_, cache, (own .ttlSeconds cache 0).trans (read _),
        (own .cacheCapacity cache 1).trans (read _)⟩
    · exact ⟨_, resolver, (own .memoCapacity resolver 0).trans (read _),
        (own .sharedLoads resolver 1).trans (read _),
        (own .emptyMethodsAllowAll resolver 2).trans (read _)⟩
    · exact ⟨_, store, (own .routesFile store 0).trans (read _)⟩
    · exact ⟨_, metrics, (own .metricsEnabled metrics 0).trans (read _),
        (own .metricsOnExit metrics 1).trans (read _)⟩
    · exact ⟨_, auth, (own .secret auth 0).trans (read _)⟩

/-! ## Loading -/

/-- Settings with a file, in which every section is a table if it is there, and with variables that
each name a section and a key. -/
structure Layered (read : RawPath → Except LoadFault (List UInt8)) (name : String)
    (environment : List (String × String)) (file : Setting) : Prop where
  /-- what is in the file; without a file, that is nothing -/
  readable : Setting.ofFile read name = .ok file
  /-- the sections in it are tables -/
  sections : ∀ field : Field, file.HasTable field.title
  /-- the variables name keys -/
  keys : NamesKeys environment

variable {read : RawPath → Except LoadFault (List UInt8)} {name : String}
  {environment : List (String × String)} {file : Setting}

/-- The settings that are loaded are those of which each field is what it comes to. -/
theorem load_eq_ok_iff (layered : Layered read name environment file) :
    load read environment name = .ok settings ↔
      ∀ field : Field, field.decided file environment = .ok (field.get settings) := by
  rw [load, layered.readable]
  dsimp only
  rw [ofTree_eq_ok_iff,
    readFrom_iff fun field => (layered.sections field).withEnvironment layered.keys]
  simp only [valueAt_withEnvironment layered.keys]
  rfl

/-- They can be loaded if every field comes to something. -/
theorem loads_iff (layered : Layered read name environment file) :
    (∃ settings, load read environment name = .ok settings) ↔
      ∀ field : Field, ∃ value, field.decided file environment = .ok value := by
  constructor
  · rintro ⟨settings, loaded⟩ field
    exact ⟨_, (load_eq_ok_iff layered).mp loaded field⟩
  · intro decided
    choose values decided using decided
    refine ⟨ofFields values, (load_eq_ok_iff layered).mpr fun field => ?_⟩
    rw [get_ofFields]
    exact decided field

/-- A field keeps its value if something else is set anew. -/
theorem get_of_sameBut (layered : Layered read name environment file)
    {read' : RawPath → Except LoadFault (List UInt8)} {name' : String}
    {environment' : List (String × String)} {file' : Setting}
    (layered' : Layered read' name' environment' file') {title key : String}
    (same : SameBut title key file environment file' environment') {field : Field}
    (apart : (field.title, field.key) ≠ (title, key)) {settings settings' : Settings}
    (loaded : load read environment name = .ok settings)
    (loaded' : load read' environment' name' = .ok settings') :
    field.get settings' = field.get settings := by
  have was := (load_eq_ok_iff layered).mp loaded field
  have is := (load_eq_ok_iff layered').mp loaded' field
  rw [Field.decided, Field.effective?_of_sameBut same apart] at is
  exact Except.ok.inj (is.symm.trans was)

end Settings

/-- Settings are layered value by value. What counts for a field is what its variable holds if that
is set, and otherwise what the file has under its key; for the two texts that may be missing,
nothing there is as good as no key. The settings can be loaded exactly if what counts for each
field, or its default, is of its type; and then each field is that, converted, as are the options of
the resolver and the room in the cache. So if one variable or one key of the file changes, every
field that is not set by it comes to the same as before. -/
theorem settings_layered_by_value {read : RawPath → Except LoadFault (List UInt8)} {name : String}
    {environment : List (String × String)} {file : Setting}
    (layered : Settings.Layered read name environment file) :
    (Setting.DistinctNames environment → ∀ field : Settings.Field,
      (∀ entry ∈ environment, field.Names entry.1 →
        field.effective? file environment = some (.ofVariable entry.2)) ∧
      ((∀ entry ∈ environment, ¬ field.Names entry.1) →
        field.effective? file environment = file.valueAt field.title field.key)) ∧
    (∀ field : Settings.Field, field = .routesFile ∨ field = .secret →
      field.ofGiven (some .nothing) = field.ofGiven none) ∧
    ((∃ settings, Settings.load read environment name = .ok settings) ↔
      ∀ field : Settings.Field, ∃ value, field.decided file environment = .ok value) ∧
    (∀ settings, Settings.load read environment name = .ok settings →
      (∀ field : Settings.Field, field.decided file environment = .ok (field.get settings)) ∧
      Settings.Field.ttlSeconds.decided file environment = .ok settings.options.ttlSeconds ∧
      Settings.Field.memoCapacity.decided file environment = .ok settings.options.memoCapacity ∧
      Settings.Field.sharedLoads.decided file environment = .ok settings.options.sharedLoads ∧
      Settings.Field.emptyMethodsAllowAll.decided file environment =
        .ok settings.options.emptyMethodsAllowAll ∧
      ∃ capacity, Settings.Field.cacheCapacity.decided file environment = .ok capacity ∧
        ∀ table, (CommandLine.world settings table).cache = .empty capacity) ∧
    ∀ title key read' name' environment' file',
      Settings.Layered read' name' environment' file' →
      Setting.SameBut title key file environment file' environment' →
      ∀ field : Settings.Field, (field.title, field.key) ≠ (title, key) →
        field.decided file' environment' = field.decided file environment ∧
        ∀ settings settings', Settings.load read environment name = .ok settings →
          Settings.load read' environment' name' = .ok settings' →
          field.get settings' = field.get settings := by
  refine ⟨fun distinct field => ⟨?_, ?_⟩, fun _ => Settings.Field.ofGiven_nothing,
    Settings.loads_iff layered, ?_, ?_⟩
  · exact fun entry member names => Settings.Field.effective?_of_names distinct member names
  · exact Settings.Field.effective?_of_not_names distinct
  · intro settings loaded
    have decided := (Settings.load_eq_ok_iff layered).mp loaded
    exact ⟨decided, decided .ttlSeconds, decided .memoCapacity, decided .sharedLoads,
      decided .emptyMethodsAllowAll, settings.cacheCapacity, decided .cacheCapacity, fun _ => rfl⟩
  · intro title key read' name' environment' file' layered' same field apart
    refine ⟨?_, fun settings settings' loaded loaded' =>
      Settings.get_of_sameBut layered layered' same apart loaded loaded'⟩
    rw [Settings.Field.decided, Settings.Field.effective?_of_sameBut same apart]
    rfl

/-- A file with a lifetime that is no number, and without a file of routes. -/
def unreadableLifetime (path : RawPath) : Except LoadFault (List UInt8) :=
  if path = Utf8.encode "config/waypoint.json" then
    .ok ("\x7b\"cache\": \x7b\"ttl_seconds\": \"soon\", \"max_capacity\": 5\x7d, " ++
      "\"store\": \x7b\"routes_file\": null\x7d\x7d").toUTF8.toList
  else .error .missing

/-- A lifetime that cannot be read does no harm if its variable is set. -/
theorem overridden_lifetime_loads :
    let environment := [("HOME", "/root"), ("WAYPOINT__CACHE__TTL_SECONDS", "60"),
      ("waypoint__Metrics__Enabled", "on")]
    let settings : Settings := { ttlSeconds := 60, cacheCapacity := 5, metricsEnabled := true }
    Settings.load unreadableLifetime [] = .error .wrongType ∧
      Settings.load unreadableLifetime environment = .ok settings ∧
      ∃ file, Settings.Layered unreadableLifetime Settings.defaultName environment file ∧
        ∀ field : Settings.Field, field.decided file environment = .ok (field.get settings) := by
  intro environment settings
  have loaded : Settings.load unreadableLifetime environment = .ok settings := by decide +kernel
  have tables : ∀ title ∈ ["cache", "resolver", "store", "metrics", "auth"],
      ((Setting.ofFile unreadableLifetime Settings.defaultName).toOption.getD .nothing).HasTable
        title := by
    decide +kernel
  have found : (Setting.ofFile unreadableLifetime Settings.defaultName).isOk = true := by
    decide +kernel
  refine ⟨by decide +kernel, loaded, ?_⟩
  cases readable : Setting.ofFile unreadableLifetime Settings.defaultName with
  | error fault => simp [readable, Except.isOk, Except.toBool] at found
  | ok file =>
    rw [readable] at tables
    have layered : Settings.Layered unreadableLifetime Settings.defaultName environment file := by
      refine ⟨readable, fun field => tables _ (by cases field <;> decide), ?_⟩
      intro entry member place here
      obtain rfl | rfl | rfl : entry = ("HOME", "/root") ∨
          entry = ("WAYPOINT__CACHE__TTL_SECONDS", "60") ∨
          entry = ("waypoint__Metrics__Enabled", "on") := by simpa [environment] using member
      · have nowhere : none = some place := here
        cases nowhere
      · exact ⟨_, _, (Option.some.inj here).symm⟩
      · exact ⟨_, _, (Option.some.inj here).symm⟩
    exact ⟨file, layered, ((settings_layered_by_value layered).2.2.2.1 settings loaded).1⟩

end GatewayRouting
