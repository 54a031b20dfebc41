import GatewayRouting.Proofs.WrittenTrees

/-!
# The texts of JSON values

A value has many texts: white space may stand around every token, numbers and texts can be written
in more than one way, and members may come in any order and more than once. `Spells` says which
texts are texts of values, and what each of them is read as, with nothing said about how they are
read. Nesting is not bounded, numbers may be out of range, and names may be repeated.

Reading keeps to that: every text of a value is read as that value, to its end (`Spells.read`).
-/

namespace GatewayRouting
namespace Json

/-! ## Texts -/

/-- White space. -/
def Blank (text : List Char) : Prop :=
  ∀ c ∈ text, isSpace c = true

/-- A text with white space around it. -/
inductive Around (bare : List Char) : List Char → Prop where
  | mk {before behind : List Char} (blank : Blank before) (blank' : Blank behind) :
      Around bare (before ++ (bare ++ behind))

/-- Texts with a comma between any two. White space may stand where there are none. -/
inductive Listed : List (List Char) → List Char → Prop where
  | none {space : List Char} (blank : Blank space) : Listed [] space
  | some (text : List Char) (texts : List (List Char)) :
      Listed (text :: texts) (text ++ texts.flatMap (',' :: ·))

/-- Texts that are listed between brackets. -/
def Bracketed (opening closing : Char) (texts : List (List Char)) (text : List Char) : Prop :=
  ∃ inside, Listed texts inside ∧ Around (opening :: (inside ++ [closing])) text

/-- A member of an object, with its texts. -/
structure MemberText where
  /-- the text of its name, and what stands around it -/
  nameText : List Char
  /-- its name -/
  name : RawText
  /-- the text of its value, and what stands around it -/
  valueText : List Char
  /-- its value -/
  value : Tree

/-- The text of a member. -/
def MemberText.text (member : MemberText) : List Char :=
  member.nameText ++ ':' :: member.valueText

/-- The texts of values. -/
inductive Spells : List Char → Tree → Prop where
  | null {bare text : List Char} (spelled : Token.null.Spelled bare) (around : Around bare text) :
      Spells text .null
  | bool {value : Bool} {bare text : List Char} (spelled : (Token.bool value).Spelled bare)
      (around : Around bare text) : Spells text (.bool value)
  | number {numeral : Numeral} {bare text : List Char}
      (spelled : (Token.number numeral).Spelled bare) (around : Around bare text) :
      Spells text (.number numeral)
  | string {raw : RawText} {bare text : List Char} (spelled : (Token.string raw).Spelled bare)
      (around : Around bare text) : Spells text (.string raw)
  | array {items : List (List Char × Tree)} {text : List Char}
      (each : ∀ item ∈ items, Spells item.1 item.2)
      (listed : Bracketed '[' ']' (items.map Prod.fst) text) :
      Spells text (.array (items.map Prod.snd) true)
  | object {members : List MemberText} {text : List Char}
      (names : ∀ member ∈ members, Spells member.nameText (.string member.name))
      (values : ∀ member ∈ members, Spells member.valueText member.value)
      (listed : Bracketed '{' '}' (members.map MemberText.text) text) :
      Spells text (.object (members.map fun member => (member.name, member.value)) true)

/-! ## Tokens of texts -/

namespace Numeral

theorem ends_nil : Ends [] := nofun

/-- A number ends before whatever cannot go on with it. -/
theorem ends_cons {c : Char} (apart : isDecimalDigit c = false ∧ c ≠ '.' ∧ c ≠ 'e' ∧ c ≠ 'E')
    (rest : List Char) : Ends (c :: rest) := by
  intro d head
  obtain rfl := Option.some.inj head
  exact apart

theorem ends_space {space rest : List Char} (blank : Blank space) (ends : Ends rest) :
    Ends (space ++ rest) := by
  cases space with
  | nil => exact ends
  | cons c space =>
    have space : c = ' ' ∨ c = '\n' ∨ c = '\t' ∨ c = '\r' := by
      simpa [isSpace, or_assoc] using blank c (List.mem_cons_self ..)
    refine ends_cons ?_ _
    rcases space with rfl | rfl | rfl | rfl <;> decide

end Numeral

/-- Whatever goes on behind a text is read behind the tokens of the text, if a number at the end of
the text would end there. -/
def ScansTo (text : List Char) (group : List Token) : Prop :=
  ∀ rest tokens, Numeral.Ends rest → Scans rest tokens → Scans (text ++ rest) (group ++ tokens)

section

variable {text rest : List Char} {tokens : List Token}

theorem Scans.spaces {space : List Char} (blank : Blank space) (scans : Scans rest tokens) :
    Scans (space ++ rest) tokens := by
  induction space with
  | nil => exact scans
  | cons c space ih =>
    obtain ⟨here, blank⟩ := List.forall_mem_cons.mp blank
    exact .space here (ih blank)

/-- Anything may follow a token that is no number. -/
theorem Scans.mark {mark : Token} {spelled : List Char} (scans : Scans rest tokens)
    (written : mark.Spelled spelled) (other : mark.isNumber = false) :
    Scans (spelled ++ rest) (mark :: tokens) := by
  refine scans.token written fun number => ?_
  rw [other] at number
  cases number

theorem Token.Spelled.scansTo {token : Token} (spelled : token.Spelled text) :
    ScansTo text [token] :=
  fun _ _ ends scans => scans.token spelled fun _ => ends

/-- Tokens are read with white space around them. -/
theorem ScansTo.around {bare : List Char} {group : List Token} (scansTo : ScansTo bare group)
    (around : Around bare text) : ScansTo text group := by
  obtain ⟨blank, blank'⟩ := around
  intro rest tokens ends scans
  rw [List.append_assoc, List.append_assoc]
  exact (scansTo _ _ (Numeral.ends_space blank' ends) (scans.spaces blank')).spaces blank

/-- What is listed is read one by one, with the commas. -/
theorem Listed.scans {α : Type} {spell : α → List Char} {group : α → List Token} {things : List α}
    (each : ∀ thing ∈ things, ScansTo (spell thing) (group thing))
    (listed : Listed (things.map spell) text) (ends : Numeral.Ends rest)
    (scans : Scans rest tokens) :
    Scans (text ++ rest) (separated (things.map group) ++ tokens) := by
  -- behind the first one, all start with a comma
  have others {things : List α} (each : ∀ thing ∈ things, ScansTo (spell thing) (group thing)) :
      Numeral.Ends ((things.map spell).flatMap (',' :: ·) ++ rest) ∧
        Scans ((things.map spell).flatMap (',' :: ·) ++ rest)
          ((things.map group).flatMap (.comma :: ·) ++ tokens) := by
    induction things with
    | nil => exact ⟨ends, scans⟩
    | cons thing things ih =>
      obtain ⟨here, each⟩ := List.forall_mem_cons.mp each
      obtain ⟨ends, scans⟩ := ih each
      refine ⟨Numeral.ends_cons (by decide) _, ?_⟩
      have behind := here _ _ ends scans
      simp only [List.map_cons, List.flatMap_cons, List.cons_append, List.append_assoc]
      exact behind.mark .comma rfl
  cases things with
  | nil =>
    cases listed with
    | none blank => exact scans.spaces blank
  | cons thing things =>
    cases listed with
    | some =>
      obtain ⟨here, each⟩ := List.forall_mem_cons.mp each
      obtain ⟨ends, scans⟩ := others each
      rw [List.map_cons, separated, List.append_assoc, List.append_assoc]
      exact here _ _ ends scans

/-- What is listed between brackets is read with the brackets. -/
theorem Bracketed.scansTo {α : Type} {spell : α → List Char} {group : α → List Token}
    {things : List α} {opening closing : Token} {c d : Char}
    (each : ∀ thing ∈ things, ScansTo (spell thing) (group thing))
    (opens : opening.Spelled [c]) (closes : closing.Spelled [d])
    (opens' : opening.isNumber = false) (closes' : closing.isNumber = false)
    (apart : isDecimalDigit d = false ∧ d ≠ '.' ∧ d ≠ 'e' ∧ d ≠ 'E')
    (listed : Bracketed c d (things.map spell) text) :
    ScansTo text (opening :: separated (things.map group) ++ [closing]) := by
  obtain ⟨inside, listed, around⟩ := listed
  refine ScansTo.around (fun rest tokens ends scans => ?_) around
  have closed : Scans (d :: rest) (closing :: tokens) := scans.mark closes closes'
  have scanned := listed.scans each (Numeral.ends_cons apart rest) closed
  have opened := scanned.mark opens opens'
  simpa using opened

/-- **A text of a value is read as the tokens of the value**, whatever follows. -/
theorem Spells.scansTo {tree : Tree} (spells : Spells text tree) : ScansTo text tree.tokens := by
  induction spells with
  | null spelled around => exact spelled.scansTo.around around
  | bool spelled around => exact spelled.scansTo.around around
  | number spelled around => exact spelled.scansTo.around around
  | string spelled around => exact spelled.scansTo.around around
  | @array items text each listed ih =>
    have groups : itemTokens (items.map Prod.snd) = items.map fun item => item.2.tokens := by
      rw [itemTokens_eq_map, List.map_map]
      rfl
    rw [Tree.tokens, groups]
    exact Bracketed.scansTo ih .openArray .closeArray rfl rfl (by decide) listed
  | @object members text names values listed ihName ihValue =>
    have groups : memberTokens (members.map fun member => (member.name, member.value)) =
        members.map fun member => .string member.name :: .colon :: member.value.tokens := by
      rw [memberTokens_eq_map, List.map_map]
      rfl
    have each (member : MemberText) (inside : member ∈ members) :
        ScansTo member.text (.string member.name :: .colon :: member.value.tokens) := by
      intro rest tokens ends scans
      have value := ihValue member inside rest tokens ends scans
      have colon := value.mark .colon rfl
      have name := ihName member inside _ _ (Numeral.ends_cons (by decide) _) colon
      rw [MemberText.text, List.append_assoc]
      exact name
    rw [Tree.tokens, groups]
    exact Bracketed.scansTo each .openObject .closeObject rfl rfl (by decide) listed

/-- The tokens of what has a text are built into it. -/
theorem Spells.builds {tree : Tree} (spells : Spells text tree) : tree.Builds := by
  induction spells with
  | null | bool | number | string => exact fun frames rest => build_deliver frames rfl rest
  | array _ _ ih => exact .array (List.forall_mem_map.mpr ih)
  | object _ _ _ _ ih => exact .object (List.forall_mem_map.mpr ih)

/-- **A text of a value is read as the value**, to its end. -/
theorem Spells.read {tree : Tree} (spells : Spells text tree) : Json.read text = ⟨tree, true⟩ := by
  have scans := spells.scansTo [] [] Numeral.ends_nil .nil
  rw [List.append_nil, List.append_nil] at scans
  exact spells.builds.read_of_scans scans

end

/-! ## What is written -/

theorem Around.self (bare : List Char) : Around bare bare := by
  have around : Around bare ([] ++ (bare ++ [])) := .mk nofun nofun
  rwa [List.append_nil] at around

/-- Groups of tokens that are written with nothing in between are listed. -/
theorem listed_compact (groups : List (List Token)) :
    Listed (groups.map compact) (compact (separated groups)) := by
  have commas (groups : List (List Token)) :
      compact (groups.flatMap (.comma :: ·)) = (groups.map compact).flatMap (',' :: ·) := by
    rw [compact, List.flatMap_assoc, List.flatMap_map]
    rfl
  cases groups with
  | nil => exact .none nofun
  | cons group groups =>
    have text : compact (separated (group :: groups)) =
        compact group ++ (groups.map compact).flatMap (',' :: ·) := by
      rw [← commas]
      exact List.flatMap_append
    rw [text]
    exact .some _ _

theorem bracketed_compact {opening closing : Token} {c d : Char} (opens : opening.spell = [c])
    (closes : closing.spell = [d]) (groups : List (List Token)) :
    Bracketed c d (groups.map compact) (compact (opening :: separated groups ++ [closing])) := by
  refine ⟨_, listed_compact groups, ?_⟩
  have text : compact (opening :: separated groups ++ [closing]) =
      c :: (compact (separated groups) ++ [d]) := by
    simp [compact, opens, closes]
  rw [text]
  exact .self _

/-- **What is written of a tree is a text of it.** -/
theorem Tree.Written.spells {tree : Tree} (written : tree.Written) :
    Spells (compact tree.tokens) tree := by
  have single {token : Token} (written : token.Written) :
      token.Spelled (compact [token]) := by
    rw [compact, List.flatMap_singleton]
    exact written.spelled
  induction written with
  | null => exact .null (single .null) (.self _)
  | bool value => exact .bool (single (.bool value)) (.self _)
  | number i => exact .number (single (.number i)) (.self _)
  | string text => exact .string (single (.string text)) (.self _)
  | @array items each ih =>
    let pairs := items.map fun item => (compact item.tokens, item)
    have texts : pairs.map Prod.fst = (itemTokens items).map compact := by
      rw [itemTokens_eq_map, List.map_map, List.map_map]
      rfl
    have trees : pairs.map Prod.snd = items := by
      rw [List.map_map]
      exact List.map_id items
    have listed : Bracketed '[' ']' (pairs.map Prod.fst)
        (compact (Tree.array items true).tokens) := by
      rw [texts]
      exact bracketed_compact rfl rfl (itemTokens items)
    have spells := Spells.array (List.forall_mem_map.mpr ih) listed
    rwa [trees] at spells
  | @object members names values ih =>
    let texts := members.map fun member =>
      MemberText.mk (compact [.string member.1]) member.1 (compact member.2.tokens) member.2
    have same : texts.map MemberText.text = (memberTokens members).map compact := by
      rw [memberTokens_eq_map, List.map_map, List.map_map]
      refine List.map_congr_left fun member _ => ?_
      simp [MemberText.text, compact, Token.spell]
    have trees : texts.map (fun member => (member.name, member.value)) = members := by
      rw [List.map_map]
      exact List.map_id members
    have listed : Bracketed '{' '}' (texts.map MemberText.text)
        (compact (Tree.object members true).tokens) := by
      rw [same]
      exact bracketed_compact rfl rfl (memberTokens members)
    have spelled (member : RawText × Tree) (inside : member ∈ members) :
        Spells (compact [.string member.1]) (.string member.1) := by
      obtain ⟨text, name⟩ := names member inside
      rw [name]
      exact .string (single (.string text)) (.self _)
    have spells := Spells.object (List.forall_mem_map.mpr spelled) (List.forall_mem_map.mpr ih)
      listed
    rwa [trees] at spells

end Json
end GatewayRouting
