import GatewayRouting.Proofs.PathGrammar
import Mathlib.Data.List.Forall2

/-!
# Wider patterns

Specific routes are registered before those that catch the rest, which makes sense only if the
latter accept whatever the former do. They do: a segment of a pattern can be replaced by a
parameter, and by a wildcard even in the last place, and nothing is lost. A pattern that ends with a
wildcard accepts with a path also whatever is put behind it (`wider_pattern_loses_no_match`).

Two things could be in the way. An empty segment stands for itself alone, so it cannot be replaced;
and a wildcard in the last place stands for several segments, which a parameter does not. Everything
else is local: segments that others stand behind stand for one segment each (`fits_append_iff`), so
each can be looked at where it stands.
-/

namespace GatewayRouting
namespace Pattern

/-! ## A segment in its place -/

/-- A segment of a pattern that is not empty, with the text before and behind it. -/
structure Place (pattern : String) where
  /-- the text before it -/
  before : String
  /-- the segment -/
  segment : Segment
  /-- the text behind it -/
  after : String
  /-- together they are the pattern -/
  whole : before ++ String.ofList segment ++ after = pattern
  /-- the segment is not empty -/
  some : segment ≠ []
  /-- it is a single one -/
  single : '/' ∉ segment
  /-- it starts the pattern or stands behind a slash -/
  opens : before = "" ∨ ∃ text, before = text ++ "/"
  /-- it ends the pattern or stands before a slash -/
  closes : after = "" ∨ ∃ text, after = "/" ++ text

namespace Place

variable {pattern : String} {place : Place pattern} {segment : Segment}

/-- The pattern with another segment in the place of this one. -/
def fill (place : Place pattern) (segment : Segment) : String :=
  place.before ++ String.ofList segment ++ place.after

/-- Nothing but slashes stands behind the segment. -/
def IsLast (place : Place pattern) : Prop :=
  segments place.after = []

/-- The segments before this one. -/
def left (place : Place pattern) : List Segment :=
  (place.before.toList.splitOn '/').dropLast.dropWhile List.isEmpty

/-- The segments behind this one. -/
def right (place : Place pattern) : List Segment :=
  (place.after.toList.splitOn '/').tail.rdropWhile List.isEmpty

theorem fill_self (place : Place pattern) : place.fill place.segment = pattern := place.whole

/-- Whatever fills the place is one piece of the text. -/
theorem splitOn_fill (single : '/' ∉ segment) :
    (place.fill segment).toList.splitOn '/' =
      (place.before.toList.splitOn '/').dropLast ++
        segment :: (place.after.toList.splitOn '/').tail := by
  have behind : (segment ++ place.after.toList).splitOn '/' =
      segment :: (place.after.toList.splitOn '/').tail := by
    obtain empty | ⟨text, slash⟩ := place.closes
    · rw [empty, String.toList_empty, List.append_nil, List.splitOn_eq_singleton single]
      rfl
    · have split : (segment ++ '/' :: text.toList).splitOn '/' =
          segment :: text.toList.splitOn '/' := by
        rw [splitOn_append_slash, List.splitOn_eq_singleton single, List.singleton_append]
      rw [slash, String.toList_append]
      change (segment ++ '/' :: text.toList).splitOn '/' =
        segment :: (('/' :: text.toList).splitOn '/').tail
      rw [split, splitOn_slash_cons, List.tail_cons]
  have text : (place.fill segment).toList =
      place.before.toList ++ (segment ++ place.after.toList) := by
    rw [fill, String.toList_append, String.toList_append, String.toList_ofList,
      List.append_assoc]
  rw [text]
  obtain empty | ⟨text, slash⟩ := place.opens
  · rw [empty, String.toList_empty, List.nil_append, behind]
    rfl
  · have front : place.before.toList = text.toList ++ ['/'] := by
      rw [slash, String.toList_append]
      rfl
    rw [front, List.append_assoc, List.singleton_append, splitOn_append_slash, behind,
      splitOn_concat_slash, List.dropLast_concat]

theorem dropWhile_append_of_some (before after : List Segment) (some : segment ≠ []) :
    (before ++ segment :: after).dropWhile List.isEmpty =
      before.dropWhile List.isEmpty ++ segment :: after := by
  have stays : (segment :: after).dropWhile List.isEmpty = segment :: after :=
    List.dropWhile_cons_of_neg (by simpa using some)
  rw [List.dropWhile_append, stays]
  split
  · next gone => rw [List.isEmpty_iff.mp gone, List.nil_append]
  · rfl

/-- What is cut off at the ends is cut off on both sides of a segment that is not empty. -/
theorem withoutEmptyEnds_append (before after : List Segment) (some : segment ≠ []) :
    withoutEmptyEnds (before ++ segment :: after) =
      before.dropWhile List.isEmpty ++ segment :: after.rdropWhile List.isEmpty := by
  rw [withoutEmptyEnds, dropWhile_append_of_some before after some]
  generalize before.dropWhile List.isEmpty = first
  have turned : (first ++ segment :: after).reverse =
      after.reverse ++ segment :: first.reverse := by simp
  rw [List.rdropWhile, turned, dropWhile_append_of_some _ _ some]
  simp [List.rdropWhile]

/-- Whatever fills the place is one segment among the others. -/
theorem segments_fill (some : segment ≠ []) (single : '/' ∉ segment) :
    segments (place.fill segment) = place.left ++ segment :: place.right := by
  rw [segments_eq_innerPieces, innerPieces, splitOn_fill single, withoutEmptyEnds_append _ _ some]
  rfl

theorem withoutEmptyEnds_eq_nil_iff (pieces : List Segment) :
    withoutEmptyEnds pieces = [] ↔ ∀ piece ∈ pieces, piece = [] := by
  rw [withoutEmptyEnds, List.rdropWhile_eq_nil_iff]
  induction pieces with
  | nil => simp
  | cons piece pieces ih =>
    by_cases empty : piece = []
    · simpa [List.dropWhile_cons, empty] using ih
    · simp [empty]

/-- Nothing but slashes behind a segment means that no segment is behind it. -/
theorem right_eq_nil_iff : place.right = [] ↔ place.IsLast := by
  rw [right, IsLast, List.rdropWhile_eq_nil_iff, segments_eq_innerPieces, innerPieces,
    withoutEmptyEnds_eq_nil_iff]
  obtain empty | ⟨text, slash⟩ := place.closes
  · simp [empty]
  · have split : place.after.toList.splitOn '/' = [] :: text.toList.splitOn '/' := by
      rw [slash, String.toList_append]
      exact splitOn_slash_cons text.toList
    simp [split]

end Place

/-! ## What fits a wider pattern -/

variable {before pattern rest rest' after path others : List Segment} {segment : Segment}

/-- Segments that others stand behind stand for one segment each. -/
theorem fits_append_iff (more : rest ≠ []) (path : List Segment) :
    Fits (before ++ rest) path ↔
      ∃ first others, path = first ++ others ∧
        List.Forall₂ Segment.StandsFor before first ∧ Fits rest others := by
  induction before generalizing path with
  | nil =>
    constructor
    · exact fun fits => ⟨[], path, rfl, .nil, fits⟩
    · rintro ⟨_, others, rfl, ⟨⟩, fits⟩
      exact fits
  | cons expected before ih =>
    have notLast : expected :: (before ++ rest) ≠ [Segment.wildcard] := by
      intro last
      exact more (List.append_eq_nil_iff.mp (List.cons.inj last).2).2
    rw [List.cons_append, fits_cons_iff notLast]
    constructor
    · rintro ⟨actual, later, rfl, here, fits⟩
      obtain ⟨first, others, rfl, each, fits⟩ := (ih later).mp fits
      exact ⟨actual :: first, others, rfl, .cons here each, fits⟩
    · rintro ⟨_, others, rfl, each, fits⟩
      cases each with
      | cons here each => exact ⟨_, _, rfl, here, (ih _).mpr ⟨_, others, rfl, each, fits⟩⟩

/-- The end of a pattern can be made wider where it stands. -/
theorem Fits.replace_end (fits : Fits (before ++ rest) path) (some : rest ≠ [])
    (some' : rest' ≠ []) (wider : ∀ others, Fits rest others → Fits rest' others) :
    Fits (before ++ rest') path := by
  obtain ⟨first, others, rfl, each, fits⟩ := (fits_append_iff some path).mp fits
  exact (fits_append_iff some' _).mpr ⟨first, others, rfl, each, wider others fits⟩

/-- A segment that is not empty stands for none that is. -/
theorem ne_nil_of_standsFor {actual : Segment} (some : segment ≠ [])
    (here : segment.StandsFor actual) : actual ≠ [] := by
  obtain ⟨_, some⟩ | ⟨_, rfl⟩ := here
  · exact some
  · exact some

theorem ne_wildcard_of_parameter {parameter : Segment} (named : parameter.Parameter) :
    parameter ≠ Segment.wildcard := by
  rintro rfl
  cases named

/-- A parameter fits what another segment does, unless that is a wildcard in the last place. -/
theorem Fits.parameter {parameter : Segment} (fits : Fits (segment :: after) others)
    (some : segment ≠ []) (notLast : segment :: after ≠ [Segment.wildcard])
    (named : parameter.Parameter) : Fits (parameter :: after) others := by
  obtain ⟨actual, rest, rfl, here, fits⟩ := (fits_cons_iff notLast others).mp fits
  have other : parameter :: after ≠ [Segment.wildcard] :=
    fun same => ne_wildcard_of_parameter named (List.cons.inj same).1
  exact .cons fits other (.any (.inl named) (ne_nil_of_standsFor some here))

/-- A wildcard fits what any other segment does, in the last place and elsewhere. -/
theorem Fits.wildcard (fits : Fits (segment :: after) others) (some : segment ≠ []) :
    Fits (Segment.wildcard :: after) others := by
  cases fits with
  | rest more => exact .rest more
  | cons fits notLast here =>
    cases after with
    | nil => exact .rest (List.cons_ne_nil _ _)
    | cons next after =>
      refine .cons fits (by simp) (.any (.inr rfl) (ne_nil_of_standsFor some here))

/-- With a wildcard in the last place, more may follow. -/
theorem Fits.append (fits : Fits (before ++ [Segment.wildcard]) path) (rest : List Segment) :
    Fits (before ++ [Segment.wildcard]) (path ++ rest) := by
  obtain ⟨first, others, rfl, each, fits⟩ := (fits_append_iff (by simp) path).mp fits
  refine (fits_append_iff (by simp) _).mpr ⟨first, others ++ rest, ?_, each, ?_⟩
  · rw [List.append_assoc]
  · rw [fits_wildcard_iff] at fits ⊢
    exact List.append_ne_nil_of_left_ne_nil fits rest

/-! ## Longer paths -/

theorem rdropWhile_prefix_append (pieces more : List Segment) :
    pieces.rdropWhile List.isEmpty <+: (pieces ++ more).rdropWhile List.isEmpty := by
  rw [List.rdropWhile, List.rdropWhile, List.reverse_append, List.dropWhile_append]
  split
  · exact List.prefix_refl _
  · rw [List.reverse_append, List.reverse_reverse]
    exact (List.rdropWhile_prefix List.isEmpty pieces).trans (List.prefix_append _ _)

/-- What is put behind a path comes behind its segments. -/
theorem segments_prefix_append (path rest : String) :
    segments path <+: segments (path ++ "/" ++ rest) := by
  have split : (path ++ "/" ++ rest).toList.splitOn '/' =
      path.toList.splitOn '/' ++ rest.toList.splitOn '/' := by
    rw [String.toList_append, String.toList_append, List.append_assoc]
    exact splitOn_append_slash path.toList rest.toList
  rw [segments_eq_innerPieces, segments_eq_innerPieces, innerPieces, innerPieces, split,
    withoutEmptyEnds, withoutEmptyEnds, List.dropWhile_append]
  split
  · next gone =>
    rw [List.isEmpty_iff.mp gone]
    exact List.nil_prefix
  · exact rdropWhile_prefix_append _ _

/-! ## The result -/

theorem accepts_iff_fits (pattern path : String) :
    accepts pattern path = true ↔ Fits (segments pattern) (segments path) := by
  rw [accepts, acceptsAll_iff]

/-- One pattern accepts whatever another one does. -/
def Covers (wide narrow : String) : Prop :=
  ∀ path, accepts narrow path = true → accepts wide path = true

/-- What fits better where a segment stands fits better in the whole pattern. -/
theorem Place.covers_fill {pattern : String} (place : Place pattern) {segment : Segment}
    (some : segment ≠ []) (single : '/' ∉ segment)
    (wider : ∀ others, Fits (place.segment :: place.right) others →
      Fits (segment :: place.right) others) : Covers (place.fill segment) pattern := by
  have own : segments pattern = place.left ++ place.segment :: place.right := by
    rw [← segments_fill place.some place.single, place.fill_self]
  intro path accepted
  rw [accepts_iff_fits, own] at accepted
  rw [accepts_iff_fits, segments_fill some single]
  exact accepted.replace_end (List.cons_ne_nil _ _) (List.cons_ne_nil _ _) wider

end Pattern

/-- **Wider patterns lose no match.** Take any pattern and any of its segments that is not empty.
With a parameter in its place the pattern accepts all that it accepted before, unless the segment
was a wildcard with nothing behind it but slashes; and with a wildcard in its place it does so in
any case. A pattern whose last segment is a wildcard accepts with a path also whatever is put behind
it. -/
theorem wider_pattern_loses_no_match (pattern : String) :
    (∀ place : Pattern.Place pattern, ¬ (place.segment = Segment.wildcard ∧ place.IsLast) →
      ∀ parameter : Segment, parameter.Parameter → '/' ∉ parameter →
        Pattern.Covers (place.fill parameter) pattern) ∧
    (∀ place : Pattern.Place pattern, Pattern.Covers (place.fill Segment.wildcard) pattern) ∧
    ((segments pattern).getLast? = some Segment.wildcard → ∀ path rest : String,
      Pattern.accepts pattern path = true →
        Pattern.accepts pattern (path ++ "/" ++ rest) = true) := by
  refine ⟨fun place notLast parameter named single => ?_, fun place => ?_,
    fun last path rest accepted => ?_⟩
  · have some : parameter ≠ [] := by
      rintro rfl
      cases named
    have notLast : place.segment :: place.right ≠ [Segment.wildcard] := by
      intro same
      obtain ⟨wildcard, nothing⟩ := List.cons.inj same
      exact notLast ⟨wildcard, Pattern.Place.right_eq_nil_iff.mp nothing⟩
    exact place.covers_fill some single fun _ fits => fits.parameter place.some notLast named
  · exact place.covers_fill (by decide) (by decide) fun _ fits => fits.wildcard place.some
  · obtain ⟨before, same⟩ := List.getLast?_eq_some_iff.mp last
    obtain ⟨more, longer⟩ := Pattern.segments_prefix_append path rest
    rw [Pattern.accepts_iff_fits, same] at accepted ⊢
    rw [← longer]
    exact accepted.append more

/-- Orders of a shop, at a pattern with an empty segment inside. The place of `orders` is taken by a
parameter or a wildcard, or the path gets longer. -/
theorem orders_accepted_by_wider :
    let orders : Pattern.Place "/shops/{shop}//orders/*" :=
      { before := "/shops/{shop}//", segment := "orders".toList, after := "/*", whole := by decide
        some := by decide, single := by decide, opens := .inr ⟨"/shops/{shop}/", by decide⟩
        closes := .inr ⟨"*", by decide⟩ }
    orders.fill ":kind".toList = "/shops/{shop}//:kind/*" ∧
      Pattern.accepts (orders.fill ":kind".toList) "/shops/7//orders/9/items" = true ∧
      Pattern.accepts (orders.fill Segment.wildcard) "/shops/7//orders/9/items" = true ∧
      Pattern.accepts "/shops/{shop}//orders/*" "/shops/7//orders/9/items///x/" = true := by
  intro orders
  obtain ⟨parameter, wildcard, longer⟩ := wider_pattern_loses_no_match "/shops/{shop}//orders/*"
  have accepted : Pattern.accepts "/shops/{shop}//orders/*" "/shops/7//orders/9/items" = true := by
    decide
  have inside : ¬ (orders.segment = Segment.wildcard ∧ orders.IsLast) := by
    rintro ⟨same, _⟩
    exact absurd same (by decide)
  exact ⟨by decide,
    parameter orders inside ":kind".toList (.colon (by decide)) (by decide) _ accepted,
    wildcard orders _ accepted, longer (by decide) _ "//x/" accepted⟩

/-- In the last place a parameter stands for less than a wildcard, and nowhere for an empty
segment. -/
example : Pattern.accepts "/a/*" "/a/b/c" = true ∧ Pattern.accepts "/a/:x" "/a/b/c" = false ∧
    Pattern.accepts "/a//b" "/a//b" = true ∧ Pattern.accepts "/a/:x/b" "/a//b" = false := by
  decide

end GatewayRouting
