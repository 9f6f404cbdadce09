/-
This file proves that `JSON.parse` reads back what `JSON.stringify` wrote, for every value. What
comes back is not always what was written: an object lists array indices first, and a number
that is an infinity is written as `null` (`canonical`). Writing it again gives the same text.

So a record that was rejected and stored whole can be replayed from the table of rejections: it
is rejected again, with the same code and message (`rejected_replays`).
-/

import ImportService.JsonText
import ImportService.Lib.Trim
import ImportService.RawValues

namespace ImportService

open JsString

namespace Json

/-! ### Values inside of values -/

theorem induction {motive : Json → Prop} (null : motive .null)
    (bool : ∀ value, motive (.bool value)) (number : ∀ value, motive (.number value))
    (string : ∀ value, motive (.string value))
    (array : ∀ items, (∀ item ∈ items, motive item) → motive (.array items))
    (object : ∀ members, (∀ member ∈ members, motive member.2) → motive (.object members))
    (value : Json) : motive value :=
  @Json.rec motive (fun items => ∀ item ∈ items, motive item)
    (fun members => ∀ member ∈ members, motive member.2) (fun member => motive member.2)
    null bool number string array object
    (fun _ member => nomatch member)
    (fun _ _ first rest => List.forall_mem_cons.mpr ⟨first, rest⟩)
    (fun _ member => nomatch member)
    (fun _ _ first rest => List.forall_mem_cons.mpr ⟨first, rest⟩)
    (fun _ _ inside => inside) value

mutual

/-- A value and all values inside of it. -/
def parts : Json → List Json
  | .null => [.null]
  | .bool value => [.bool value]
  | .number value => [.number value]
  | .string value => [.string value]
  | .array items => .array items :: itemParts items
  | .object members => .object members :: memberParts members

/-- The values in the items of an array. -/
def itemParts : List Json → List Json
  | [] => []
  | item :: rest => parts item ++ itemParts rest

/-- The values in the members of an object. -/
def memberParts : List (JsString × Json) → List Json
  | [] => []
  | (_, value) :: rest => parts value ++ memberParts rest

end

theorem parts_subset_itemParts {item : Json} {items : List Json} (member : item ∈ items) :
    parts item ⊆ itemParts items := by
  induction items with
  | nil => cases member
  | cons first rest inductionHypothesis =>
    rw [itemParts]
    rcases List.mem_cons.mp member with rfl | later
    · exact List.subset_append_left _ _
    · exact List.subset_append_of_subset_right _ (inductionHypothesis later)

theorem parts_subset_memberParts {member : JsString × Json} {members : List (JsString × Json)}
    (isMember : member ∈ members) : parts member.2 ⊆ memberParts members := by
  induction members with
  | nil => cases isMember
  | cons first rest inductionHypothesis =>
    rw [memberParts]
    rcases List.mem_cons.mp isMember with rfl | later
    · exact List.subset_append_left _ _
    · exact List.subset_append_of_subset_right _ (inductionHypothesis later)

/-- No object in the value has two members of one name. -/
def NamesDistinct (value : Json) : Prop :=
  ∀ members, .object members ∈ parts value → (members.map Prod.fst).Nodup

/-- Every number in the value is finite. -/
def NumbersFinite (value : Json) : Prop :=
  ∀ number, .number number ∈ parts value → ∃ finite, number = .finite finite

/-- What can come after a value. -/
def EndsValue (text : JsString) : Prop :=
  text = [] ∨ ∃ mark rest, text = mark :: rest ∧ (mark = 0x2c ∨ mark = 0x5d ∨ mark = 0x7d)

/-- The host prints the number without white space, and so that it reads back. -/
structure PrintsExactly (runtime : Runtime) (value : Rat) : Prop where
  reads : ∀ rest, EndsValue rest →
    parseNumber (runtime.numberToString value ++ rest) = some (.finite value, rest)
  noSpace : ∀ unit ∈ runtime.numberToString value, isSpace unit = false

/-- The host prints every finite number in the value exactly. -/
def NumbersPrint (runtime : Runtime) (value : Json) : Prop :=
  ∀ finite, .number (.finite finite) ∈ parts value → PrintsExactly runtime finite

/-! ### What is read back -/

mutual

/-- The value that is read back: array indices come first in an object, and an infinity has
become `null`. -/
def canonical : Json → Json
  | .null => .null
  | .bool value => .bool value
  | .number (.finite value) => .number (.finite value)
  | .number _ => .null
  | .string value => .string value
  | .array items => .array (canonicalItems items)
  | .object members => .object (enumerated (canonicalMembers members))

/-- The items as they are read back. -/
def canonicalItems : List Json → List Json
  | [] => []
  | item :: rest => canonical item :: canonicalItems rest

/-- The members as they are read back, each with its value. -/
def canonicalMembers : List (JsString × Json) → List (JsString × Json)
  | [] => []
  | (name, value) :: rest => (name, canonical value) :: canonicalMembers rest

end

theorem canonicalItems_eq (items : List Json) : canonicalItems items = items.map canonical := by
  induction items with
  | nil => rfl
  | cons item rest inductionHypothesis =>
    rw [canonicalItems, inductionHypothesis]
    rfl

theorem canonicalMembers_eq (members : List (JsString × Json)) :
    canonicalMembers members = members.map fun member => (member.1, canonical member.2) := by
  induction members with
  | nil => rfl
  | cons member rest inductionHypothesis =>
    rw [canonicalMembers, inductionHypothesis]
    rfl

theorem itemTexts_eq (runtime : Runtime) (items : List Json) :
    itemTexts runtime items = items.map (stringify runtime) := by
  induction items with
  | nil => rfl
  | cons item rest inductionHypothesis =>
    rw [itemTexts, inductionHypothesis]
    rfl

/-! ### The order of members -/

section

variable {Value Other : Type}

/-- The name of the member is an array index. -/
def isIndex (member : JsString × Value) : Bool := (arrayIndex member.1).isSome

/-- The order of the indices. -/
def comesFirst (first second : JsString × Value) : Bool :=
  decide ((arrayIndex first.1).getD 0 ≤ (arrayIndex second.1).getD 0)

theorem enumerated_eq (members : List (JsString × Value)) :
    enumerated members = (members.filter isIndex).mergeSort comesFirst ++
      members.filter fun member => !isIndex member := rfl

/-- The order looks at names only. -/
theorem enumerated_map (change : Value → Other) (members : List (JsString × Value)) :
    enumerated (members.map fun member => (member.1, change member.2)) =
      (enumerated members).map fun member => (member.1, change member.2) := by
  rw [enumerated_eq, enumerated_eq, List.map_append, List.filter_map, List.filter_map]
  refine congrArg (· ++ _) (List.map_mergeSort ?_).symm
  exact fun _ _ _ _ => rfl

theorem enumerated_perm (members : List (JsString × Value)) :
    (enumerated members).Perm members := by
  rw [enumerated_eq]
  exact ((List.mergeSort_perm _ _).append_right _).trans (List.filter_append_perm _ members)

/-- Members in their order stay in it. -/
theorem enumerated_enumerated (members : List (JsString × Value)) :
    enumerated (enumerated members) = enumerated members := by
  obtain ⟨indices, isIndices⟩ :
      ∃ indices, (members.filter isIndex).mergeSort comesFirst = indices := ⟨_, rfl⟩
  obtain ⟨others, isOthers⟩ :
      ∃ others, members.filter (fun member => !isIndex member) = others := ⟨_, rfl⟩
  have ofIndices : ∀ member ∈ indices, isIndex member = true := by
    intro member listed
    rw [← isIndices, List.mem_mergeSort] at listed
    exact (List.mem_filter.mp listed).2
  have ofOthers : ∀ member ∈ others, isIndex member = false := by
    intro member listed
    rw [← isOthers] at listed
    exact Bool.not_eq_true' _ ▸ (List.mem_filter.mp listed).2
  have sorted : indices.mergeSort comesFirst = indices := by
    refine List.mergeSort_of_pairwise ?_
    rw [← isIndices]
    refine List.pairwise_mergeSort ?_ ?_ _
    · intro first second third firstSecond secondThird
      exact decide_eq_true ((of_decide_eq_true firstSecond).trans (of_decide_eq_true secondThird))
    · intro first second
      rw [comesFirst, comesFirst, Bool.or_eq_true, decide_eq_true_eq, decide_eq_true_eq]
      exact Nat.le_total _ _
  have first : (indices ++ others).filter isIndex = indices := by
    rw [List.filter_append, List.filter_eq_self.mpr ofIndices, List.filter_eq_nil_iff.mpr,
      List.append_nil]
    intro member listed
    rw [ofOthers member listed]
    exact Bool.false_ne_true
  have second : (indices ++ others).filter (fun member => !isIndex member) = others := by
    rw [List.filter_append, List.filter_eq_nil_iff.mpr, List.nil_append, List.filter_eq_self.mpr]
    · intro member listed
      rw [ofOthers member listed]
      rfl
    · intro member listed
      rw [ofIndices member listed]
      exact Bool.false_ne_true
  rw [enumerated_eq members, isIndices, isOthers, enumerated_eq, first, second, sorted]

theorem lookup_eq_some_iff_mem {members : List (JsString × Value)}
    (distinct : (members.map Prod.fst).Nodup) {name : JsString} {value : Value} :
    members.lookup name = some value ↔ (name, value) ∈ members := by
  induction members with
  | nil => exact iff_of_false (fun found => nomatch found) (fun member => nomatch member)
  | cons first rest inductionHypothesis =>
    obtain ⟨firstName, firstValue⟩ := first
    rw [List.map_cons, List.nodup_cons] at distinct
    rw [List.lookup_cons, List.mem_cons, ← inductionHypothesis distinct.2]
    by_cases same : name = firstName
    · subst same
      rw [beq_self_eq_true]
      constructor
      · intro found
        exact Or.inl (by rw [Option.some.inj found])
      · rintro (isFirst | later)
        · rw [(Prod.mk.inj isFirst).2]
        · rw [inductionHypothesis distinct.2] at later
          exact absurd (List.mem_map.mpr ⟨_, later, rfl⟩) distinct.1
    · rw [beq_eq_false_iff_ne.mpr same]
      constructor
      · exact Or.inr
      · rintro (isFirst | later)
        · exact absurd (Prod.mk.inj isFirst).1 same
        · exact later

theorem lookup_map_snd (change : Value → Other) (members : List (JsString × Value))
    (name : JsString) :
    (members.map fun member => (member.1, change member.2)).lookup name =
      (members.lookup name).map change := by
  induction members with
  | nil => rfl
  | cons first rest inductionHypothesis =>
    rw [List.map_cons, List.lookup_cons, List.lookup_cons, inductionHypothesis]
    cases name == first.1 <;> rfl

theorem lookup_enumerated {members : List (JsString × Value)}
    (distinct : (members.map Prod.fst).Nodup) (name : JsString) :
    (enumerated members).lookup name = members.lookup name := by
  have perm := enumerated_perm members
  have distinctToo : ((enumerated members).map Prod.fst).Nodup :=
    (perm.map Prod.fst).nodup_iff.mpr distinct
  refine Option.ext fun value => ?_
  rw [lookup_eq_some_iff_mem distinctToo, lookup_eq_some_iff_mem distinct, perm.mem_iff]

end

/-! ### The text of a value -/

section

variable {runtime : Runtime}

theorem stringify_array (items : List Json) :
    stringify runtime (.array items) =
      0x5b :: (joined (ofString ",") (items.map (stringify runtime)) ++ [0x5d]) := by
  have openBracket : ofString "[" = [0x5b] := rfl
  have closeBracket : ofString "]" = [0x5d] := rfl
  rw [stringify, itemTexts_eq, openBracket, closeBracket, List.append_assoc]
  rfl

theorem stringify_object_enumerated (members : List (JsString × Json)) :
    stringify runtime (.object members) =
      0x7b :: (joined (ofString ",") ((enumerated members).map (memberText runtime)) ++
        [0x7d]) := by
  have openBrace : ofString "\x7b" = [0x7b] := rfl
  have closeBrace : ofString "\x7d" = [0x7d] := rfl
  rw [stringify, memberTexts_eq, enumerated_map (stringify runtime) members, List.map_map,
    openBrace, closeBrace, List.append_assoc]
  rfl

/-- What is read back is written as the same text. -/
theorem stringify_canonical (value : Json) :
    stringify runtime (canonical value) = stringify runtime value := by
  induction value using induction with
  | null | bool | string => rfl
  | number number => cases number <;> rfl
  | array items inductionHypothesis =>
    rw [canonical, canonicalItems_eq, stringify_array, stringify_array, List.map_map]
    refine congrArg (fun texts => 0x5b :: (joined (ofString ",") texts ++ [0x5d])) ?_
    exact List.map_congr_left inductionHypothesis
  | object members inductionHypothesis =>
    rw [canonical, canonicalMembers_eq, stringify_object_enumerated, stringify_object_enumerated,
      enumerated_enumerated, enumerated_map canonical members, List.map_map]
    refine congrArg (fun texts => 0x7b :: (joined (ofString ",") texts ++ [0x7d])) ?_
    refine List.map_congr_left fun member listed => ?_
    rw [Function.comp_apply, memberText, memberText,
      inductionHypothesis member (mem_enumerated listed)]

theorem ne_space_of_isSpace_eq_false {unit : UInt16} (notSpace : isSpace unit = false) :
    unit ∉ [0x20, 0x09, 0x0a, 0x0d] := by
  intro member
  simp only [List.mem_cons, List.not_mem_nil, or_false] at member
  rcases member with rfl | rfl | rfl | rfl <;> cases notSpace

/-- The text of a value starts with no white space and no closing bracket. -/
theorem stringify_starts {value : Json} (prints : NumbersPrint runtime value) :
    ∃ unit rest, stringify runtime value = unit :: rest ∧ isSpace unit = false ∧
      unit ≠ 0x5d := by
  cases value with
  | null => exact ⟨_, _, rfl, rfl, by decide⟩
  | bool value => cases value <;> exact ⟨_, _, rfl, rfl, by decide⟩
  | string value => exact ⟨_, _, rfl, rfl, by decide⟩
  | array items => exact ⟨_, _, stringify_array items, rfl, by decide⟩
  | object members => exact ⟨_, _, stringify_object_enumerated members, rfl, by decide⟩
  | number number =>
    cases number with
    | infinite | nan => exact ⟨_, _, rfl, rfl, by decide⟩
    | finite value =>
      have exactly := prints value (List.mem_singleton_self _)
      have reads := exactly.reads [] (Or.inl rfl)
      rw [List.append_nil] at reads
      obtain ⟨unit, rest, isText, starts⟩ := head_of_parseNumber reads
      refine ⟨unit, rest, isText, exactly.noSpace unit (isText ▸ List.mem_cons_self), ?_⟩
      rintro rfl
      rcases starts with isMinus | isDigit
      · cases isMinus
      · cases isDigit

/-! ### Reading a value back -/

/-- The parser reads the text of the value back, with fuel for every unit of it. -/
def ReadsBack (runtime : Runtime) (value : Json) : Prop :=
  ∀ fuel rest, (stringify runtime value).length ≤ fuel → EndsValue rest →
    parseValue fuel (stringify runtime value ++ rest) = some (canonical value, rest)

theorem endsValue_cons {mark : UInt16} (isMark : mark = 0x2c ∨ mark = 0x5d ∨ mark = 0x7d)
    (rest : JsString) : EndsValue (mark :: rest) := Or.inr ⟨mark, rest, rfl, isMark⟩

theorem joined_comma (text : JsString) {texts : List JsString} (notEmpty : texts ≠ []) :
    joined (ofString ",") (text :: texts) = text ++ 0x2c :: joined (ofString ",") texts := by
  have comma : ofString "," = [0x2c] := rfl
  rw [joined, comma, List.append_assoc, List.singleton_append]
  exact notEmpty

/-- Reading the items up to the closing bracket, one step an item. -/
theorem parseItems_joined {items : List Json} (notEmpty : items ≠ [])
    (readBack : ∀ item ∈ items, ReadsBack runtime item) {fuel : Nat}
    (enough : (joined (ofString ",") (items.map (stringify runtime))).length < fuel)
    (rest : JsString) :
    parseItems fuel (joined (ofString ",") (items.map (stringify runtime)) ++ 0x5d :: rest) =
      some (items.map canonical, rest) := by
  induction items generalizing fuel with
  | nil => exact absurd rfl notEmpty
  | cons item later inductionHypothesis =>
    obtain ⟨less, rfl⟩ : ∃ less, fuel = less + 1 := ⟨fuel - 1, by omega⟩
    have reads := readBack item List.mem_cons_self
    cases later with
    | nil =>
      rw [List.map_cons, List.map_nil, joined] at enough ⊢
      rw [parseItems, reads less _ (by omega) (endsValue_cons (by decide) rest)]
      simp only [Option.bind_eq_bind, Option.bind_some]
      rw [skipSpace_cons _ (by decide)]
      rfl
    | cons next others =>
      have goesOn : (next :: others).map (stringify runtime) ≠ [] := List.cons_ne_nil _ _
      rw [List.map_cons, joined_comma _ goesOn] at enough ⊢
      rw [List.length_append, List.length_cons] at enough
      rw [List.append_assoc, List.cons_append, parseItems,
        reads less _ (by omega) (endsValue_cons (by decide) _)]
      simp only [Option.bind_eq_bind, Option.bind_some]
      rw [skipSpace_cons _ (by decide)]
      simp only
      rw [inductionHypothesis (List.cons_ne_nil next others)
        (fun other isOther => readBack other (List.mem_cons_of_mem _ isOther)) (by omega)]
      rfl

theorem memberText_append (member : JsString × Json) (rest : JsString) :
    memberText runtime member ++ rest =
      0x22 :: (quoteUnits member.1 ++ 0x22 :: 0x3a :: (stringify runtime member.2 ++ rest)) := by
  have colon : ofString ":" = [0x3a] := rfl
  rw [memberText, quote, colon]
  simp only [List.cons_append, List.append_assoc, List.nil_append]

theorem length_memberText (member : JsString × Json) :
    (stringify runtime member.2).length < (memberText runtime member).length := by
  have colon : ofString ":" = [0x3a] := rfl
  rw [memberText, quote, colon]
  simp only [List.length_append, List.length_cons]
  omega

/-- The parser reads a member, up to the mark after it. -/
theorem parseMembers_reads {member : JsString × Json} (reads : ReadsBack runtime member.2)
    {fuel : Nat} (enough : (stringify runtime member.2).length ≤ fuel)
    (earlier : List (JsString × Json)) {mark : UInt16} (isMark : mark = 0x2c ∨ mark = 0x7d)
    (rest : JsString) :
    parseMembers (fuel + 1) earlier (memberText runtime member ++ mark :: rest) =
      if mark = 0x2c then
        parseMembers fuel (setMember member.1 (canonical member.2) earlier) rest
      else some (setMember member.1 (canonical member.2) earlier, rest) := by
  have ends : EndsValue (mark :: rest) :=
    endsValue_cons (isMark.elim Or.inl fun closes => Or.inr (Or.inr closes)) rest
  rw [memberText_append, parseMembers, skipSpace_cons _ (by decide)]
  simp only [parseString_quoteUnits, Option.bind_eq_bind, Option.bind_some]
  rw [skipSpace_cons _ (by decide)]
  simp only [reads fuel _ enough ends, Option.bind_some]
  rcases isMark with rfl | rfl
  · rw [skipSpace_cons _ (by decide), if_pos rfl]
    rfl
  · rw [skipSpace_cons _ (by decide), if_neg (by decide)]
    rfl

/-- Reading the members up to the closing brace, one step a member. -/
theorem parseMembers_readsBack {members : List (JsString × Json)} (notEmpty : members ≠ [])
    (readBack : ∀ member ∈ members, ReadsBack runtime member.2) {fuel : Nat}
    (enough : (joined (ofString ",") (members.map (memberText runtime))).length < fuel)
    (earlier : List (JsString × Json)) (rest : JsString) :
    parseMembers fuel earlier
        (joined (ofString ",") (members.map (memberText runtime)) ++ 0x7d :: rest) =
      some ((members.map fun member => (member.1, canonical member.2)).foldl
        (fun members member => setMember member.1 member.2 members) earlier, rest) := by
  induction members generalizing fuel earlier with
  | nil => exact absurd rfl notEmpty
  | cons member later inductionHypothesis =>
    obtain ⟨less, rfl⟩ : ∃ less, fuel = less + 1 := ⟨fuel - 1, by omega⟩
    have reads := readBack member List.mem_cons_self
    have shorter : (stringify runtime member.2).length < (memberText runtime member).length :=
      length_memberText member
    cases later with
    | nil =>
      rw [List.map_cons, List.map_nil, joined] at enough ⊢
      rw [parseMembers_reads reads (by omega) earlier (Or.inr rfl), if_neg (by decide)]
      rfl
    | cons next others =>
      have goesOn : (next :: others).map (memberText runtime) ≠ [] := List.cons_ne_nil _ _
      rw [List.map_cons, joined_comma _ goesOn] at enough ⊢
      rw [List.length_append, List.length_cons] at enough
      rw [List.append_assoc, List.cons_append,
        parseMembers_reads reads (by omega) earlier (Or.inl rfl), if_pos rfl,
        inductionHypothesis (List.cons_ne_nil next others)
          (fun other isOther => readBack other (List.mem_cons_of_mem _ isOther)) (by omega)]
      rfl

theorem NamesDistinct.item {items : List Json} (distinct : NamesDistinct (.array items))
    {item : Json} (member : item ∈ items) : NamesDistinct item := fun members inside =>
  distinct members (List.mem_cons_of_mem _ (parts_subset_itemParts member inside))

theorem NamesDistinct.member {members : List (JsString × Json)}
    (distinct : NamesDistinct (.object members)) {member : JsString × Json}
    (isMember : member ∈ members) : NamesDistinct member.2 := fun others inside =>
  distinct others (List.mem_cons_of_mem _ (parts_subset_memberParts isMember inside))

theorem NumbersPrint.item {items : List Json} (prints : NumbersPrint runtime (.array items))
    {item : Json} (member : item ∈ items) : NumbersPrint runtime item := fun finite inside =>
  prints finite (List.mem_cons_of_mem _ (parts_subset_itemParts member inside))

theorem NumbersPrint.member {members : List (JsString × Json)}
    (prints : NumbersPrint runtime (.object members)) {member : JsString × Json}
    (isMember : member ∈ members) : NumbersPrint runtime member.2 := fun finite inside =>
  prints finite (List.mem_cons_of_mem _ (parts_subset_memberParts isMember inside))

theorem readsBack_array {items : List Json}
    (prints : ∀ item ∈ items, NumbersPrint runtime item)
    (readBack : ∀ item ∈ items, ReadsBack runtime item) : ReadsBack runtime (.array items) := by
  intro fuel rest enough _
  rw [stringify_array] at enough ⊢
  rw [List.length_cons, List.length_append, List.length_singleton] at enough
  obtain ⟨less, rfl⟩ : ∃ less, fuel = less + 1 := ⟨fuel - 1, by omega⟩
  rw [List.cons_append, List.append_assoc, List.singleton_append, parseValue,
    skipSpace_cons _ (by decide)]
  cases items with
  | nil => rfl
  | cons item later =>
    obtain ⟨unit, tail, starts, notSpace, notClosing⟩ :=
      stringify_starts (prints item List.mem_cons_self)
    obtain ⟨body, isBody⟩ : ∃ body,
        joined (ofString ",") ((item :: later).map (stringify runtime)) = unit :: body := by
      cases later with
      | nil => exact ⟨tail, starts⟩
      | cons next others =>
        rw [List.map_cons, List.map_cons, joined_comma _ (List.cons_ne_nil _ _), starts]
        exact ⟨_, rfl⟩
    have reads : parseItems less (unit :: body ++ 0x5d :: rest) = _ :=
      isBody ▸ parseItems_joined (List.cons_ne_nil item later) readBack (by omega) rest
    rw [isBody]
    simp only [List.cons_append] at reads ⊢
    rw [skipSpace_cons _ (ne_space_of_isSpace_eq_false notSpace)]
    split
    · rename_i closes
      exact absurd (List.cons.inj closes).1 notClosing
    · rw [reads, canonical, canonicalItems_eq]
      rfl

theorem readsBack_object {members : List (JsString × Json)}
    (distinct : (members.map Prod.fst).Nodup)
    (readBack : ∀ member ∈ members, ReadsBack runtime member.2) :
    ReadsBack runtime (.object members) := by
  intro fuel rest enough _
  rw [stringify_object_enumerated] at enough ⊢
  rw [List.length_cons, List.length_append, List.length_singleton] at enough
  obtain ⟨less, rfl⟩ : ∃ less, fuel = less + 1 := ⟨fuel - 1, by omega⟩
  rw [List.cons_append, List.append_assoc, List.singleton_append, parseValue,
    skipSpace_cons _ (by decide), canonical, canonicalMembers_eq,
    enumerated_map canonical members]
  have distinctToo : ((enumerated members).map Prod.fst).Nodup :=
    ((enumerated_perm members).map Prod.fst).nodup_iff.mpr distinct
  have readBackToo : ∀ member ∈ enumerated members, ReadsBack runtime member.2 :=
    fun member listed => readBack member (mem_enumerated listed)
  generalize enumerated members = listed at *
  cases listed with
  | nil => rfl
  | cons member later =>
    obtain ⟨body, isBody⟩ : ∃ body,
        joined (ofString ",") ((member :: later).map (memberText runtime)) = 0x22 :: body :=
      joined_starts runtime (List.cons_ne_nil member later)
    have reads : parseMembers less [] (0x22 :: body ++ 0x7d :: rest) = _ :=
      isBody ▸ parseMembers_readsBack (List.cons_ne_nil member later) readBackToo (by omega) []
        rest
    rw [foldl_setMember (by rwa [List.nil_append, List.map_map]), List.nil_append] at reads
    rw [isBody]
    simp only [List.cons_append] at reads ⊢
    rw [skipSpace_cons _ (by decide)]
    simp only [reads]
    rfl

/-- For a value without parts the fuel does not matter. -/
theorem readsBack_of_leaf {value : Json} (notEmpty : stringify runtime value ≠ [])
    (reads : ∀ fuel rest, EndsValue rest →
      parseValue (fuel + 1) (stringify runtime value ++ rest) = some (canonical value, rest)) :
    ReadsBack runtime value := by
  intro fuel rest enough ends
  cases fuel with
  | zero => exact absurd (List.eq_nil_of_length_eq_zero (Nat.le_zero.mp enough)) notEmpty
  | succ less => exact reads less rest ends

theorem readsBack {value : Json} (distinct : NamesDistinct value)
    (prints : NumbersPrint runtime value) : ReadsBack runtime value := by
  induction value using induction with
  | null => exact readsBack_of_leaf (List.cons_ne_nil _ _) fun _ _ _ => rfl
  | bool value =>
    cases value <;> exact readsBack_of_leaf (List.cons_ne_nil _ _) fun _ _ _ => rfl
  | number number =>
    cases number with
    | infinite | nan => exact readsBack_of_leaf (List.cons_ne_nil _ _) fun _ _ _ => rfl
    | finite value =>
      have exactly := prints value (List.mem_singleton_self _)
      have notEmpty : runtime.numberToString value ≠ [] := by
        intro isEmpty
        have reads := exactly.reads [] (Or.inl rfl)
        rw [isEmpty] at reads
        cases reads
      exact readsBack_of_leaf notEmpty fun fuel rest ends =>
        parseValue_number (exactly.reads rest ends) fuel
  | string text =>
    refine readsBack_of_leaf (List.cons_ne_nil _ _) fun fuel rest _ => ?_
    rw [stringify, quote, List.cons_append, List.cons_append, List.append_assoc,
      List.singleton_append, parseValue, skipSpace_cons _ (by decide)]
    simp only
    rw [parseString_quoteUnits]
    rfl
  | array items inductionHypothesis =>
    exact readsBack_array (fun item member => prints.item member) fun item member =>
      inductionHypothesis item member (distinct.item member) (prints.item member)
  | object members inductionHypothesis =>
    exact readsBack_object (distinct members List.mem_cons_self) fun member isMember =>
      inductionHypothesis member isMember (distinct.member isMember) (prints.member isMember)

/-- Every value is read back from its text, up to the order of members and infinities. -/
theorem parse_stringify {value : Json} (distinct : NamesDistinct value)
    (prints : NumbersPrint runtime value) :
    parse (stringify runtime value) = some (canonical value) := by
  have reads := readsBack distinct prints _ [] (Nat.le_succ _) (Or.inl rfl)
  rw [List.append_nil] at reads
  rw [parse, reads]
  rfl

/-! ### What the parser returns -/

theorem map_fst_setMember (name : JsString) (value : Json) (members : List (JsString × Json)) :
    (setMember name value members).map Prod.fst =
      if name ∈ members.map Prod.fst then members.map Prod.fst
      else members.map Prod.fst ++ [name] := by
  induction members with
  | nil => rfl
  | cons member rest inductionHypothesis =>
    obtain ⟨other, old⟩ := member
    rw [setMember]
    by_cases same : other = name
    · rw [if_pos same, if_pos (by rw [same]; exact List.mem_cons_self), same]
      rfl
    · rw [if_neg same, List.map_cons, inductionHypothesis, List.map_cons]
      by_cases inRest : name ∈ rest.map Prod.fst
      · rw [if_pos inRest, if_pos (List.mem_cons_of_mem _ inRest)]
      · rw [if_neg inRest, if_neg]
        · rfl
        · rw [List.mem_cons, not_or]
          exact ⟨Ne.symm same, inRest⟩

theorem parts_setMember {name : JsString} {value : Json} {members : List (JsString × Json)}
    {part : Json} (inside : part ∈ memberParts (setMember name value members)) :
    part ∈ parts value ∨ part ∈ memberParts members := by
  induction members with
  | nil =>
    rw [setMember, memberParts, memberParts, List.append_nil] at inside
    exact Or.inl inside
  | cons member rest inductionHypothesis =>
    obtain ⟨other, old⟩ := member
    rw [setMember] at inside
    split at inside
    · rw [memberParts] at inside
      rw [memberParts, List.mem_append]
      exact (List.mem_append.mp inside).imp id Or.inr
    · rw [memberParts] at inside
      rw [memberParts, List.mem_append]
      rcases List.mem_append.mp inside with first | later
      · exact Or.inr (Or.inl first)
      · exact (inductionHypothesis later).imp id Or.inr

/-- A value without parts has no member. -/
theorem namesDistinct_of_leaf {value : Json} (noParts : parts value = [value])
    (notObject : ∀ members, value ≠ .object members) : NamesDistinct value := by
  intro members isPart
  rw [noParts, List.mem_singleton] at isPart
  exact absurd isPart.symm (notObject members)

theorem namesDistinct_noMembers : NamesDistinct (.object []) := by
  intro members isPart
  cases List.mem_singleton.mp isPart
  exact List.nodup_nil

theorem namesDistinct_array {items : List Json}
    (inside : ∀ members, .object members ∈ itemParts items → (members.map Prod.fst).Nodup) :
    NamesDistinct (.array items) := by
  intro members isPart
  rcases List.mem_cons.mp isPart with same | isInside
  · cases same
  · exact inside members isInside

theorem namesDistinct_setMember {value : Json} {members : List (JsString × Json)}
    (ofValue : NamesDistinct value) (ofMembers : NamesDistinct (.object members))
    (name : JsString) :
    NamesDistinct (.object (setMember name value members)) := by
  intro others isPart
  rcases List.mem_cons.mp isPart with same | isInside
  · cases same
    have distinct := ofMembers members List.mem_cons_self
    rw [map_fst_setMember]
    split
    · exact distinct
    · rename_i isNew
      exact List.nodup_append.mpr ⟨distinct, List.nodup_singleton name,
        fun _ isOld _ isName => by
          rw [List.mem_singleton.mp isName]
          rintro rfl
          exact isNew isOld⟩
  · rcases parts_setMember isInside with fromValue | fromMembers
    · exact ofValue others fromValue
    · exact ofMembers others (List.mem_cons_of_mem _ fromMembers)

/-- The parser keeps the last of two members of one name, in all objects of the text. -/
theorem namesDistinct_parse (fuel : Nat) :
    (∀ text value after, parseValue fuel text = some (value, after) → NamesDistinct value) ∧
    (∀ text items after, parseItems fuel text = some (items, after) →
      ∀ members, .object members ∈ itemParts items → (members.map Prod.fst).Nodup) ∧
    (∀ text earlier members after, parseMembers fuel earlier text = some (members, after) →
      NamesDistinct (.object earlier) → NamesDistinct (.object members)) := by
  induction fuel with
  | zero =>
    refine ⟨?_, ?_, ?_⟩
    · intro text value after reads
      cases reads
    · intro text items after reads
      cases reads
    · intro text earlier members after reads
      cases reads
  | succ fuel inductionHypothesis =>
    obtain ⟨ofValue, ofItems, ofMembers⟩ := inductionHypothesis
    refine ⟨fun text value after reads => ?_, fun text items after reads => ?_,
      fun text earlier members after reads distinct => ?_⟩
    · rw [parseValue] at reads
      split at reads
      · cases reads
      · obtain ⟨parsed, _, isValue⟩ := Option.bind_eq_some_iff.mp reads
        cases isValue
        exact namesDistinct_of_leaf rfl (by simp)
      · split at reads
        · cases reads
          exact namesDistinct_array (by simp [itemParts])
        · obtain ⟨parsed, readsItems, isValue⟩ := Option.bind_eq_some_iff.mp reads
          cases isValue
          exact namesDistinct_array (ofItems _ _ _ readsItems)
      · split at reads
        · cases reads
          exact namesDistinct_noMembers
        · obtain ⟨parsed, readsMembers, isValue⟩ := Option.bind_eq_some_iff.mp reads
          cases isValue
          exact ofMembers _ _ _ _ readsMembers namesDistinct_noMembers
      · split at reads
        · cases reads
          exact namesDistinct_of_leaf rfl (by simp)
        · cases reads
          exact namesDistinct_of_leaf rfl (by simp)
        · cases reads
          exact namesDistinct_of_leaf rfl (by simp)
        · obtain ⟨parsed, _, isValue⟩ := Option.map_eq_some_iff.mp reads
          cases isValue
          exact namesDistinct_of_leaf rfl (by simp)
    · rw [parseItems] at reads
      obtain ⟨⟨item, afterItem⟩, readsItem, goesOn⟩ := Option.bind_eq_some_iff.mp reads
      have ofItem := ofValue _ _ _ readsItem
      simp only at goesOn
      split at goesOn
      · obtain ⟨⟨rest, closed⟩, readsRest, isItems⟩ := Option.bind_eq_some_iff.mp goesOn
        cases isItems
        intro members inside
        rcases List.mem_append.mp inside with first | later
        · exact ofItem members first
        · exact ofItems _ _ _ readsRest members later
      · cases goesOn
        intro members inside
        rcases List.mem_append.mp inside with first | later
        · exact ofItem members first
        · cases later
      · cases goesOn
    · rw [parseMembers] at reads
      split at reads
      · obtain ⟨⟨name, afterName⟩, _, goesOn⟩ := Option.bind_eq_some_iff.mp reads
        simp only at goesOn
        split at goesOn
        · obtain ⟨⟨value, afterValue⟩, readsValue, closes⟩ :=
            Option.bind_eq_some_iff.mp goesOn
          have distinctToo := namesDistinct_setMember (ofValue _ _ _ readsValue) distinct
          simp only at closes
          split at closes
          · exact ofMembers _ _ _ _ closes (distinctToo name)
          · cases closes
            exact distinctToo name
          · cases closes
        · cases goesOn
      · cases reads

theorem namesDistinct_of_parse {text : JsString} {value : Json}
    (reads : parse text = some value) : NamesDistinct value := by
  obtain ⟨⟨parsed, after⟩, readsValue, isWhole⟩ := Option.bind_eq_some_iff.mp reads
  simp only at isWhole
  split at isWhole
  · cases isWhole
    exact (namesDistinct_parse _).1 _ _ _ readsValue
  · cases isWhole

end

end Json

/-! ### Validating what was read back -/

section

variable {runtime : Runtime}

open Json

theorem get?_canonical {members : List (JsString × Json)}
    (distinct : (members.map Prod.fst).Nodup) (name : String) :
    get? (enumerated (canonicalMembers members)) name = (get? members name).map canonical := by
  have distinctToo : ((canonicalMembers members).map Prod.fst).Nodup := by
    rwa [canonicalMembers_eq, List.map_map]
  rw [get?, get?, lookup_enumerated distinctToo, canonicalMembers_eq, lookup_map_snd]

theorem normalizeRequiredString_canonical (field : Option Json) :
    normalizeRequiredString (field.map canonical) = normalizeRequiredString field := by
  cases field with
  | none => rfl
  | some value =>
    cases value with
    | number number => cases number <;> rfl
    | null | bool | string | array | object => rfl

/-- A value whose numbers are finite keeps its kind. -/
theorem canonical_of_number {number : JsNumber} (finite : NumbersFinite (.number number)) :
    canonical (.number number) = .number number := by
  obtain ⟨value, rfl⟩ := finite number (List.mem_singleton_self _)
  rfl

theorem normalizeAmount_canonical {value : Json} (finite : NumbersFinite value) :
    normalizeAmount (canonical value) = normalizeAmount value := by
  cases value with
  | number number => rw [canonical_of_number finite]
  | null | bool | string | array | object => rfl

theorem normalizeTimestamp_canonical {value : Json} (finite : NumbersFinite value) :
    normalizeTimestamp runtime (canonical value) = normalizeTimestamp runtime value := by
  cases value with
  | number number => rw [canonical_of_number finite]
  | null | bool | string | array | object => rfl

theorem numbersFinite_of_get? {members : List (JsString × Json)}
    (finite : NumbersFinite (.object members)) {name : String} {value : Json}
    (found : get? members name = some value) : NumbersFinite value := by
  obtain ⟨before, after, rfl, _⟩ := List.lookup_eq_some_iff.mp found
  have member : (ofString name, value) ∈ before ++ (ofString name, value) :: after :=
    List.mem_append_right _ List.mem_cons_self
  exact fun number inside =>
    finite number (List.mem_cons_of_mem _ (parts_subset_memberParts member inside))

variable {members : List (JsString × Json)}

theorem requiredString_canonical (distinct : (members.map Prod.fst).Nodup) (field : String) :
    requiredString (enumerated (canonicalMembers members)) field =
      requiredString members field := by
  rw [requiredString, requiredString, get?_canonical distinct, normalizeRequiredString_canonical]

theorem requiredValue_canonical (distinct : (members.map Prod.fst).Nodup)
    (finite : NumbersFinite (.object members)) (field : String) :
    requiredValue (enumerated (canonicalMembers members)) field =
      (requiredValue members field).map canonical := by
  rw [requiredValue, requiredValue, get?_canonical distinct]
  cases found : Json.get? members field with
  | none => rfl
  | some value =>
    cases value with
    | number number =>
      have same := canonical_of_number (numbersFinite_of_get? finite found)
      rw [Option.map_some, same]
      exact congrArg Except.ok same.symm
    | null | bool | string | array | object => rfl

theorem validateDescription_canonical (distinct : (members.map Prod.fst).Nodup)
    (finite : NumbersFinite (.object members)) :
    validateDescription (enumerated (canonicalMembers members)) =
      validateDescription members := by
  rw [validateDescription, validateDescription, get?_canonical distinct]
  cases found : Json.get? members "description" with
  | none => rfl
  | some value =>
    cases value with
    | number number =>
      rw [Option.map_some, canonical_of_number (numbersFinite_of_get? finite found)]
    | null | bool | string | array | object => rfl

/-- A step that comes to the same on a value as on what is read back of it. -/
theorem requiredValue_bind {Result : Type} (distinct : (members.map Prod.fst).Nodup)
    (finite : NumbersFinite (.object members)) (field : String)
    {stepBack step : Json → Except ValidationFailure Result}
    (same : ∀ value, NumbersFinite value → stepBack (canonical value) = step value) :
    (requiredValue (enumerated (canonicalMembers members)) field >>= stepBack) =
      requiredValue members field >>= step := by
  rw [requiredValue_canonical distinct finite]
  cases found : requiredValue members field with
  | error => rfl
  | ok value =>
    refine same value ?_
    unfold requiredValue at found
    split at found
    · cases found
    · cases found
    · rename_i isValue
      cases found
      exact numbersFinite_of_get? finite isValue

/-- The validator says the same of a value as of what is read back of it. -/
theorem validateTransaction_canonical {raw : Json} (distinct : NamesDistinct raw)
    (finite : NumbersFinite raw) (fallbackProvider : JsString) :
    validateTransaction runtime (canonical raw) fallbackProvider =
      validateTransaction runtime raw fallbackProvider := by
  cases raw with
  | number number => cases number <;> rfl
  | null | bool | string | array => rfl
  | object members =>
    have namesDistinct := distinct members List.mem_cons_self
    rw [canonical, validateTransaction, validateTransaction]
    simp only [get?_canonical namesDistinct, normalizeRequiredString_canonical,
      requiredString_canonical namesDistinct, validateDescription_canonical namesDistinct finite]
    refine bind_congr fun transactionId => bind_congr fun accountId =>
      bind_congr fun merchantId => ?_
    refine requiredValue_bind namesDistinct finite "amount" fun rawAmount amountFinite => ?_
    rw [normalizeAmount_canonical amountFinite]
    cases normalizeAmount rawAmount with
    | none => rfl
    | some amount =>
      refine bind_congr fun amount => bind_congr fun rawCurrency => ?_
      split
      · rfl
      · refine requiredValue_bind namesDistinct finite "timestamp" fun rawTime timeFinite => ?_
        rw [normalizeTimestamp_canonical timeFinite]

end

/-! ### Replaying a rejected line -/

theorem byteLength_le (text : JsString) : byteLength text ≤ 3 * text.length := by
  fun_induction byteLength text with
  | case1 => exact Nat.le_refl 0
  | case2 unit small | case3 unit notSmall small | case4 unit notSmall notMiddle =>
    exact of_decide_eq_true rfl
  | case5 unit next rest isPair inductionHypothesis =>
    rw [List.length_cons, List.length_cons]
    omega
  | case6 unit next rest notPair inductionHypothesis =>
    rw [List.length_cons] at inductionHypothesis ⊢
    have ofUnit : (if unit < 0x80 then 1 else if unit < 0x800 then 2 else 3) ≤ 3 := by
      split
      · decide
      · split <;> decide
    rw [List.length_cons]
    omega

theorem trim_trim (text : JsString) : trim (trim text) = trim text :=
  Trim.trim_eq_self isSpace (Trim.isTrimmed_trim isSpace text)

namespace Json

variable {runtime : Runtime}

/-- The text of a value has no white space at its ends. -/
theorem isTrimmed_stringify {value : Json} (prints : NumbersPrint runtime value) :
    Trim.IsTrimmed isSpace (stringify runtime value) where
  start := by
    obtain ⟨unit, rest, starts, notSpace, _⟩ := stringify_starts prints
    rw [starts]
    intro item isHead
    cases isHead
    exact notSpace
  finish := by
    have closed (text : JsString) (mark : UInt16) (notSpace : isSpace mark = false) :
        ∀ item ∈ (text ++ [mark]).getLast?, isSpace item = false := by
      intro item isLast
      rw [List.getLast?_concat] at isLast
      cases isLast
      exact notSpace
    cases value with
    | null => exact closed (ofString "nul") 0x6c rfl
    | bool value =>
      cases value with
      | true => exact closed (ofString "tru") 0x65 rfl
      | false => exact closed (ofString "fals") 0x65 rfl
    | string text => exact closed (0x22 :: quoteUnits text) 0x22 rfl
    | array items =>
      rw [stringify_array, ← List.cons_append]
      exact closed _ 0x5d rfl
    | object members =>
      rw [stringify_object_enumerated, ← List.cons_append]
      exact closed _ 0x7d rfl
    | number number =>
      cases number with
      | infinite | nan => exact closed (ofString "nul") 0x6c rfl
      | finite value =>
        exact fun item isLast => (prints value (List.mem_singleton_self _)).noSpace item
          (List.mem_of_getLast? isLast)

end Json

/-- The same result for another line number. -/
def LineParseResult.renumber (lineNumber : Nat) : LineParseResult → LineParseResult
  | .blank => .blank
  | .valid _ data => .valid lineNumber data
  | .rejected _ errorCode message rawValue => .rejected lineNumber errorCode message rawValue

theorem parseNdjsonLine_renumber (runtime : Runtime) (rawLine : JsString)
    (lineNumber other : Nat) :
    (parseNdjsonLine runtime rawLine lineNumber).renumber other =
      parseNdjsonLine runtime rawLine other := by
  unfold parseNdjsonLine
  simp only
  split
  · rfl
  · split
    · rfl
    · split <;> rfl

/-- The text of a value that is not too long is read as what is read back of the value. -/
theorem parseNdjsonLine_stringify {runtime : Runtime} {data : Json}
    (distinct : Json.NamesDistinct data) (prints : Json.NumbersPrint runtime data)
    (short : 3 * (Json.stringify runtime data).length ≤ MAX_LINE_BYTES) (lineNumber : Nat) :
    parseNdjsonLine runtime (Json.stringify runtime data) lineNumber =
      .valid lineNumber (Json.canonical data) := by
  have trimmed : trim (Json.stringify runtime data) = Json.stringify runtime data :=
    Trim.trim_eq_self isSpace (Json.isTrimmed_stringify prints)
  have notEmpty : (Json.stringify runtime data).isEmpty = false := by
    obtain ⟨unit, rest, starts, _⟩ := Json.stringify_starts prints
    rw [starts]
    rfl
  have fits : ¬ MAX_LINE_BYTES < byteLength (Json.stringify runtime data) :=
    Nat.not_lt_of_le ((byteLength_le _).trans short)
  rw [parseNdjsonLine]
  simp only [trimmed, notEmpty, Bool.false_eq_true, if_false, if_neg fits,
    Json.parse_stringify distinct prints]

namespace ProcessImportFile

/-- What is stored of a rejected line is all of it, and reads back as the same value. -/
structure KeepsWhole (runtime : Runtime) (rawLine : JsString) : Prop where
  ofLine : readJson rawLine = none → (trim rawLine).length ≤ 200
  ofValue : ∀ data, readJson rawLine = some data →
    (Json.stringify runtime data).length ≤ RAW_VALUE_CAP ∧
      Json.NumbersFinite data ∧ Json.NumbersPrint runtime data

section

variable {ports : Ports} {fallbackProvider rawLine : JsString}

/-- Where a line stands in the file only shows in the number of its rejection. -/
theorem handleLine_elsewhere {lineNumber : Nat} {record : RejectedRecordInput}
    (rejects : handleLine ports fallbackProvider rawLine lineNumber = .rejected record)
    (other : Nat) :
    handleLine ports fallbackProvider rawLine other =
      .rejected { record with lineNumber := other } := by
  rw [handleLine, ← parseNdjsonLine_renumber ports.runtime rawLine lineNumber other]
  rw [handleLine] at rejects
  cases parsed : parseNdjsonLine ports.runtime rawLine lineNumber with
  | blank =>
    rw [parsed] at rejects
    cases rejects
  | rejected given errorCode message rawValue =>
    rw [parsed] at rejects
    cases rejects
    rfl
  | valid given data =>
    rw [parsed] at rejects
    simp only [LineParseResult.renumber] at rejects ⊢
    cases validated : validateTransaction ports.runtime data fallbackProvider with
    | ok transaction =>
      rw [validated] at rejects
      cases rejects
    | error failure =>
      rw [validated] at rejects
      cases rejects
      rfl

theorem handleLine_trim (lineNumber : Nat) :
    handleLine ports fallbackProvider (trim rawLine) lineNumber =
      handleLine ports fallbackProvider rawLine lineNumber := by
  rw [handleLine, handleLine, parseNdjsonLine, parseNdjsonLine, trim_trim]

theorem namesDistinct_of_readJson {data : Json} (read : readJson rawLine = some data) :
    Json.NamesDistinct data := by
  unfold readJson at read
  split at read
  · cases read
  · exact Json.namesDistinct_of_parse read

end

/-- A rejected line of which everything was stored can be replayed: uploaded again, what was
stored of it is rejected with the same code and message, and stored as the same text. -/
theorem rejected_replays (ports : Ports) (fallbackProvider rawLine : JsString)
    (lineNumber : Nat) (record : RejectedRecordInput)
    (rejects : handleLine ports fallbackProvider rawLine lineNumber = .rejected record)
    (whole : KeepsWhole ports.runtime rawLine) (replayed : Nat) :
    handleLine ports fallbackProvider record.rawValueTruncated replayed =
      .rejected { record with lineNumber := replayed } := by
  have stored := rawValue_of_rejected rejects
  cases read : readJson rawLine with
  | none =>
    rw [read] at stored
    have same := stored.trans (List.take_of_length_le (whole.ofLine read))
    rw [same, handleLine_trim, handleLine_elsewhere rejects replayed, same]
  | some data =>
    rw [read] at stored
    obtain ⟨short, finite, prints⟩ := whole.ofValue data read
    have distinct : Json.NamesDistinct data := namesDistinct_of_readJson read
    have same := stored.trans (List.take_of_length_le short)
    have fits : 3 * (Json.stringify ports.runtime data).length ≤ MAX_LINE_BYTES :=
      (Nat.mul_le_mul_left 3 short).trans (by decide)
    rw [same, handleLine, parseNdjsonLine_stringify distinct prints fits]
    rw [handleLine] at rejects
    rcases parseNdjsonLine_cases ports.runtime rawLine lineNumber with
      blank | ⟨unread, _⟩ | ⟨other, readOther, valid⟩
    · rw [blank] at rejects
      cases rejects
    · rw [read] at unread
      cases unread
    · rw [read] at readOther
      cases readOther
      rw [valid] at rejects
      simp only at rejects ⊢
      rw [validateTransaction_canonical distinct finite]
      cases validated : validateTransaction ports.runtime data fallbackProvider with
      | ok transaction =>
        rw [validated] at rejects
        cases rejects
      | error failure =>
        rw [validated] at rejects
        cases rejects
        simp only [Json.stringify_canonical, List.take_of_length_le short]

/-- A record without a transaction, whose second member is listed first when it is stored. -/
def reordered : JsString := ofString "\x7b\"b\":null,\"1\":\"x\"\x7d"

/-- A rejected record whose text has its members in another order than the line. -/
def storedReordered : RejectedRecordInput where
  lineNumber := 1
  errorCode := .validation .MISSING_FIELD
  message := ofString "transactionId is required."
  rawValueTruncated := ofString "\x7b\"1\":\"x\",\"b\":null\x7d"

theorem reordered_rejected :
    handleLine System.emptyFilePorts [] reordered 1 = .rejected storedReordered := by
  decide +kernel

/-- The value is no number. -/
def isOther : Json → Bool
  | .number _ => false
  | _ => true

/-- A short value without numbers is kept whole by every host. -/
theorem keepsWhole_of_noNumber {runtime : Runtime} {rawLine : JsString}
    (short : (readJson rawLine).any fun data =>
      decide ((Json.stringify runtime data).length ≤ RAW_VALUE_CAP) &&
        (Json.parts data).all isOther) :
    KeepsWhole runtime rawLine := by
  obtain ⟨data, read, fits⟩ := (Option.any_eq_true _ _).mp short
  obtain ⟨fits, noNumber⟩ := Bool.and_eq_true_iff.mp fits
  constructor
  · intro unread
    rw [read] at unread
    cases unread
  · intro other readOther
    rw [read] at readOther
    cases readOther
    refine ⟨of_decide_eq_true fits, fun number inside => ?_, fun finite inside => ?_⟩
    · cases List.all_eq_true.mp noNumber _ inside
    · cases List.all_eq_true.mp noNumber _ inside

/-- What was stored of it, uploaded as the seventh line of another file. -/
theorem rejected_replays_reordered :
    handleLine System.emptyFilePorts [] storedReordered.rawValueTruncated 7 =
      .rejected { storedReordered with lineNumber := 7 } :=
  rejected_replays System.emptyFilePorts [] reordered 1 storedReordered reordered_rejected
    (keepsWhole_of_noNumber (by decide +kernel)) 7

end ProcessImportFile

end ImportService
