/-
This file proves that JSON text reads back: a string quoted by `JSON.stringify` is the
string `JSON.parse` returns, and so is an object of strings, nulls and numbers, as long as
the host prints the numbers so that they read back.
-/

import ImportService.Json

namespace ImportService

open JsString

namespace Json

/-! ### Strings -/

theorem digitValue_hexDigit {value : Nat} (digit : value < 16) :
    JsNumber.digitValue (hexDigit value) = some value := by
  have all : ∀ value < 16, JsNumber.digitValue (hexDigit value) = some value := by decide
  exact all value digit

theorem inBase_unicodeEscape (unit : UInt16) :
    JsNumber.inBase 16 [hexDigit (unit.toNat / 0x1000), hexDigit (unit.toNat / 0x100 % 0x10),
        hexDigit (unit.toNat / 0x10 % 0x10), hexDigit (unit.toNat % 0x10)] =
      some unit.toNat := by
  have bounded : unit.toNat < 65536 := unit.toNat_lt
  have digit (value : Nat) : value % 0x10 < 16 := Nat.mod_lt value (by decide)
  have first : unit.toNat / 0x1000 < 16 := by omega
  simp only [JsNumber.inBase, List.isEmpty_cons, Bool.false_eq_true, if_false, List.foldl_cons,
    List.foldl_nil, Option.bind_eq_bind, Option.bind_some, digitValue_hexDigit first,
    digitValue_hexDigit (digit _), if_pos first, if_pos (digit _), Option.some.injEq]
  omega

theorem parseString_unicodeEscape (unit : UInt16) (text : JsString) :
    parseString (unicodeEscape unit ++ text) =
      (parseString text).map fun (tail, after) => (unit :: tail, after) := by
  rw [unicodeEscape, List.cons_append, List.cons_append, List.cons_append, List.cons_append,
    List.cons_append, List.cons_append, List.nil_append, parseString, inBase_unicodeEscape]
  cases parseString text with
  | none => rfl
  | some parsed => simp

theorem parseString_plain {unit : UInt16} (notControl : ¬ unit < 0x20) (notQuote : unit ≠ 0x22)
    (notBackslash : unit ≠ 0x5c) (text : JsString) :
    parseString (unit :: text) =
      (parseString text).map fun (tail, after) => (unit :: tail, after) := by
  have printed : ¬ (unit < 0x20 ∨ unit = 0x5c) := not_or.mpr ⟨notControl, notBackslash⟩
  rw [parseString, if_neg (by simpa using printed)]
  · cases parseString text with
    | none => rfl
    | some parsed => rfl
  · exact notQuote
  · exact fun _ _ _ _ _ isBackslash _ => notBackslash isBackslash
  · exact fun _ _ isBackslash _ => notBackslash isBackslash

/-- A unit that has a one-letter escape. -/
theorem parseString_escaped {letter unit : UInt16} (isEscape : escaped letter = some unit)
    (notHex : letter ≠ 0x75) (text : JsString) :
    parseString (0x5c :: letter :: text) =
      (parseString text).map fun (tail, after) => (unit :: tail, after) := by
  rw [parseString, isEscape]
  · cases parseString text with
    | none => rfl
    | some parsed => rfl
  · exact fun _ _ _ _ _ isHex _ => notHex isHex

theorem parseString_quoteUnit (unit : UInt16) (text : JsString) :
    parseString (quoteUnit unit ++ text) =
      (parseString text).map fun (tail, after) => (unit :: tail, after) := by
  unfold quoteUnit
  split
  · rename_i quoted
    rw [Bool.or_eq_true, decide_eq_true_eq, decide_eq_true_eq] at quoted
    rcases quoted with rfl | rfl
    · exact parseString_escaped rfl (by decide) text
    · exact parseString_escaped rfl (by decide) text
  · rename_i notQuoted
    rw [Bool.or_eq_true, decide_eq_true_eq, decide_eq_true_eq, not_or] at notQuoted
    split
    · rename_i same
      rw [same]
      exact parseString_escaped rfl (by decide) text
    · split
      · rename_i same
        rw [same]
        exact parseString_escaped rfl (by decide) text
      · split
        · rename_i same
          rw [same]
          exact parseString_escaped rfl (by decide) text
        · split
          · rename_i same
            rw [same]
            exact parseString_escaped rfl (by decide) text
          · split
            · rename_i same
              rw [same]
              exact parseString_escaped rfl (by decide) text
            · split
              · exact parseString_unicodeEscape unit text
              · rename_i notControl
                exact parseString_plain notControl notQuoted.1 notQuoted.2 text

theorem isPlain_of_surrogate {unit : UInt16}
    (surrogate : isHighSurrogate unit = true ∨ isLowSurrogate unit = true) :
    ¬ unit < 0x20 ∧ unit ≠ 0x22 ∧ unit ≠ 0x5c := by
  simp only [isHighSurrogate, isLowSurrogate, Bool.and_eq_true, decide_eq_true_eq,
    UInt16.le_iff_toNat_le, UInt16.reduceToNat] at surrogate
  refine ⟨?_, ?_, ?_⟩
  · rw [UInt16.lt_iff_toNat_lt]
    simp only [UInt16.reduceToNat]
    omega
  · rintro rfl
    simp only [UInt16.reduceToNat] at surrogate
    omega
  · rintro rfl
    simp only [UInt16.reduceToNat] at surrogate
    omega

/-- Reading what `quote` wrote, up to its closing quote. -/
theorem parseString_quoteUnits (text rest : JsString) :
    parseString (quoteUnits text ++ 0x22 :: rest) = some (text, rest) := by
  fun_induction quoteUnits text with
  | case1 => rw [List.nil_append, parseString]
  | case2 unit surrogate => rw [parseString_unicodeEscape, parseString]; rfl
  | case3 unit notSurrogate => rw [parseString_quoteUnit, parseString]; rfl
  | case4 unit next tail isPair inductionHypothesis =>
    rw [Bool.and_eq_true] at isPair
    obtain ⟨notControl, notQuote, notBackslash⟩ := isPlain_of_surrogate (Or.inl isPair.1)
    obtain ⟨nextNotControl, nextNotQuote, nextNotBackslash⟩ :=
      isPlain_of_surrogate (Or.inr isPair.2)
    rw [List.cons_append, List.cons_append, parseString_plain notControl notQuote notBackslash,
      parseString_plain nextNotControl nextNotQuote nextNotBackslash, inductionHypothesis]
    rfl
  | case5 unit next tail notPair surrogate inductionHypothesis =>
    rw [List.append_assoc, parseString_unicodeEscape, inductionHypothesis]
    rfl
  | case6 unit next tail notPair notSurrogate inductionHypothesis =>
    rw [List.append_assoc, parseString_quoteUnit, inductionHypothesis]
    rfl

/-! ### Numbers -/

theorem head_of_parseNumber {text : JsString} {parsed : JsNumber × JsString}
    (reads : parseNumber text = some parsed) :
    ∃ unit rest, text = unit :: rest ∧ (unit = 0x2d ∨ isDigit unit = true) := by
  cases text with
  | nil => cases reads
  | cons unit rest =>
    refine ⟨unit, rest, rfl, ?_⟩
    by_contra neither
    rw [not_or, Bool.not_eq_true] at neither
    obtain ⟨notMinus, notDigit⟩ := neither
    have notZero : unit ≠ 0x30 := by
      rintro rfl
      cases notDigit
    have noDigits : (unit :: rest).span isDigit = ([], unit :: rest) := by
      rw [List.span_eq_takeWhile_dropWhile, List.takeWhile_cons_of_neg (by simpa using notDigit),
        List.dropWhile_cons_of_neg (by simpa using notDigit)]
    unfold parseNumber at reads
    split at reads
    rename_i negative unsigned isUnsigned
    split at isUnsigned
    · rename_i isMinus
      exact notMinus (List.cons.inj isMinus).1
    · cases isUnsigned
      split at reads
      rename_i whole afterWhole isWhole
      split at isWhole
      · rename_i isZero
        exact notZero (List.cons.inj isZero).1
      · rw [noDigits] at isWhole
        cases isWhole
        cases reads

theorem skipSpace_cons {unit : UInt16} (rest : JsString)
    (notSpace : unit ∉ [0x20, 0x09, 0x0a, 0x0d]) : skipSpace (unit :: rest) = unit :: rest := by
  simp only [List.mem_cons, List.not_mem_nil, or_false, not_or] at notSpace
  obtain ⟨notBlank, notTab, notFeed, notReturn⟩ := notSpace
  refine List.dropWhile_cons_of_neg ?_
  simp only [Bool.or_eq_true, beq_iff_eq, notBlank, notTab, notFeed, notReturn, or_self,
    not_false_eq_true]

theorem expect_eq_none {literal : String} {unit other : UInt16} {rest tail : JsString}
    (isLiteral : ofString literal = other :: rest) (different : other ≠ unit) :
    expect literal (unit :: tail) = none := by
  rw [expect, isLiteral]
  refine if_neg ?_
  rw [List.isPrefixOf_cons_cons, Bool.and_eq_true, beq_iff_eq]
  exact fun both => different both.1

theorem parseValue_number {text : JsString} {value : JsNumber} {after : JsString}
    (reads : parseNumber text = some (value, after)) (fuel : Nat) :
    parseValue (fuel + 1) text = some (.number value, after) := by
  obtain ⟨unit, rest, rfl, starts⟩ := head_of_parseNumber reads
  have bounds : unit.toNat = 0x2d ∨ 0x30 ≤ unit.toNat ∧ unit.toNat ≤ 0x39 := by
    rcases starts with rfl | digit
    · exact Or.inl rfl
    · rw [isDigit, Bool.and_eq_true, decide_eq_true_eq, decide_eq_true_eq,
        UInt16.le_iff_toNat_le, UInt16.le_iff_toNat_le] at digit
      exact Or.inr digit
  have differs {other : UInt16} (far : other.toNat < 0x2d ∨ 0x39 < other.toNat) :
      other ≠ unit := by
    rintro rfl
    omega
  have notSpace : unit ∉ [0x20, 0x09, 0x0a, 0x0d] := by
    simp only [List.mem_cons, List.not_mem_nil, or_false, not_or]
    exact ⟨(differs (by decide)).symm, (differs (by decide)).symm, (differs (by decide)).symm,
      (differs (by decide)).symm⟩
  rw [parseValue, skipSpace_cons rest notSpace]
  split
  · rename_i isEmpty
    cases isEmpty
  · rename_i isQuote
    exact absurd (List.cons.inj isQuote).1.symm (differs (by decide))
  · rename_i isBracket
    exact absurd (List.cons.inj isBracket).1.symm (differs (by decide))
  · rename_i isBrace
    exact absurd (List.cons.inj isBrace).1.symm (differs (by decide))
  · rw [expect_eq_none rfl (differs (by decide)), expect_eq_none rfl (differs (by decide)),
      expect_eq_none rfl (differs (by decide)), reads]
    rfl

/-! ### Objects of plain values -/

/-- The host prints the number so that it reads back, in front of a comma or a closing brace. -/
def PrintsReadably (runtime : Runtime) (value : Rat) : Prop :=
  ∀ mark rest, mark = 0x2c ∨ mark = 0x7d →
    parseNumber (runtime.numberToString value ++ mark :: rest) =
      some (.finite value, mark :: rest)

/-- A value without parts, which reads back if it is a number. -/
def IsScalar (runtime : Runtime) : Json → Prop
  | .null | .string _ => True
  | .number (.finite value) => PrintsReadably runtime value
  | _ => False

theorem parseValue_scalar {runtime : Runtime} {value : Json} (scalar : IsScalar runtime value)
    (fuel : Nat) {mark : UInt16} (isMark : mark = 0x2c ∨ mark = 0x7d) (rest : JsString) :
    parseValue (fuel + 1) (stringify runtime value ++ mark :: rest) =
      some (value, mark :: rest) := by
  cases value with
  | null =>
    have literal : ofString "null" = [0x6e, 0x75, 0x6c, 0x6c] := rfl
    rw [stringify, literal]
    rfl
  | string text =>
    rw [stringify, quote, List.cons_append, List.cons_append, List.append_assoc,
      List.singleton_append, parseValue, skipSpace_cons _ (by decide)]
    simp only
    rw [parseString_quoteUnits]
    rfl
  | number number =>
    cases number with
    | finite value =>
      rw [stringify]
      exact parseValue_number (scalar mark rest isMark) fuel
    | infinite negative => exact scalar.elim
    | nan => exact scalar.elim
  | bool value => exact scalar.elim
  | array items => exact scalar.elim
  | object members => exact scalar.elim

/-- The text of one member. -/
def memberText (runtime : Runtime) (member : JsString × Json) : JsString :=
  quote member.1 ++ ofString ":" ++ stringify runtime member.2

/-- After a member comes a comma and the next one, or the closing brace. -/
theorem parseMembers_member {runtime : Runtime} {member : JsString × Json}
    (scalar : IsScalar runtime member.2) (fuel : Nat) (earlier : List (JsString × Json))
    {mark : UInt16} (isMark : mark = 0x2c ∨ mark = 0x7d) (rest : JsString) :
    parseMembers (fuel + 2) earlier (memberText runtime member ++ mark :: rest) =
      if mark = 0x2c then parseMembers (fuel + 1) (setMember member.1 member.2 earlier) rest
      else some (setMember member.1 member.2 earlier, rest) := by
  have colon : ofString ":" = [0x3a] := rfl
  have text : memberText runtime member ++ mark :: rest =
      0x22 :: (quoteUnits member.1 ++ 0x22 :: (0x3a :: (stringify runtime member.2 ++
        mark :: rest))) := by
    rw [memberText, quote, colon]
    simp only [List.cons_append, List.append_assoc, List.nil_append]
  rw [text, parseMembers, skipSpace_cons _ (by decide)]
  simp only [parseString_quoteUnits, Option.bind_eq_bind, Option.bind_some]
  rw [skipSpace_cons _ (by decide)]
  simp only [parseValue_scalar scalar fuel isMark rest, Option.bind_some]
  rcases isMark with rfl | rfl
  · rw [skipSpace_cons _ (by decide), if_pos rfl]
    rfl
  · rw [skipSpace_cons _ (by decide), if_neg (by decide)]
    rfl

/-- Reading the members up to the closing brace, one step a member. -/
theorem parseMembers_joined {runtime : Runtime} {members : List (JsString × Json)}
    (notEmpty : members ≠ []) (scalars : ∀ member ∈ members, IsScalar runtime member.2)
    {fuel : Nat} (enough : members.length < fuel) (earlier : List (JsString × Json))
    (rest : JsString) :
    parseMembers fuel earlier
        (joined (ofString ",") (members.map (memberText runtime)) ++ 0x7d :: rest) =
      some (members.foldl (fun members member => setMember member.1 member.2 members) earlier,
        rest) := by
  induction members generalizing fuel earlier with
  | nil => exact absurd rfl notEmpty
  | cons member later inductionHypothesis =>
    rw [List.length_cons] at enough
    obtain ⟨less, rfl⟩ : ∃ less, fuel = less + 2 := ⟨fuel - 2, by omega⟩
    have scalar := scalars member List.mem_cons_self
    cases later with
    | nil =>
      rw [List.map_cons, List.map_nil, joined, parseMembers_member scalar less earlier (Or.inr rfl),
        if_neg (by decide)]
      rfl
    | cons next others =>
      have comma : ofString "," = [0x2c] := rfl
      rw [List.map_cons, List.map_cons, joined, comma, List.append_assoc, List.append_assoc,
        List.singleton_append, parseMembers_member scalar less earlier (Or.inl rfl), if_pos rfl,
        ← comma, ← List.map_cons, List.foldl_cons]
      · refine inductionHypothesis (List.cons_ne_nil next others) ?_ (by omega) _
        exact fun other isOther => scalars other (List.mem_cons_of_mem _ isOther)
      · exact List.cons_ne_nil _ _

/-- A new name is set at the end. -/
theorem setMember_of_notMem {name : JsString} (value : Json) {members : List (JsString × Json)}
    (isNew : name ∉ members.map Prod.fst) :
    setMember name value members = members ++ [(name, value)] := by
  induction members with
  | nil => rfl
  | cons member rest inductionHypothesis =>
    rw [List.map_cons, List.mem_cons, not_or] at isNew
    rw [setMember, if_neg (Ne.symm isNew.1), inductionHypothesis isNew.2]
    rfl

theorem foldl_setMember {earlier members : List (JsString × Json)}
    (distinct : ((earlier ++ members).map Prod.fst).Nodup) :
    members.foldl (fun members member => setMember member.1 member.2 members) earlier =
      earlier ++ members := by
  induction members generalizing earlier with
  | nil => rw [List.append_nil]; rfl
  | cons member rest inductionHypothesis =>
    have isNew : member.1 ∉ earlier.map Prod.fst := by
      intro isOld
      rw [List.map_append, List.nodup_append] at distinct
      exact distinct.2.2 _ isOld _ (List.mem_cons_self) rfl
    rw [List.foldl_cons, setMember_of_notMem member.2 isNew, inductionHypothesis]
    · rw [List.append_assoc, List.singleton_append]
    · rw [List.append_assoc, List.singleton_append]
      exact distinct

/-- Members whose names are no array indices are listed as they are. -/
theorem enumerated_eq_self {Value : Type} {members : List (JsString × Value)}
    (noIndex : ∀ member ∈ members, arrayIndex member.1 = none) : enumerated members = members := by
  have indices : members.filter (fun member => (arrayIndex member.1).isSome) = [] := by
    refine List.filter_eq_nil_iff.mpr fun member isMember => ?_
    rw [noIndex member isMember]
    exact Bool.false_ne_true
  have others : members.filter (fun member => !(arrayIndex member.1).isSome) = members := by
    refine List.filter_eq_self.mpr fun member isMember => ?_
    rw [noIndex member isMember]
    rfl
  rw [enumerated, indices, others, List.mergeSort_nil, List.nil_append]

theorem memberTexts_eq (runtime : Runtime) (members : List (JsString × Json)) :
    memberTexts runtime members =
      members.map fun member => (member.1, stringify runtime member.2) := by
  induction members with
  | nil => rfl
  | cons member rest inductionHypothesis =>
    rw [memberTexts, inductionHypothesis]
    rfl

theorem stringify_object (runtime : Runtime) {members : List (JsString × Json)}
    (noIndex : ∀ member ∈ members, arrayIndex member.1 = none) :
    stringify runtime (.object members) =
      0x7b :: (joined (ofString ",") (members.map (memberText runtime)) ++ [0x7d]) := by
  have openBrace : ofString "\x7b" = [0x7b] := rfl
  have closeBrace : ofString "\x7d" = [0x7d] := rfl
  have noIndexText : ∀ member ∈ memberTexts runtime members, arrayIndex member.1 = none := by
    rw [memberTexts_eq]
    intro member isMember
    obtain ⟨other, isOther, rfl⟩ := List.mem_map.mp isMember
    exact noIndex other isOther
  rw [stringify, enumerated_eq_self noIndexText, memberTexts_eq, List.map_map, openBrace,
    closeBrace, List.append_assoc]
  rfl

theorem length_le_joined (separator : JsString) {texts : List JsString}
    (given : ∀ text ∈ texts, text ≠ []) : texts.length ≤ (joined separator texts).length := by
  induction texts with
  | nil => exact Nat.le_refl 0
  | cons text rest inductionHypothesis =>
    have positive := List.length_pos_of_ne_nil (given text List.mem_cons_self)
    cases rest with
    | nil => exact positive
    | cons next others =>
      have later := inductionHypothesis fun other isOther =>
        given other (List.mem_cons_of_mem _ isOther)
      rw [joined, List.length_cons, List.length_append, List.length_append]
      · omega
      · exact List.cons_ne_nil next others

theorem joined_starts (runtime : Runtime) {members : List (JsString × Json)}
    (notEmpty : members ≠ []) :
    ∃ rest, joined (ofString ",") (members.map (memberText runtime)) = 0x22 :: rest := by
  cases members with
  | nil => exact absurd rfl notEmpty
  | cons member later =>
    cases later with
    | nil => exact ⟨_, rfl⟩
    | cons next others => exact ⟨_, rfl⟩

/-- An object of plain values, with distinct names that are no array indices, reads back. -/
theorem parse_stringify_object {runtime : Runtime} {members : List (JsString × Json)}
    (notEmpty : members ≠ []) (scalars : ∀ member ∈ members, IsScalar runtime member.2)
    (noIndex : ∀ member ∈ members, arrayIndex member.1 = none)
    (distinct : (members.map Prod.fst).Nodup) :
    parse (stringify runtime (.object members)) = some (.object members) := by
  rw [stringify_object runtime noIndex]
  obtain ⟨body, isBody⟩ :
      ∃ body, joined (ofString ",") (members.map (memberText runtime)) = body := ⟨_, rfl⟩
  have enough : members.length < body.length + 2 := by
    have given : ∀ text ∈ members.map (memberText runtime), text ≠ [] := by
      intro text isText
      obtain ⟨member, _, rfl⟩ := List.mem_map.mp isText
      exact List.cons_ne_nil _ _
    have short := length_le_joined (ofString ",") given
    rw [List.length_map, isBody] at short
    omega
  have reads := parseMembers_joined notEmpty scalars enough [] []
  rw [isBody, foldl_setMember (by rw [List.nil_append]; exact distinct), List.nil_append] at reads
  obtain ⟨rest, starts⟩ := joined_starts runtime notEmpty
  rw [isBody] at starts ⊢
  rw [parse, parseValue, skipSpace_cons _ (by decide)]
  simp only
  have first : skipSpace (body ++ [0x7d]) = 0x22 :: (rest ++ [0x7d]) := by
    rw [starts, List.cons_append, skipSpace_cons _ (by decide)]
  rw [first]
  simp only [List.length_cons, List.length_append, List.length_nil, Nat.zero_add, reads]
  rfl

end Json

end ImportService
