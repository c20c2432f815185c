import CaseScript.Json.Parse
import Mathlib.Tactic.SplitIfs

/-!
# Written values read back

A JSON value that is written is read as the same value.  The statement is about plain values: those
without numbers, whose texts and names can all be read.

There are four groups.

* Texts.  `renderChar_cases` tells the ways to write a character apart, `exists_unit` says what one
  written character is read as, and `exists_units` what a whole text is.
* Tokens.  `CutInto` says that characters are cut into given tokens whatever follows them, with one
  lemma for each kind of token.
* Nesting.  `Takes` says that a value stands in front of tokens, with one lemma for each way to nest
  them.
* Values.  `Plain.readsBack` puts both together by induction on the value, and `Plain.parse_render`
  is the result.
-/

namespace CaseScript.Json

/-! ## Texts -/

/-- Two digits spell their number. -/
theorem hexNumber?_twoHexDigits : ∀ n < 32,
    Text.hexNumber? ('0' :: '0' :: Text.twoHexDigits n) = some n := by
  decide

/-- A character that is written as an escape of one letter. -/
theorem textUnits_shortEscape {e c : Char} (hne : e ≠ 'u') (h : shortEscape? e = some c)
    (more : List Char) :
    textUnits ('\\' :: e :: more) =
      (textUnits more).map fun (units, after) => (.char c :: units, after) := by
  rw [textUnits.eq_def]
  simp [hne, h]
  cases textUnits more <;> rfl

/-- A character that is written as its number. -/
theorem textUnits_number {n : Nat} (h : n < 32) (more : List Char) :
    textUnits ('\\' :: 'u' :: '0' :: '0' :: (Text.twoHexDigits n ++ more)) =
      (textUnits more).map fun (units, after) => (.unit n :: units, after) := by
  have hdigits := hexNumber?_twoHexDigits n h
  rw [Text.twoHexDigits] at hdigits ⊢
  rw [textUnits.eq_def]
  simp [hdigits]
  cases textUnits more <;> rfl

/-- A character that is written as it stands. -/
theorem textUnits_verbatim {c : Char} (hquote : c ≠ '"') (hbackslash : c ≠ '\\')
    (hlarge : ¬ c.toNat < 32) (more : List Char) :
    textUnits (c :: more) =
      (textUnits more).map fun (units, after) => (.char c :: units, after) := by
  rw [textUnits.eq_def]
  simp [hquote, hbackslash, hlarge]
  cases textUnits more <;> rfl

theorem eq_of_toNat_beq {c : Char} {n : Nat} (h : (c.toNat == n) = true) : c = Char.ofNat n := by
  rw [← beq_iff_eq.1 h, Char.ofNat_toNat]

/-- A character is written as an escape of one letter, as its number or as it stands. -/
theorem renderChar_cases (c : Char) :
    (∃ e, e ≠ 'u' ∧ shortEscape? e = some c ∧ renderChar c = ['\\', e]) ∨
      (c.toNat < 32 ∧ renderChar c = ['\\', 'u', '0', '0'] ++ Text.twoHexDigits c.toNat) ∨
      (c ≠ '"' ∧ c ≠ '\\' ∧ ¬ c.toNat < 32 ∧ renderChar c = [c]) := by
  unfold renderChar
  split_ifs with hquote hbackslash hback htab hfeed hform hreturn hsmall
  · exact .inl ⟨'"', by decide, by rw [beq_iff_eq.1 hquote]; rfl, rfl⟩
  · exact .inl ⟨'\\', by decide, by rw [beq_iff_eq.1 hbackslash]; rfl, rfl⟩
  · exact .inl ⟨'b', by decide, by rw [eq_of_toNat_beq hback]; rfl, rfl⟩
  · exact .inl ⟨'t', by decide, by rw [eq_of_toNat_beq htab]; rfl, rfl⟩
  · exact .inl ⟨'n', by decide, by rw [eq_of_toNat_beq hfeed]; rfl, rfl⟩
  · exact .inl ⟨'f', by decide, by rw [eq_of_toNat_beq hform]; rfl, rfl⟩
  · exact .inl ⟨'r', by decide, by rw [eq_of_toNat_beq hreturn]; rfl, rfl⟩
  · exact .inr (.inl ⟨hsmall, rfl⟩)
  · exact .inr (.inr ⟨by simpa using hquote, by simpa using hbackslash, hsmall, rfl⟩)

/-- What is written for a character is read as one unit, and that unit as the character. -/
theorem exists_unit (c : Char) :
    ∃ unit, (∀ more, textUnits (renderChar c ++ more) =
        (textUnits more).map fun (units, after) => (unit :: units, after)) ∧
      ∀ units, assemble (unit :: units) = (assemble units).map (c :: ·) := by
  rcases renderChar_cases c with ⟨e, hne, hescape, hwritten⟩ | ⟨hsmall, hwritten⟩ |
      ⟨hquote, hbackslash, hlarge, hwritten⟩
  · exact ⟨.char c, hwritten ▸ textUnits_shortEscape hne hescape, fun _ => rfl⟩
  · refine ⟨.unit c.toNat, hwritten ▸ textUnits_number hsmall, fun units => ?_⟩
    -- the number is no half of a surrogate pair, so it stands for a character by itself
    have hhigh : isHighHalf c.toNat = false := by
      simp only [isHighHalf, Bool.and_eq_false_iff, decide_eq_false_iff_not]
      omega
    have hlow : isLowHalf c.toNat = false := by
      simp only [isLowHalf, Bool.and_eq_false_iff, decide_eq_false_iff_not]
      omega
    rw [assemble.eq_def]
    simp [hhigh, hlow]
  · exact ⟨.char c, hwritten ▸ textUnits_verbatim hquote hbackslash hlarge, fun _ => rfl⟩

/-- What is written for a text is read as units up to the closing quote, and these as the text. -/
theorem exists_units (cs : List Char) :
    ∃ units, assemble units = some cs ∧
      ∀ more, textUnits (cs.flatMap renderChar ++ '"' :: more) = some (units, more) := by
  induction cs with
  | nil =>
    refine ⟨[], rfl, fun more => ?_⟩
    rw [List.flatMap_nil, List.nil_append, textUnits.eq_def]
    rfl
  | cons c cs ih =>
    obtain ⟨unit, hread, hunit⟩ := exists_unit c
    obtain ⟨units, hassemble, hunits⟩ := ih
    refine ⟨unit :: units, by rw [hunit, hassemble]; rfl, fun more => ?_⟩
    rw [List.flatMap_cons, List.append_assoc, hread, hunits]
    rfl

/-! ## Tokens -/

/-- The characters are cut into the tokens, whatever follows them. -/
def CutInto (cs : List Char) (toks : List Token) : Prop :=
  ∀ rest, tokens (cs ++ rest) = (tokens rest).map (toks ++ ·)

theorem CutInto.append {first second : List Char} {toks toks' : List Token}
    (h : CutInto first toks) (h' : CutInto second toks') :
    CutInto (first ++ second) (toks ++ toks') := by
  intro rest
  rw [List.append_assoc, h, h', Option.map_map]
  simp only [Function.comp_def, List.append_assoc]

/-- A token at the front, in front of what the rest is cut into. -/
theorem tokens_cons {c : Char} {rest after : List Char} {token : Token}
    (hblank : isBlank c = false) (h : lexemeAt c rest = some (token, after)) :
    tokens (c :: rest) = (tokens after).map (token :: ·) := by
  rw [tokens, if_neg (by simp [hblank])]
  split
  · rename_i hnone
    rw [h] at hnone
    cases hnone
  · rename_i hsome
    rw [h] at hsome
    cases hsome
    rfl

theorem cutInto_mark {c : Char} {token : Token} (hblank : isBlank c = false)
    (h : mark? c = some token) : CutInto [c] [token] := by
  intro rest
  exact tokens_cons hblank (by simp [lexemeAt, h])

theorem cutInto_text (s : String) : CutInto (renderText s) [.text (some s)] := by
  intro rest
  obtain ⟨units, hassemble, hunits⟩ := exists_units s.toList
  rw [renderText, List.append_assoc, List.cons_append, List.singleton_append]
  refine tokens_cons rfl ?_
  have hmark : mark? '"' = none := rfl
  simp [lexemeAt, hmark, hunits, hassemble]

theorem cutInto_null : CutInto ['n', 'u', 'l', 'l'] [.null] :=
  fun _ => tokens_cons rfl rfl

theorem cutInto_true : CutInto ['t', 'r', 'u', 'e'] [.boolean true] :=
  fun _ => tokens_cons rfl rfl

theorem cutInto_false : CutInto ['f', 'a', 'l', 's', 'e'] [.boolean false] :=
  fun _ => tokens_cons rfl rfl

/-! ## Nesting -/

/-- The value is taken off the front of the tokens and the rest is left. -/
def Takes {α : Type} (take : (tokens : List Token) → Option (α × Shorter tokens))
    (tokens : List Token) (value : α) (rest : List Token) : Prop :=
  ∃ h, take tokens = some (value, ⟨rest, h⟩)

section Nesting

variable {tokens more rest : List Token} {item value : Json} {items : List Json}
  {name : Option String} {members : List (Option String × Json)}

theorem takes_null : Takes valueAt? (.null :: rest) .null rest :=
  ⟨by simp, by rw [valueAt?]⟩

theorem takes_boolean (b : Bool) : Takes valueAt? (.boolean b :: rest) (.boolean b) rest :=
  ⟨by simp, by rw [valueAt?]⟩

theorem takes_text (text : Option String) : Takes valueAt? (.text text :: rest) (.text text) rest :=
  ⟨by simp, by rw [valueAt?]⟩

theorem Takes.lastItem (h : Takes valueAt? tokens item (.closeBracket :: rest)) :
    Takes itemsAt? tokens [item] rest := by
  obtain ⟨hlt, h⟩ := h
  exact ⟨Nat.lt_of_succ_lt hlt, by rw [itemsAt?, h]⟩

theorem Takes.nextItem (h : Takes valueAt? tokens item (.comma :: more))
    (hmore : Takes itemsAt? more items rest) : Takes itemsAt? tokens (item :: items) rest := by
  obtain ⟨hlt, h⟩ := h
  obtain ⟨hlt', hmore⟩ := hmore
  refine ⟨Nat.lt_trans hlt' (Nat.lt_of_succ_lt hlt), ?_⟩
  rw [itemsAt?, h]
  dsimp only
  rw [hmore]
  rfl

theorem Takes.lastMember (h : Takes valueAt? tokens value (.closeBrace :: rest)) :
    Takes membersAt? (.text name :: .colon :: tokens) [(name, value)] rest := by
  obtain ⟨hlt, h⟩ := h
  have hrest : rest.length < (.text name :: .colon :: tokens : List Token).length := by
    simp only [List.length_cons] at hlt ⊢
    omega
  exact ⟨hrest, by rw [membersAt?, h]⟩

theorem Takes.nextMember (h : Takes valueAt? tokens value (.comma :: more))
    (hmore : Takes membersAt? more members rest) :
    Takes membersAt? (.text name :: .colon :: tokens) ((name, value) :: members) rest := by
  obtain ⟨hlt, h⟩ := h
  obtain ⟨hlt', hmore⟩ := hmore
  refine ⟨?_, ?_⟩
  · simp only [List.length_cons] at hlt ⊢
    omega
  · rw [membersAt?, h]
    dsimp only
    rw [hmore]
    rfl

theorem takes_emptyArray :
    Takes valueAt? (.openBracket :: .closeBracket :: rest) (.array []) rest :=
  ⟨by simp only [List.length_cons]; omega, by rw [valueAt?]⟩

theorem takes_emptyObject : Takes valueAt? (.openBrace :: .closeBrace :: rest) (.object []) rest :=
  ⟨by simp only [List.length_cons]; omega, by rw [valueAt?]⟩

theorem valueAt?_closeBracket : valueAt? (.closeBracket :: rest) = none := by
  rw [valueAt?] <;> simp

/-- No item starts with a closing bracket, so items behind an opening one are those of an array. -/
theorem Takes.array (h : Takes itemsAt? tokens items rest) :
    Takes valueAt? (.openBracket :: tokens) (.array items) rest := by
  obtain ⟨hlt, h⟩ := h
  refine ⟨Nat.lt_succ_of_lt hlt, ?_⟩
  rw [valueAt?, h]
  · rfl
  · rintro after rfl
    rw [itemsAt?, valueAt?_closeBracket] at h
    cases h

/-- No member starts with a closing brace, so members behind an opening one are those of an
object. -/
theorem Takes.object (h : Takes membersAt? tokens members rest) :
    Takes valueAt? (.openBrace :: tokens) (.object members) rest := by
  obtain ⟨hlt, h⟩ := h
  refine ⟨Nat.lt_succ_of_lt hlt, ?_⟩
  rw [valueAt?, h]
  · rfl
  · rintro after rfl
    rw [membersAt?] at h
    · cases h
    · simp

end Nesting

/-! ## Values -/

/-- A value without numbers whose texts and names can be read. -/
inductive Plain : Json → Prop where
  | null : Plain .null
  | boolean (b : Bool) : Plain (.boolean b)
  | str (s : String) : Plain (.str s)
  | array {items : List Json} : (∀ item ∈ items, Plain item) → Plain (.array items)
  | record {members : List (String × Json)} :
    (∀ member ∈ members, Plain member.2) → Plain (.record members)

/-- What is written for the value is cut into tokens and nested into the value. -/
def ReadsBack (value : Json) : Prop :=
  ∃ toks, CutInto value.chars toks ∧ ∀ rest, Takes valueAt? (toks ++ rest) value rest

theorem exists_items {item : Json} {items : List Json}
    (h : ∀ value ∈ item :: items, ReadsBack value) :
    ∃ toks, CutInto (charsOfItems (item :: items)) toks ∧
      ∀ rest, Takes itemsAt? (toks ++ .closeBracket :: rest) (item :: items) rest := by
  induction items generalizing item with
  | nil =>
    obtain ⟨toks, hcut, htakes⟩ := h item (by simp)
    refine ⟨toks, ?_, fun rest => (htakes _).lastItem⟩
    simpa [charsOfItems] using hcut
  | cons next items ih =>
    obtain ⟨⟨toks, hcut, htakes⟩, hitems⟩ := List.forall_mem_cons.1 h
    obtain ⟨toks', hcut', htakes'⟩ := ih hitems
    refine ⟨toks ++ .comma :: toks', ?_, fun rest => ?_⟩
    · rw [charsOfItems]
      exact hcut.append ((cutInto_mark (c := ',') rfl rfl).append hcut')
    · rw [List.append_assoc]
      exact (htakes _).nextItem (htakes' rest)

/-- A name with a colon behind it. -/
theorem cutInto_name (name : String) :
    CutInto (renderText name ++ [':']) [.text (some name), .colon] :=
  (cutInto_text name).append (cutInto_mark rfl rfl)

/-- A member of an object as a record gives it. -/
def named (member : String × Json) : Option String × Json := (some member.1, member.2)

theorem record_eq (members : List (String × Json)) : record members = object (members.map named) :=
  rfl

theorem exists_members {member : String × Json} {members : List (String × Json)}
    (h : ∀ other ∈ member :: members, ReadsBack other.2) :
    ∃ toks, CutInto (charsOfMembers ((member :: members).map named)) toks ∧
      ∀ rest, Takes membersAt? (toks ++ .closeBrace :: rest) ((member :: members).map named)
        rest := by
  induction members generalizing member with
  | nil =>
    obtain ⟨toks, hcut, htakes⟩ := h member (by simp)
    refine ⟨.text (some member.1) :: .colon :: toks, ?_, fun rest => (htakes _).lastMember⟩
    simpa [charsOfMembers, charsOfMember, named] using (cutInto_name member.1).append hcut
  | cons next members ih =>
    obtain ⟨⟨toks, hcut, htakes⟩, hmembers⟩ := List.forall_mem_cons.1 h
    obtain ⟨toks', hcut', htakes'⟩ := ih hmembers
    refine ⟨.text (some member.1) :: .colon :: (toks ++ .comma :: toks'), ?_, fun rest => ?_⟩
    · have hall := ((cutInto_name member.1).append hcut).append
        ((cutInto_mark (c := ',') rfl rfl).append hcut')
      simpa [charsOfMembers, charsOfMember, named] using hall
    · rw [List.cons_append, List.cons_append, List.append_assoc]
      exact (htakes _).nextMember (htakes' rest)

theorem readsBack_array {items : List Json} (h : ∀ item ∈ items, ReadsBack item) :
    ReadsBack (.array items) := by
  have hopen := cutInto_mark (c := '[') rfl rfl
  have hclose := cutInto_mark (c := ']') rfl rfl
  cases items with
  | nil => exact ⟨[.openBracket, .closeBracket], hopen.append hclose, fun _ => takes_emptyArray⟩
  | cons item items =>
    obtain ⟨toks, hcut, htakes⟩ := exists_items h
    refine ⟨.openBracket :: (toks ++ [.closeBracket]), hopen.append (hcut.append hclose),
      fun rest => ?_⟩
    rw [List.cons_append, List.append_assoc]
    exact (htakes rest).array

theorem readsBack_record {members : List (String × Json)}
    (h : ∀ member ∈ members, ReadsBack member.2) : ReadsBack (.record members) := by
  have hopen := cutInto_mark (c := '{') rfl rfl
  have hclose := cutInto_mark (c := '}') rfl rfl
  rw [record_eq]
  cases members with
  | nil => exact ⟨[.openBrace, .closeBrace], hopen.append hclose, fun _ => takes_emptyObject⟩
  | cons member members =>
    obtain ⟨toks, hcut, htakes⟩ := exists_members h
    refine ⟨.openBrace :: (toks ++ [.closeBrace]), hopen.append (hcut.append hclose),
      fun rest => ?_⟩
    rw [List.cons_append, List.append_assoc]
    exact (htakes rest).object

theorem Plain.readsBack {value : Json} (h : Plain value) : ReadsBack value := by
  induction h with
  | null => exact ⟨[.null], cutInto_null, fun _ => takes_null⟩
  | boolean b =>
    refine ⟨[.boolean b], ?_, fun _ => takes_boolean b⟩
    cases b
    · exact cutInto_false
    · exact cutInto_true
  | str s => exact ⟨[.text (some s)], cutInto_text s, fun _ => takes_text (some s)⟩
  | array _ ih => exact readsBack_array ih
  | record _ ih => exact readsBack_record ih

/-- A plain value is read back from what is written for it. -/
theorem Plain.parse_render {value : Json} (h : Plain value) : parse value.render = some value := by
  obtain ⟨toks, hcut, htakes⟩ := h.readsBack
  have htokens := hcut []
  have hvalue := htakes []
  rw [List.append_nil, tokens, Option.map_some, List.append_nil] at htokens
  rw [List.append_nil] at hvalue
  obtain ⟨hlt, hvalue⟩ := hvalue
  simp only [parse, render, String.toList_ofList, htokens, Option.bind_eq_bind, Option.bind_some,
    hvalue]

end CaseScript.Json
