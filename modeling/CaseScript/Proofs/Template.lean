import CaseScript.Template
import Mathlib.Data.List.Basic

/-!
# Placeholders from left to right

A template is scanned once from left to right, and a dollar sign that opens no placeholder is passed
over alone.  This file shows that the scan finds the leftmost placeholder each time, and says what
is made of a template.

There are three groups.

* Placeholders.  `Opens` says that a placeholder stands in front of a text, `Leftmost` that it is
  the first one of the text, and `Cut` cuts a text at all its placeholders.  `Cut.unique`: there is
  one way to do so.
* Segments.  `HasCut` says that segments come from a cut, with one lemma for each way in which the
  scan goes on.  `hasCut_segments`: so do the segments of every template.
* Texts.  `textOf_segmentsOf` puts values in.  `render_eq_filled` is the result.
-/

namespace CaseScript.Template

open CaseScript.Text (isWordChar)

/-- A name between two dollar signs stands in front of the text, and the rest follows it. -/
structure Opens (text : List Char) (name : String) (after : List Char) : Prop where
  ne_nil : name.toList ≠ []
  word : ∀ c ∈ name.toList, isWordChar c = true
  text_eq : text = '$' :: (name.toList ++ '$' :: after)

/-- The first placeholder of a text, with what stands before it and behind it. -/
structure Leftmost (text before : List Char) (name : String) (after : List Char) : Prop where
  opens : ∃ rest, text = before ++ rest ∧ Opens rest name after
  least : ∀ before' rest name after, text = before' ++ rest → Opens rest name after →
    before.length ≤ before'.length

/-- No placeholder stands anywhere in the text. -/
def Plain (text : List Char) : Prop :=
  ∀ before rest name after, text = before ++ rest → ¬ Opens rest name after

/-- A placeholder and the text in front of it, up to the placeholder before it. -/
structure Place where
  before : List Char
  name : String
  deriving DecidableEq, Repr

/-- The variable of the place has no value. -/
def Place.isUnbound (bindings : Bindings) (place : Place) : Bool := bindings[place.name]?.isNone

/-- The text is cut at its placeholders, each the leftmost one behind the one before it. -/
inductive Cut : List Char → List Place → List Char → Prop where
  | plain {text : List Char} : Plain text → Cut text [] text
  | next {text before after last : List Char} {name : String} {places : List Place} :
    Leftmost text before name after → Cut after places last →
      Cut text (⟨before, name⟩ :: places) last

/-- The text with values in its places. -/
def filled (bindings : Bindings) (places : List Place) (last : List Char) : List Char :=
  places.flatMap (fun place => place.before ++ (bindings[place.name]?.getD "").toList) ++ last

/-- The segments of a text that is cut. -/
def segmentsOf (places : List Place) (last : List Char) : List Segment :=
  places.flatMap (fun place => place.before.map .plain ++ [.placeholder place.name.toList]) ++
    last.map .plain

/-! ## Placeholders -/

theorem isInside_of_isWordChar {c : Char} (h : isWordChar c = true) : isInside c = true := by
  rw [isInside, bne_iff_ne]
  rintro rfl
  exact absurd h (by decide)

theorem isName_iff {text : List Char} :
    isName text = true ↔ text ≠ [] ∧ ∀ c ∈ text, isWordChar c = true := by
  cases text <;> simp [isName]

/-- A placeholder ends at the first dollar sign behind the one that opens it. -/
theorem opens_iff {text after : List Char} {name : String} :
    Opens ('$' :: text) name after ↔
      isName (text.takeWhile isInside) = true ∧
        text.takeWhile isInside = name.toList ∧ text.dropWhile isInside = '$' :: after := by
  constructor
  · intro h
    obtain ⟨hne, hword, htext⟩ := h
    obtain rfl : text = name.toList ++ '$' :: after := by simpa using htext
    have hinside : ∀ c ∈ name.toList, isInside c = true := fun c hc =>
      isInside_of_isWordChar (hword c hc)
    have hdollar : isInside '$' = false := rfl
    have htake : (name.toList ++ '$' :: after).takeWhile isInside = name.toList := by
      rw [List.takeWhile_append_of_pos hinside, List.takeWhile_cons_of_neg (by simp [hdollar]),
        List.append_nil]
    have hdrop : (name.toList ++ '$' :: after).dropWhile isInside = '$' :: after := by
      rw [List.dropWhile_append_of_pos hinside, List.dropWhile_cons_of_neg (by simp [hdollar])]
    refine ⟨?_, htake, hdrop⟩
    rw [htake]
    exact isName_iff.2 ⟨hne, hword⟩
  · intro h
    rcases h with ⟨hname, htake, hdrop⟩
    rw [htake, isName_iff] at hname
    refine ⟨hname.1, hname.2, ?_⟩
    rw [← htake, ← hdrop, List.takeWhile_append_dropWhile]

theorem Opens.unique {text after after' : List Char} {name name' : String}
    (h : Opens text name after) (h' : Opens text name' after') : name = name' ∧ after = after' := by
  obtain rfl := h.text_eq
  obtain ⟨-, htake, hdrop⟩ := opens_iff.1 h
  obtain ⟨-, htake', hdrop'⟩ := opens_iff.1 h'
  rw [htake] at htake'
  rw [hdrop] at hdrop'
  exact ⟨String.toList_inj.1 htake', (List.cons.inj hdrop').2⟩

theorem Leftmost.unique {text before before' after after' : List Char} {name name' : String}
    (h : Leftmost text before name after) (h' : Leftmost text before' name' after') :
    before = before' ∧ name = name' ∧ after = after' := by
  obtain ⟨rest, htext, hopens⟩ := h.opens
  obtain ⟨rest', htext', hopens'⟩ := h'.opens
  have hlength : before.length = before'.length :=
    Nat.le_antisymm (h.least _ _ _ _ htext' hopens') (h'.least _ _ _ _ htext hopens)
  obtain ⟨rfl, rfl⟩ := List.append_inj (htext.symm.trans htext') hlength
  exact ⟨rfl, hopens.unique hopens'⟩

theorem Leftmost.not_plain {text before after : List Char} {name : String}
    (h : Leftmost text before name after) : ¬ Plain text := by
  obtain ⟨rest, htext, hopens⟩ := h.opens
  exact fun hplain => hplain _ _ _ _ htext hopens

theorem Cut.unique {text last last' : List Char} {places places' : List Place}
    (h : Cut text places last) (h' : Cut text places' last') : places = places' ∧ last = last' := by
  induction h generalizing places' with
  | plain hplain =>
    cases h' with
    | plain => exact ⟨rfl, rfl⟩
    | next hfirst => exact absurd hplain hfirst.not_plain
  | next hfirst _ ih =>
    cases h' with
    | plain hplain => exact absurd hplain hfirst.not_plain
    | next hfirst' hrest' =>
      obtain ⟨rfl, rfl, rfl⟩ := hfirst.unique hfirst'
      obtain ⟨rfl, rfl⟩ := ih hrest'
      exact ⟨rfl, rfl⟩

/-! ## Segments -/

/-- The segments come from a cut of the text. -/
def HasCut (text : List Char) (segments : List Segment) : Prop :=
  ∃ places last, Cut text places last ∧ segments = segmentsOf places last

theorem hasCut_nil : HasCut [] [] := by
  refine ⟨[], [], .plain ?_, rfl⟩
  intro before rest name after htext hopens
  obtain ⟨-, rfl⟩ := List.append_eq_nil_iff.1 htext.symm
  cases hopens.text_eq

/-- A character that opens no placeholder stands for itself, in front of the first one. -/
theorem HasCut.plain {c : Char} {text : List Char} {segments : List Segment}
    (hc : ∀ name after, ¬ Opens (c :: text) name after) (h : HasCut text segments) :
    HasCut (c :: text) (.plain c :: segments) := by
  obtain ⟨places, last, hcut, rfl⟩ := h
  cases hcut with
  | plain hplain =>
    refine ⟨[], c :: text, .plain ?_, rfl⟩
    intro before rest name after htext hopens
    cases before with
    | nil =>
      obtain rfl : c :: text = rest := htext
      exact hc name after hopens
    | cons d before => exact hplain before rest name after (List.cons.inj htext).2 hopens
  | @next _ before _ _ name places hfirst hrest =>
    obtain ⟨rest, htext, hopens⟩ := hfirst.opens
    refine ⟨⟨c :: before, name⟩ :: places, last, .next ⟨?_, ?_⟩ hrest, rfl⟩
    · exact ⟨rest, by rw [htext, List.cons_append], hopens⟩
    · intro before' rest' name' after' htext' hopens'
      cases before' with
      | nil =>
        obtain rfl : c :: text = rest' := htext'
        exact absurd hopens' (hc name' after')
      | cons d before' =>
        exact Nat.succ_le_succ (hfirst.least _ _ _ _ (List.cons.inj htext').2 hopens')

/-- A placeholder in front of the text is the leftmost one. -/
theorem HasCut.placeholder {text after : List Char} {name : String} {segments : List Segment}
    (hopens : Opens text name after) (h : HasCut after segments) :
    HasCut text (.placeholder name.toList :: segments) := by
  obtain ⟨places, last, hcut, rfl⟩ := h
  have hfirst : Leftmost text [] name after :=
    ⟨⟨text, rfl, hopens⟩, fun _ _ _ _ _ _ => Nat.zero_le _⟩
  exact ⟨⟨[], name⟩ :: places, last, .next hfirst hcut, rfl⟩

theorem not_opens_of_isInside {c : Char} {text : List Char} (hc : isInside c = true)
    (name : String) (after : List Char) : ¬ Opens (c :: text) name after := by
  intro h
  obtain ⟨rfl, -⟩ := List.cons.inj h.text_eq
  cases hc

theorem eq_dollar_of_not_isInside {c : Char} (hc : ¬ isInside c = true) : c = '$' := by
  simpa [isInside] using hc

/-- The scan cuts the text at its placeholders. -/
theorem hasCut_segments (text : List Char) : HasCut text (segments text) := by
  fun_induction segments text with
  | case1 => exact hasCut_nil
  | case2 c rest hc ih => exact ih.plain (not_opens_of_isInside hc)
  | case3 c rest hc hdrop ih =>
    obtain rfl := eq_dollar_of_not_isInside hc
    refine ih.plain fun name after hopens => ?_
    rw [opens_iff, hdrop] at hopens
    cases hopens.2.2
  | case4 c rest hc d after hdrop hlt name hname ih =>
    obtain rfl := eq_dollar_of_not_isInside hc
    have hd : ¬ isInside d = true := by
      have hhead := List.head?_dropWhile_not isInside rest
      rw [hdrop] at hhead
      exact Bool.not_eq_true _ ▸ hhead
    obtain rfl := eq_dollar_of_not_isInside hd
    have hopens : Opens ('$' :: rest) (String.ofList name) after :=
      opens_iff.2 ⟨hname, String.toList_ofList.symm, hdrop⟩
    have hcut := ih.placeholder hopens
    rwa [String.toList_ofList] at hcut
  | case5 c rest hc d after hdrop hlt name hname ih =>
    obtain rfl := eq_dollar_of_not_isInside hc
    exact ih.plain fun name after hopens => hname (opens_iff.1 hopens).1

/-! ## Texts -/

/-- The text that segments give. -/
def textOf (bindings : Bindings) (segments : List Segment) : Except SourceError (List Char) :=
  (segments.mapM (Segment.render bindings)).map List.flatten

theorem render_eq (bindings : Bindings) (template : String) :
    render bindings template =
      (textOf bindings (segments template.toList)).map String.ofList := by
  unfold render textOf
  cases (segments template.toList).mapM (Segment.render bindings) <;> rfl

theorem textOf_plain (bindings : Bindings) (text : List Char) (segments : List Segment) :
    textOf bindings (text.map .plain ++ segments) = (textOf bindings segments).map (text ++ ·) := by
  induction text with
  | nil => cases hsegments : textOf bindings segments <;> simp [hsegments, Except.map]
  | cons c text ih =>
    have hcons : ∀ segments, textOf bindings (.plain c :: segments) =
        (textOf bindings segments).map (c :: ·) := by
      intro segments
      unfold textOf
      rw [List.mapM_cons]
      cases segments.mapM (Segment.render bindings) <;> rfl
    rw [List.map_cons, List.cons_append, hcons, ih]
    cases textOf bindings segments <;> rfl

theorem textOf_placeholder (bindings : Bindings) (name : String) (segments : List Segment) :
    textOf bindings (.placeholder name.toList :: segments) =
      match bindings[name]? with
      | some value => (textOf bindings segments).map (value.toList ++ ·)
      | none => .error (.undefinedVariable name) := by
  unfold textOf
  rw [List.mapM_cons, Segment.render, String.ofList_toList]
  cases bindings[name]? with
  | none => rfl
  | some value => cases segments.mapM (Segment.render bindings) <;> rfl

/-- Values are put in from left to right, up to the first place without one. -/
theorem textOf_segmentsOf (bindings : Bindings) (places : List Place) (last : List Char) :
    textOf bindings (segmentsOf places last) =
      match places.find? (Place.isUnbound bindings) with
      | none => .ok (filled bindings places last)
      | some place => .error (.undefinedVariable place.name) := by
  induction places with
  | nil =>
    show textOf bindings (last.map .plain) = .ok last
    rw [← List.append_nil (last.map _), textOf_plain]
    show Except.ok (last ++ []) = _
    rw [List.append_nil]
  | cons place places ih =>
    have hsegments : segmentsOf (place :: places) last = place.before.map .plain ++
        .placeholder place.name.toList :: segmentsOf places last := by simp [segmentsOf]
    rw [hsegments, textOf_plain, textOf_placeholder, ih]
    cases hvalue : bindings[place.name]? with
    | none =>
      have hunbound : place.isUnbound bindings = true := by
        rw [Place.isUnbound, hvalue, Option.isNone_none]
      rw [List.find?_cons_of_pos hunbound]
      rfl
    | some value =>
      have hunbound : ¬ place.isUnbound bindings = true := by
        rw [Place.isUnbound, hvalue, Option.isNone_some]
        exact Bool.false_ne_true
      rw [List.find?_cons_of_neg hunbound]
      cases places.find? (Place.isUnbound bindings) with
      | none => simp [Except.map, filled, hvalue]
      | some missing => rfl

/-- More variables leave what is put in as it is. -/
theorem filled_of_more {bindings more : Bindings} {places : List Place}
    (h : places.find? (Place.isUnbound bindings) = none)
    (hmore : ∀ name value : String, bindings[name]? = some value → more[name]? = some value)
    (last : List Char) :
    places.find? (Place.isUnbound more) = none ∧
      filled more places last = filled bindings places last := by
  have hsame : ∀ place ∈ places, more[place.name]? = bindings[place.name]? ∧
      place.isUnbound more = false := by
    intro place hplace
    have hbound := List.find?_eq_none.1 h place hplace
    cases hvalue : bindings[place.name]? with
    | none => simp [Place.isUnbound, hvalue] at hbound
    | some value =>
      have hvalue' := hmore _ _ hvalue
      exact ⟨hvalue', by rw [Place.isUnbound, hvalue', Option.isNone_some]⟩
  constructor
  · rw [List.find?_eq_none]
    intro place hplace
    rw [(hsame place hplace).2]
    exact Bool.false_ne_true
  · unfold filled
    rw [List.flatMap_congr fun place hplace => by rw [(hsame place hplace).1]]

/-- A template is cut at its placeholders in one way, each of them the leftmost one behind the one
before it.  Values are put in their places and all else is copied; the first placeholder without a
value is the one that is reported.  So a text without placeholders stays as it is, and more
variables do not change what is made of a template. -/
theorem render_eq_filled (template : String) :
    (∃ places last,
      (∀ places' last', Cut template.toList places' last' ↔ places' = places ∧ last' = last) ∧
      ∀ bindings, render bindings template =
        match places.find? (Place.isUnbound bindings) with
        | none => .ok (String.ofList (filled bindings places last))
        | some place => .error (.undefinedVariable place.name)) ∧
    (Plain template.toList → ∀ bindings, render bindings template = .ok template) ∧
    ∀ (bindings more : Bindings) (result : String), render bindings template = .ok result →
      (∀ name value : String, bindings[name]? = some value → more[name]? = some value) →
      render more template = .ok result := by
  obtain ⟨places, last, hcut, hsegments⟩ := hasCut_segments template.toList
  have hrender : ∀ bindings, render bindings template =
      match places.find? (Place.isUnbound bindings) with
      | none => .ok (String.ofList (filled bindings places last))
      | some place => .error (.undefinedVariable place.name) := by
    intro bindings
    rw [render_eq, hsegments, textOf_segmentsOf]
    cases places.find? (Place.isUnbound bindings) <;> rfl
  refine ⟨⟨places, last, ?_, hrender⟩, ?_, ?_⟩
  · intro places' last'
    constructor
    · exact fun hcut' => hcut'.unique hcut
    · rintro ⟨rfl, rfl⟩
      exact hcut
  · intro hplain bindings
    obtain ⟨rfl, rfl⟩ := hcut.unique (.plain hplain)
    rw [hrender]
    simp [filled]
  · intro bindings more result hresult hmore
    rw [hrender] at hresult ⊢
    cases hfind : places.find? (Place.isUnbound bindings) with
    | some place =>
      rw [hfind] at hresult
      cases hresult
    | none =>
      rw [hfind] at hresult
      obtain ⟨hnone, hfilled⟩ := filled_of_more hfind hmore last
      rw [hnone, hfilled]
      exact hresult

/-- The first dollar sign is closed by one that opens a placeholder, and the value looks like a
placeholder itself.  One dollar sign is none. -/
theorem render_eq_filled_of_dollars :
    let bindings : Bindings := (∅ : Bindings).insert "x" "$y$"
    let more : Bindings := bindings.insert "y" "1"
    render bindings "'$5 $x$' $" = .ok "'$5 $y$' $" ∧
      (∀ name value : String, bindings[name]? = some value → more[name]? = some value) ∧
      render more "'$5 $x$' $" = .ok "'$5 $y$' $" ∧
      Plain "cost $5".toList ∧ render more "cost $5" = .ok "cost $5" := by
  intro bindings more
  have hrender : render bindings "'$5 $x$' $" = .ok "'$5 $y$' $" := by
    decide +kernel
  have hmore : ∀ name value : String, bindings[name]? = some value → more[name]? = some value := by
    intro name value hvalue
    have hne : name ≠ "y" := by
      rintro rfl
      have hnone : bindings["y"]? = none := by decide +kernel
      rw [hnone] at hvalue
      cases hvalue
    rw [Std.ExtTreeMap.getElem?_insert, if_neg]
    · exact hvalue
    · exact fun hcompare => hne (Std.LawfulEqCmp.compare_eq_iff_eq.1 hcompare).symm
  have hplain : Plain "cost $5".toList := by
    intro before rest name after htext hopens
    have hcount := congrArg (List.count '$') htext
    rw [hopens.text_eq] at hcount
    simp only [List.count_append, List.count_cons_self] at hcount
    have hone : "cost $5".toList.count '$' = 1 := by decide +kernel
    omega
  exact ⟨hrender, hmore, (render_eq_filled _).2.2 bindings more _ hrender hmore, hplain,
    (render_eq_filled _).2.1 hplain more⟩

end CaseScript.Template
