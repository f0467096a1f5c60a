import Mathlib.Data.List.TakeDrop
import Mathlib.Data.List.TakeWhile
import SplitScreen.Proofs.Styled

namespace SplitScreen

theorem Colour.check_cases {word : String} (h : argument? "rgb(" word.toList = none) :
    check word = .ok () ∨ check word = .error .unknown := by
  unfold check
  simp only [h]
  split
  · exact Or.inl rfl
  · split
    · exact Or.inl rfl
    · split
      · split
        · exact Or.inl rfl
        · exact Or.inr rfl
      · next hmixture _ => cases hmixture
      · exact Or.inr rfl

namespace Style

/-- A word in small letters that is a colour if it is anything. -/
structure IsColourWord (word : String) : Prop where
  words : Blank.words word.toList = [word.toList]
  trim : Blank.trim word.toList = word.toList
  small : lower word = word
  other : word ∉ ["", "none", "on", "not", "link"]
  flag : flag? word = none
  mixture : Colour.argument? "rgb(" word.toList = none

variable {word : String}

theorem IsColourWord.ofWords_cases (h : IsColourWord word) :
    ofWords plain ((Blank.words word.toList).map String.ofList) =
        .ok { plain with colour := some word } ∨
      ofWords plain ((Blank.words word.toList).map String.ofList) = .error .unknown := by
  obtain ⟨-, -, hon, hnot, hlink⟩ : word ≠ "" ∧ word ≠ "none" ∧ word ≠ "on" ∧ word ≠ "not" ∧
      word ≠ "link" := by
    simpa using h.other
  have hofWords : ofWords plain ((Blank.words word.toList).map String.ofList) = (do
      Colour.check word
      .ok { plain with colour := some word }) := by
    rw [h.words, List.map_cons, List.map_nil, String.ofList_toList, ofWords, h.small, if_neg hon,
      if_neg hnot, if_neg hlink, h.flag]
    rfl
  rw [hofWords]
  rcases Colour.check_cases h.mixture with hcheck | hcheck
  · rw [hcheck]
    exact Or.inl rfl
  · rw [hcheck]
    exact Or.inr rfl

theorem IsColourWord.normal_eq (h : IsColourWord word) : normal word = .ok word := by
  obtain ⟨hempty, hnone, -⟩ : word ≠ "" ∧ word ≠ "none" ∧ word ∉ ["on", "not", "link"] := by
    simpa using h.other
  unfold normal
  simp only [h.trim, String.ofList_toList]
  rw [if_neg (by simp [hnone, hempty])]
  rcases h.ofWords_cases with hwords | hwords
  · rw [hwords]
    simp [text, plain, allFlags]
  · rw [hwords, h.small]

theorem IsColourWord.isDrawable_eq (h : IsColourWord word) : isDrawable word = true := by
  unfold isDrawable
  rcases h.ofWords_cases with hwords | hwords
  · rw [hwords]
  · rw [hwords]

end Style

namespace Markup

/-- A tag for a style that can be drawn, in its normal form. -/
structure IsStyleTag (name : String) : Prop where
  opens : ∃ c cs, name.toList = c :: cs ∧ startsTag c = true ∧ c ≠ '/'
  inside : (name.toList.all fun c => c != ']' && c != '[' && c != '=') = true
  style : name.startsWith "@" = false
  trim : Blank.trim name.toList = name.toList
  normal : Style.normal name = .ok name
  drawable : Style.isDrawable name = true

/-- A text in which nothing starts a tag, and that shows no characters that are for private use. -/
structure IsPlain (s : String) : Prop where
  noTag : ∀ c ∈ s.toList, c ≠ '[' ∧ c ≠ '\\'
  noStandIn : ∀ c ∈ shown s.toList, c.toNat < 0xf0000

/-- A plain text with a part in a style after it. -/
def withTag (before name marked : String) : String :=
  before ++ "[" ++ name ++ "]" ++ marked ++ "[/" ++ name ++ "]"

variable {name : String} {cs rest : List Char}

theorem unescape_eq_self (h : ∀ c ∈ cs, c ≠ '\\') : unescape cs = cs := by
  induction cs with
  | nil => rfl
  | cons c more ih =>
      obtain ⟨hc, hmore⟩ := List.forall_mem_cons.mp h
      unfold unescape
      split
      · next heq => exact absurd (List.cons.inj heq).1 hc
      · next heq =>
          obtain ⟨rfl, rfl⟩ := List.cons.inj heq
          rw [ih hmore]
      · next heq => cases heq

theorem upToColon?_eq_none (h : ':' ∉ cs) : Emoji.upToColon? cs = none := by
  induction cs with
  | nil => rfl
  | cons c more ih =>
      rw [Emoji.upToColon?]
      split
      · next hc => exact absurd (hc ▸ List.mem_cons_self) h
      · split
        · rfl
        · rw [ih fun hmore => h (List.mem_cons_of_mem _ hmore)]
          rfl

/-- The name of an emoji stands between two colons. -/
theorem replace_eq_self (h : cs.count ':' ≤ 1) : Emoji.replace cs = cs := by
  induction cs with
  | nil => rw [Emoji.replace]
  | cons c more ih =>
      rw [Emoji.replace]
      split
      · next hc =>
          rw [hc, List.count_cons_self] at h
          have hmore : ':' ∉ more := List.count_eq_zero.mp (by omega)
          split
          · rw [ih (by omega)]
          · next heq =>
              rw [upToColon?_eq_none hmore] at heq
              cases heq
      · next hc =>
          rw [List.count_cons_of_ne hc] at h
          rw [ih h]

theorem isPlain_ofList
    (h : (cs.all fun c => c != '[' && c != '\\' && decide (c.toNat < 0xf0000)) = true)
    (hcolon : cs.count ':' ≤ 1) : IsPlain (String.ofList cs) := by
  have hchars : ∀ c ∈ cs, (c ≠ '[' ∧ c ≠ '\\') ∧ c.toNat < 0xf0000 := by
    simpa using h
  have hshown : shown cs = strip cs := by
    rw [shown, unescape_eq_self fun c hc => (hchars c hc).1.2, replace_eq_self hcolon]
  constructor
  · rw [String.toList_ofList]
    exact fun c hc => (hchars c hc).1
  · rw [String.toList_ofList, hshown]
    exact fun c hc => (hchars c (List.mem_filter.mp hc).1).2

theorem inside?_append (h : ∀ c ∈ cs, c ≠ ']' ∧ c ≠ '[') :
    inside? (cs ++ ']' :: rest) = some (cs, rest) := by
  induction cs with
  | nil => rfl
  | cons c more ih =>
      obtain ⟨⟨hclosing, hopening⟩, hmore⟩ := List.forall_mem_cons.mp h
      rw [List.cons_append, inside?, if_neg hclosing, if_neg hopening, ih hmore]
      rfl

theorem tag?_cons_of_ne {c : Char} (hopening : c ≠ '[') (hbackslash : c ≠ '\\')
    (rest : List Char) : tag? (c :: rest) = none := by
  unfold tag?
  split
  · next heq => exact absurd (List.cons.inj heq).1 hbackslash
  · next heq => exact absurd (List.cons.inj heq).1 hopening
  · rfl

theorem piecesAfter_cons_of_none {c : Char} (h : tag? (c :: rest) = none) (plain : List Char) :
    piecesAfter plain (c :: rest) = piecesAfter (plain ++ [c]) rest := by
  rw [piecesAfter]
  split
  · next heq =>
      rw [h] at heq
      cases heq
  · rfl

theorem piecesAfter_append (h : ∀ c ∈ cs, c ≠ '[' ∧ c ≠ '\\') (plain rest : List Char) :
    piecesAfter plain (cs ++ rest) = piecesAfter (plain ++ cs) rest := by
  induction cs generalizing plain with
  | nil => rw [List.nil_append, List.append_nil]
  | cons c more ih =>
      obtain ⟨⟨hopening, hbackslash⟩, hmore⟩ := List.forall_mem_cons.mp h
      rw [List.cons_append, piecesAfter_cons_of_none (tag?_cons_of_ne hopening hbackslash _),
        ih hmore, List.append_assoc, List.singleton_append]

/-- A plain text is a piece of its own, unless it is empty. -/
def piece (plain : List Char) : List Piece := if plain.isEmpty then [] else [.text plain]

theorem piecesAfter_of_tag {body : List Char} {count : Nat} {after : List Char}
    (h : tag? cs = some (count, body, after)) (plain : List Char) :
    piecesAfter plain cs = piece plain ++ ofTag count body ++ piecesAfter [] after := by
  rw [piecesAfter]
  split
  · next heq =>
      rw [h] at heq
      cases heq
      rfl
  · next heq =>
      rw [h] at heq
      cases heq

theorem tag?_opening {c : Char} (hc : startsTag c = true) (h : ∀ d ∈ cs, d ≠ ']' ∧ d ≠ '[')
    (rest : List Char) : tag? ('[' :: (c :: cs ++ ']' :: rest)) = some (0, c :: cs, rest) := by
  rw [List.cons_append, tag?, if_pos hc, inside?_append h]
  rfl

theorem ofTag_eq (h : ∀ d ∈ cs, d ≠ '=') (count : Nat) :
    ofTag count cs = piece (List.replicate (count / 2) '\\') ++
      [if count % 2 = 1 then .text ('[' :: cs ++ [']']) else .tag (String.ofList cs) none] := by
  have hname : ∀ d ∈ cs, (decide (d ≠ '=')) = true := fun d hd => decide_eq_true (h d hd)
  unfold ofTag
  rw [List.span_eq_takeWhile_dropWhile, List.takeWhile_eq_self_iff.mpr hname,
    List.dropWhile_eq_nil_iff.mpr hname]
  cases List.replicate (count / 2) '\\' with
  | nil => rfl
  | cons c more => rfl

theorem piecesAfter_tag {c : Char} (hc : startsTag c = true)
    (h : ∀ d ∈ c :: cs, d ≠ ']' ∧ d ≠ '[' ∧ d ≠ '=') (plain rest : List Char) :
    piecesAfter plain ('[' :: (c :: cs ++ ']' :: rest)) =
      piece plain ++ .tag (String.ofList (c :: cs)) none :: piecesAfter [] rest := by
  have hcs : ∀ d ∈ cs, d ≠ ']' ∧ d ≠ '[' := by
    intro d hd
    obtain ⟨hclosing, hopening, -⟩ := h d (List.mem_cons_of_mem _ hd)
    exact ⟨hclosing, hopening⟩
  rw [piecesAfter_of_tag (tag?_opening hc hcs rest), ofTag_eq fun d hd => (h d hd).2.2,
    List.append_assoc]
  rfl

theorem IsStyleTag.piecesAfter_opening (h : IsStyleTag name) (plain rest : List Char) :
    piecesAfter plain ('[' :: (name.toList ++ ']' :: rest)) =
      piece plain ++ .tag name none :: piecesAfter [] rest := by
  obtain ⟨c, cs, hname, hc, -⟩ := h.opens
  have hinside : ∀ d ∈ name.toList, d ≠ ']' ∧ d ≠ '[' ∧ d ≠ '=' := by
    simpa [and_assoc] using h.inside
  rw [hname, piecesAfter_tag hc (hname ▸ hinside), ← hname, String.ofList_toList]

theorem IsStyleTag.piecesAfter_closing (h : IsStyleTag name) (plain rest : List Char) :
    piecesAfter plain ('[' :: ('/' :: name.toList ++ ']' :: rest)) =
      piece plain ++ .tag ("/" ++ name) none :: piecesAfter [] rest := by
  have hslash : ∀ d ∈ '/' :: name.toList, d ≠ ']' ∧ d ≠ '[' ∧ d ≠ '=' := by
    refine List.forall_mem_cons.mpr ⟨by decide, ?_⟩
    simpa [and_assoc] using h.inside
  have hofSlash : String.ofList ('/' :: name.toList) = "/" ++ name := by
    apply String.toList_inj.mp
    simp
  rw [piecesAfter_tag (by decide) hslash, hofSlash]

theorem IsStyleTag.pieces_withTag (h : IsStyleTag name) {before marked : String}
    (hbefore : IsPlain before) (hmarked : IsPlain marked) :
    pieces (withTag before name marked) =
      piece before.toList ++ .tag name none ::
        (piece marked.toList ++ [.tag ("/" ++ name) none]) := by
  have htext : (withTag before name marked).toList =
      before.toList ++ ('[' :: (name.toList ++ ']' ::
        (marked.toList ++ ('[' :: ('/' :: name.toList ++ ']' :: []))))) := by
    simp [withTag]
  have hend : piecesAfter [] [] = [] := by
    rw [piecesAfter]
    rfl
  rw [pieces, htext, piecesAfter_append hbefore.noTag, h.piecesAfter_opening,
    piecesAfter_append hmarked.noTag, h.piecesAfter_closing, hend, List.nil_append, List.nil_append]

theorem shown_nil : shown [] = [] := by
  simp [shown, unescape, Emoji.replace, strip]

variable (isStandIn : Char → Bool)

theorem render_piece (opened : List Opened) (before : Styled) (plain : List Char)
    (rest : List Piece) :
    render isStandIn opened before (piece plain ++ rest) =
      render isStandIn opened { before with chars := before.chars ++ shown plain } rest := by
  cases plain with
  | nil =>
      rw [shown_nil, List.append_nil]
      rfl
  | cons c cs => rfl

theorem IsStyleTag.close_eq (h : IsStyleTag name) (start : Nat) (opened : List Opened) :
    close name (⟨start, name, none⟩ :: opened) = .ok (⟨start, name, none⟩, opened) := by
  obtain ⟨c, cs, hname, -⟩ := h.opens
  unfold close
  rw [h.trim, hname]
  simp only
  rw [← hname, String.ofList_toList, h.normal]
  simp

theorem IsStyleTag.render_open (h : IsStyleTag name) (opened : List Opened) (before : Styled)
    (rest : List Piece) :
    render isStandIn opened before (.tag name none :: rest) =
      render isStandIn (⟨before.chars.length, name, none⟩ :: opened) before rest := by
  obtain ⟨c, cs, hname, -, hslash⟩ := h.opens
  rw [render, hname]
  split
  · next hcons =>
      obtain ⟨hc, -⟩ := List.cons.inj hcons
      exact absurd hc hslash
  · rw [h.normal]

theorem IsStyleTag.render_close (h : IsStyleTag name) (start : Nat) (opened : List Opened)
    (before : Styled) (rest : List Piece) :
    render isStandIn (⟨start, name, none⟩ :: opened) before (.tag ("/" ++ name) none :: rest) =
      render isStandIn opened
        { before with spans := before.spans ++ [⟨start, before.chars.length, name⟩] } rest := by
  have hslash : ("/" ++ name).toList = '/' :: name.toList := by simp
  rw [render, hslash]
  simp only [String.ofList_toList, h.close_eq]
  simp [bind, Except.bind, Opened.check, Opened.span, h.style]

def tagged (before name marked : String) : Styled :=
  ⟨shown before.toList ++ shown marked.toList,
    [⟨(shown before.toList).length, (shown before.toList ++ shown marked.toList).length, name⟩]⟩

variable {before marked : String}

theorem IsStyleTag.styled_withTag (h : IsStyleTag name) (hbefore : IsPlain before)
    (hmarked : IsPlain marked) :
    styled isStandIn (withTag before name marked) = .ok (tagged before name marked) := by
  rw [styled, h.pieces_withTag hbefore hmarked, render_piece, h.render_open, render_piece,
    h.render_close, render]
  rfl

theorem IsStyleTag.close_other {other : String} (h : IsStyleTag other) {opened : List Opened}
    (hopened : ∀ t ∈ opened, t.name ≠ other) : close other opened = .error .unopened := by
  obtain ⟨c, cs, hother, -⟩ := h.opens
  have hfind : opened.find? (·.name = other) = none := by simpa using hopened
  unfold close
  rw [h.trim, hother]
  simp only
  rw [← hother, String.ofList_toList, h.normal]
  simp only [hfind]

/-- A tag that closes a style that is not open is a fault, whatever comes after it. -/
theorem IsStyleTag.render_other {other : String} (h : IsStyleTag other) {opened : List Opened}
    (hopened : ∀ t ∈ opened, t.name ≠ other) (before : Styled) (rest : List Piece) :
    render isStandIn opened before (.tag ("/" ++ other) none :: rest) = .error .unopened := by
  have hslash : ("/" ++ other).toList = '/' :: other.toList := by simp
  rw [render, hslash]
  simp only [String.ofList_toList, h.close_other hopened]
  rfl

/-- A text in which a style is open cannot be shown when the next tag closes another one. -/
theorem IsStyleTag.styled_unopened {other : String} (h : IsStyleTag name) (hbefore : IsPlain before)
    (hother : IsStyleTag other) (hne : name ≠ other) (after : String) :
    styled isStandIn (before ++ "[" ++ name ++ "]" ++ ("[/" ++ other ++ "]") ++ after) =
      .error .unopened := by
  have htext : (before ++ "[" ++ name ++ "]" ++ ("[/" ++ other ++ "]") ++ after).toList =
      before.toList ++ ('[' :: (name.toList ++ ']' ::
        ('[' :: ('/' :: other.toList ++ ']' :: after.toList)))) := by
    simp
  rw [styled, pieces, htext, piecesAfter_append hbefore.noTag, h.piecesAfter_opening,
    hother.piecesAfter_closing, render_piece, h.render_open]
  exact hother.render_other isStandIn (List.forall_mem_singleton.mpr hne) _ _

theorem IsStyleTag.within_tagged (h : IsStyleTag name) (hbefore : IsPlain before)
    (hmarked : IsPlain marked) :
    (tagged before name marked).IsDrawable := by
  constructor
  · exact List.forall_mem_append.mpr ⟨hbefore.noStandIn, hmarked.noStandIn⟩
  · exact List.forall_mem_singleton.mpr h.drawable

theorem isStyleTag_dim : IsStyleTag "dim" where
  opens := ⟨'d', ['i', 'm'], rfl, rfl, by decide⟩
  inside := rfl
  style := String.startsWith_string_eq_false_iff.mpr (by decide)
  trim := rfl
  normal := rfl
  drawable := rfl

theorem IsStyleTag.of_colour (h : Style.IsColourWord name)
    (hopens : ∃ c cs, name.toList = c :: cs ∧ startsTag c = true ∧ c ≠ '/')
    (hinside : (name.toList.all fun c => c != ']' && c != '[' && c != '=') = true)
    (hstyle : ¬ "@".toList <+: name.toList) : IsStyleTag name :=
  ⟨hopens, hinside, String.startsWith_string_eq_false_iff.mpr hstyle, h.trim, h.normal_eq,
    h.isDrawable_eq⟩

theorem isStyleTag_green : IsStyleTag "green" := by
  refine .of_colour ?_ ⟨'g', ['r', 'e', 'e', 'n'], rfl, rfl, by decide⟩ rfl (by decide)
  constructor <;> decide

theorem isStyleTag_red : IsStyleTag "red" := by
  refine .of_colour ?_ ⟨'r', ['e', 'd'], rfl, rfl, by decide⟩ rfl (by decide)
  constructor <;> decide

theorem isStyleTag_cyan : IsStyleTag "cyan" := by
  refine .of_colour ?_ ⟨'c', ['y', 'a', 'n'], rfl, rfl, by decide⟩ rfl (by decide)
  constructor <;> decide

end Markup

end SplitScreen
