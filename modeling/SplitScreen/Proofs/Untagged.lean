import SplitScreen.Proofs.Markup

/-!
Texts without tags of their own, among tags that are opened and closed in turn. Only a bracket opens
a tag, so a text without one is shown as it is, but for its emoji, and digits and the like are shown
as themselves anywhere. A tag that stands right after such a text stays a tag unless backslashes at
the end of the text make it text too. Main statement:
`Markup.Renders.exists_styled`, that such a text with markup can be rendered.
-/

namespace SplitScreen

namespace Markup

/-- A text in which no bracket opens a tag, and that shows no characters that are for private
use. -/
structure IsUntagged (cs : List Char) : Prop where
  noTag : '[' ∉ cs
  noStandIn : ∀ c ∈ shown cs, c.toNat < 0xf0000

variable {cs pre post rest : List Char}

theorem unescape_of_notMem (h : '[' ∉ cs) : unescape cs = cs := by
  induction cs with
  | nil => rfl
  | cons c more ih =>
      obtain ⟨-, hmore⟩ := not_or.mp (List.mem_cons.not.mp h)
      unfold unescape
      split
      · next heq =>
          obtain ⟨-, rfl⟩ := List.cons.inj heq
          exact absurd List.mem_cons_self hmore
      · next heq =>
          obtain ⟨rfl, rfl⟩ := List.cons.inj heq
          rw [ih hmore]
      · next heq => cases heq

theorem replace_append_left (h : ':' ∉ pre) (cs : List Char) :
    Emoji.replace (pre ++ cs) = pre ++ Emoji.replace cs := by
  induction pre with
  | nil => rfl
  | cons c more ih =>
      obtain ⟨hc, hmore⟩ := not_or.mp (List.mem_cons.not.mp h)
      rw [List.cons_append, Emoji.replace, if_neg (Ne.symm hc), ih hmore, List.cons_append]

theorem upToColon?_append {code after : List Char}
    (h : Emoji.upToColon? cs = some (code, after)) (post : List Char) :
    Emoji.upToColon? (cs ++ post) = some (code, after ++ post) := by
  induction cs generalizing code with
  | nil => cases h
  | cons c more ih =>
      rw [Emoji.upToColon?] at h
      rw [List.cons_append, Emoji.upToColon?]
      split at h
      · next hc =>
          cases h
          rw [if_pos hc]
      · next hc =>
          rw [if_neg hc]
          split at h
          · cases h
          · next hblank =>
              obtain ⟨⟨found, after'⟩, hfound, heq⟩ := Option.map_eq_some_iff.mp h
              cases heq
              rw [if_neg hblank, ih hfound]
              rfl

theorem upToColon?_append_eq_none (h : Emoji.upToColon? cs = none) (hpost : ':' ∉ post) :
    Emoji.upToColon? (cs ++ post) = none := by
  induction cs with
  | nil => exact upToColon?_eq_none hpost
  | cons c more ih =>
      rw [Emoji.upToColon?] at h
      rw [List.cons_append, Emoji.upToColon?]
      split at h
      · cases h
      · next hc =>
          rw [if_neg hc]
          split at h
          · next hblank => rw [if_pos hblank]
          · next hblank => rw [if_neg hblank, ih (Option.map_eq_none_iff.mp h), Option.map_none]

/-- What has no colon is in no name of an emoji. -/
theorem replace_append_right (hpost : ':' ∉ post) (cs : List Char) :
    Emoji.replace (cs ++ post) = Emoji.replace cs ++ post := by
  have hnil : Emoji.replace [] = [] := by rw [Emoji.replace]
  fun_induction Emoji.replace cs with
  | case1 =>
      have hself := replace_append_left hpost []
      rwa [List.append_nil, hnil, List.append_nil] at hself
  | case2 more hnone ih =>
      have hmore := upToColon?_append_eq_none hnone hpost
      rw [List.cons_append, Emoji.replace, if_pos rfl]
      split
      · rw [ih, List.cons_append]
      · next heq =>
          rw [hmore] at heq
          cases heq
  | case3 more code after hfound _ ih =>
      have hmore := upToColon?_append hfound post
      rw [List.cons_append, Emoji.replace, if_pos rfl]
      split
      · next heq =>
          rw [hmore] at heq
          cases heq
      · next heq =>
          rw [hmore] at heq
          cases heq
          rw [ih, List.append_assoc]
  | case4 c more hc ih => rw [List.cons_append, Emoji.replace, if_neg hc, ih, List.cons_append]

theorem shown_of_notMem (h : '[' ∉ cs) : shown cs = strip (Emoji.replace cs) := by
  rw [shown, unescape_of_notMem h]

/-- A text is shown before what has no colon as it is shown alone. -/
theorem shown_append_right (h : '[' ∉ cs ++ post) (hpost : ':' ∉ post) :
    shown (cs ++ post) = shown cs ++ strip post := by
  have hcs : '[' ∉ cs := fun hmem => h (List.mem_append_left _ hmem)
  rw [shown_of_notMem h, shown_of_notMem hcs, replace_append_right hpost, strip, List.filter_append]
  rfl

theorem shown_append_left (h : '[' ∉ pre ++ cs) (hpre : ':' ∉ pre) :
    shown (pre ++ cs) = strip pre ++ shown cs := by
  have hcs : '[' ∉ cs := fun hmem => h (List.mem_append_right _ hmem)
  rw [shown_of_notMem h, shown_of_notMem hcs, replace_append_left hpre, strip, List.filter_append]
  rfl

/-- A character that is shown as itself, whatever stands around it. -/
def isLiteral (c : Char) : Bool :=
  c != '[' && c != '\\' && c != ':' && !isStripped c && decide (c.toNat < 0xf0000)

variable {ds : List Char}

theorem isLiteral_iff {c : Char} : isLiteral c = true ↔
    ((c ≠ '[' ∧ c ≠ '\\') ∧ c ≠ ':') ∧ isStripped c = false ∧ c.toNat < 0xf0000 := by
  simp [isLiteral, and_assoc]

theorem notMem_of_isLiteral (h : cs.all isLiteral = true) : '[' ∉ cs ∧ ':' ∉ cs := by
  rw [List.all_eq_true] at h
  exact ⟨fun hmem => (isLiteral_iff.mp (h _ hmem)).1.1.1 rfl,
    fun hmem => (isLiteral_iff.mp (h _ hmem)).1.2 rfl⟩

theorem strip_of_isLiteral (h : cs.all isLiteral = true) : strip cs = cs := by
  rw [List.all_eq_true] at h
  exact List.filter_eq_self.mpr fun c hc => by simp [(isLiteral_iff.mp (h c hc)).2.1]

theorem isUntagged_of_isLiteral (h : cs.all isLiteral = true) :
    IsUntagged cs ∧ shown cs = cs := by
  obtain ⟨hopening, hcolon⟩ := notMem_of_isLiteral h
  have hshown : shown cs = cs := by
    rw [shown_of_notMem hopening, replace_eq_self (by rw [List.count_eq_zero.mpr hcolon]; omega),
      strip_of_isLiteral h]
  rw [List.all_eq_true] at h
  exact ⟨⟨hopening, hshown.symm ▸ fun c hc => (isLiteral_iff.mp (h c hc)).2.2⟩, hshown⟩

theorem IsUntagged.append (hcs : IsUntagged cs) (hds : IsUntagged ds)
    (hshown : shown (cs ++ ds) = shown cs ++ shown ds) : IsUntagged (cs ++ ds) :=
  ⟨fun hmem => (List.mem_append.mp hmem).elim hcs.noTag hds.noTag,
    hshown ▸ List.forall_mem_append.mpr ⟨hcs.noStandIn, hds.noStandIn⟩⟩

theorem IsUntagged.append_left (h : IsUntagged cs) (hds : ds.all isLiteral = true) :
    IsUntagged (ds ++ cs) ∧ shown (ds ++ cs) = ds ++ shown cs := by
  obtain ⟨hopening, hcolon⟩ := notMem_of_isLiteral hds
  obtain ⟨hliteral, hself⟩ := isUntagged_of_isLiteral hds
  have hboth : '[' ∉ ds ++ cs := fun hmem => (List.mem_append.mp hmem).elim hopening h.noTag
  have hshown : shown (ds ++ cs) = ds ++ shown cs := by
    rw [shown_append_left hboth hcolon, strip_of_isLiteral hds]
  exact ⟨hliteral.append h (by rw [hshown, hself]), hshown⟩

theorem IsUntagged.append_right (h : IsUntagged cs) (hds : ds.all isLiteral = true) :
    IsUntagged (cs ++ ds) ∧ shown (cs ++ ds) = shown cs ++ ds := by
  obtain ⟨hopening, hcolon⟩ := notMem_of_isLiteral hds
  obtain ⟨hliteral, hself⟩ := isUntagged_of_isLiteral hds
  have hboth : '[' ∉ cs ++ ds := fun hmem => (List.mem_append.mp hmem).elim h.noTag hopening
  have hshown : shown (cs ++ ds) = shown cs ++ ds := by
    rw [shown_append_right hboth hcolon, strip_of_isLiteral hds]
  exact ⟨h.append hliteral (by rw [hshown, hself]), hshown⟩

theorem isLiteral_of_isDigit {c : Char} (h : c.isDigit = true) : isLiteral c = true := by
  have hcode : c.toNat ≤ '9'.toNat := by
    rw [Char.isDigit, Bool.and_eq_true, decide_eq_true_iff, decide_eq_true_iff] at h
    exact h.2
  have hne {d : Char} (hd : d.isDigit = false) : c ≠ d := by
    rintro rfl
    exact absurd h (by simp [hd])
  refine isLiteral_iff.mpr ⟨⟨⟨hne (by decide), hne (by decide)⟩, hne (by decide)⟩, ?_, ?_⟩
  · simp [isStripped, hne (d := '\x07') (by decide), hne (d := '\x08') (by decide),
      hne (d := '\x0b') (by decide), hne (d := '\x0c') (by decide), hne (d := '\r') (by decide)]
  · exact lt_of_le_of_lt hcode (by decide)

theorem isLiteral_repr (n : Nat) : n.repr.toList.all isLiteral = true := by
  rw [Nat.repr, String.toList_ofList, List.all_eq_true]
  exact fun c hc => isLiteral_of_isDigit (Nat.isDigit_of_mem_toDigits (by decide) (by decide) hc)

theorem isLiteral_toString (i : Int) : (toString i).toList.all isLiteral = true := by
  cases i with
  | ofNat n => exact isLiteral_repr n
  | negSucc n =>
      have hsplit : (toString (Int.negSucc n)).toList = "-".toList ++ n.succ.repr.toList := by
        rw [← String.toList_append]
        rfl
      rw [hsplit, List.all_append, isLiteral_repr]
      decide

/-- A tag comes after nothing but backslashes. -/
theorem tag?_append (h : '[' ∉ cs) (rest : List Char) :
    tag? (cs ++ rest) =
      if cs.all (· == '\\') then (tag? rest).map fun found => (found.1 + cs.length, found.2)
      else none := by
  induction cs with
  | nil => simp
  | cons c more ih =>
      obtain ⟨hopening, hmore⟩ := not_or.mp (List.mem_cons.not.mp h)
      by_cases hc : c = '\\'
      · rw [hc, List.cons_append, tag?, ih hmore, List.all_cons, beq_self_eq_true, Bool.true_and,
          apply_ite (Option.map _), Option.map_map, Option.map_none]
        rfl
      · rw [List.cons_append, tag?_cons_of_ne (Ne.symm hopening) hc, List.all_cons,
          beq_eq_false_iff_ne.mpr hc, Bool.false_and]
        rfl

theorem tag?_eq_none (h : '[' ∉ cs) : tag? cs = none := by
  have happend := tag?_append h []
  rw [List.append_nil] at happend
  rw [happend]
  exact ite_self none

theorem piecesAfter_of_notMem (h : '[' ∉ cs) (plain : List Char) :
    piecesAfter plain cs = piece (plain ++ cs) := by
  induction cs generalizing plain with
  | nil =>
      rw [piecesAfter, List.append_nil]
      rfl
  | cons c more ih =>
      have hmore : '[' ∉ more := fun hmem => h (List.mem_cons_of_mem _ hmem)
      rw [piecesAfter_cons_of_none (tag?_eq_none h), ih hmore, List.append_assoc,
        List.singleton_append]

variable {c : Char} {body : List Char}

/-- Before a tag stands a text without tags. The backslashes at its end belong to the tag. -/
theorem exists_piecesAfter_tag (hc : startsTag c = true)
    (hbody : ∀ d ∈ body, d ≠ ']' ∧ d ≠ '[') (h : '[' ∉ cs) (rest : List Char) :
    ∃ init count, cs = init ++ List.replicate count '\\' ∧ ∀ plain,
      piecesAfter plain (cs ++ '[' :: (c :: body ++ ']' :: rest)) =
        piece (plain ++ init) ++ ofTag count (c :: body) ++ piecesAfter [] rest := by
  have htag := tag?_opening hc hbody rest
  -- Unless all of the text are backslashes, its first character is plain.
  induction cs with
  | nil =>
      refine ⟨[], 0, rfl, fun plain => ?_⟩
      rw [List.nil_append, piecesAfter_of_tag htag, List.append_nil]
  | cons d more ih =>
      have happend := tag?_append h ('[' :: (c :: body ++ ']' :: rest))
      rw [htag, Option.map_some] at happend
      split at happend
      · next hall =>
          refine ⟨[], 0 + (d :: more).length, ?_, fun plain => ?_⟩
          · rw [Nat.zero_add]
            exact List.eq_replicate_of_mem fun e he => by simpa using List.all_eq_true.mp hall e he
          · rw [piecesAfter_of_tag happend, List.append_nil]
      · obtain ⟨init, count, hinit, hpieces⟩ := ih fun hmem => h (List.mem_cons_of_mem _ hmem)
        refine ⟨d :: init, count, by rw [hinit, List.cons_append], fun plain => ?_⟩
        rw [List.cons_append] at happend ⊢
        rw [piecesAfter_cons_of_none happend, hpieces, List.append_assoc plain,
          List.singleton_append]

/-- Pieces that show a text while some tags are open, of which only the last one is closed. What is
left open does no harm. -/
inductive Renders : List String → List Piece → List Char → Prop
  | done (names : List String) : Renders names [] []
  | text {names : List String} {rest : List Piece} {after : List Char} (cs : List Char)
      (hrest : Renders names rest after) : Renders names (.text cs :: rest) (shown cs ++ after)
  | opens {names : List String} {rest : List Piece} {after : List Char} {name : String}
      (hname : IsStyleTag name) (hrest : Renders (name :: names) rest after) :
      Renders names (.tag name none :: rest) after
  | closes {names : List String} {rest : List Piece} {after : List Char} {name : String}
      (hname : IsStyleTag name) (hrest : Renders names rest after) :
      Renders (name :: names) (.tag ("/" ++ name) none :: rest) after

variable {names : List String} {ps : List Piece} {after : List Char}

theorem Renders.piece (h : Renders names ps after) (plain : List Char) :
    Renders names (Markup.piece plain ++ ps) (shown plain ++ after) := by
  cases plain with
  | nil =>
      rwa [shown_nil]
  | cons c cs => exact .text (c :: cs) h

/-- Tags that were opened before and are not closed do no harm. -/
theorem Renders.append (h : Renders names ps after) (more : List String) :
    Renders (names ++ more) ps after := by
  induction h with
  | done names => exact .done _
  | text cs _ ih => exact .text cs ih
  | opens hname _ ih => exact .opens hname ih
  | closes hname _ ih => exact .closes hname ih

/-- The tags that are open are these styles. -/
def Opens (names : List String) (opened : List Opened) : Prop :=
  opened.map Opened.name = names ∧ ∀ t ∈ opened, t.argument = none ∧ IsStyleTag t.name

theorem Opens.isDrawable_style {opened : List Opened} (h : Opens names opened) (stop : Nat) :
    ∀ t ∈ opened, Style.isDrawable (t.span false stop).style = true := by
  intro t ht
  obtain ⟨hargument, hname⟩ := h.2 t ht
  simp only [Opened.span, hargument, Bool.false_and, Bool.false_eq_true, if_false]
  exact hname.drawable

theorem Opens.exists_eq_cons {name : String} {opened : List Opened}
    (h : Opens (name :: names) opened) :
    ∃ start others, opened = ⟨start, name, none⟩ :: others ∧ Opens names others := by
  obtain ⟨hnames, hstyles⟩ := h
  obtain ⟨t, others, rfl, rfl, rfl⟩ := List.map_eq_cons_iff.mp hnames
  obtain ⟨⟨hargument, -⟩, hothers⟩ := List.forall_mem_cons.mp hstyles
  refine ⟨t.start, others, ?_, rfl, hothers⟩
  rw [← hargument]

theorem Renders.exists_render (h : Renders names ps after) {opened : List Opened}
    (hopened : Opens names opened) (isStandIn : Char → Bool) (before : Styled) :
    ∃ text, render isStandIn opened before ps = .ok text ∧ text.chars = before.chars ++ after ∧
      ∀ span ∈ text.spans, span ∈ before.spans ∨ Style.isDrawable span.style = true := by
  induction h generalizing opened before with
  | done names =>
      refine ⟨_, render.eq_1 .., (List.append_nil _).symm, fun span hspan => ?_⟩
      rcases List.mem_append.mp hspan with hspan | hspan
      · exact Or.inl hspan
      · obtain ⟨t, ht, rfl⟩ := List.mem_map.mp hspan
        exact Or.inr (hopened.isDrawable_style _ t ht)
  | text cs _ ih =>
      obtain ⟨text, hrender, hchars, hspans⟩ :=
        ih hopened { before with chars := before.chars ++ shown cs }
      refine ⟨text, hrender, ?_, hspans⟩
      rw [hchars, List.append_assoc]
  | opens hname _ ih =>
      rw [hname.render_open]
      refine ih ⟨?_, ?_⟩ before
      · rw [List.map_cons, hopened.1]
      · exact List.forall_mem_cons.mpr ⟨⟨rfl, hname⟩, hopened.2⟩
  | @closes names rest after name hname _ ih =>
      obtain ⟨start, others, rfl, hothers⟩ := hopened.exists_eq_cons
      rw [hname.render_close]
      obtain ⟨text, hrender, hchars, hspans⟩ := ih hothers
        { before with spans := before.spans ++ [⟨start, before.chars.length, name⟩] }
      refine ⟨text, hrender, hchars, fun span hspan => ?_⟩
      rcases hspans span hspan with hspan | hspan
      · rcases List.mem_append.mp hspan with hspan | hspan
        · exact Or.inl hspan
        · rw [List.mem_singleton.mp hspan]
          exact Or.inr hname.drawable
      · exact Or.inr hspan

/-- Such pieces have a text, and it is made of what they show. -/
theorem Renders.exists_styled {s : String} (h : Renders [] (pieces s) after)
    (hafter : ∀ c ∈ after, c.toNat < 0xf0000) (isStandIn : Char → Bool) :
    ∃ text, styled isStandIn s = .ok text ∧ text.chars = after ∧ text.IsDrawable := by
  have hopened : Opens [] [] := ⟨rfl, nofun⟩
  obtain ⟨text, hrender, hchars, hspans⟩ := h.exists_render hopened isStandIn ⟨[], []⟩
  rw [List.nil_append] at hchars
  refine ⟨text, hrender, hchars, hchars ▸ hafter, fun span hspan => ?_⟩
  rcases hspans span hspan with hspan | hspan
  · cases hspan
  · exact hspan

theorem styled_of_untagged (h : '[' ∉ cs) (isStandIn : Char → Bool) :
    styled isStandIn (String.ofList cs) = .ok ⟨shown cs, []⟩ := by
  have hpieces : pieces (String.ofList cs) = piece cs ++ [] := by
    rw [pieces, String.toList_ofList, piecesAfter_of_notMem h, List.nil_append, List.append_nil]
  rw [styled, hpieces, render_piece, render]
  rfl

theorem shown_backslashes {init : List Char} (h : '[' ∉ init) (count : Nat) :
    shown (init ++ List.replicate count '\\') = shown init ++ List.replicate count '\\' := by
  have hself : ∀ c ∈ List.replicate count '\\', c = '\\' := fun c hc => List.eq_of_mem_replicate hc
  have hother {d : Char} (hd : d ≠ '\\') : d ∉ List.replicate count '\\' :=
    fun hmem => hd (hself d hmem)
  have hboth : '[' ∉ init ++ List.replicate count '\\' :=
    fun hmem => (List.mem_append.mp hmem).elim h (hother (by decide))
  rw [shown_append_right hboth (hother (by decide))]
  congr 1
  exact List.filter_eq_self.mpr fun c hc => by rw [hself c hc]; rfl

theorem Renders.backslashes (h : Renders names ps after) (init : List Char) (count : Nat) :
    Renders names (Markup.piece init ++ (Markup.piece (List.replicate count '\\') ++ ps))
      (shown init ++ (List.replicate count '\\' ++ after)) := by
  have hself : shown (List.replicate count '\\') = List.replicate count '\\' := by
    simpa [shown_nil] using shown_backslashes List.not_mem_nil count
  have hpieces := (h.piece (List.replicate count '\\')).piece init
  rwa [hself] at hpieces

theorem Renders.of_untagged (h : '[' ∉ cs) (names : List String) :
    Renders names (piecesAfter [] cs) (shown cs) := by
  have hrenders := (Renders.done names).piece cs
  rwa [List.append_nil, List.append_nil, ← List.nil_append cs, ← piecesAfter_of_notMem h,
    List.nil_append] at hrenders

theorem Renders.opening {name : String} (hname : IsStyleTag name)
    (h : ∀ c ∈ cs, c ≠ '[' ∧ c ≠ '\\')
    (hrest : Renders (name :: names) (piecesAfter [] rest) after) :
    Renders names (piecesAfter [] (cs ++ '[' :: (name.toList ++ ']' :: rest)))
      (shown cs ++ after) := by
  rw [piecesAfter_append h, hname.piecesAfter_opening]
  exact (Renders.opens hname hrest).piece cs

/-- A closing tag after a text without tags closes its style. After backslashes it may be text, and
half of them are not shown. -/
theorem Renders.exists_closing {name : String} (hname : IsStyleTag name) (h : '[' ∉ cs)
    (hrest : Renders [] (piecesAfter [] rest) after) :
    ∃ closed, Renders [name] (piecesAfter [] (cs ++ '[' :: ('/' :: name.toList ++ ']' :: rest)))
        (closed ++ after) ∧
      (∀ c ∈ closed, c ∈ shown cs ∨ c = '\\' ∨ c ∈ shown ('[' :: '/' :: name.toList ++ [']'])) ∧
      (cs.getLast? ≠ some '\\' → closed = shown cs) := by
  have hinside : ∀ d ∈ name.toList, (d ≠ ']' ∧ d ≠ '[') ∧ d ≠ '=' := by
    simpa using hname.inside
  have hequals : ∀ d ∈ '/' :: name.toList, d ≠ '=' :=
    List.forall_mem_cons.mpr ⟨by decide, fun d hd => (hinside d hd).2⟩
  have hslash : String.ofList ('/' :: name.toList) = "/" ++ name := by
    apply String.toList_inj.mp
    simp
  obtain ⟨init, count, rfl, hpieces⟩ :=
    exists_piecesAfter_tag (c := '/') (by decide) (fun d hd => (hinside d hd).1) h rest
  have hinit : '[' ∉ init := fun hmem => h (List.mem_append_left _ hmem)
  have hcount (hlast : (init ++ List.replicate count '\\').getLast? ≠ some '\\') : count = 0 := by
    cases count with
    | zero => rfl
    | succ count => exact absurd (by simp [List.replicate_succ']) hlast
  have hhalf : ∀ c ∈ List.replicate (count / 2) '\\', c = '\\' :=
    fun c hc => List.eq_of_mem_replicate hc
  rw [hpieces, ofTag_eq hequals, List.nil_append, List.append_assoc, List.append_assoc,
    shown_backslashes hinit]
  by_cases hodd : count % 2 = 1
  · rw [if_pos hodd]
    refine ⟨shown init ++ (List.replicate (count / 2) '\\' ++
      shown ('[' :: '/' :: name.toList ++ [']'])), ?_, ?_, fun hlast => ?_⟩
    · rw [List.append_assoc, List.append_assoc]
      exact (Renders.text ('[' :: '/' :: name.toList ++ [']']) (hrest.append [name])).backslashes
        init (count / 2)
    · simp only [List.mem_append]
      rintro c (hc | hc | hc)
      · exact Or.inl (Or.inl hc)
      · exact Or.inr (Or.inl (hhalf c hc))
      · exact Or.inr (Or.inr hc)
    · rw [hcount hlast] at hodd
      cases hodd
  · rw [if_neg hodd, hslash]
    refine ⟨shown init ++ List.replicate (count / 2) '\\', ?_, ?_, fun hlast => ?_⟩
    · rw [List.append_assoc]
      exact (Renders.closes hname hrest).backslashes init (count / 2)
    · simp only [List.mem_append]
      rintro c (hc | hc)
      · exact Or.inl (Or.inl hc)
      · exact Or.inr (Or.inl (hhalf c hc))
    · rw [hcount hlast]

end Markup

end SplitScreen
