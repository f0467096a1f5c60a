import SplitScreen.Proofs.Layout.Codec

namespace SplitScreen

theorem Text.isEmpty_iff {s : Text} : s.isEmpty = true ↔ s = "" := by
  obtain ⟨symbols⟩ := s
  change symbols.isEmpty = true ↔ Text.mk symbols = Text.mk []
  rw [List.isEmpty_iff, Text.mk.injEq]

theorem Direction.eq_name_of_ofName? {s : String} {d : Direction} (h : ofName? s = some d) :
    s = d.name := by
  unfold ofName? at h
  split at h
  · obtain rfl := Option.some.inj h
    rfl
  · obtain rfl := Option.some.inj h
    rfl
  · cases h

theorem LongInteger.head?_message (digits : Option Nat) :
    (message digits).toList.head? = some 'E' := by
  unfold message
  -- The text of the limit has no part in it, and is not to be worked out.
  generalize toString digitLimit = limit
  simp only [String.toList_append, List.append_assoc]
  rfl

namespace ShapeError

/-- What the check has to tell of a value that does not pass it. -/
def wording : ShapeError → String
  | notTable found => "layout node must be a table, got " ++ found.kindName
  | invalidView view => "invalid view: " ++ view.describe
  | noShape => "layout node needs either 'view' or 'split'"
  | invalidDirection direction => "invalid split direction: " ++ direction.describe
  | invalidRatio ratio => "invalid ratio: " ++ ratio.describe
  | missingPart => "split node needs 'first' and 'second'"

def quotesLong : ShapeError → Bool
  | invalidView v | invalidDirection v | invalidRatio v => v.hasLongInteger
  | notTable _ | noShape | missingPart => false

theorem message_eq (e : ShapeError) :
    e.message = if e.quotesLong then LongInteger.message none else e.wording := by
  cases e with
  | notTable | noShape | missingPart => rfl
  | invalidView | invalidDirection | invalidRatio => rfl

/-- The words in place of a long integer are those of no check. -/
theorem message_ne_wording {e : ShapeError} (h : e.quotesLong = true) : e.message ≠ e.wording := by
  have hwording : e.wording.toList.head? = some 'i' := by
    cases e with
    | notTable | noShape | missingPart => cases h
    | invalidView v | invalidDirection v | invalidRatio v =>
        unfold wording
        generalize v.describe = words
        rw [String.toList_append]
        rfl
  rw [message_eq, if_pos h]
  intro heq
  rw [← heq, LongInteger.head?_message] at hwording
  cases hwording

end ShapeError

namespace Layout

/-- The entry of a ratio holds two positive integers, as a list, or as a tuple where the data comes
from no file. None stands for equal parts. -/
inductive RatioGiven : Option Value → Ratio → Prop
  | absent : RatioGiven none .even
  | list (r : Ratio) : RatioGiven (some (.list [.int r.first, .int r.second])) r
  | tuple (r : Ratio) : RatioGiven (some (.tuple [.int r.first, .int r.second])) r

/-- A table of a split, up to its parts. -/
structure Opens (entries : Assoc Text Value) (direction : Direction) (ratio : Ratio) : Prop where
  view : Assoc.find? ("view" : Text) entries = none
  split : Assoc.find? ("split" : Text) entries = some (.text direction.name)
  ratio : RatioGiven (Assoc.find? ("ratio" : Text) entries) ratio

def marked (entries : Assoc Text Value) : Bool :=
  ((Assoc.find? ("focused" : Text) entries).map Value.isSet).getD false

inductive Describes : Value → Layout Ratio → Prop
  | pane {entries : Assoc Text Value} {name : Text}
    (hview : Assoc.find? ("view" : Text) entries = some (.text name)) (hname : name ≠ "") :
    Describes (.table entries) (.pane (View.ofName name) (marked entries))
  | split {entries : Assoc Text Value} {direction : Direction} {ratio : Ratio} {v w : Value}
    {first second : Layout Ratio} (hopens : Opens entries direction ratio)
    (hfirst : Assoc.find? ("first" : Text) entries = some v)
    (hsecond : Assoc.find? ("second" : Text) entries = some w)
    (hv : Describes v first) (hw : Describes w second) :
    Describes (.table entries) (.split direction ratio first second)

/-- The first check that a value does not pass, with those before it passed: the checks of a table
in their order, then those of the first part, then those of the second. -/
inductive FailsAt : Value → ShapeError → Prop
  | notTable {v : Value} (h : ∀ entries, v ≠ .table entries) : FailsAt v (.notTable v)
  | view {entries : Assoc Text Value} {v : Value}
    (hview : Assoc.find? ("view" : Text) entries = some v)
    (h : ∀ name : Text, v = .text name → name = "") : FailsAt (.table entries) (.invalidView v)
  | shape {entries : Assoc Text Value} (hview : Assoc.find? ("view" : Text) entries = none)
    (hsplit : Assoc.find? ("split" : Text) entries = none) : FailsAt (.table entries) .noShape
  | direction {entries : Assoc Text Value} {v : Value}
    (hview : Assoc.find? ("view" : Text) entries = none)
    (hsplit : Assoc.find? ("split" : Text) entries = some v)
    (h : ∀ direction : Direction, v ≠ .text direction.name) :
    FailsAt (.table entries) (.invalidDirection v)
  | ratio {entries : Assoc Text Value} {direction : Direction} {v : Value}
    (hview : Assoc.find? ("view" : Text) entries = none)
    (hsplit : Assoc.find? ("split" : Text) entries = some (.text direction.name))
    (hratio : Assoc.find? ("ratio" : Text) entries = some v)
    (h : ∀ ratio, ¬ RatioGiven (some v) ratio) : FailsAt (.table entries) (.invalidRatio v)
  | parts {entries : Assoc Text Value} {direction : Direction} {ratio : Ratio}
    (hopens : Opens entries direction ratio)
    (h : Assoc.find? ("first" : Text) entries = none ∨
      Assoc.find? ("second" : Text) entries = none) : FailsAt (.table entries) .missingPart
  | first {entries : Assoc Text Value} {direction : Direction} {ratio : Ratio} {v w : Value}
    {e : ShapeError} (hopens : Opens entries direction ratio)
    (hfirst : Assoc.find? ("first" : Text) entries = some v)
    (hsecond : Assoc.find? ("second" : Text) entries = some w) (hv : FailsAt v e) :
    FailsAt (.table entries) e
  | second {entries : Assoc Text Value} {direction : Direction} {ratio : Ratio} {v w : Value}
    {first : Layout Ratio} {e : ShapeError} (hopens : Opens entries direction ratio)
    (hfirst : Assoc.find? ("first" : Text) entries = some v)
    (hsecond : Assoc.find? ("second" : Text) entries = some w) (hv : Describes v first)
    (hw : FailsAt w e) : FailsAt (.table entries) e

variable {v w : Value} {l : Layout Ratio} {e : ShapeError} {direction : Direction} {ratio : Ratio}
  {entries : Assoc Text Value}

theorem exists_of_not_ratioGiven {given : Option Value} (h : ¬ ∃ ratio, RatioGiven given ratio) :
    ∃ v, given = some v := by
  cases given with
  | none => exact absurd ⟨_, .absent⟩ h
  | some v => exact ⟨v, rfl⟩

theorem opens_or_failsAt (hview : Assoc.find? ("view" : Text) entries = none)
    (hsplit : Assoc.find? ("split" : Text) entries = some v) :
    (∃ direction ratio, Opens entries direction ratio) ∨ ∃ e, FailsAt (.table entries) e := by
  by_cases hdirection : ∃ direction : Direction, v = .text direction.name
  · obtain ⟨direction, rfl⟩ := hdirection
    by_cases hratio : ∃ ratio, RatioGiven (Assoc.find? ("ratio" : Text) entries) ratio
    · obtain ⟨ratio, hratio⟩ := hratio
      exact Or.inl ⟨direction, ratio, hview, hsplit, hratio⟩
    · obtain ⟨w, hw⟩ := exists_of_not_ratioGiven hratio
      rw [hw] at hratio
      exact Or.inr ⟨_, .ratio hview hsplit hw fun ratio h => hratio ⟨ratio, h⟩⟩
  · exact Or.inr ⟨_, .direction hview hsplit fun d hd => hdirection ⟨d, hd⟩⟩

/-- What opens as a split is one when its parts describe layouts, and fails at a part otherwise. -/
theorem Opens.describes_or_failsAt (hopens : Opens entries direction ratio)
    (ih₁ : ∀ v, Assoc.find? ("first" : Text) entries = some v →
      (∃ l, Describes v l) ∨ ∃ e, FailsAt v e)
    (ih₂ : ∀ v, Assoc.find? ("second" : Text) entries = some v →
      (∃ l, Describes v l) ∨ ∃ e, FailsAt v e) :
    (∃ l, Describes (.table entries) l) ∨ ∃ e, FailsAt (.table entries) e := by
  cases hfirst : Assoc.find? ("first" : Text) entries with
  | none => exact Or.inr ⟨_, .parts hopens (Or.inl hfirst)⟩
  | some v =>
      cases hsecond : Assoc.find? ("second" : Text) entries with
      | none => exact Or.inr ⟨_, .parts hopens (Or.inr hsecond)⟩
      | some w =>
          rcases ih₁ v hfirst with ⟨first, hv⟩ | ⟨e, hv⟩
          · rcases ih₂ w hsecond with ⟨second, hw⟩ | ⟨e, hw⟩
            · exact Or.inl ⟨_, .split hopens hfirst hsecond hv hw⟩
            · exact Or.inr ⟨e, .second hopens hfirst hsecond hv hw⟩
          · exact Or.inr ⟨e, .first hopens hfirst hsecond hv⟩

theorem describes_or_failsAt (v : Value) : (∃ l, Describes v l) ∨ ∃ e, FailsAt v e := by
  -- The cases are those of the reading, so the parts of a split come with their hypotheses.
  induction v using ofValue.induct with
  | case1 entries view hview =>
      by_cases h : ∃ name : Text, view = .text name ∧ name ≠ ""
      · obtain ⟨name, rfl, hname⟩ := h
        exact Or.inl ⟨_, .pane hview hname⟩
      · refine Or.inr ⟨_, .view hview fun name hname => ?_⟩
        exact Decidable.of_not_not fun hne => h ⟨name, hname, hne⟩
  | case2 entries hview hsplit => exact Or.inr ⟨_, .shape hview hsplit⟩
  | case3 entries hview direction hsplit ih₁ ih₂ =>
      rcases opens_or_failsAt hview hsplit with ⟨d, ratio, hopens⟩ | hfault
      · exact hopens.describes_or_failsAt ih₁ ih₂
      · exact Or.inr hfault
  | case4 other hother => exact Or.inr ⟨_, .notTable hother⟩

theorem readView_text {name : Text} (h : name ≠ "") :
    readView (.text name) = .ok (View.ofName name) := by
  rw [readView, if_neg]
  rwa [Text.isEmpty_iff]

theorem readView_of_invalid (h : ∀ name : Text, v = .text name → name = "") :
    readView v = .error (.invalidView v) := by
  unfold readView
  split
  · next name =>
      obtain rfl := h name rfl
      rfl
  · rfl

theorem readDirection_of_invalid (h : ∀ d : Direction, v ≠ .text d.name) :
    readDirection v = .error (.invalidDirection v) := by
  unfold readDirection
  split
  · next s =>
      split
      · next d hd =>
          obtain ⟨name, hname, hd⟩ := Option.bind_eq_some_iff.mp hd
          refine absurd ?_ (h d)
          rw [Text.toString?_eq_some_iff.mp hname, Direction.eq_name_of_ofName? hd]
      · rfl
  · rfl

theorem RatioGiven.readRatio_eq {given : Option Value} (h : RatioGiven given ratio) :
    readRatio given = .ok ratio := by
  cases h with
  | absent => rfl
  | list => simp [readRatio, Ratio.ofValue?]
  | tuple => simp [readRatio, Ratio.ofValue?]

theorem readRatio_of_invalid (h : ∀ ratio, ¬ RatioGiven (some v) ratio) :
    readRatio (some v) = .error (.invalidRatio v) := by
  cases hratio : Ratio.ofValue? v with
  | none => simp only [readRatio, hratio]
  | some r =>
      refine absurd ?_ (h r)
      unfold Ratio.ofValue? at hratio
      split at hratio
      · obtain ⟨rfl, rfl⟩ := Ratio.ofInts?_eq_some_iff.mp hratio
        exact .list r
      · obtain ⟨rfl, rfl⟩ := Ratio.ofInts?_eq_some_iff.mp hratio
        exact .tuple r
      · cases hratio

theorem Opens.ofValue_eq (h : Opens entries direction ratio)
    (hfirst : Assoc.find? ("first" : Text) entries = some v)
    (hsecond : Assoc.find? ("second" : Text) entries = some w) :
    ofValue (.table entries) =
      (do return .split direction ratio (← ofValue v) (← ofValue w)) := by
  rw [ofValue_split h.view h.split hfirst hsecond, readDirection_name, h.ratio.readRatio_eq]
  rfl

theorem Describes.ofValue_eq (h : Describes v l) : ofValue v = .ok l := by
  induction h with
  | pane hview hname =>
      rw [ofValue_pane hview, readView_text hname]
      rfl
  | split hopens hfirst hsecond _ _ ih₁ ih₂ =>
      rw [hopens.ofValue_eq hfirst hsecond, ih₁, ih₂]
      rfl

theorem FailsAt.ofValue_eq (h : FailsAt v e) : ofValue v = .error e := by
  induction h with
  | notTable h =>
      rw [ofValue]
      exact h
  | view hview h =>
      rw [ofValue_pane hview, readView_of_invalid h]
      rfl
  | shape hview hsplit =>
      rw [ofValue]
      simp only [hview, hsplit]
  | direction hview hsplit h =>
      rw [ofValue]
      simp only [hview, hsplit, readDirection_of_invalid h]
      rfl
  | ratio hview hsplit hratio h =>
      rw [ofValue]
      simp only [hview, hsplit, hratio, readDirection_name, readRatio_of_invalid h]
      rfl
  | parts hopens h =>
      rw [ofValue]
      simp only [hopens.view, hopens.split, readDirection_name, hopens.ratio.readRatio_eq]
      simp only [bind, Except.bind]
      split
      · next first second hfirst hsecond => simp [hfirst, hsecond] at h
      · rfl
  | first hopens hfirst hsecond _ ih =>
      rw [hopens.ofValue_eq hfirst hsecond, ih]
      rfl
  | second hopens hfirst hsecond hv _ ih =>
      rw [hopens.ofValue_eq hfirst hsecond, hv.ofValue_eq, ih]
      rfl

theorem ofValue_eq_ok_iff : ofValue v = .ok l ↔ Describes v l := by
  refine ⟨fun h => ?_, Describes.ofValue_eq⟩
  rcases describes_or_failsAt v with ⟨l', hl'⟩ | ⟨e, he⟩
  · obtain rfl := Except.ok.inj (h.symm.trans hl'.ofValue_eq)
    exact hl'
  · cases h.symm.trans he.ofValue_eq

theorem ofValue_eq_error_iff : ofValue v = .error e ↔ FailsAt v e := by
  refine ⟨fun h => ?_, FailsAt.ofValue_eq⟩
  rcases describes_or_failsAt v with ⟨l, hl⟩ | ⟨e', he'⟩
  · cases h.symm.trans hl.ofValue_eq
  · obtain rfl := Except.error.inj (h.symm.trans he'.ofValue_eq)
    exact he'

/-- Nothing is left out of a table but the mark that is not set, nothing is put in that is not
read, and the entries have a fixed order. -/
inductive IsNormal : Value → Prop
  | pane {name : Text} (hname : name ≠ "") : IsNormal (.table [("view", .text name)])
  | focused {name : Text} (hname : name ≠ "") :
    IsNormal (.table [("view", .text name), ("focused", .bool true)])
  | split (direction : Direction) (ratio : Ratio) {v w : Value} (hv : IsNormal v)
    (hw : IsNormal w) :
    IsNormal (.table [("split", .text direction.name),
      ("ratio", .list [.int ratio.first, .int ratio.second]), ("first", v), ("second", w)])

theorem isNormal_toValue (h : ∀ view ∈ l.views, view.name ≠ "") : IsNormal l.literal.toValue := by
  induction l with
  | pane view focused =>
      have hname := h view (List.mem_singleton_self view)
      cases focused with
      | false => exact .pane hname
      | true => exact .focused hname
  | split direction ratio first second ih₁ ih₂ =>
      refine .split direction ratio (ih₁ ?_) (ih₂ ?_)
      · exact fun view hview => h view (List.mem_append_left _ hview)
      · exact fun view hview => h view (List.mem_append_right _ hview)

theorem IsNormal.exists_describes (h : IsNormal v) :
    ∃ l, Describes v l ∧ l.literal.toValue = v := by
  induction h with
  | @pane name hname =>
      refine ⟨.pane (View.ofName name) false, .pane rfl hname, ?_⟩
      simp [literal, mapRatio, toValue]
  | @focused name hname =>
      refine ⟨.pane (View.ofName name) true, .pane rfl hname, ?_⟩
      simp [literal, mapRatio, toValue]
  | split direction ratio _ _ ih₁ ih₂ =>
      obtain ⟨first, hfirst, rfl⟩ := ih₁
      obtain ⟨second, hsecond, rfl⟩ := ih₂
      have hopens : Opens [("split", .text direction.name),
          ("ratio", .list [.int ratio.first, .int ratio.second]),
          ("first", first.literal.toValue), ("second", second.literal.toValue)]
          direction ratio := ⟨rfl, rfl, .list ratio⟩
      exact ⟨.split direction ratio first second, .split hopens rfl rfl hfirst hsecond, rfl⟩

/-- A value is read exactly when it is described, and is refused exactly at the first check that it
does not pass, in the words of that check unless they would have to quote an integer that is too
long. A layout that is read has one normal form, which is its plain data, and is read from that
again. -/
theorem ofValue_exact (v : Value) :
    (∀ l, ofValue v = .ok l ↔ Describes v l) ∧
      (∀ e, ofValue v = .error e ↔ FailsAt v e) ∧
      (∀ e, ofValue v = .error e →
        e.message = if e.quotesLong then LongInteger.message none else e.wording) ∧
      ∀ l, ofValue v = .ok l →
        IsNormal l.literal.toValue ∧ ofValue l.literal.toValue = .ok l ∧
          ∀ w, IsNormal w → ofValue w = .ok l → w = l.literal.toValue := by
  refine ⟨fun l => ofValue_eq_ok_iff, fun e => ofValue_eq_error_iff, fun e _ => e.message_eq,
    fun l h => ⟨?_, ofValue_toValue_of_storable (storable_of_ofValue h), ?_⟩⟩
  · apply isNormal_toValue
    intro view hview
    have hname := (storable_of_ofValue h view hview).isEmpty_name
    rwa [ne_eq, ← Text.isEmpty_iff, Bool.not_eq_true]
  · intro w hw hread
    obtain ⟨l', hl', rfl⟩ := hw.exists_describes
    rw [Except.ok.inj (hread.symm.trans hl'.ofValue_eq)]

/-- A split with unread entries in its parts, and one with several faults, of which the ratio is
the first. -/
theorem ofValue_exact_mixed :
    let v : Value := .table [("first", .table [("view", .text "trace"), ("split", .null)]),
      ("second", .table [("focused", .list [.null]), ("view", .text "notes")]),
      ("split", .text "vertical")]
    let l : Layout Ratio :=
      .split .vertical .even (.pane (.kind .trace) false) (.pane (.custom "notes") true)
    let w : Value := .table [("split", .text "vertical"), ("ratio", .list [.int 2, .bool true]),
      ("first", .null)]
    let e : ShapeError := .invalidRatio (.list [.int 2, .bool true])
    (Describes v l ∧ ofValue v = .ok l ∧ IsNormal l.literal.toValue) ∧
      FailsAt w e ∧ ofValue w = .error e ∧ e.message = "invalid ratio: [2, True]" := by
  intro v l w e
  have htrace : (("trace" : String) : Text) ≠ "" := by decide
  have hnotes : (("notes" : String) : Text) ≠ "" := by decide
  have hv : Describes v l :=
    .split ⟨rfl, rfl, .absent⟩ rfl rfl (.pane rfl htrace) (.pane rfl hnotes)
  have hratio : ∀ r, ¬ RatioGiven (some (.list [.int 2, .bool true])) r := by
    intro r h
    cases h.readRatio_eq
  have hw : FailsAt w e := @FailsAt.ratio _ .vertical _ rfl rfl rfl hratio
  obtain ⟨hread, -, -, hnormal⟩ := ofValue_exact v
  obtain ⟨-, hfails, hmessage, -⟩ := ofValue_exact w
  have hl := (hread l).mpr hv
  have he := (hfails e).mpr hw
  exact ⟨⟨hv, hl, (hnormal l hl).1⟩, hw, he, (hmessage e he).trans (by decide +kernel)⟩

theorem unsaid_of_isLong {n : Int} (h : LongInteger.isLong n = true) :
    ∃ e, FailsAt (.table [("view", .int n)]) e ∧ ofValue (.table [("view", .int n)]) = .error e ∧
      e.message ≠ e.wording := by
  have hview : FailsAt (.table [("view", .int n)]) (.invalidView (.int n)) := .view rfl nofun
  have hquotes : (ShapeError.invalidView (.int n)).quotesLong = true := by
    rw [ShapeError.quotesLong, Value.hasLongInteger, h]
  exact ⟨_, hview, hview.ofValue_eq, ShapeError.message_ne_wording hquotes⟩

/-- An integer of one digit too many stands where a view should. -/
theorem long_view_unsaid :
    let v : Value := .table [("view", .int (Nat.pow 10 LongInteger.digitLimit : Nat))]
    ∃ e, FailsAt v e ∧ ofValue v = .error e ∧ e.message ≠ e.wording := by
  have hlong : LongInteger.isLong (Nat.pow 10 LongInteger.digitLimit : Nat) = true := by
    rw [LongInteger.isLong, Int.natAbs_natCast]
    exact decide_eq_true (Nat.le_refl _)
  exact unsaid_of_isLong hlong

end Layout

end SplitScreen
