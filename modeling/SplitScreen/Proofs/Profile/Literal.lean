import SplitScreen.Proofs.Profile.Layout

namespace SplitScreen

namespace Value

/-- A sequence of two positive integers. -/
def IsRatio (v : Value) : Prop :=
  ∃ a b : Int, 0 < a ∧ 0 < b ∧ (v = .list [.int a, .int b] ∨ v = .tuple [.int a, .int b])

def asTuple : Value → Value
  | list items => tuple items
  | v => v

end Value

theorem Ratio.ofValue?_eq_some_iff {v : Value} {r : Ratio} :
    ofValue? v = some r ↔ v.asTuple = r.toValue := by
  constructor
  · intro h
    unfold ofValue? at h
    split at h
    · obtain ⟨rfl, rfl⟩ := ofInts?_eq_some_iff.mp h
      rfl
    · obtain ⟨rfl, rfl⟩ := ofInts?_eq_some_iff.mp h
      rfl
    · cases h
  · intro h
    unfold Value.asTuple at h
    split at h
    · next items =>
        obtain rfl : items = [.int r.first, .int r.second] := by simpa [toValue] using h
        exact ofInts?_self r
    · rw [h]
      exact ofValue?_toValue r

theorem Value.isRatio_iff {v : Value} : v.IsRatio ↔ ∃ r, Ratio.ofValue? v = some r := by
  constructor
  · rintro ⟨a, b, ha, hb, rfl | rfl⟩
    · exact ⟨⟨a, b, ha, hb⟩, Ratio.ofInts?_self ⟨a, b, ha, hb⟩⟩
    · exact ⟨⟨a, b, ha, hb⟩, Ratio.ofInts?_self ⟨a, b, ha, hb⟩⟩
  · rintro ⟨r, hr⟩
    have htuple := Ratio.ofValue?_eq_some_iff.mp hr
    refine ⟨r.first, r.second, r.first_pos, r.second_pos, ?_⟩
    unfold asTuple at htuple
    split at htuple
    · next items => exact Or.inl (by simpa [Ratio.toValue] using htuple)
    · exact Or.inr htuple

/-- Two shares of which the first is too long to be written out and the second is nothing. -/
def Value.longPair : Value := .tuple [.int (Nat.pow 10 LongInteger.digitLimit : Nat), .int 0]

theorem Value.not_isRatio_longPair : ¬ longPair.IsRatio := by
  rintro ⟨a, b, -, hb, h | h⟩
  · cases h
  · cases h
    exact absurd hb (Int.lt_irrefl 0)

theorem Value.ofValue?_longPair : Ratio.ofValue? longPair = none := by
  cases h : Ratio.ofValue? longPair with
  | none => rfl
  | some r => exact absurd (isRatio_iff.mpr ⟨r, h⟩) not_isRatio_longPair

theorem Fault.invalidRatio_longPair : invalidRatio .longPair = .longInteger := by
  have hlong : LongInteger.isLong (Nat.pow 10 LongInteger.digitLimit : Nat) = true := by
    rw [LongInteger.isLong, Int.natAbs_natCast]
    exact decide_eq_true (Nat.le_refl _)
  rw [invalidRatio, Value.longPair, Value.hasLongInteger, Value.anyLongInteger,
    Value.hasLongInteger, hlong]
  rfl

namespace Layout

variable {ρ σ : Type} {l : Layout Value} {l' : Layout Ratio}

/-- The ratios of all splits, a split before its parts and the first part before the second. -/
def ratios : Layout ρ → List ρ
  | pane .. => []
  | split _ ratio first second => ratio :: (first.ratios ++ second.ratios)

theorem ratios_mapRatio (f : ρ → σ) (l : Layout ρ) : (l.mapRatio f).ratios = l.ratios.map f := by
  induction l with
  | pane view focused => rfl
  | split direction ratio first second ih₁ ih₂ => simp [mapRatio, ratios, ih₁, ih₂]

theorem marks_mapRatio (f : ρ → σ) (l : Layout ρ) : (l.mapRatio f).marks = l.marks := by
  induction l with
  | pane view focused => rfl
  | split direction ratio first second ih₁ ih₂ => simp [mapRatio, marks, ih₁, ih₂]

theorem paneCount_mapRatio (f : ρ → σ) (l : Layout ρ) :
    (l.mapRatio f).paneCount = l.paneCount := by
  induction l with
  | pane view focused => rfl
  | split direction ratio first second ih₁ ih₂ => simp [mapRatio, paneCount, ih₁, ih₂]

theorem mapRatio_markedAt (f : ρ → σ) (k : Int) (l : Layout ρ) :
    (l.markedAt k).mapRatio f = (l.mapRatio f).markedAt k := by
  induction l generalizing k with
  | pane view focused => rfl
  | split direction ratio first second ih₁ ih₂ =>
      simp [markedAt, mapRatio, ih₁, ih₂, paneCount_mapRatio]

/-- A literal passes the check as the layout that it is with all its ratios as tuples. -/
theorem check_eq_ok_iff : l.check = .ok l' ↔ l.mapRatio Value.asTuple = l'.literal := by
  induction l generalizing l' with
  | pane view focused =>
      cases l' with
      | pane => simp [check, mapRatio, literal]
      | split => simp [check, mapRatio, literal]
  | split direction ratio first second ih₁ ih₂ =>
      rw [check_split_eq_ok_iff]
      constructor
      · rintro ⟨r, first', second', hratio, hfirst, hsecond, rfl⟩
        rw [mapRatio, Ratio.ofValue?_eq_some_iff.mp hratio, ih₁.mp hfirst, ih₂.mp hsecond]
        rfl
      · intro h
        cases l' with
        | pane => cases h
        | split direction' r first' second' =>
            simp only [mapRatio, literal, split.injEq] at h
            obtain ⟨rfl, hratio, hfirst, hsecond⟩ := h
            exact ⟨r, first', second', Ratio.ofValue?_eq_some_iff.mpr hratio, ih₁.mpr hfirst,
              ih₂.mpr hsecond, rfl⟩

theorem isRatio_of_check (h : l.check = .ok l') {ratio : Value} (hratio : ratio ∈ l.ratios) :
    ratio.IsRatio := by
  have hratios := congrArg ratios (check_eq_ok_iff.mp h)
  rw [literal, ratios_mapRatio, ratios_mapRatio] at hratios
  have hmem : ratio.asTuple ∈ l'.ratios.map Ratio.toValue :=
    hratios ▸ List.mem_map_of_mem hratio
  obtain ⟨r, -, hr⟩ := List.mem_map.mp hmem
  exact Value.isRatio_iff.mpr ⟨r, Ratio.ofValue?_eq_some_iff.mpr hr.symm⟩

/-- The check fails at a ratio that is none, and all before it are ratios. -/
theorem ratios_of_check {ratio : Value} (h : l.check = .error ratio) :
    ∃ before after, l.ratios = before ++ ratio :: after ∧ (∀ r ∈ before, r.IsRatio) ∧
      ¬ ratio.IsRatio := by
  induction l with
  | pane view focused => cases h
  | split direction own first second ih₁ ih₂ =>
      unfold check at h
      split at h
      · next hown =>
          obtain rfl := Except.error.inj h
          refine ⟨[], first.ratios ++ second.ratios, rfl, by simp, ?_⟩
          rw [Value.isRatio_iff, hown]
          simp
      · next r hown =>
          have hratio : own.IsRatio := Value.isRatio_iff.mpr ⟨r, hown⟩
          cases hfirst : first.check with
          | error bad =>
              rw [hfirst] at h
              obtain rfl := Except.error.inj h
              obtain ⟨before, after, heq, hbefore, hbad⟩ := ih₁ hfirst
              refine ⟨own :: before, after ++ second.ratios, by simp [ratios, heq], ?_, hbad⟩
              exact List.forall_mem_cons.mpr ⟨hratio, hbefore⟩
          | ok first' =>
              cases hsecond : second.check with
              | ok second' =>
                  rw [hfirst, hsecond] at h
                  cases h
              | error bad =>
                  rw [hfirst, hsecond] at h
                  obtain rfl := Except.error.inj h
                  obtain ⟨before, after, heq, hbefore, hbad⟩ := ih₂ hsecond
                  refine ⟨own :: (first.ratios ++ before), after, by simp [ratios, heq], ?_, hbad⟩
                  refine List.forall_mem_cons.mpr ⟨hratio, fun ratio hmem => ?_⟩
                  rcases List.mem_append.mp hmem with hmem | hmem
                  · exact isRatio_of_check hfirst hmem
                  · exact hbefore ratio hmem

end Layout

/-- Where the first of equal entries stands tells which entries of a list without repetition are
equal to it. -/
theorem map_decide_eq {ids : List PaneId} (hnodup : ids.Nodup) (focused : PaneId) :
    ids.map (fun id => decide (id = focused)) =
      (List.range ids.length).map fun i =>
        decide (ids.findIdx? (fun id => decide (id = focused)) = some i) := by
  refine List.ext_getElem (by simp) fun i hi _ => ?_
  rw [List.length_map] at hi
  rw [List.getElem_map, List.getElem_map, List.getElem_range, decide_eq_decide,
    List.findIdx?_eq_some_iff_getElem]
  constructor
  · intro hself
    refine ⟨hi, decide_eq_true hself, fun j hj hother => ?_⟩
    have hne : ids[j] ≠ ids[i] := List.pairwise_iff_getElem.mp hnodup j i (Nat.lt_trans hj hi) hi hj
    exact hne ((of_decide_eq_true hother).trans hself.symm)
  · rintro ⟨_, hself, _⟩
    exact of_decide_eq_true hself

namespace Tree

variable {s t : Tree Pane} {f g : PaneId}

theorem layout_eq_iff_marks :
    s.layout f = t.layout g ↔
      s.map Pane.view = t.map Pane.view ∧
        s.leaves.map (fun content => decide (content.id = f)) =
          t.leaves.map fun content => decide (content.id = g) := by
  induction s generalizing t with
  | leaf content =>
      cases t with
      | leaf other => simp [layout, map, leaves]
      | split => simp [layout, map]
  | split direction ratio first second ih₁ ih₂ =>
      cases t with
      | leaf other => simp [layout, map]
      | split direction' ratio' first' second' =>
          simp only [layout, map, leaves, Layout.split.injEq, split.injEq, List.map_append, ih₁, ih₂]
          constructor
          · rintro ⟨hdirection, hratio, ⟨hfirst, hmarks₁⟩, hsecond, hmarks₂⟩
            exact ⟨⟨hdirection, hratio, hfirst, hsecond⟩, by rw [hmarks₁, hmarks₂]⟩
          · rintro ⟨⟨hdirection, hratio, hfirst, hsecond⟩, hmarks⟩
            -- The first parts have as many leaves, so the marks fall apart at the same place.
            have hlength : first.leaves.length = first'.leaves.length := by
              have hviews := congrArg (fun tree => tree.leaves.length) hfirst
              simpa only [leaves_map, List.length_map] using hviews
            obtain ⟨hmarks₁, hmarks₂⟩ := List.append_inj hmarks (by simp [hlength])
            exact ⟨hdirection, hratio, ⟨hfirst, hmarks₁⟩, hsecond, hmarks₂⟩

theorem layout_eq_iff (hs : (s.leaves.map Pane.id).Nodup) (ht : (t.leaves.map Pane.id).Nodup) :
    s.layout f = t.layout g ↔
      s.map Pane.view = t.map Pane.view ∧
        (s.leaves.map Pane.id).findIdx? (fun id => decide (id = f)) =
          (t.leaves.map Pane.id).findIdx? fun id => decide (id = g) := by
  have hplace : ∀ (u : Tree Pane) (h : PaneId),
      (u.leaves.map Pane.id).findIdx? (fun id => decide (id = h)) =
        (u.leaves.map fun content => decide (content.id = h)).findIdx? (fun mark => mark) := by
    intro u h
    rw [List.findIdx?_map, List.findIdx?_map]
    rfl
  have hmarks : ∀ (u : Tree Pane) (h : PaneId),
      (u.leaves.map fun content => decide (content.id = h)) =
        (u.leaves.map Pane.id).map fun id => decide (id = h) := by
    intro u h
    rw [List.map_map]
    rfl
  rw [layout_eq_iff_marks]
  refine and_congr_right fun hviews => ?_
  have hlength : (s.leaves.map Pane.id).length = (t.leaves.map Pane.id).length := by
    have hleaves := congrArg (fun tree => tree.leaves.length) hviews
    simpa only [leaves_map, List.length_map] using hleaves
  constructor
  · intro h
    rw [hplace, hplace, h]
  · intro h
    rw [hmarks, hmarks, map_decide_eq hs, map_decide_eq ht, hlength, h]

end Tree

namespace Profile

variable {p q : Profile}

def focusedPlace? (p : Profile) : Option Nat :=
  p.paneIds.findIdx? fun id => decide (id = p.focused)

theorem paneIds_ofLayout (l : Layout Ratio) (viewport : Rect) :
    (ofLayout l viewport).paneIds = (List.range l.paneCount).map fun k : Nat => (k : PaneId) := by
  have hids := IndexedTree.ids_ofLayout 0 0 l
  simp only [Int.zero_add] at hids
  rw [paneIds_eq (Arena.holds_ofLayout l), ← IndexedTree.map_snd_entries, List.map_map, ← hids]
  rfl

theorem literal_toLayout_ofLayout {l : Layout Value} {l' : Layout Ratio}
    (h : l.mapRatio Value.asTuple = l'.literal) (viewport : Rect) :
    (ofLayout l' viewport).toLayout.literal =
      (l.mapRatio Value.asTuple).markedAt ((l.marks.findIdx? (· = true)).getD 0 : Nat) := by
  have hmarks := congrArg Layout.marks h
  rw [Layout.literal, Layout.marks_mapRatio, Layout.marks_mapRatio] at hmarks
  rw [toLayout_ofLayout, Layout.literal, Layout.mapRatio_markedAt, h, hmarks]
  rfl

theorem ofLiteral_literal_toLayout (hp : p.Reachable) (hfocused : p.focused ∈ p.paneIds)
    (viewport : Rect) :
    ∃ q, ofLiteral p.toLayout.literal viewport = .ok q ∧ q.toLayout = p.toLayout := by
  obtain ⟨t, ht⟩ := hp.exists_holds
  refine ⟨ofLayout p.toLayout viewport, ?_, toLayout_ofLayout_toLayout ht hfocused viewport⟩
  exact ofLiteral_eq_ok_iff.mpr ⟨p.toLayout, Layout.check_literal _, rfl⟩

theorem toLayout_eq_iff (hp : p.Reachable) (hq : q.Reachable) :
    ∃ s t, p.arena.tree? = some s ∧ q.arena.tree? = some t ∧
      (p.toLayout = q.toLayout ↔
        s.map Pane.view = t.map Pane.view ∧ p.focusedPlace? = q.focusedPlace?) := by
  obtain ⟨s, hs⟩ := hp.exists_holds
  obtain ⟨t, ht⟩ := hq.exists_holds
  refine ⟨s.tree, t.tree, hs.tree?_eq, ht.tree?_eq, ?_⟩
  rw [toLayout_eq hs, toLayout_eq ht, focusedPlace?, focusedPlace?, paneIds_eq hs, paneIds_eq ht]
  exact Tree.layout_eq_iff hs.nodup_leaves_id ht.nodup_leaves_id

/-- There is no profile of a literal exactly when one of its ratios is none. The refusal names the
first such ratio, and is lost when an integer in that is too long. Otherwise the panes are numbered in
their order, and the layout of the profile is the literal with tuples for its ratios and a single
mark, on its first marked pane or else on the first of all. So a profile made from the layout of a
reachable one with its focus on a pane has that layout again, and the layouts of two reachable
profiles are equal exactly when their trees show the same and the focused panes stand at the same
place. -/
theorem literal_toLayout_ofLiteral (l : Layout Value) (viewport : Rect) :
    (((∃ fault, ofLiteral l viewport = .error fault) ↔
        ∃ ratio ∈ l.ratios, ¬ ratio.IsRatio) ∧
      (∀ fault, ofLiteral l viewport = .error fault →
        ∃ before ratio after, l.ratios = before ++ ratio :: after ∧
          (∀ r ∈ before, r.IsRatio) ∧ ¬ ratio.IsRatio ∧
          (Refusal.invalidRatio ratio).kind = .invalidOperation ∧
          fault = if ratio.hasLongInteger then .longInteger
            else .refused (.invalidRatio ratio)) ∧
      ∀ p, ofLiteral l viewport = .ok p →
        p.paneIds = (List.range l.paneCount).map (fun k : Nat => (k : PaneId)) ∧
        p.toLayout.literal =
          (l.mapRatio Value.asTuple).markedAt ((l.marks.findIdx? (· = true)).getD 0 : Nat)) ∧
    (∀ p : Profile, p.Reachable → p.focused ∈ p.paneIds →
      ∃ q, ofLiteral p.toLayout.literal viewport = .ok q ∧ q.toLayout = p.toLayout) ∧
    ∀ p q : Profile, p.Reachable → q.Reachable →
      ∃ s t, p.arena.tree? = some s ∧ q.arena.tree? = some t ∧
        (p.toLayout = q.toLayout ↔
          s.map Pane.view = t.map Pane.view ∧ p.focusedPlace? = q.focusedPlace?) := by
  refine ⟨?_, fun p hp hfocused => ofLiteral_literal_toLayout hp hfocused viewport,
    fun p q hp hq => toLayout_eq_iff hp hq⟩
  cases hl : l.check with
  | error ratio =>
      have herror : ofLiteral l viewport = .error (.invalidRatio ratio) := by
        simp only [ofLiteral, hl]
      obtain ⟨before, after, hratios, hbefore, hbad⟩ := Layout.ratios_of_check hl
      rw [herror]
      refine ⟨⟨fun _ => ⟨ratio, by simp [hratios], hbad⟩, fun _ => ⟨_, rfl⟩⟩, ?_, ?_⟩
      · intro fault h
        obtain rfl := Except.error.inj h
        exact ⟨before, ratio, after, hratios, hbefore, hbad, rfl, rfl⟩
      · intro p h
        cases h
  | ok l' =>
      have hok : ofLiteral l viewport = .ok (ofLayout l' viewport) := by
        simp only [ofLiteral, hl]
      have hliteral := Layout.check_eq_ok_iff.mp hl
      rw [hok]
      refine ⟨⟨?_, ?_⟩, ?_, ?_⟩
      · rintro ⟨fault, h⟩
        cases h
      · rintro ⟨ratio, hratio, hbad⟩
        exact absurd (Layout.isRatio_of_check hl hratio) hbad
      · intro fault h
        cases h
      · intro p h
        obtain rfl := Except.ok.inj h
        have hcount := congrArg Layout.paneCount hliteral
        rw [Layout.literal, Layout.paneCount_mapRatio, Layout.paneCount_mapRatio] at hcount
        refine ⟨?_, literal_toLayout_ofLayout hliteral viewport⟩
        rw [paneIds_ofLayout, hcount]

/-- Lists for ratios and two marks; and a bad ratio in the second part, behind a good one. -/
theorem literal_toLayout_ofLiteral_large :
    let even : Value := .list [.int 1, .int 1]
    let marked : Layout Value := .pane (.kind .source) true
    let l : Layout Value := .split .vertical even (.pane (.kind .trace) false)
      (.split .horizontal even marked marked)
    let bad : Layout Value := .split .vertical even marked (.split .vertical .null marked marked)
    (∃ p, ofLiteral l = .ok p ∧ p.paneIds = [0, 1, 2] ∧
      p.toLayout.literal = .split .vertical Ratio.even.toValue (.pane (.kind .trace) false)
        (.split .horizontal Ratio.even.toValue marked (.pane (.kind .source) false)) ∧
      ∃ q, ofLiteral p.toLayout.literal = .ok q ∧ q.toLayout = p.toLayout) ∧
    ofLiteral bad = .error (.refused (.invalidRatio .null)) := by
  intro even marked l bad
  have hl : ∃ p, ofLiteral l = .ok p := ⟨_, rfl⟩
  obtain ⟨p, hp⟩ := hl
  obtain ⟨⟨-, -, hok⟩, hagain, -⟩ := literal_toLayout_ofLiteral l defaultViewport
  obtain ⟨hids, hlayout⟩ := hok p hp
  refine ⟨⟨p, hp, hids.trans rfl, hlayout.trans rfl, ?_⟩, ?_⟩
  · exact hagain p ⟨l, defaultViewport, p, [], hp, rfl⟩ (focused_mem_ofLiteral hp)
  · obtain ⟨⟨hrefused, herror, -⟩, -⟩ := literal_toLayout_ofLiteral bad defaultViewport
    have hbad : ¬ Value.null.IsRatio := by
      rintro ⟨a, b, -, -, h | h⟩ <;> cases h
    obtain ⟨fault, h⟩ := hrefused.mpr ⟨.null, by simp [bad, Layout.ratios], hbad⟩
    obtain ⟨before, ratio, after, hratios, -, hratio, -, rfl⟩ := herror fault h
    have heven : even.IsRatio := ⟨1, 1, Int.one_pos, Int.one_pos, Or.inl rfl⟩
    -- The first ratio of the literal is a good one, so it is the second that is named.
    cases before with
    | nil =>
        obtain rfl : even = ratio := (List.cons.inj hratios).1
        exact absurd heven hratio
    | cons first before =>
        cases before with
        | nil =>
            obtain rfl : Value.null = ratio := (List.cons.inj (List.cons.inj hratios).2).1
            exact h
        | cons second before =>
            have hlength := congrArg List.length hratios
            simp [bad, marked, Layout.ratios] at hlength

/-- The integer in a ratio that is none is too long for the message. -/
theorem ofLiteral_longPair :
    ¬ Value.longPair.IsRatio ∧
      ofLiteral (.split .horizontal .longPair (.pane (.kind .terminal) false)
        (.pane (.kind .source) false)) = .error .longInteger := by
  refine ⟨Value.not_isRatio_longPair, ?_⟩
  rw [← Fault.invalidRatio_longPair]
  simp only [ofLiteral, Layout.check, Value.ofValue?_longPair]

end Profile

end SplitScreen
