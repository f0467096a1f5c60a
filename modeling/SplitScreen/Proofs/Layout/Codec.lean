import SplitScreen.Layout.Codec
import SplitScreen.Proofs.Outcome

namespace SplitScreen

/-- A view that comes back under its name: one of a known kind, or a custom one with a name of its
own. -/
def View.Storable : View → Prop
  | kind _ => True
  | custom s => s.isEmpty = false ∧ ContentKind.ofName? s = none

namespace View

variable {v : View}

instance : DecidablePred Storable
  | kind _ => inferInstanceAs (Decidable True)
  | custom s => inferInstanceAs (Decidable (s.isEmpty = false ∧ ContentKind.ofName? s = none))

theorem Storable.ofName_name (h : v.Storable) : ofName v.name = v := by
  cases v with
  | kind k => exact ofName_name_kind k
  | custom s => simp only [name, ofName, h.2]

theorem storable_ofName {s : Text} (h : s.isEmpty = false) : (ofName s).Storable := by
  unfold ofName
  split
  · trivial
  · next hname => exact ⟨h, hname⟩

theorem Storable.isEmpty_name (h : v.Storable) : v.name.isEmpty = false := by
  cases v with
  | kind k => cases k <;> rfl
  | custom s => exact h.1

theorem isEmpty_name_iff : v.name.isEmpty = true ↔ v = .custom "" := by
  cases v with
  | kind k =>
      constructor
      · intro h
        cases k <;> cases h
      · nofun
  | custom s =>
      obtain ⟨symbols⟩ := s
      change symbols.isEmpty = true ↔ View.custom ⟨symbols⟩ = View.custom ⟨[]⟩
      rw [List.isEmpty_iff, custom.injEq, Text.mk.injEq]

theorem storable_iff : v.Storable ↔ v ≠ .custom "" ∧ ofName v.name = v := by
  constructor
  · intro h
    refine ⟨?_, h.ofName_name⟩
    rw [ne_eq, ← isEmpty_name_iff, h.isEmpty_name]
    exact Bool.false_ne_true
  · rintro ⟨hname, hread⟩
    rw [← hread]
    apply storable_ofName
    rwa [ne_eq, ← isEmpty_name_iff, Bool.not_eq_true] at hname

theorem storable_iff_ne_custom {v : View} :
    v.Storable ↔ v ≠ .custom "" ∧ ∀ k : ContentKind, v ≠ .custom k.name := by
  rw [storable_iff]
  refine and_congr_right fun _ => ?_
  constructor
  · rintro h k rfl
    rw [name, ofName_name_kind] at h
    cases h
  · intro h
    cases v with
    | kind k => exact ofName_name_kind k
    | custom s =>
        rw [name, ofName]
        cases hs : ContentKind.ofName? s with
        | none => rfl
        | some k => exact absurd (congrArg custom (ContentKind.name_of_ofName? hs)).symm (h k)

/-- A view as it is read under its name. A custom one with the name of a known kind becomes that kind;
any other stays as it is. -/
def reread : View → View
  | kind k => kind k
  | custom s => ((ContentKind.ofName? s).map kind).getD (custom s)

theorem ofName_name (v : View) : ofName v.name = v.reread := by
  cases v with
  | kind k => exact ofName_name_kind k
  | custom s =>
      rw [name, ofName, reread]
      cases ContentKind.ofName? s <;> rfl

end View

namespace Layout

variable {ρ : Type}

def mapView (f : View → View) : Layout ρ → Layout ρ
  | pane view focused => pane (f view) focused
  | split direction ratio first second =>
    split direction ratio (first.mapView f) (second.mapView f)

theorem mapView_eq_self {f : View → View} {l : Layout ρ} (h : ∀ v ∈ l.views, f v = v) :
    l.mapView f = l := by
  induction l with
  | pane view focused => rw [mapView, h view (List.mem_singleton.mpr rfl)]
  | split direction ratio first second ih₁ ih₂ =>
      rw [mapView, ih₁ fun v hv => h v (List.mem_append_left _ hv),
        ih₂ fun v hv => h v (List.mem_append_right _ hv)]

theorem mapView_eq_self_iff {f : View → View} {l : Layout ρ} :
    l.mapView f = l ↔ ∀ v ∈ l.views, f v = v := by
  refine ⟨fun h => ?_, mapView_eq_self⟩
  induction l with
  | pane view focused =>
      rw [mapView, pane.injEq] at h
      intro v hv
      rw [List.mem_singleton.mp hv]
      exact h.1
  | split direction ratio first second ih₁ ih₂ =>
      rw [mapView, split.injEq] at h
      obtain ⟨-, -, hfirst, hsecond⟩ := h
      intro v hv
      rcases List.mem_append.mp hv with hv | hv
      · exact ih₁ hfirst v hv
      · exact ih₂ hsecond v hv

theorem readRatio_toValue (r : Ratio) : readRatio (some (.list r.toValue.elements)) = .ok r := by
  simp [readRatio, Ratio.toValue, Value.elements, Ratio.ofValue?]

theorem readDirection_name (d : Direction) : readDirection (.text d.name) = .ok d := by
  cases d <;> rfl

theorem ofValue_pane {entries : Assoc Text Value} {view : Value}
    (hview : Assoc.find? ("view" : Text) entries = some view) :
    ofValue (.table entries) = (readView view).map fun view =>
      pane view (((Assoc.find? ("focused" : Text) entries).map Value.isSet).getD false) := by
  rw [ofValue]
  simp only [hview]
  cases readView view <;> rfl

theorem ofValue_split {entries : Assoc Text Value} {direction first second : Value}
    (hview : Assoc.find? ("view" : Text) entries = none)
    (hsplit : Assoc.find? ("split" : Text) entries = some direction)
    (hfirst : Assoc.find? ("first" : Text) entries = some first)
    (hsecond : Assoc.find? ("second" : Text) entries = some second) :
    ofValue (.table entries) = (do
      let direction ← readDirection direction
      let ratio ← readRatio (Assoc.find? ("ratio" : Text) entries)
      return split direction ratio (← ofValue first) (← ofValue second)) := by
  rw [ofValue]
  simp only [hview, hsplit]
  congr 1
  funext direction
  congr 1
  funext ratio
  split
  · next first' second' h₁ h₂ =>
      obtain rfl := Option.some.inj (hfirst.symm.trans h₁)
      obtain rfl := Option.some.inj (hsecond.symm.trans h₂)
      rfl
  · next h => exact absurd hsecond (h first second hfirst)

theorem ofValue_toValue_split (direction : Direction) (ratio : Ratio) (first second : Layout Ratio) :
    ofValue (split direction ratio first second).literal.toValue = (do
      return split direction ratio (← ofValue first.literal.toValue)
        (← ofValue second.literal.toValue)) := by
  rw [literal, mapRatio, toValue, ofValue_split rfl rfl rfl rfl, readDirection_name]
  have hratio : readRatio (Assoc.find? ("ratio" : Text)
      [("split", .text direction.name), ("ratio", .list ratio.toValue.elements),
        ("first", (first.mapRatio Ratio.toValue).toValue),
        ("second", (second.mapRatio Ratio.toValue).toValue)]) = .ok ratio :=
    readRatio_toValue ratio
  rw [hratio]
  rfl

/-- A layout whose views have names is read again from its plain data. -/
theorem ofValue_toValue {l : Layout Ratio} (h : ∀ v ∈ l.views, v.name.isEmpty = false) :
    ofValue l.literal.toValue = .ok (l.mapView fun v => View.ofName v.name) := by
  induction l with
  | pane view focused =>
      have hview : readView (.text view.name) = .ok (View.ofName view.name) := by
        rw [readView, h view (List.mem_singleton.mpr rfl)]
        rfl
      have hmark : ((Assoc.find? ("focused" : Text) (("view", .text view.name) ::
          if focused then [("focused", .bool true)] else [])).map Value.isSet).getD false =
          focused := by
        cases focused <;> rfl
      rw [literal, mapRatio, toValue, ofValue_pane rfl, hview, hmark]
      rfl
  | split direction ratio first second ih₁ ih₂ =>
      rw [ofValue_toValue_split, ih₁ fun v hv => h v (List.mem_append_left _ hv),
        ih₂ fun v hv => h v (List.mem_append_right _ hv)]
      rfl

theorem isEmpty_name_of_notMem {l : Layout ρ} (h : View.custom "" ∉ l.views) :
    ∀ v ∈ l.views, v.name.isEmpty = false := by
  intro v hv
  rw [← Bool.not_eq_true, View.isEmpty_name_iff]
  rintro rfl
  exact h hv

/-- A layout with a view without a name is not read again, wherever the view is. -/
theorem ofValue_toValue_of_unnamed {l : Layout Ratio} (h : View.custom "" ∈ l.views) :
    ofValue l.literal.toValue = .error (.invalidView (.text "")) := by
  induction l with
  | pane view focused =>
      rw [← List.mem_singleton.mp h, literal, mapRatio, toValue, ofValue_pane rfl]
      rfl
  | split direction ratio first second ih₁ ih₂ =>
      rw [ofValue_toValue_split]
      by_cases hfirst : View.custom "" ∈ first.views
      · rw [ih₁ hfirst]
        rfl
      · rw [ofValue_toValue (isEmpty_name_of_notMem hfirst),
          ih₂ ((List.mem_append.mp h).resolve_left hfirst)]
        rfl

theorem ofValue_toValue_of_storable {l : Layout Ratio} (h : ∀ v ∈ l.views, v.Storable) :
    ofValue l.literal.toValue = .ok l := by
  rw [ofValue_toValue fun v hv => (h v hv).isEmpty_name,
    mapView_eq_self fun v hv => (h v hv).ofName_name]

theorem storable_of_readView {v : Value} {view : View} (h : readView v = .ok view) :
    view.Storable := by
  unfold readView at h
  split at h
  · split at h
    · cases h
    · next hname =>
        cases h
        exact View.storable_ofName (by simpa using hname)
  · cases h

theorem storable_of_ofValue {v : Value} {l : Layout Ratio} (h : ofValue v = .ok l) :
    ∀ view ∈ l.views, view.Storable := by
  induction v using ofValue.induct generalizing l with
  | case1 entries view hview =>
      rw [ofValue_pane hview] at h
      obtain ⟨view', hread, rfl⟩ := exists_of_map h
      intro w hw
      rw [List.mem_singleton.mp hw]
      exact storable_of_readView hread
  | case2 entries hview hsplit =>
      rw [ofValue] at h
      simp only [hview, hsplit] at h
      cases h
  | case3 entries hview direction hsplit ih₁ ih₂ =>
      rw [ofValue] at h
      simp only [hview, hsplit] at h
      obtain ⟨d, -, h⟩ := exists_of_bind h
      obtain ⟨ratio, -, h⟩ := exists_of_bind h
      split at h
      · next first second h₁ h₂ =>
          obtain ⟨l₁, hfirst, h⟩ := exists_of_bind h
          obtain ⟨l₂, hsecond, h⟩ := exists_of_bind h
          cases h
          intro w hw
          rcases List.mem_append.mp hw with hw | hw
          · exact ih₁ first h₁ hfirst w hw
          · exact ih₂ second h₂ hsecond w hw
      · cases h
  | case4 other hother =>
      rw [ofValue] at h
      · cases h
      · exact hother

/-- A layout that is written and read again is refused exactly for a view without a name. Otherwise
it comes back with the custom views that are named like a known kind turned into that kind, and
nothing else has changed. So it comes back as it was exactly when it has no view of either sort, and
a layout that was ever read does. -/
theorem ofValue_toValue_eq (l : Layout Ratio) :
    ofValue l.literal.toValue =
        (if View.custom "" ∈ l.views then .error (.invalidView (.text ""))
        else .ok (l.mapView View.reread)) ∧
      (ofValue l.literal.toValue = .ok l ↔
        ∀ v ∈ l.views, v ≠ .custom "" ∧ ∀ k : ContentKind, v ≠ .custom k.name) ∧
      ∀ v, ofValue v = .ok l → ofValue l.literal.toValue = .ok l := by
  refine ⟨?_, ?_, fun v h => ofValue_toValue_of_storable (storable_of_ofValue h)⟩
  · split
    · next hunnamed => exact ofValue_toValue_of_unnamed hunnamed
    · next hnamed =>
        rw [ofValue_toValue (isEmpty_name_of_notMem hnamed)]
        simp only [View.ofName_name]
  · simp only [← View.storable_iff_ne_custom]
    exact ⟨storable_of_ofValue, ofValue_toValue_of_storable⟩

/-- One of two custom views is named like a known kind, and comes back as that kind. -/
theorem ofValue_toValue_eq_mixed :
    let l : Layout Ratio :=
      .split .horizontal .even (.pane (.custom "trace") true) (.pane (.custom "notes") false)
    ofValue l.literal.toValue = .ok
        (.split .horizontal .even (.pane (.kind .trace) true) (.pane (.custom "notes") false)) ∧
      ofValue l.literal.toValue ≠ .ok l := by
  intro l
  obtain ⟨hread, hsame, -⟩ := ofValue_toValue_eq l
  refine ⟨hread.trans rfl, fun h => ?_⟩
  exact (hsame.mp h (.custom "trace") (by decide)).2 .trace rfl

end Layout

end SplitScreen
