import SplitScreen.Proofs.Profile.Invariant
import SplitScreen.Proofs.Twin

namespace SplitScreen

variable {ε α β γ δ : Type}

inductive Fault.Kind
  | refused (kind : Refusal.Kind)
  | longInteger
  | overflow
  | focusLost
  | badMarkup
  deriving DecidableEq, Repr

def Fault.kind : Fault → Fault.Kind
  | .refused r => .refused r.kind
  | .longInteger => .longInteger
  | .overflow => .overflow
  | .focusLost => .focusLost
  | .badMarkup => .badMarkup

/-- Outcomes that agree are related answers, or the same failure. -/
inductive Agree (A : α → β → Prop) : Except ε α → Except ε β → Prop
  | ok {a : α} {b : β} (h : A a b) : Agree A (.ok a) (.ok b)
  | error (e : ε) : Agree A (.error e) (.error e)

section Agree

variable {A : α → β → Prop} {B : γ → δ → Prop} {x : Except ε α} {y : Except ε β}

theorem Agree.bind (h : Agree A x y) {f : α → Except ε γ} {g : β → Except ε δ}
    (hfg : ∀ a b, A a b → Agree B (f a) (g b)) : Agree B (x >>= f) (y >>= g) := by
  cases h with
  | ok h => exact hfg _ _ h
  | error e => exact .error e

theorem Agree.map (h : Agree A x y) {f : α → γ} {g : β → δ} (hfg : ∀ a b, A a b → B (f a) (g b)) :
    Agree B (x.map f) (y.map g) := by
  cases h with
  | ok h => exact .ok (hfg _ _ h)
  | error e => exact .error e

theorem mapError_map (k : ε → γ) (f : α → β) (x : Except ε α) :
    (x.map f).mapError k = (x.mapError k).map f := by
  cases x <;> rfl

theorem agree_refl {x : Except ε α} : Agree (· = ·) x x := by
  cases x with
  | ok a => exact .ok rfl
  | error e => exact .error e

end Agree

section Lists

variable {P : α → β → Prop} {xs : List α} {ys : List β}

theorem find?_rel (h : List.Forall₂ P xs ys) {p : α → Bool} {q : β → Bool}
    (hpq : ∀ x y, P x y → p x = q y) : Option.Rel P (xs.find? p) (ys.find? q) := by
  induction h with
  | nil => exact .none
  | @cons x y _ _ hxy _ ih =>
      rw [List.find?_cons, List.find?_cons, hpq x y hxy]
      cases q y with
      | true => exact .some hxy
      | false => exact ih

theorem filterM_rel (h : List.Forall₂ P xs ys) {p : α → Except ε Bool} {q : β → Except ε Bool}
    (hpq : ∀ x y, P x y → p x = q y) : Agree (List.Forall₂ P) (xs.filterM p) (ys.filterM q) := by
  have haux : ∀ acc acc', List.Forall₂ P acc acc' →
      Agree (List.Forall₂ P) (xs.filterAuxM p acc) (ys.filterAuxM q acc') := by
    induction h with
    | nil => exact fun acc acc' hacc => .ok hacc
    | @cons x y _ _ hxy _ ih =>
        intro acc acc' hacc
        rw [List.filterAuxM, List.filterAuxM, hpq x y hxy]
        refine agree_refl.bind fun keep _ hkeep => ?_
        subst hkeep
        cases keep with
        | true => exact ih _ _ (.cons hxy hacc)
        | false => exact ih _ _ hacc
  rw [List.filterM, List.filterM]
  exact (haux [] [] .nil).bind fun zs zs' hzs => .ok (List.rel_reverse hzs)

end Lists

variable {R S : Pairing}

/-- The same place under related ids. -/
def Placed (R : Pairing) (x y : PaneId × Rect) : Prop := R x.1 y.1 ∧ x.2 = y.2

def Pairing.Unique (R : Pairing) : Prop :=
  ∀ ⦃a b a' b' : PaneId⦄, R a b → R a' b' → (a = a' ↔ b = b')

/-- The relation with one more pair. -/
def Pairing.grow (R : Pairing) (a b : PaneId) : Pairing := fun x y => R x y ∨ x = a ∧ y = b

theorem Pairing.Unique.grow (h : R.Unique) {a b : PaneId} (ha : ∀ x y, R x y → x ≠ a)
    (hb : ∀ x y, R x y → y ≠ b) : (R.grow a b).Unique := by
  rintro x y x' y' (hxy | ⟨rfl, rfl⟩) (hxy' | ⟨rfl, rfl⟩)
  · exact h hxy hxy'
  · exact iff_of_false (ha _ _ hxy) (hb _ _ hxy)
  · exact iff_of_false (ha _ _ hxy').symm (hb _ _ hxy').symm
  · exact iff_of_true rfl rfl

theorem find?_placed (hunique : R.Unique) {xs ys : List (PaneId × Rect)}
    (h : List.Forall₂ (Placed R) xs ys) {a b : PaneId} (hab : R a b) :
    Assoc.find? a xs = Assoc.find? b ys := by
  induction h with
  | nil => rfl
  | @cons x y _ _ hxy _ ih =>
      simp only [Assoc.find?, hunique hxy.1 hab, hxy.2, ih]

namespace Profile

section Nearest

variable {xs ys : List (PaneId × Rect)}

theorem nearer_twin (origin : Rect) {best best' : Option (Float × PaneId)}
    {x y : PaneId × Rect} (hbest : Option.Rel (fun b b' => b.1 = b'.1 ∧ R b.2 b'.2) best best')
    (hxy : Placed R x y) :
    Agree (Option.Rel fun b b' => b.1 = b'.1 ∧ R b.2 b'.2) (nearer origin best x)
      (nearer origin best' y) := by
  unfold nearer
  rw [hxy.2]
  refine agree_refl.bind fun d _ hd => ?_
  subst hd
  cases hbest with
  | none => exact .ok (.some ⟨rfl, hxy.1⟩)
  | @some b b' hb =>
      obtain ⟨least, k⟩ := b
      obtain ⟨least', k'⟩ := b'
      obtain ⟨rfl, hk⟩ : least = least' ∧ R k k' := hb
      by_cases hless : d < least
      · simp only [if_pos hless]
        exact .ok (.some ⟨rfl, hxy.1⟩)
      · simp only [if_neg hless]
        exact .ok (.some ⟨rfl, hk⟩)

/-- Ties are broken by the order of the candidates, never by their ids. -/
theorem nearest?_twin (origin : Rect) (h : List.Forall₂ (Placed R) xs ys) :
    Agree (Option.Rel R) (nearest? origin xs) (nearest? origin ys) := by
  have hfold : ∀ best best',
      Option.Rel (fun b b' : Float × PaneId => b.1 = b'.1 ∧ R b.2 b'.2) best best' →
      Agree (Option.Rel fun b b' => b.1 = b'.1 ∧ R b.2 b'.2) (xs.foldlM (nearer origin) best)
        (ys.foldlM (nearer origin) best') := by
    induction h with
    | nil => exact fun best best' hbest => .ok hbest
    | cons hxy _ ih =>
        intro best best' hbest
        rw [List.foldlM_cons, List.foldlM_cons]
        exact (nearer_twin origin hbest hxy).bind ih
  unfold nearest?
  refine (hfold none none .none).bind fun best best' hbest => .ok ?_
  cases hbest with
  | none => exact .none
  | some hb => exact .some hb.2

theorem nearestOnSide?_twin (side : Side) (current : Rect) (h : List.Forall₂ (Placed R) xs ys) :
    Agree (Option.Rel R) (nearestOnSide? side current xs) (nearestOnSide? side current ys) := by
  unfold nearestOnSide?
  refine agree_refl.bind fun origin _ horigin => ?_
  subst horigin
  refine Agree.bind (filterM_rel h fun x y hxy => ?_) fun _ _ hs => nearest?_twin current hs
  rw [hxy.2]

end Nearest

/-- Profiles that differ in nothing but indices and related ids. -/
structure Twin (R : Pairing) (p q : Profile) : Prop where
  trees : ∃ t u, p.arena.Holds [] t ∧ q.arena.Holds [] u ∧ t.Twin R u
  viewport : p.viewport = q.viewport
  focused : R p.focused q.focused
  unique : R.Unique
  /-- No new pane is given a related id. -/
  lt {a b : PaneId} (h : R a b) : a < p.arena.nextPane ∧ b < q.arena.nextPane

/-- Related ids, or two ids of no pane. -/
def Names (R : Pairing) (p q : Profile) (a b : PaneId) : Prop :=
  R a b ∨ a ∉ p.paneIds ∧ b ∉ q.paneIds

variable {p q : Profile} {a b : PaneId}

namespace Twin

theorem panes (h : p.Twin R q) : List.Forall₂ (Pane.Twin R) p.panes q.panes := by
  obtain ⟨t, u, ht, hu, htu⟩ := h.trees
  rw [Profile.panes, Profile.panes, ht.panes_eq, hu.panes_eq]
  exact htu.leaves

theorem paneIds (h : p.Twin R q) : List.Forall₂ R p.paneIds q.paneIds := by
  rw [Profile.paneIds, Profile.paneIds, List.forall₂_map_left_iff, List.forall₂_map_right_iff]
  exact h.panes.imp fun _ _ hcd => hcd.1

theorem place (h : p.Twin R q) (area : Rect) :
    List.Forall₂ (Placed R) (p.arena.place area) (q.arena.place area) := by
  obtain ⟨t, u, ht, hu, htu⟩ := h.trees
  rw [ht.place_eq, hu.place_eq, List.forall₂_map_left_iff, List.forall₂_map_right_iff]
  exact (htu.place area).imp fun _ _ hxy => ⟨hxy.1.1, hxy.2⟩

theorem toLayout_eq (h : p.Twin R q) : p.toLayout = q.toLayout := by
  obtain ⟨t, u, ht, hu, htu⟩ := h.trees
  rw [Profile.toLayout_eq ht, Profile.toLayout_eq hu]
  exact htu.layout_eq fun _ _ hab => h.unique hab h.focused

theorem flatten (h : p.Twin R q) (area : Rect) :
    List.Forall₂ (fun s t => R s.id t.id ∧ s.face = t.face) (p.flatten area) (q.flatten area) := by
  obtain ⟨t, u, ht, hu, htu⟩ := h.trees
  rw [flatten_eq ht, flatten_eq hu, List.forall₂_map_left_iff, List.forall₂_map_right_iff]
  refine (htu.place area).imp fun x y hxy => ⟨hxy.1.1, ?_⟩
  simp only [tileOf, Tile.face, hxy.1.2, hxy.2, decide_eq_decide.mpr (h.unique hxy.1.1 h.focused)]

theorem leaf?_cases (h : p.Twin R q) (hab : Names R p q a b) :
    (p.arena.leaf? a = none ∧ q.arena.leaf? b = none) ∨
      ∃ (path path' : TreePath) (i j : NodeIndex) (c d : Pane), c.id = a ∧ d.id = b ∧
        p.arena.Holds path (.pane i c) ∧ q.arena.Holds path' (.pane j d) ∧
        path.Twin R path' ∧ c.Twin R d := by
  obtain ⟨t, u, ht, hu, htu⟩ := h.trees
  cases hl : p.arena.leaf? a with
  | some l =>
      obtain ⟨path, rfl, rfl, -, hpath⟩ := ht.exists_eq hl
      obtain ⟨path', s, rfl, hpaths, hs⟩ := TreePath.exists_plug_twin htu
      cases hs with
      | @pane _ j _ d hcd =>
          have hR : R l.content.id b := by
            rcases hab with hab | ⟨hmiss, -⟩
            · exact hab
            · exact absurd (Finds.mem_paneIds (Or.inl (by rw [hl]; rfl)) ht) hmiss
          exact Or.inr ⟨path, path', l.index, j, l.content, d, rfl, (h.unique hcd.1 hR).mp rfl,
            hpath, Arena.holds_plug_iff.mpr hu, hpaths, hcd⟩
  | none =>
      refine Or.inl ⟨rfl, ?_⟩
      cases hl' : q.arena.leaf? b with
      | none => rfl
      | some l' =>
          exfalso
          obtain ⟨path', rfl, rfl, -, hpath'⟩ := hu.exists_eq hl'
          obtain ⟨path, s, rfl, -, hs⟩ := TreePath.exists_plug_twin htu.flip
          cases hs with
          | @pane _ i _ c hcd =>
              have hpath : p.arena.Holds path (.pane i c) := Arena.holds_plug_iff.mpr ht
              rcases hab with hab | ⟨-, hmiss⟩
              · obtain rfl : c.id = a := (h.unique hcd.1 hab).mpr rfl
                rw [hpath.leaf?_eq] at hl
                cases hl
              · exact hmiss (Finds.mem_paneIds (Or.inl (by rw [hl']; rfl)) hu)

theorem setFocus (h : p.Twin R q) (hab : R a b) :
    ({ p with focused := a } : Profile).Twin R { q with focused := b } :=
  ⟨h.trees, h.viewport, hab, h.unique, h.lt⟩

theorem setViewport (h : p.Twin R q) (area : Rect) :
    (p.setViewport area).Twin R (q.setViewport area) :=
  ⟨h.trees, rfl, h.focused, h.unique, h.lt⟩

theorem withoutLeaf (h : p.Twin R q) {f g : OpenSplit} {path path' : TreePath}
    {i j : NodeIndex} {c d : Pane} (hp : p.arena.Holds (f :: path) (.pane i c))
    (hq : q.arena.Holds (g :: path') (.pane j d)) (hfg : f.Twin R g) (hpath : path.Twin R path') :
    (p.withoutLeaf f path i c.id).Twin R (q.withoutLeaf g path' j d.id) where
  trees := ⟨_, _, Arena.holds_plug_iff.mp hp.collapse, Arena.holds_plug_iff.mp hq.collapse,
    hpath.plug hfg.other⟩
  viewport := h.viewport
  focused := h.focused
  unique := h.unique
  lt hab := by simpa [Profile.withoutLeaf] using h.lt hab

theorem setView (h : p.Twin R q) {path path' : TreePath} {i j : NodeIndex} {c d : Pane}
    (hp : p.arena.Holds path (.pane i c)) (hq : q.arena.Holds path' (.pane j d))
    (hpath : path.Twin R path') (hcd : c.Twin R d) (view : View) :
    ({ p with arena := p.arena.setView ⟨i, c, path.parent⟩ view } : Profile).Twin R
      { q with arena := q.arena.setView ⟨j, d, path'.parent⟩ view } where
  trees := ⟨_, _, Arena.holds_plug_iff.mp (hp.setView view),
    Arena.holds_plug_iff.mp (hq.setView view), hpath.plug (.pane ⟨hcd.1, rfl⟩)⟩
  viewport := h.viewport
  focused := h.focused
  unique := h.unique
  lt hab := by simpa [Arena.setView] using h.lt hab

/-- A split gives the two new panes ids that no pane has had, so these may be related. -/
theorem split (h : p.Twin R q) {path path' : TreePath} {i j : NodeIndex} {c d : Pane}
    (hp : p.arena.Holds path (.pane i c)) (hq : q.arena.Holds path' (.pane j d))
    (hpath : path.Twin R path') (hcd : c.Twin R d) (direction : Direction) (ratio : Ratio) :
    ({ p with arena := p.arena.split ⟨i, c, path.parent⟩ direction ratio } : Profile).Twin
      (R.grow p.arena.nextPane q.arena.nextPane)
      { q with arena := q.arena.split ⟨j, d, path'.parent⟩ direction ratio } where
  trees := by
    refine ⟨_, _, Arena.holds_plug_iff.mp (hp.split direction ratio),
      Arena.holds_plug_iff.mp (hq.split direction ratio), ?_⟩
    exact (hpath.mono fun _ _ => Or.inl).plug
      (.split (.pane ⟨Or.inl hcd.1, hcd.2⟩) (.pane ⟨Or.inr ⟨rfl, rfl⟩, hcd.2⟩))
  viewport := h.viewport
  focused := Or.inl h.focused
  unique := h.unique.grow (fun a b hab => Int.ne_of_lt (h.lt hab).1)
    fun a b hab => Int.ne_of_lt (h.lt hab).2
  lt {x y} hxy := by
    simp only [Arena.nextPane_split]
    rcases hxy with hxy | ⟨rfl, rfl⟩
    · exact ⟨Int.lt_trans (h.lt hxy).1 (Int.lt_succ _), Int.lt_trans (h.lt hxy).2 (Int.lt_succ _)⟩
    · exact ⟨Int.lt_succ _, Int.lt_succ _⟩

theorem heirs (h : p.Twin R q) {path path' : TreePath} {t u : IndexedTree}
    (hp : p.arena.Holds path t) (hq : q.arena.Holds path' u) (htu : t.Twin R u) :
    List.Forall₂ (Placed R) (p.heirs t.index) (q.heirs u.index) := by
  have hplace := h.place p.viewport
  unfold Profile.heirs
  rw [hp.panesFrom_eq, hq.panesFrom_eq, ← h.viewport]
  have hleaves := htu.leaves
  generalize t.tree.leaves = cs at hleaves ⊢
  generalize u.tree.leaves = ds at hleaves ⊢
  induction hleaves with
  | nil => exact .nil
  | @cons c d _ _ hcd _ ih =>
      simp only [List.filterMap_cons, find?_placed h.unique hplace hcd.1]
      cases Assoc.find? d.id (q.arena.place p.viewport) with
      | none => exact ih
      | some rect => exact .cons ⟨hcd.1, rfl⟩ ih

end Twin

/-- Two edits end alike: with answers that correspond or faults of one kind, and with profiles that
are twins. The ids that corresponded before still do. -/
def EndTwins (R : Pairing) (A : Pairing → α → β → Prop) (r : Except Fault α × Profile)
    (s : Except Fault β × Profile) : Prop :=
  ∃ S : Pairing, (∀ a b, R a b → S a b) ∧ r.2.Twin S s.2 ∧
    Agree (A S) (r.1.mapError Fault.kind) (s.1.mapError Fault.kind)

section EndTwins

variable {A : Pairing → α → β → Prop} {B : Pairing → γ → δ → Prop}

theorem endTwins_ok (h : p.Twin R q) {x : α} {y : β} (hxy : A R x y) :
    EndTwins R A (.ok x, p) (.ok y, q) :=
  ⟨R, fun _ _ hab => hab, h, .ok hxy⟩

theorem endTwins_error (h : p.Twin R q) {e e' : Fault} (he : e.kind = e'.kind) :
    EndTwins R A (.error e, p) (.error e', q) := by
  refine ⟨R, fun _ _ hab => hab, h, ?_⟩
  simp only [Except.mapError, he]
  exact .error _

theorem EndTwins.map {r : Except Fault α × Profile} {s : Except Fault β × Profile}
    (h : EndTwins R A r s) {f : α → γ} {g : β → δ}
    (hfg : ∀ S x y, r.2.Twin S s.2 → A S x y → B S (f x) (g y)) :
    EndTwins R B (r.1.map f, r.2) (s.1.map g, s.2) := by
  obtain ⟨S, hRS, htwin, hagree⟩ := h
  refine ⟨S, hRS, htwin, ?_⟩
  rw [mapError_map, mapError_map]
  exact hagree.map fun x y hxy => hfg S x y htwin hxy

theorem endTwins_read (h : p.Twin R q) {f : Profile → Except Refusal α}
    {g : Profile → Except Refusal β}
    (hfg : (∃ x y, f p = .ok x ∧ g q = .ok y ∧ A R x y) ∨
      ∃ r r', f p = .error r ∧ g q = .error r' ∧ r.kind = r'.kind) :
    EndTwins R A ((Edit.read f).on p) ((Edit.read g).on q) := by
  rcases hfg with ⟨x, y, hx, hy, hxy⟩ | ⟨r, r', hr, hr', hkind⟩
  · rw [Edit.on_read_of_ok hx, Edit.on_read_of_ok hy]
    exact endTwins_ok h hxy
  · rw [Edit.on_read_of_error hr, Edit.on_read_of_error hr']
    exact endTwins_error h (congrArg Fault.Kind.refused hkind)

/-- Edits of corresponding panes end alike when they do so on panes in corresponding places. -/
theorem EndTwins.of_leaf (h : p.Twin R q) (hab : Names R p q a b) {x : Edit Profile α}
    {y : Edit Profile β} {f : Leaf → Edit Profile α} {g : Leaf → Edit Profile β}
    (hx : x = findLeaf a >>= f) (hy : y = findLeaf b >>= g)
    (hleaf : ∀ (path path' : TreePath) (i j : NodeIndex) (c d : Pane), c.id = a → d.id = b →
      p.arena.Holds path (.pane i c) → q.arena.Holds path' (.pane j d) → path.Twin R path' →
      c.Twin R d → EndTwins R A (x.on p) (y.on q)) :
    EndTwins R A (x.on p) (y.on q) := by
  rcases h.leaf?_cases hab with ⟨ha, hb⟩ | ⟨path, path', i, j, c, d, hc, hd, hp, hq, hpath, hcd⟩
  · rw [hx, hy, Edit.on_bind, Edit.on_bind, on_findLeaf_of_none p ha, on_findLeaf_of_none q hb]
    exact endTwins_error h rfl
  · exact hleaf path path' i j c d hc hd hp hq hpath hcd

abbrev Ids : Pairing → PaneId → PaneId → Prop := fun S => S

abbrev Same : Pairing → α → α → Prop := fun _ => (· = ·)

theorem twin_split (h : p.Twin R q) (hab : Names R p q a b) (direction : Direction)
    (value : Value) :
    EndTwins R Ids ((split a direction value).on p) ((split b direction value).on q) := by
  refine EndTwins.of_leaf h hab (by rw [split]) (by rw [split]) ?_
  rintro path path' i j c d rfl rfl hp hq hpath hcd
  rw [on_split hp, on_split hq]
  cases Ratio.ofValue? value with
  | none => exact endTwins_error h rfl
  | some ratio =>
      exact ⟨_, fun _ _ => Or.inl, h.split hp hq hpath hcd direction ratio,
        .ok (Or.inr ⟨rfl, rfl⟩)⟩

theorem twin_merge (h : p.Twin R q) {a' b' : PaneId} (ha : Names R p q a a')
    (hb : Names R p q b b') : EndTwins R Same ((merge a b).on p) ((merge a' b').on q) := by
  refine EndTwins.of_leaf h ha (by rw [merge]) (by rw [merge]) ?_
  rintro around around' k k' e e' rfl rfl hkept hkept' - hee
  rcases h.leaf?_cases hb with ⟨hb, hb'⟩ | ⟨path, path', i, j, c, d, rfl, rfl, hp, hq, hpath, hcd⟩
  · rw [merge, merge, Edit.on_bind, Edit.on_bind, on_findLeaf_at hkept, on_findLeaf_at hkept']
    simp only [Edit.on_bind, on_findLeaf_of_none p hb, on_findLeaf_of_none q hb']
    exact endTwins_error h rfl
  · -- The panes stand beside each other in both profiles or in neither.
    by_cases hbeside : path.beside.map Pane.id = some e.id
    · obtain ⟨other, hother, hid⟩ := Option.map_eq_some_iff.mp hbeside
      have hrel := hpath.beside
      rw [hother] at hrel
      obtain ⟨other', hother', hothers⟩ : ∃ other', path'.beside = some other' ∧
          other.Twin R other' := by
        generalize hresult : path'.beside = result at hrel
        cases hrel with
        | some hothers => exact ⟨_, rfl, hothers⟩
      obtain ⟨f, outer, m, rfl, hf⟩ := TreePath.beside_eq_some_iff.mp hother
      obtain ⟨g, outer', n, rfl, hg⟩ := TreePath.beside_eq_some_iff.mp hother'
      have hid' : other'.id = e'.id := (h.unique hothers.1 hee.1).mp hid
      cases hpath with
      | cons hfg houter =>
          rw [← hid, ← hid', on_merge hp hf, on_merge hq hg, hothers.2, hcd.2]
          split
          · exact endTwins_error h rfl
          · refine endTwins_ok ((h.withoutLeaf hp hq hfg houter).setFocus ?_) rfl
            simp only [h.unique h.focused hcd.1]
            split
            · exact hothers.1
            · exact h.focused
    · have hbeside' : path'.beside.map Pane.id ≠ some e'.id := by
        intro hsome
        obtain ⟨other', hother', hid'⟩ := Option.map_eq_some_iff.mp hsome
        have hrel := hpath.beside
        rw [hother'] at hrel
        generalize hresult : path.beside = result at hrel hbeside
        cases hrel with
        | some hothers => exact hbeside (congrArg some ((h.unique hothers.1 hee.1).mpr hid'))
      rw [on_merge_of_ne hp hkept.leaf?_eq hbeside, on_merge_of_ne hq hkept'.leaf?_eq hbeside']
      exact endTwins_error h rfl

theorem twin_inherit (h : p.Twin R q) {path path' : TreePath} {t u : IndexedTree}
    (hp : p.arena.Holds path t) (hq : q.arena.Holds path' u) (htu : t.Twin R u) (origin : Rect) :
    EndTwins R Same ((inherit origin t.index).on p) ((inherit origin u.index).on q) := by
  have hnearest := nearest?_twin origin (h.heirs hp hq htu)
  rw [on_inherit, on_inherit]
  generalize nearest? origin (p.heirs t.index) = x at hnearest ⊢
  generalize nearest? origin (q.heirs u.index) = y at hnearest ⊢
  cases hnearest with
  | error e => exact endTwins_error h rfl
  | ok hids =>
      cases hids with
      | none => exact endTwins_error h rfl
      | some hid => exact endTwins_ok (h.setFocus hid) rfl

theorem twin_close (h : p.Twin R q) {f g : OpenSplit} {path path' : TreePath} {i j : NodeIndex}
    {c d : Pane} (hp : p.arena.Holds (f :: path) (.pane i c))
    (hq : q.arena.Holds (g :: path') (.pane j d)) (hfg : f.Twin R g) (hpath : path.Twin R path')
    (hcd : c.Twin R d) :
    EndTwins R Same ((close c.id ⟨i, c, some f.index⟩).on p)
      ((close d.id ⟨j, d, some g.index⟩).on q) := by
  have htwin := h.withoutLeaf hp hq hfg hpath
  obtain ⟨rect, hrect⟩ := exists_rect hp p.viewport
  have hrect' : Assoc.find? d.id (q.arena.place q.viewport) = some rect := by
    rw [← find?_placed h.unique (h.place q.viewport) hcd.1, ← h.viewport]
    exact hrect
  rw [on_close hp hrect, on_close hq hrect']
  -- The focus is on the one pane just when it is on the other.
  simp only [h.unique h.focused hcd.1]
  split
  · exact twin_inherit htwin hp.collapse hq.collapse hfg.other rect
  · exact endTwins_ok htwin rfl

theorem twin_remove (h : p.Twin R q) (hab : Names R p q a b) :
    EndTwins R Ids ((remove a).on p) ((remove b).on q) := by
  refine EndTwins.of_leaf h hab (by rw [remove]) (by rw [remove]) ?_
  rintro path path' i j c d rfl rfl hp hq hpath hcd
  cases hview : c.view.isTerminal with
  | true =>
      rw [on_remove_terminal hp hview, on_remove_terminal hq (hcd.2 ▸ hview)]
      exact endTwins_error h rfl
  | false =>
      cases hpath with
      | nil =>
          rw [on_remove_last hp hview, on_remove_last hq (hcd.2 ▸ hview)]
          exact endTwins_error h rfl
      | @cons f g path path' hfg hpath =>
          rw [on_remove hp hview, on_remove hq (hcd.2 ▸ hview)]
          have hfocused : ∀ (S : Pairing) (_ _ : Unit) {p q : Profile}, p.Twin S q →
              Ids S p.focused q.focused := fun S _ _ _ _ htwin => htwin.focused
          refine EndTwins.map (A := Same) ?_ fun S x y htwin _ => hfocused S x y htwin
          have hrel := TreePath.Twin.beside (.cons hfg hpath)
          generalize TreePath.beside (f :: path) = x at hrel ⊢
          generalize TreePath.beside (g :: path') = y at hrel ⊢
          cases hrel with
          | none => exact twin_close h hp hq hfg hpath hcd
          | some hothers => exact twin_merge h (Or.inl hothers.1) (Or.inl hcd.1)

theorem twin_focus (h : p.Twin R q) (hab : Names R p q a b) :
    EndTwins R Same ((focus a).on p) ((focus b).on q) := by
  refine EndTwins.of_leaf h hab (by rw [focus]) (by rw [focus]) ?_
  rintro path path' i j c d rfl rfl hp hq hpath hcd
  rw [focus, focus, Edit.on_bind, Edit.on_bind, on_findLeaf_at hp, on_findLeaf_at hq]
  exact endTwins_ok (h.setFocus hcd.1) rfl

theorem twin_focusAt (h : p.Twin R q) (point : Point) :
    EndTwins R Same ((focusAt point).on p) ((focusAt point).on q) := by
  have hfind := find?_rel (h.place p.viewport) (p := fun placed => placed.2.contains point)
    (q := fun placed => placed.2.contains point) fun x y hxy => by rw [hxy.2]
  unfold focusAt
  simp only [Edit.on_bind, Edit.on_get, ← h.viewport]
  generalize List.find? _ (p.arena.place p.viewport) = x at hfind ⊢
  generalize List.find? _ (q.arena.place p.viewport) = y at hfind ⊢
  cases hfind with
  | none => exact endTwins_ok h rfl
  | some hxy => exact endTwins_ok (h.setFocus hxy.1) rfl

theorem twin_focusTowards (h : p.Twin R q) (side : Side) :
    EndTwins R Same ((focusTowards side).on p) ((focusTowards side).on q) := by
  have hplace := h.place p.viewport
  unfold focusTowards
  simp only [Edit.on_bind, Edit.on_get, ← h.viewport, ← find?_placed h.unique hplace h.focused]
  cases Assoc.find? p.focused (p.arena.place p.viewport) with
  | none => exact endTwins_error h rfl
  | some current =>
      have hnearest := nearestOnSide?_twin side current hplace
      simp only [Edit.on_bind, Edit.on_ofOutcome]
      generalize nearestOnSide? side current (p.arena.place p.viewport) = x at hnearest ⊢
      generalize nearestOnSide? side current (q.arena.place p.viewport) = y at hnearest ⊢
      cases hnearest with
      | error e => exact endTwins_error h rfl
      | ok hids =>
          cases hids with
          | none => exact endTwins_ok h rfl
          | some hid => exact endTwins_ok (h.setFocus hid) rfl

theorem twin_setView (h : p.Twin R q) (hab : Names R p q a b) (view : View) :
    EndTwins R Same ((setView a view).on p) ((setView b view).on q) := by
  refine EndTwins.of_leaf h hab (by rw [setView]) (by rw [setView]) ?_
  rintro path path' i j c d rfl rfl hp hq hpath hcd
  rw [setView, setView, Edit.on_bind, Edit.on_bind, on_findLeaf_at hp, on_findLeaf_at hq]
  exact endTwins_ok (h.setView hp hq hpath hcd view) rfl

theorem twin_goto (h : p.Twin R q) (view : View) :
    EndTwins R Same ((goto view).on p) ((goto view).on q) := by
  unfold goto
  simp only [Edit.on_bind, Edit.on_get]
  exact twin_setView h (Or.inl h.focused) view

theorem twin_gotoOrFocus (h : p.Twin R q) (view : View) :
    EndTwins R Same ((gotoOrFocus view).on p) ((gotoOrFocus view).on q) := by
  have hfind := find?_rel h.panes (p := fun pane => decide (pane.view = view))
    (q := fun pane => decide (pane.view = view)) fun c d hcd => by rw [hcd.2]
  unfold gotoOrFocus
  simp only [Edit.on_bind, Edit.on_get]
  generalize List.find? _ p.panes = x at hfind ⊢
  generalize List.find? _ q.panes = y at hfind ⊢
  cases hfind with
  | none => exact twin_goto h view
  | some hcd => exact endTwins_ok (h.setFocus hcd.1) rfl

end EndTwins

end Profile

end SplitScreen
