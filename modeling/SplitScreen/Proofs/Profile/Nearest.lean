import SplitScreen.Profile
import SplitScreen.Proofs.Double.Order
import SplitScreen.Proofs.Outcome

namespace SplitScreen

namespace Profile

/-- What is at a distance and a place comes before something else: it is nearer, or as near and in an
earlier place. -/
def Precedes (d : Float) (i : Nat) (e : Float) (j : Nat) : Prop :=
  d < e ∨ (d == e) = true ∧ i < j

/-- The first of some candidates in the order of their distances and places. No candidate precedes
it, and it precedes every other one as far as their distances are numbers. -/
def IsNearest (origin : Rect) (candidates : List (PaneId × Rect)) (id : PaneId) : Prop :=
  ∃ i rect, candidates[i]? = some (id, rect) ∧
    ∀ j other, candidates[j]? = some other → j ≠ i →
      ∃ d e, origin.distance rect = .ok d ∧ origin.distance other.2 = .ok e ∧
        ¬ Precedes e j d i ∧ (d.isNaN = false → e.isNaN = false → Precedes d i e j)

/-- What a search among some candidates has found: nothing when there are none, and else the first of
them, with its distance. -/
def Leads (origin : Rect) (candidates : List (PaneId × Rect)) : Option (Float × PaneId) → Prop
  | none => candidates = []
  | some (d, id) =>
    ∃ i rect, candidates[i]? = some (id, rect) ∧ origin.distance rect = .ok d ∧
      ∀ j other, candidates[j]? = some other →
        ∃ e, origin.distance other.2 = .ok e ∧ ¬ Precedes e j d i

section Nearest

variable {d d' e : Float} {i j k : Nat} {id : PaneId} {origin : Rect}
  {best result : Option (Float × PaneId)} {candidate : PaneId × Rect}
  {seen candidates : List (PaneId × Rect)} {nearest : Option PaneId} {overflow : Overflow}

theorem not_precedes_self : ¬ Precedes d i d i := by
  rintro (h | ⟨-, h⟩)
  · exact Double.lt_irrefl d h
  · exact Nat.lt_irrefl i h

theorem Precedes.lt_trans (h : Precedes e j d' k) (h' : d' < d) : e < d := by
  rcases h with h | ⟨h, -⟩
  · exact Double.lt_trans h h'
  · exact Double.lt_of_beq_of_lt h h'

theorem precedes_trichotomy (hd : d.isNaN = false) (he : e.isNaN = false) (hne : j ≠ i) :
    Precedes d i e j ∨ Precedes e j d i := by
  rcases Double.lt_trichotomy hd he with h | h | h
  · exact Or.inl (Or.inl h)
  · rcases Nat.lt_or_gt_of_ne hne with hlt | hgt
    · exact Or.inr (Or.inr ⟨Double.beq_symm h, hlt⟩)
    · exact Or.inl (Or.inr ⟨h, hgt⟩)
  · exact Or.inr (Or.inl h)

theorem getElem?_append_singleton_cases {α : Type} {xs : List α} {x y : α}
    (h : (xs ++ [x])[j]? = some y) :
    j < xs.length ∧ xs[j]? = some y ∨ j = xs.length ∧ y = x := by
  rcases Nat.lt_trichotomy j xs.length with hlt | rfl | hgt
  · exact Or.inl ⟨hlt, by rwa [List.getElem?_append_left hlt] at h⟩
  · exact Or.inr ⟨rfl, by simpa using h.symm⟩
  · rw [List.getElem?_eq_none (by simp; omega)] at h
    cases h

theorem leads_singleton (hd : origin.distance candidate.2 = .ok d) :
    Leads origin [candidate] (some (d, candidate.1)) := by
  refine ⟨0, candidate.2, rfl, hd, fun j other hother => ?_⟩
  obtain ⟨hj, rfl⟩ := List.getElem?_eq_some_iff.mp hother
  obtain rfl : j = 0 := Nat.lt_one_iff.mp hj
  exact ⟨d, hd, not_precedes_self⟩

theorem Leads.overtaken (hbest : Leads origin seen (some (d', id)))
    (hd : origin.distance candidate.2 = .ok d) (hlt : d < d') :
    Leads origin (seen ++ [candidate]) (some (d, candidate.1)) := by
  obtain ⟨i, rect, hi, hrect, hleads⟩ := hbest
  refine ⟨seen.length, candidate.2, List.getElem?_concat_length, hd, fun j other hother => ?_⟩
  rcases getElem?_append_singleton_cases hother with ⟨hj, hother⟩ | ⟨rfl, rfl⟩
  · obtain ⟨e, he, hnot⟩ := hleads j other hother
    exact ⟨e, he, fun hprecedes => hnot (Or.inl (hprecedes.lt_trans hlt))⟩
  · exact ⟨d, hd, not_precedes_self⟩

/-- A candidate that is not nearer comes later than the best so far, also when it is as near. -/
theorem Leads.kept (hbest : Leads origin seen (some (d', id)))
    (hd : origin.distance candidate.2 = .ok d) (hlt : ¬ d < d') :
    Leads origin (seen ++ [candidate]) (some (d', id)) := by
  obtain ⟨i, rect, hi, hrect, hleads⟩ := hbest
  have hlength : i < seen.length := (List.getElem?_eq_some_iff.mp hi).1
  refine ⟨i, rect, by rwa [List.getElem?_append_left hlength], hrect, fun j other hother => ?_⟩
  rcases getElem?_append_singleton_cases hother with ⟨hj, hother⟩ | ⟨rfl, rfl⟩
  · exact hleads j other hother
  · refine ⟨d, hd, ?_⟩
    rintro (h | ⟨-, h⟩)
    · exact hlt h
    · exact Nat.lt_asymm hlength h

theorem Leads.nearer (hbest : Leads origin seen best)
    (h : nearer origin best candidate = .ok result) :
    Leads origin (seen ++ [candidate]) result := by
  obtain ⟨d, hd, hresult⟩ := exists_of_bind h
  cases best with
  | none =>
      obtain rfl : seen = [] := hbest
      obtain rfl := Except.ok.inj hresult
      exact leads_singleton hd
  | some best =>
      obtain ⟨least, id⟩ := best
      obtain rfl := Except.ok.inj hresult
      split
      · next hlt => exact hbest.overtaken hd hlt
      · next hlt => exact hbest.kept hd hlt

theorem Leads.foldlM (hbest : Leads origin seen best)
    (h : candidates.foldlM (Profile.nearer origin) best = .ok result) :
    Leads origin (seen ++ candidates) result := by
  induction candidates generalizing seen best with
  | nil =>
      obtain rfl := Except.ok.inj h
      rwa [List.append_nil]
  | cons candidate candidates ih =>
      rw [List.foldlM_cons] at h
      obtain ⟨next, hnext, h⟩ := exists_of_bind h
      rw [List.append_cons]
      exact ih (hbest.nearer hnext) h

theorem Leads.isNearest (h : Leads origin candidates (some (d, id))) :
    IsNearest origin candidates id := by
  obtain ⟨i, rect, hi, hd, hleads⟩ := h
  refine ⟨i, rect, hi, fun j other hother hne => ?_⟩
  obtain ⟨e, he, hnot⟩ := hleads j other hother
  exact ⟨d, e, hd, he, hnot, fun hd he => (precedes_trichotomy hd he hne).resolve_right hnot⟩

theorem IsNearest.mem_keys (h : IsNearest origin candidates id) : id ∈ Assoc.keys candidates := by
  obtain ⟨i, rect, hi, -⟩ := h
  exact List.mem_map.mpr ⟨(id, rect), List.mem_of_getElem? hi, rfl⟩

theorem isNearest_of_keys (h : Assoc.keys candidates = [id]) : IsNearest origin candidates id := by
  obtain ⟨⟨id, rect⟩, rfl, rfl⟩ := List.map_eq_singleton_iff.mp h
  refine ⟨0, rect, rfl, fun j other hother hne => absurd ?_ hne⟩
  exact Nat.lt_one_iff.mp (List.getElem?_eq_some_iff.mp hother).1

theorem nearest?_isNearest (h : nearest? origin candidates = .ok nearest) :
    (candidates = [] ∧ nearest = none) ∨
      ∃ id, nearest = some id ∧ IsNearest origin candidates id := by
  obtain ⟨best, hfold, hbest⟩ := exists_of_bind h
  have hnone : Leads origin [] none := rfl
  have hleads : Leads origin candidates best := hnone.foldlM hfold
  obtain rfl := Except.ok.inj hbest
  cases best with
  | none => exact Or.inl ⟨hleads, rfl⟩
  | some best => exact Or.inr ⟨best.2, rfl, hleads.isNearest⟩

/-- The nearest pane is one of the candidates, and there is one unless there are no candidates. -/
theorem nearest?_cases (h : nearest? origin candidates = .ok nearest) :
    (candidates = [] ∧ nearest = none) ∨ ∃ k ∈ Assoc.keys candidates, nearest = some k := by
  rcases nearest?_isNearest h with hnil | ⟨id, hid, hnearest⟩
  · exact Or.inl hnil
  · exact Or.inr ⟨id, hnearest.mem_keys, hid⟩

theorem nearer_eq_error (h : nearer origin best candidate = .error overflow) :
    origin.distance candidate.2 = .error overflow := by
  rcases error_or_exists_of_bind h with hd | ⟨d, -, h⟩
  · exact hd
  · cases best <;> cases h

theorem foldlM_nearer_eq_error (h : candidates.foldlM (nearer origin) best = .error overflow) :
    ∃ candidate ∈ candidates, origin.distance candidate.2 = .error overflow := by
  induction candidates generalizing best with
  | nil => cases h
  | cons candidate candidates ih =>
      rw [List.foldlM_cons] at h
      rcases error_or_exists_of_bind h with hnext | ⟨next, -, h⟩
      · exact ⟨candidate, List.mem_cons_self, nearer_eq_error hnext⟩
      · obtain ⟨far, hmem, hfar⟩ := ih h
        exact ⟨far, List.mem_cons_of_mem _ hmem, hfar⟩

theorem nearest?_eq_error (h : nearest? origin candidates = .error overflow) :
    ∃ candidate ∈ candidates, origin.distance candidate.2 = .error overflow := by
  rcases error_or_exists_of_bind h with hfold | ⟨best, -, h⟩
  · exact foldlM_nearer_eq_error hfold
  · cases h

end Nearest

theorem mem_of_nearestOnSide? {side : Side} {current : Rect} {placed : List (PaneId × Rect)}
    {id : PaneId} (h : nearestOnSide? side current placed = .ok (some id)) :
    id ∈ Assoc.keys placed := by
  obtain ⟨origin, -, h⟩ := exists_of_bind h
  obtain ⟨candidates, hside, h⟩ := exists_of_bind h
  obtain rfl := filterM_eq_filter hside
  rcases nearest?_cases h with ⟨-, hnone⟩ | ⟨k, hk, hsome⟩
  · cases hnone
  · obtain rfl := Option.some.inj hsome
    exact (List.filter_sublist.map Prod.fst).subset hk

theorem mem_of_mem_heirs {p : Profile} {subtree : NodeIndex} {id : PaneId}
    (h : id ∈ Assoc.keys (p.heirs subtree)) :
    id ∈ (p.arena.panesFrom subtree).map Pane.id := by
  obtain ⟨placed, hplaced, rfl⟩ := List.mem_map.mp h
  obtain ⟨pane, hpane, hfind⟩ := List.mem_filterMap.mp hplaced
  obtain ⟨rect, -, rfl⟩ := Option.map_eq_some_iff.mp hfind
  exact List.mem_map.mpr ⟨pane, hpane, rfl⟩

end Profile

end SplitScreen
