import SplitScreen.Arena

namespace SplitScreen

/-- A binary tree that divides an area down to its leaves. -/
inductive Tree (α : Type)
  | leaf (content : α)
  | split (direction : Direction) (ratio : Ratio) (first second : Tree α)
  deriving DecidableEq

namespace Tree

variable {α β : Type}

def map (f : α → β) : Tree α → Tree β
  | leaf content => leaf (f content)
  | split direction ratio first second => split direction ratio (first.map f) (second.map f)

def leaves : Tree α → List α
  | leaf content => [content]
  | split _ _ first second => first.leaves ++ second.leaves

/-- Divides an area among the leaves, first child before second. -/
def place : Tree α → Rect → List (α × Rect)
  | leaf content, area => [(content, area)]
  | split direction ratio first second, area =>
    first.place (area.split direction ratio).1 ++ second.place (area.split direction ratio).2

theorem leaves_map (f : α → β) (t : Tree α) : (t.map f).leaves = t.leaves.map f := by
  induction t with
  | leaf content => rfl
  | split direction ratio first second ih₁ ih₂ => simp [map, leaves, ih₁, ih₂]

theorem leaves_ne_nil (t : Tree α) : t.leaves ≠ [] := by
  induction t with
  | leaf content => simp [leaves]
  | split direction ratio first second ih₁ ih₂ => simp [leaves, ih₁]

theorem map_fst_place (t : Tree α) (area : Rect) : (t.place area).map Prod.fst = t.leaves := by
  induction t generalizing area with
  | leaf content => rfl
  | split direction ratio first second ih₁ ih₂ => simp [place, leaves, ih₁, ih₂]

/-- One subtree `old` of a tree is replaced by `new`. -/
inductive Replaced (old new : Tree α) : Tree α → Tree α → Prop
  | here : Replaced old new old new
  | first {direction : Direction} {ratio : Ratio} {t t' u : Tree α} (h : Replaced old new t t') :
    Replaced old new (split direction ratio t u) (split direction ratio t' u)
  | second {direction : Direction} {ratio : Ratio} {t u u' : Tree α} (h : Replaced old new u u') :
    Replaced old new (split direction ratio t u) (split direction ratio t u')

/-- The leaves before and after a replaced subtree stay as they are. -/
theorem Replaced.leaves_eq {old new t t' : Tree α} (h : Replaced old new t t') :
    ∃ before after, t.leaves = before ++ old.leaves ++ after ∧
      t'.leaves = before ++ new.leaves ++ after := by
  induction h with
  | here => exact ⟨[], [], by simp, by simp⟩
  | @first direction ratio t t' u _ ih =>
      obtain ⟨before, after, ht, ht'⟩ := ih
      exact ⟨before, after ++ u.leaves, by simp [leaves, ht], by simp [leaves, ht']⟩
  | @second direction ratio t u u' _ ih =>
      obtain ⟨before, after, hu, hu'⟩ := ih
      exact ⟨t.leaves ++ before, after, by simp [leaves, hu], by simp [leaves, hu']⟩

/-- A leaf is dropped: the split of it and another subtree is replaced by that subtree. -/
def Dropped (content : α) (other t t' : Tree α) : Prop :=
  ∃ direction ratio, Replaced (split direction ratio (leaf content) other) other t t' ∨
    Replaced (split direction ratio other (leaf content)) other t t'

theorem Dropped.leaves_eq {content : α} {other t t' : Tree α} (h : Dropped content other t t') :
    ∃ before after, t.leaves = before ++ content :: after ∧ t'.leaves = before ++ after := by
  obtain ⟨direction, ratio, h | h⟩ := h
  · obtain ⟨before, after, ht, ht'⟩ := h.leaves_eq
    exact ⟨before, other.leaves ++ after, by simp [ht, leaves], by simp [ht']⟩
  · obtain ⟨before, after, ht, ht'⟩ := h.leaves_eq
    exact ⟨before ++ other.leaves, after, by simp [ht, leaves], by simp [ht']⟩

theorem Dropped.mem_leaves {content x : α} {other t t' : Tree α} (h : Dropped content other t t')
    (hx : x ∈ other.leaves) : x ∈ t'.leaves := by
  obtain ⟨direction, ratio, h | h⟩ := h <;>
  · obtain ⟨before, after, -, ht'⟩ := h.leaves_eq
    rw [ht']
    exact List.mem_append_left _ (List.mem_append_right _ hx)

def IsSplit (s t u : Tree α) : Prop :=
  ∃ direction ratio, s = split direction ratio t u ∨ s = split direction ratio u t

theorem IsSplit.mem_leaves_iff {s t u : Tree α} {x : α} (h : s.IsSplit t u) :
    x ∈ s.leaves ↔ x ∈ t.leaves ∨ x ∈ u.leaves := by
  obtain ⟨direction, ratio, rfl | rfl⟩ := h
  · exact List.mem_append
  · exact List.mem_append.trans or_comm

theorem Dropped.exists_isSplit {content : α} {other t t' : Tree α}
    (h : Dropped content other t t') :
    ∃ s : Tree α, s.IsSplit (leaf content) other ∧ Replaced s other t t' := by
  obtain ⟨direction, ratio, h | h⟩ := h
  · exact ⟨_, ⟨direction, ratio, Or.inl rfl⟩, h⟩
  · exact ⟨_, ⟨direction, ratio, Or.inr rfl⟩, h⟩

/-- A subtree occupies a rectangle when an area is divided among the leaves of a tree. -/
inductive Occupies (s : Tree α) (rect : Rect) : Tree α → Rect → Prop
  | here : Occupies s rect s rect
  | first {direction : Direction} {ratio : Ratio} {t u : Tree α} {area : Rect}
    (h : Occupies s rect t (area.split direction ratio).1) :
    Occupies s rect (split direction ratio t u) area
  | second {direction : Direction} {ratio : Ratio} {t u : Tree α} {area : Rect}
    (h : Occupies s rect u (area.split direction ratio).2) :
    Occupies s rect (split direction ratio t u) area

/-- All other leaves keep their places, and what comes in the place of a subtree shares the rectangle
that the subtree occupied. -/
theorem Replaced.place_eq {old new t t' : Tree α} (h : Replaced old new t t') (area : Rect) :
    ∃ rect before after, old.Occupies rect t area ∧
      t.place area = before ++ old.place rect ++ after ∧
      t'.place area = before ++ new.place rect ++ after := by
  induction h generalizing area with
  | here => exact ⟨area, [], [], .here, by simp, by simp⟩
  | @first direction ratio t t' u _ ih =>
      obtain ⟨rect, before, after, hrect, ht, ht'⟩ := ih (area.split direction ratio).1
      exact ⟨rect, before, after ++ u.place (area.split direction ratio).2, .first hrect,
        by simp [place, ht], by simp [place, ht']⟩
  | @second direction ratio t u u' _ ih =>
      obtain ⟨rect, before, after, hrect, hu, hu'⟩ := ih (area.split direction ratio).2
      exact ⟨rect, t.place (area.split direction ratio).1 ++ before, after, .second hrect,
        by simp [place, hu], by simp [place, hu']⟩

end Tree

end SplitScreen
