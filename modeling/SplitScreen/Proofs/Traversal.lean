import SplitScreen.Proofs.Arena.Rooted
import SplitScreen.Proofs.Profile.Literal
import SplitScreen.Proofs.Screen.Views

/-!
The traversals of the pane tree without a bound. The loop over a stack goes from one state to the next
(`Arena.turn?`), and a recursion down the child links gives a result when finitely many calls lead
to it (`Descent.Returns`). In an arena that holds a tree both follow the tree: the loop ends when
every node below its start was visited once (`Shows.turns?_eq`), and every recursion gives what the
tree gives (`Shows.returns_iff`). Main statement: `Profile.traversals_agree`.
-/

namespace SplitScreen

namespace Arena

/-- Where the loop over a stack is: the nodes that are still to be visited, the top of the stack
first, those that were visited, and the panes that were found. -/
structure Walk where
  stack : List NodeIndex
  visited : List NodeIndex
  found : List Pane

def Walk.start (i : NodeIndex) : Walk := ⟨[i], [], []⟩

/-- One turn of the loop. There is none when the stack is empty, or its top leads nowhere. -/
def turn? (a : Arena) (w : Walk) : Option Walk :=
  match w.stack with
  | [] => none
  | i :: stack =>
    match a.node? i with
    | some (.pane content _) => some ⟨stack, w.visited ++ [i], w.found ++ [content]⟩
    | some (.split _ _ first second _) =>
      some ⟨first :: second :: stack, w.visited ++ [i], w.found⟩
    | none => none

def turns? (a : Arena) : Nat → Walk → Option Walk
  | 0, w => some w
  | n + 1, w => do a.turns? n (← a.turn? w)

end Arena

/-- A recursion down the child links: what it gives at a pane, what it hands down to the two children
of a split, and how it puts together what they give. -/
structure Descent (σ β : Type) where
  atPane : Pane → σ → β
  handed : Direction → Ratio → σ → σ × σ
  joined : Direction → Ratio → β → β → β

namespace Descent

variable {σ β : Type}

/-- The recursion at a node ends with a result. -/
inductive Returns (d : Descent σ β) (a : Arena) : NodeIndex → σ → β → Prop
  | pane {i : NodeIndex} {content : Pane} {parent : Option NodeIndex} {s : σ}
    (h : a.node? i = some (.pane content parent)) : Returns d a i s (d.atPane content s)
  | split {i first second : NodeIndex} {direction : Direction} {ratio : Ratio}
    {parent : Option NodeIndex} {s : σ} {x y : β}
    (h : a.node? i = some (.split direction ratio first second parent))
    (hfirst : Returns d a first (d.handed direction ratio s).1 x)
    (hsecond : Returns d a second (d.handed direction ratio s).2 y) :
    Returns d a i s (d.joined direction ratio x y)

def onTree (d : Descent σ β) : Tree Pane → σ → β
  | .leaf content, s => d.atPane content s
  | .split direction ratio first second, s =>
    d.joined direction ratio (d.onTree first (d.handed direction ratio s).1)
      (d.onTree second (d.handed direction ratio s).2)

/-- The panes depth first, the first child before the second. -/
def listing : Descent Unit (List Pane) where
  atPane content _ := [content]
  handed _ _ s := (s, s)
  joined _ _ x y := x ++ y

def placing : Descent Rect (List (PaneId × Rect)) where
  atPane content area := [(content.id, area)]
  handed direction ratio area := area.split direction ratio
  joined _ _ x y := x ++ y

def exporting (focused : PaneId) : Descent Unit (Layout Ratio) where
  atPane content _ := .pane content.view (decide (content.id = focused))
  handed _ _ s := (s, s)
  joined := .split

theorem onTree_listing (t : Tree Pane) : listing.onTree t () = t.leaves := by
  induction t with
  | leaf content => rfl
  | split direction ratio first second ih₁ ih₂ => exact congrArg₂ (· ++ ·) ih₁ ih₂

theorem onTree_placing (t : Tree Pane) (area : Rect) :
    placing.onTree t area = (t.place area).map fun placed => (placed.1.id, placed.2) := by
  induction t generalizing area with
  | leaf content => rfl
  | split direction ratio first second ih₁ ih₂ =>
      rw [Tree.place, List.map_append, ← ih₁, ← ih₂]
      rfl

theorem onTree_exporting (focused : PaneId) (t : Tree Pane) :
    (exporting focused).onTree t () = t.layout focused := by
  induction t with
  | leaf content => rfl
  | split direction ratio first second ih₁ ih₂ =>
      exact congrArg₂ (Layout.split direction ratio) ih₁ ih₂

theorem Returns.unique {d : Descent σ β} {a : Arena} {i : NodeIndex} {s : σ} {x y : β}
    (hx : d.Returns a i s x) (hy : d.Returns a i s y) : x = y := by
  induction hx generalizing y with
  | pane h =>
      cases hy with
      | pane h' =>
          obtain ⟨rfl, rfl⟩ := Node.pane.inj (Option.some.inj (h.symm.trans h'))
          rfl
      | split h' => cases h.symm.trans h'
  | split h _ _ ih₁ ih₂ =>
      cases hy with
      | pane h' => cases h.symm.trans h'
      | split h' hfirst hsecond =>
          obtain ⟨rfl, rfl, rfl, rfl, rfl⟩ := Node.split.inj (Option.some.inj (h.symm.trans h'))
          rw [ih₁ hfirst, ih₂ hsecond]

end Descent

namespace Arena

variable {a : Arena} {path : TreePath} {t : IndexedTree} {parent : Option NodeIndex}

theorem turns?_add (a : Arena) (m n : Nat) (w : Walk) :
    a.turns? (m + n) w = (a.turns? m w).bind (a.turns? n) := by
  induction m generalizing w with
  | zero => simp [turns?]
  | succ m ih =>
      rw [Nat.succ_add, turns?, turns?]
      cases a.turn? w with
      | none => rfl
      | some w' => exact ih w'

/-- Whatever the arena, the panes that are found when the stack is empty are those of the traversal
with any bound that is large enough. -/
theorem found_of_turns? {n bound : Nat} {w w' : Walk} (h : a.turns? n w = some w')
    (hend : w'.stack = []) (hbound : n ≤ bound) :
    w'.found = w.found ++ a.panesOfStack bound w.stack := by
  induction n generalizing bound w with
  | zero =>
      obtain rfl : w = w' := Option.some.inj h
      rw [hend]
      cases bound <;> simp [panesOfStack]
  | succ n ih =>
      obtain ⟨bound, rfl⟩ : ∃ k, bound = k + 1 := ⟨bound - 1, by omega⟩
      obtain ⟨next, hturn, hrest⟩ := Option.bind_eq_some_iff.mp h
      have hfound := ih hrest (Nat.le_of_succ_le_succ hbound)
      obtain ⟨_ | ⟨i, stack⟩, visited, found⟩ := w
      · cases hturn
      · simp only [turn?] at hturn
        split at hturn
        · next content _ hnode =>
            obtain rfl := Option.some.inj hturn
            simp [panesOfStack, hnode, hfound]
        · next hnode =>
            obtain rfl := Option.some.inj hturn
            simp [panesOfStack, hnode, hfound]
        · cases hturn

/-- A subtree on top of the stack is worked off before what is below it, one node a turn. -/
theorem Shows.turns?_eq (h : a.Shows parent t) (stack visited : List NodeIndex)
    (found : List Pane) :
    a.turns? t.indices.length ⟨t.index :: stack, visited, found⟩ =
      some ⟨stack, visited ++ t.indices, found ++ t.tree.leaves⟩ := by
  induction t generalizing parent stack visited found with
  | pane index content =>
      have hself : a.node? index = some (.pane content parent) := h
      simp [IndexedTree.indices, IndexedTree.tree, Tree.leaves, turns?, turn?, hself]
  | split index direction ratio first second ih₁ ih₂ =>
      obtain ⟨hself, hfirst, hsecond⟩ := h
      have hturn : a.turn? ⟨index :: stack, visited, found⟩ =
          some ⟨first.index :: second.index :: stack, visited ++ [index], found⟩ := by
        simp only [turn?, hself]
      rw [IndexedTree.indices, List.length_cons, List.length_append, turns?, IndexedTree.index,
        hturn]
      change a.turns? _ _ = _
      rw [turns?_add, ih₁ hfirst, Option.bind_some, ih₂ hsecond]
      simp [IndexedTree.tree, Tree.leaves]

theorem Shows.returns {σ β : Type} (d : Descent σ β) (h : a.Shows parent t) (s : σ) :
    d.Returns a t.index s (d.onTree t.tree s) := by
  induction t generalizing parent s with
  | pane index content => exact .pane h
  | split index direction ratio first second ih₁ ih₂ =>
      exact .split h.1 (ih₁ h.2.1 _) (ih₂ h.2.2 _)

/-- A recursion ends with what the tree gives, and with nothing else. -/
theorem Shows.returns_iff {σ β : Type} (d : Descent σ β) (h : a.Shows parent t) {s : σ} {x : β} :
    d.Returns a t.index s x ↔ x = d.onTree t.tree s := by
  constructor
  · exact fun hx => hx.unique (h.returns d s)
  · rintro rfl
    exact h.returns d s

/-- The loop from a node ends: every node below it was visited once, and the panes were found in the
order of the recursion. -/
structure Visits (a : Arena) (start : NodeIndex) (visited : List NodeIndex) (found : List Pane) :
    Prop where
  ends : a.turns? visited.length (.start start) = some ⟨[], visited, found⟩
  nodup : visited.Nodup
  mem_iff (i : NodeIndex) : i ∈ visited ↔ a.Below start i
  returns_iff (panes : List Pane) : Descent.listing.Returns a start () panes ↔ panes = found
  /-- A bound does not matter when it leaves the loop a turn for every node. -/
  found_eq {bound : Nat} (h : visited.length ≤ bound) : a.panesOfStack bound [start] = found

theorem Holds.visits (h : a.Holds path t) :
    a.Visits t.index t.indices (a.panesFrom t.index) := by
  have hends : a.turns? t.indices.length (.start t.index) =
      some ⟨[], t.indices, a.panesFrom t.index⟩ := by
    rw [h.panesFrom_eq, Walk.start, h.shows.turns?_eq, List.nil_append, List.nil_append]
  exact {
    ends := hends
    nodup := (List.nodup_append.mp h.nodup_indices).1
    mem_iff := fun _ => h.shows.mem_indices_iff
    returns_iff := fun panes => by
      rw [h.panesFrom_eq, h.shows.returns_iff, Descent.onTree_listing]
    found_eq := fun hbound => (found_of_turns? hends rfl hbound).symm }

end Arena

namespace Profile

variable {p : Profile}

/-- A profile without a mark starts with the focus on the first pane that the loop finds. -/
theorem head?_paneIds_ofLayout {l : Layout Ratio} (hmarks : true ∉ l.marks) (viewport : Rect) :
    (ofLayout l viewport).paneIds.head? = some (ofLayout l viewport).focused := by
  have hfocused : l.marks.findIdx? (· = true) = none := by
    rw [List.findIdx?_eq_none_iff]
    intro mark hmark
    exact decide_eq_false fun hmarked => hmarks (hmarked ▸ hmark)
  have hpos : l.paneCount ≠ 0 := Nat.ne_of_gt l.paneCount_pos
  rw [paneIds_ofLayout, List.head?_map, List.head?_range, if_neg hpos]
  simp only [ofLayout, hfocused, Option.map_some, Option.getD_none]

/-- In every profile that is reached, the loop from any node ends, and it agrees with the recursion.
At the root the loop, the division of any area and the layout go through the same panes in the same
order, those of the leaf map, each once, and there is one. So a profile without a mark has a pane for
its first focus. -/
theorem traversals_agree (hp : p.Reachable) :
    (∀ start, (p.arena.node? start).isSome →
      ∃ visited, p.arena.Visits start visited (p.arena.panesFrom start)) ∧
    (∀ area placed,
      Descent.placing.Returns p.arena p.arena.root area placed ↔ placed = p.arena.place area) ∧
    (∀ area, Assoc.keys (p.arena.place area) = p.paneIds) ∧
    (∀ l, (Descent.exporting p.focused).Returns p.arena p.arena.root () l ↔ l = p.toLayout) ∧
    p.toLayout.views = p.panes.map Pane.view ∧
    p.toLayout.marks = p.paneIds.map (fun id => decide (id = p.focused)) ∧
    p.paneIds.Nodup ∧ (∀ id, id ∈ p.paneIds ↔ id ∈ p.arena.leaves.keys) ∧ p.paneIds ≠ [] ∧
    ∀ (l : Layout Ratio) (viewport : Rect), true ∉ l.marks →
      (ofLayout l viewport).paneIds.head? = some (ofLayout l viewport).focused := by
  obtain ⟨t, ht⟩ := hp.exists_holds
  have hroot : p.arena.root = t.index := ht.showsPath
  have hids := paneIds_eq ht
  refine ⟨fun start hstart => ?_, fun area placed => ?_, fun area => ?_, fun l => ?_,
    views_toLayout ht, ?_, ?_, fun id => ?_, ?_, fun l viewport hl => head?_paneIds_ofLayout hl _⟩
  · obtain ⟨path, s, hs, rfl⟩ := ht.exists_path_of_node hstart
    exact ⟨s.indices, hs.visits⟩
  · rw [hroot, ht.shows.returns_iff, Descent.onTree_placing, ht.place_eq]
  · rw [ht.keys_place, hids]
  · rw [hroot, ht.shows.returns_iff, Descent.onTree_exporting, toLayout_eq ht]
  · rw [toLayout_eq ht, Tree.marks_layout, hids, List.map_map]
    rfl
  · rw [hids]
    exact ht.nodup_leaves_id
  · rw [hids, ht.keys_leaves_perm.mem_iff, ← t.map_snd_entries, List.map_map]
    rfl
  · rw [hids]
    simpa using t.tree.leaves_ne_nil

theorem traversals_agree_large :
    let p := (ofLayout Layout.large).run [.split 1 .vertical Ratio.even.toValue, .remove 0]
    let unmarked := Layout.split .vertical Ratio.even (.pane (.kind .source) false)
      (.pane (.kind .terminal) false)
    p.Reachable ∧ (p.arena.node? p.arena.root).isSome ∧
      (∃ visited, p.arena.Visits p.arena.root visited p.panes) ∧
      p.paneIds = [1, 4, 2, 3] ∧ Assoc.keys (p.arena.place ⟨0, 0, 3, 1⟩) = [1, 4, 2, 3] ∧
      true ∉ unmarked.marks ∧
      (ofLayout unmarked).paneIds.head? = some (ofLayout unmarked).focused := by
  intro p unmarked
  have hp : p.Reachable := (reachable_ofLayout Layout.large defaultViewport).run _
  have hroot : (p.arena.node? p.arena.root).isSome := by decide
  have hmarks : true ∉ unmarked.marks := by decide
  obtain ⟨hloop, -, hplaced, -, -, -, -, -, -, hfirst⟩ := traversals_agree hp
  have hids : p.paneIds = [1, 4, 2, 3] := by decide
  exact ⟨hp, hroot, hloop _ hroot, hids, (hplaced _).trans hids, hmarks, hfirst _ _ hmarks⟩

end Profile

end SplitScreen
