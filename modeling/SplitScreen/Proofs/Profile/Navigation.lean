import SplitScreen.Proofs.Profile.Side
import SplitScreen.Proofs.Profile.Valid

namespace SplitScreen

namespace Profile

/-- A profile after some moves of the focus to a side. -/
def walk (p : Profile) (side : Side) (k : Nat) : Profile :=
  p.run (List.replicate k (.focusTowards side))

variable {p q r : Profile} {side : Side} {id : PaneId} {current : Rect}

theorem on_focusTowards (side : Side)
    (hcurrent : Assoc.find? p.focused (p.arena.place p.viewport) = some current) :
    (focusTowards side).on p =
      match nearestOnSide? side current (p.arena.place p.viewport) with
      | .error _ => (.error .overflow, p)
      | .ok none => (.ok (), p)
      | .ok (some id) => (.ok (), { p with focused := id }) := by
  unfold focusTowards
  simp only [Edit.on_bind, Edit.on_get, hcurrent, Edit.on_ofOutcome]
  rcases nearestOnSide? side current (p.arena.place p.viewport) with e | nearest
  · rfl
  · cases nearest <;> rfl

theorem Valid.keys_place (hp : p.Valid) (area : Rect) :
    Assoc.keys (p.arena.place area) = p.paneIds := by
  obtain ⟨t, ht⟩ := hp.exists_holds
  rw [ht.keys_place, paneIds_eq ht]

theorem Valid.nodup_paneIds (hp : p.Valid) : p.paneIds.Nodup := by
  obtain ⟨t, ht⟩ := hp.exists_holds
  rw [paneIds_eq ht]
  exact ht.nodup_leaves_id

theorem Valid.exists_current (hp : p.Valid) :
    ∃ current, Assoc.find? p.focused (p.arena.place p.viewport) = some current := by
  obtain ⟨path, index, view, h⟩ := hp.exists_focused
  exact exists_rect h p.viewport

theorem Valid.exists_beyond (hp : p.Valid)
    (hid : id ∈ Assoc.keys (beyond side current (p.arena.place p.viewport))) :
    id ∈ p.paneIds ∧ ∃ rect, Assoc.find? id (p.arena.place p.viewport) = some rect ∧
      side.Beyond current rect := by
  have hkeys := hp.keys_place p.viewport
  obtain ⟨⟨id, rect⟩, hplaced, rfl⟩ := List.mem_map.mp hid
  obtain ⟨hplaced, hbeyond⟩ := List.mem_filter.mp hplaced
  refine ⟨hkeys ▸ List.mem_map_of_mem hplaced, rect, ?_, of_decide_eq_true hbeyond⟩
  exact Assoc.find?_of_mem (hkeys ▸ hp.nodup_paneIds) hplaced

theorem Valid.focused_notMem_beyond (hp : p.Valid)
    (hcurrent : Assoc.find? p.focused (p.arena.place p.viewport) = some current) :
    p.focused ∉ Assoc.keys (beyond side current (p.arena.place p.viewport)) := by
  intro hmem
  obtain ⟨-, rect, hrect, hbeyond⟩ := hp.exists_beyond hmem
  obtain rfl := Option.some.inj (hrect.symm.trans hcurrent)
  exact Side.not_beyond_self hbeyond

theorem focusTowards_cases (side : Side)
    (hcurrent : Assoc.find? p.focused (p.arena.place p.viewport) = some current) :
    let candidates := beyond side current (p.arena.place p.viewport)
    (candidates = [] ∧ (focusTowards side).on p = (.ok (), p)) ∨
      (∃ id, IsNearest current candidates id ∧
        (focusTowards side).on p = (.ok (), { p with focused := id })) ∨
      (focusTowards side).on p = (.error .overflow, p) := by
  intro candidates
  rw [on_focusTowards side hcurrent]
  rcases hnearest : nearestOnSide? side current (p.arena.place p.viewport) with e | nearest
  · exact Or.inr (Or.inr rfl)
  · rcases nearestOnSide?_cases hnearest with ⟨hnil, rfl⟩ | ⟨id, rfl, hid⟩
    · exact Or.inl ⟨hnil, rfl⟩
    · exact Or.inr (Or.inl ⟨id, hid, rfl⟩)

theorem focusTowards_cases_of_ok
    (hcurrent : Assoc.find? p.focused (p.arena.place p.viewport) = some current)
    (hok : ((focusTowards side).on p).1 ≠ .error .overflow) :
    let candidates := beyond side current (p.arena.place p.viewport)
    (candidates = [] ∧ (focusTowards side).on p = (.ok (), p)) ∨
      ∃ id, IsNearest current candidates id ∧
        (focusTowards side).on p = (.ok (), { p with focused := id }) := by
  rcases focusTowards_cases side hcurrent with hstays | hmoves | hon
  · exact Or.inl hstays
  · exact Or.inr hmoves
  · exact absurd (congrArg Prod.fst hon) hok

theorem focusTowards_ne_overflow (side : Side)
    (hcurrent : Assoc.find? p.focused (p.arena.place p.viewport) = some current)
    (hnear : ∀ placed ∈ p.arena.place p.viewport, (current.distance placed.2).isOk = true) :
    ((focusTowards side).on p).1 ≠ .error .overflow := by
  rw [on_focusTowards side hcurrent]
  rcases hnearest : nearestOnSide? side current (p.arena.place p.viewport) with e | nearest
  · obtain ⟨far, hfar, hdistance⟩ :=
      nearestOnSide?_eq_error (Assoc.mem_of_find? hcurrent) hnearest
    have hok := hnear far hfar
    rw [hdistance] at hok
    cases hok
  · cases nearest <;> nofun

/-- A move that does not overflow goes to the nearest of the panes on its side, the first of several
as near, and changes nothing else. When there is none it changes nothing at all. -/
theorem focusTowards_nearest (hp : p.Reachable) (hfocused : p.focused ∈ p.paneIds) (side : Side)
    (hok : ((focusTowards side).on p).1 ≠ .error .overflow) :
    ∃ current, Assoc.find? p.focused (p.arena.place p.viewport) = some current ∧
      let candidates := beyond side current (p.arena.place p.viewport)
      p.focused ∉ Assoc.keys candidates ∧
      (candidates = [] → (focusTowards side).on p = (.ok (), p)) ∧
      (candidates ≠ [] → ∃ id, IsNearest current candidates id ∧
        (focusTowards side).on p = (.ok (), { p with focused := id })) := by
  have hvalid : p.Valid := ⟨hp.exists_holds, hfocused⟩
  obtain ⟨current, hcurrent⟩ := hvalid.exists_current
  refine ⟨current, hcurrent, hvalid.focused_notMem_beyond hcurrent, fun hnil => ?_, fun hne => ?_⟩
  · rcases focusTowards_cases_of_ok hcurrent hok with ⟨-, hon⟩ | ⟨id, hid, -⟩
    · exact hon
    · rw [hnil] at hid
      cases hid.mem_keys
  · rcases focusTowards_cases_of_ok hcurrent hok with ⟨hnil, -⟩ | hmoves
    · exact absurd hnil hne
    · exact hmoves

theorem focusTowards_nearest_large :
    let p := ofLayout Layout.large
    p.Reachable ∧ p.focused ∈ p.paneIds ∧ ((focusTowards .up).on p).1 ≠ .error .overflow ∧
      ∃ current id, Assoc.find? p.focused (p.arena.place p.viewport) = some current ∧
        Assoc.keys (beyond .up current (p.arena.place p.viewport)) = [0, 2, 3] ∧
        IsNearest current (beyond .up current (p.arena.place p.viewport)) id ∧
        (focusTowards .up).on p = (.ok (), { p with focused := id }) := by
  intro p
  have hp : p.Reachable := reachable_ofLayout Layout.large defaultViewport
  have hplace : Assoc.find? p.focused (p.arena.place p.viewport) = some ⟨0, 16, 48, 8⟩ := by
    decide
  have hok : ((focusTowards .up).on p).1 ≠ .error .overflow :=
    focusTowards_ne_overflow .up hplace (by decide)
  obtain ⟨current, hcurrent, -, -, hnearest⟩ := focusTowards_nearest hp (by decide) .up hok
  obtain rfl := Option.some.inj (hplace.symm.trans hcurrent)
  have hkeys : Assoc.keys (beyond .up ⟨0, 16, 48, 8⟩ (p.arena.place p.viewport)) = [0, 2, 3] := by
    decide
  obtain ⟨id, hid, hon⟩ := hnearest (by rintro hnil; rw [hnil] at hkeys; cases hkeys)
  exact ⟨hp, by decide, hok, _, id, hcurrent, hkeys, hid, hon⟩

/-- The focus has moved to a side, and nothing else has changed. -/
def Passes (side : Side) (p q : Profile) : Prop :=
  q.arena = p.arena ∧ q.viewport = p.viewport ∧
    ∃ rect rect', Assoc.find? p.focused (p.arena.place p.viewport) = some rect ∧
      Assoc.find? q.focused (q.arena.place q.viewport) = some rect' ∧ side.Beyond rect rect'

theorem Passes.trans (h : Passes side p q) (h' : Passes side q r) : Passes side p r := by
  obtain ⟨harena, hviewport, rect, rect', hrect, hrect', hbeyond⟩ := h
  obtain ⟨harena', hviewport', rect'', rect''', hrect'', hrect''', hbeyond'⟩ := h'
  obtain rfl := Option.some.inj (hrect'.symm.trans hrect'')
  exact ⟨harena'.trans harena, hviewport'.trans hviewport, rect, rect''', hrect, hrect''',
    hbeyond.trans hbeyond'⟩

theorem Passes.focused_ne (h : Passes side p q) : p.focused ≠ q.focused := by
  obtain ⟨harena, hviewport, rect, rect', hrect, hrect', hbeyond⟩ := h
  intro heq
  rw [← heq, harena, hviewport] at hrect'
  obtain rfl := Option.some.inj (hrect.symm.trans hrect')
  exact Side.not_beyond_self hbeyond

theorem Valid.refocused (hp : p.Valid) (hid : id ∈ p.paneIds) :
    Valid { p with focused := id } :=
  ⟨hp.exists_holds, hid⟩

/-- A move leaves the profile as it is, or passes on to a pane that is beyond. -/
theorem Valid.stays_or_passes (hp : p.Valid) (side : Side) :
    ((focusTowards side).on p).2 = p ∨ ∃ id ∈ p.paneIds,
      ((focusTowards side).on p).2 = { p with focused := id } ∧
        Passes side p { p with focused := id } := by
  obtain ⟨current, hcurrent⟩ := hp.exists_current
  rcases focusTowards_cases side hcurrent with ⟨-, hon⟩ | ⟨id, hid, hon⟩ | hon
  · exact Or.inl (congrArg Prod.snd hon)
  · obtain ⟨hmem, rect, hrect, hbeyond⟩ := hp.exists_beyond hid.mem_keys
    exact Or.inr ⟨id, hmem, congrArg Prod.snd hon, rfl, rfl, current, rect, hcurrent, hrect,
      hbeyond⟩
  · exact Or.inl (congrArg Prod.snd hon)

theorem walk_succ (p : Profile) (side : Side) (k : Nat) :
    p.walk side (k + 1) = ((focusTowards side).on (p.walk side k)).2 := by
  have hcall (q : Profile) : (q.call (.focusTowards side)).2 = ((focusTowards side).on q).2 := by
    rw [call, Call.edit, done, Edit.on_bind]
    rcases (focusTowards side).on q with ⟨fault | _, q'⟩ <;> rfl
  rw [walk, List.replicate_succ', run_append, ← walk, ← hcall]
  rfl

theorem Valid.walk_eq (hp : p.Valid) (side : Side) (k : Nat) :
    ∃ id ∈ p.paneIds, p.walk side k = { p with focused := id } := by
  induction k with
  | zero => exact ⟨p.focused, hp.focused_mem, rfl⟩
  | succ k ih =>
      obtain ⟨id, hid, hwalk⟩ := ih
      rw [walk_succ, hwalk]
      rcases (hp.refocused hid).stays_or_passes side with hstays | ⟨id', hid', hon, -⟩
      · exact ⟨id, hid, hstays⟩
      · exact ⟨id', hid', hon⟩

theorem Valid.walk (hp : p.Valid) (side : Side) (k : Nat) : (p.walk side k).Valid := by
  obtain ⟨id, hid, hwalk⟩ := hp.walk_eq side k
  rw [hwalk]
  exact hp.refocused hid

theorem Valid.walk_stays_or_passes (hp : p.Valid) (side : Side) (k : Nat) :
    p.walk side (k + 1) = p.walk side k ∨ Passes side (p.walk side k) (p.walk side (k + 1)) := by
  rw [walk_succ]
  rcases (hp.walk side k).stays_or_passes side with hstays | ⟨id, -, hon, hpasses⟩
  · exact Or.inl hstays
  · exact Or.inr (hon ▸ hpasses)

theorem walk_passes {m : Nat}
    (hmoves : ∀ k < m, Passes side (p.walk side k) (p.walk side (k + 1))) {i j : Nat} (hij : i < j)
    (hj : j ≤ m) : Passes side (p.walk side i) (p.walk side j) := by
  induction j, hij using Nat.le_induction with
  | base => exact hmoves i hj
  | succ j hij ih => exact (ih (Nat.le_of_succ_le hj)).trans (hmoves j hj)

/-- A move that changes nothing comes before there are as many as panes, since the focus does not
come back to a pane it has left. -/
theorem Valid.exists_walk_stays (hp : p.Valid) (side : Side) :
    ∃ k < p.paneIds.length, p.walk side (k + 1) = p.walk side k := by
  by_contra hnone
  have hmoves (k : Nat) (hk : k < p.paneIds.length) :
      Passes side (p.walk side k) (p.walk side (k + 1)) :=
    (hp.walk_stays_or_passes side k).resolve_left fun hstays => hnone ⟨k, hk, hstays⟩
  let visited := (List.range (p.paneIds.length + 1)).map fun k => (p.walk side k).focused
  have hnodup : visited.Nodup :=
    List.pairwise_map.mpr (List.pairwise_lt_range.imp_of_mem fun _ hj hij =>
      (walk_passes hmoves hij (Nat.le_of_lt_succ (List.mem_range.mp hj))).focused_ne)
  have hsubset : visited ⊆ p.paneIds := by
    intro id hid
    obtain ⟨k, -, rfl⟩ := List.mem_map.mp hid
    obtain ⟨id, hid, hwalk⟩ := hp.walk_eq side k
    rw [hwalk]
    exact hid
  have hlength := hnodup.length_le_of_subset hsubset
  rw [List.length_map, List.length_range] at hlength
  exact Nat.not_succ_le_self _ hlength

theorem walk_eq_of_stays {m k : Nat} (hstays : p.walk side (m + 1) = p.walk side m) (hk : m ≤ k) :
    p.walk side k = p.walk side m := by
  induction k, hk using Nat.le_induction with
  | base => rfl
  | succ k _ ih => rw [walk_succ, ih, ← walk_succ, hstays]

theorem Valid.walk_settles (hp : p.Valid) (side : Side) :
    ∃ m < p.paneIds.length,
      (∀ i j, i < j → j ≤ m → (p.walk side i).focused ≠ (p.walk side j).focused) ∧
      ∀ k, m ≤ k → p.walk side k = p.walk side m := by
  obtain ⟨k, hk, hstays⟩ := hp.exists_walk_stays side
  have hex : ∃ k, p.walk side (k + 1) = p.walk side k := ⟨k, hstays⟩
  have hmoves (k : Nat) (hk : k < Nat.find hex) :
      Passes side (p.walk side k) (p.walk side (k + 1)) :=
    (hp.walk_stays_or_passes side k).resolve_left (Nat.find_min hex hk)
  refine ⟨Nat.find hex, Nat.lt_of_le_of_lt (Nat.find_min' hex hstays) hk, ?_, ?_⟩
  · exact fun i j hij hj => (walk_passes hmoves hij hj).focused_ne
  · exact fun k hk => walk_eq_of_stays (Nat.find_spec hex) hk

/-- A move that has passed on to a pane can be turned back, since the pane it has left is on the
opposite side. -/
theorem Passes.opposite_moves (h : Passes side p q) (hq : q.Valid)
    (hok : ((focusTowards side.opposite).on q).1 ≠ .error .overflow) :
    ∃ r, (focusTowards side.opposite).on q = (.ok (), r) ∧ r.focused ≠ q.focused := by
  obtain ⟨harena, hviewport, rect, rect', hrect, hrect', hbeyond⟩ := h
  have hleft : (p.focused, rect) ∈ beyond side.opposite rect' (q.arena.place q.viewport) := by
    rw [harena, hviewport]
    exact List.mem_filter.mpr ⟨Assoc.mem_of_find? hrect, decide_eq_true hbeyond.opposite⟩
  rcases focusTowards_cases_of_ok hrect' hok with ⟨hnil, -⟩ | ⟨id, hid, hon⟩
  · rw [hnil] at hleft
    cases hleft
  · refine ⟨_, hon, ?_⟩
    rintro rfl
    exact hq.focused_notMem_beyond hrect' hid.mem_keys

theorem Valid.answered (hp : p.Valid) (hok : ((focusTowards side).on p).1 ≠ .error .overflow) :
    ((focusTowards side).on p).1 = .ok () := by
  obtain ⟨current, hcurrent⟩ := hp.exists_current
  rcases focusTowards_cases_of_ok hcurrent hok with ⟨-, hon⟩ | ⟨id, -, hon⟩
  · exact congrArg Prod.fst hon
  · exact congrArg Prod.fst hon

/-- Moves to one side go from pane to pane and change nothing else. They visit different panes until
one changes nothing, which comes before there are as many as panes, and then no more do. A move that
goes to another pane can be turned back: the opposite move goes to another pane as well. -/
theorem walk_ends (hp : p.Reachable) (hfocused : p.focused ∈ p.paneIds) (side : Side) :
    (∀ k, (∃ id ∈ p.paneIds, p.walk side k = { p with focused := id }) ∧
      (((focusTowards side).on (p.walk side k)).1 ≠ .error .overflow →
        (focusTowards side).on (p.walk side k) = (.ok (), p.walk side (k + 1)))) ∧
    (∃ m < p.paneIds.length,
      (∀ i j, i < j → j ≤ m → (p.walk side i).focused ≠ (p.walk side j).focused) ∧
      ∀ k, m ≤ k → p.walk side k = p.walk side m) ∧
    ∀ q, (focusTowards side).on p = (.ok (), q) → q.focused ≠ p.focused →
      ((focusTowards side.opposite).on q).1 ≠ .error .overflow →
        ∃ r, (focusTowards side.opposite).on q = (.ok (), r) ∧ r.focused ≠ q.focused := by
  have hvalid : p.Valid := ⟨hp.exists_holds, hfocused⟩
  refine ⟨fun k => ⟨hvalid.walk_eq side k, fun hok => ?_⟩, hvalid.walk_settles side,
    fun q hon hne hok => ?_⟩
  · exact Prod.ext ((hvalid.walk side k).answered hok) (walk_succ p side k).symm
  · rcases hvalid.stays_or_passes side with hstays | ⟨id, hid, hon', hpasses⟩
    · rw [hon] at hstays
      exact absurd (congrArg focused hstays) hne
    · rw [hon] at hon'
      obtain rfl : q = { p with focused := id } := hon'
      exact hpasses.opposite_moves (hvalid.refocused hid) hok

theorem walk_ends_large :
    let p := (ofLayout Layout.large).run [.focus 0]
    p.Reachable ∧ p.focused ∈ p.paneIds ∧
      (∃ m < 4, (∀ i j, i < j → j ≤ m → (p.walk .up i).focused ≠ (p.walk .up j).focused) ∧
        ∀ k, m ≤ k → p.walk .up k = p.walk .up m) ∧
      (focusTowards .up).on p = (.ok (), { p with focused := 2 }) ∧
      ∃ r, (focusTowards .down).on { p with focused := 2 } = (.ok (), r) ∧ r.focused ≠ 2 := by
  intro p
  have hp : p.Reachable := (reachable_ofLayout Layout.large defaultViewport).run _
  have hplace : Assoc.find? 2 (p.arena.place p.viewport) = some ⟨48, 0, 32, 12⟩ := by
    decide
  have hup : (focusTowards .up).on p = (.ok (), { p with focused := 2 }) :=
    Prod.ext (eq_ok_of_toOption (by decide)) (by decide)
  have hok : ((focusTowards .down).on { p with focused := 2 }).1 ≠ .error .overflow :=
    focusTowards_ne_overflow .down hplace (by decide)
  obtain ⟨-, hsettles, hback⟩ := walk_ends hp (by decide) .up
  exact ⟨hp, by decide, hsettles, hup, hback _ hup (by decide) hok⟩

end Profile

end SplitScreen
