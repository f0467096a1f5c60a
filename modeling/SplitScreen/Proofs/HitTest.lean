import SplitScreen.Proofs.Pointing
import SplitScreen.Proofs.Screen.Invariant

namespace SplitScreen

/-- The only element that passes a test is found first in every order. -/
theorem find?_of_perm {α : Type} {test : α → Bool} {xs ys : List α} {x : α}
    (h : xs.filter test = [x]) (hperm : ys.Perm xs) : ys.find? test = some x := by
  have hfilter : ys.filter test = [x] := by
    have hsame := hperm.filter test
    rwa [h, List.perm_singleton] at hsame
  rw [← List.head?_filter, hfilter]
  rfl

namespace Profile

/-- What pointing at a cell does. It hits the one tile of the viewport that has the cell, the same
in every order of the tiles, and then nothing but the focus changes; a miss changes nothing. -/
structure Points (p : Profile) (point : Point) (hit : Bool) (q : Profile) : Prop where
  hit_eq : hit = p.viewport.contains point
  focuses (h : hit = true) : ∃ tile,
    (p.flatten p.viewport).filter (fun t => t.rect.contains point) = [tile] ∧
      (∀ scan : List Tile, scan.Perm (p.flatten p.viewport) →
        scan.find? (fun t => t.rect.contains point) = some tile) ∧
      q = { p with focused := tile.id }
  stays (h : hit = false) : q = p

variable {p : Profile}

theorem exists_points (hp : p.Reachable) (hproper : p.viewport.IsProper) (point : Point) :
    ∃ hit q, (focusAt point).on p = (.ok hit, q) ∧ p.Points point hit q := by
  obtain ⟨t, ht⟩ := hp.exists_holds
  have htile := FrontEnd.exists_tile ht hproper point
  rw [on_focusAt, FrontEnd.paneAt?_eq ht]
  split at htile
  · next hin =>
      obtain ⟨tile, htile⟩ := htile
      rw [htile]
      refine ⟨true, _, rfl, hin.symm, ?_, nofun⟩
      intro _
      refine ⟨tile, htile, ?_, rfl⟩
      intro scan hscan
      exact find?_of_perm htile hscan
  · next hout =>
      rw [htile]
      exact ⟨false, p, rfl, (Bool.eq_false_iff.mpr hout).symm, nofun, fun _ => rfl⟩

end Profile

namespace Screen

/-- The screens that actions lead to with profiles of any kind registered on the way, when no
movement of the pointer is put in past the check of the mode. -/
inductive Guarded : Screen → Prop
  | start {literals : Assoc Text (Layout Value)} {name : Text} {s : Screen}
    (h : ofLiterals literals name = .ok s) : Guarded s
  | act {s : Screen} (h : Guarded s) {a : Action} (ha : ∀ point, a ≠ .setPending point) :
    Guarded (s.act a).2
  | addProfile {s : Screen} (h : Guarded s) (name : Text) (p : Profile) :
    Guarded (s.addProfile name p)

variable {s : Screen} {p : Profile}

theorem Guarded.settled (h : s.Guarded) : s.Settled := by
  induction h with
  | start h => exact (sound_ofLiterals h).settled
  | act _ ha ih => exact (step_act _ _).settled ha ih
  | addProfile _ _ _ ih => exact ih

theorem movePointer_eq (hfull : s.fullScreen = false) (point : Point) :
    s.movePointer point = { s with pending := some point } := by
  rw [movePointer, hfull]
  rfl

theorem movePointer_full (hfull : s.fullScreen = true) (point : Point) :
    s.movePointer point = s := by
  rw [movePointer, if_pos hfull]

theorem run_cons_move (s : Screen) (point : Point) (points : List Point) :
    s.run ((point :: points).map .movePointer) =
      (s.movePointer point).run (points.map .movePointer) := rfl

theorem run_moves (hfull : s.fullScreen = false) (earlier : List Point) (point : Point) :
    s.run ((earlier ++ [point]).map .movePointer) = { s with pending := some point } := by
  induction earlier generalizing s with
  | nil => exact movePointer_eq hfull point
  | cons first earlier ih =>
      rw [List.cons_append, run_cons_move, movePointer_eq hfull]
      exact ih hfull

theorem run_moves_full (hfull : s.fullScreen = true) (points : List Point) :
    s.run (points.map .movePointer) = s := by
  induction points with
  | nil => rfl
  | cons point points ih =>
      rw [run_cons_move, movePointer_full hfull]
      exact ih

theorem act_dispatchPointer (s : Screen) :
    s.act .dispatchPointer =
      ((dispatchPointer.on s).1.map fun hit => .of (.yes hit), (dispatchPointer.on s).2) :=
  Edit.on_map ..

theorem act_dispatch_moves (hfull : s.fullScreen = false) (hactive : s.active = .ok p)
    {point : Point} {hit : Bool} {q : Profile}
    (hon : (Profile.focusAt point).on p = (.ok hit, q)) (earlier : List Point) :
    (s.run ((earlier ++ [point]).map .movePointer)).act .dispatchPointer =
      (.ok (.of (.yes hit)), { s.setActive q with pending := none }) := by
  let t : Screen := { s with pending := none }
  have hmoved : s.run ((earlier ++ [point]).map .movePointer) = t.movePointer point := by
    rw [run_moves hfull, movePointer_eq (s := t) hfull]
  have hdispatch : dispatchPointer.on (t.movePointer point) = (.ok hit, t.setActive q) := by
    rw [FrontEnd.on_dispatchPointer rfl, if_neg (by simp [t, hfull]),
      on_onActive (s := t) (p := p) hactive, hon]
  rw [hmoved, act_dispatchPointer, hdispatch]
  rfl

theorem act_dispatchPointer_full (hfull : s.fullScreen = true) (hsettled : s.Settled) :
    s.act .dispatchPointer = (.ok (.of (.yes false)), s) := by
  have hdispatch : dispatchPointer.on s = (.ok false, s) := by
    have hnone := FrontEnd.on_dispatchPointer (hsettled hfull) ⟨0, 0⟩
    rwa [movePointer_full hfull, if_pos hfull] at hnone
  rw [act_dispatchPointer, hdispatch]
  rfl

/-- Pointing at a cell of a reachable profile hits a pane exactly when the viewport has the cell.
On a screen outside of full screen, movements and their handling do to the current profile what
pointing at the last of them does, and nothing else; in full screen they do nothing at all. -/
theorem pointer_hits :
    (∀ p : Profile, p.Reachable → p.viewport.IsProper → ∀ point, ∃ hit q,
      (Profile.focusAt point).on p = (.ok hit, q) ∧ p.Points point hit q) ∧
    (∀ (s : Screen) (p : Profile), s.fullScreen = false → s.active = .ok p → p.Reachable →
      p.viewport.IsProper → ∀ point, ∃ hit q,
        (Profile.focusAt point).on p = (.ok hit, q) ∧ p.Points point hit q ∧
        ∀ earlier : List Point,
          (s.run ((earlier ++ [point]).map .movePointer)).act .dispatchPointer =
            (.ok (.of (.yes hit)), { s.setActive q with pending := none })) ∧
    ∀ s : Screen, s.Guarded → s.fullScreen = true → ∀ points : List Point,
      s.run (points.map .movePointer) = s ∧
        s.act .dispatchPointer = (.ok (.of (.yes false)), s) := by
  refine ⟨?_, ?_, ?_⟩
  · intro p hp hproper point
    exact Profile.exists_points hp hproper point
  · intro s p hfull hactive hp hproper point
    obtain ⟨hit, q, hon, hpoints⟩ := Profile.exists_points hp hproper point
    exact ⟨hit, q, hon, hpoints, act_dispatch_moves hfull hactive hon⟩
  · intro s hs hfull points
    exact ⟨run_moves_full hfull points, act_dispatchPointer_full hfull hs.settled⟩

/-- Two movements over the small layout, of which the second leaves the viewport, and one in full
screen. -/
theorem pointer_hits_small :
    let p := Profile.ofLayout Layout.small
    let full := (initial.act .toggleFullScreen).2
    p.Reachable ∧ p.viewport.IsProper ∧ initial.active = .ok p ∧ full.Guarded ∧
      (∃ q, (Profile.focusAt ⟨60, 23⟩).on p = (.ok true, q) ∧ p.Points ⟨60, 23⟩ true q) ∧
      (∃ q, p.Points ⟨60, 24⟩ false q ∧
        (initial.run [.movePointer ⟨60, 23⟩, .movePointer ⟨60, 24⟩]).act .dispatchPointer =
          (.ok (.of (.yes false)), { initial.setActive q with pending := none })) ∧
      full.run [.movePointer ⟨60, 23⟩] = full ∧
      full.act .dispatchPointer = (.ok (.of (.yes false)), full) := by
  intro p full
  have hp : p.Reachable := Profile.reachable_ofLayout Layout.small Profile.defaultViewport
  have hproper : p.viewport.IsProper := ⟨by decide, by decide⟩
  have hactive : initial.active = .ok p := rfl
  have hstart : Guarded initial := @Guarded.start [] smallName initial rfl
  have hfull : full.Guarded := hstart.act (by rintro point ⟨⟩)
  obtain ⟨hpoints, hmoves, hnothing⟩ := pointer_hits
  obtain ⟨hit, q, hon, hq⟩ := hpoints p hp hproper ⟨60, 23⟩
  obtain ⟨miss, r, -, hr, hdispatch⟩ := hmoves initial p rfl hactive hp hproper ⟨60, 24⟩
  obtain rfl : hit = true := hq.hit_eq
  obtain rfl : miss = false := hr.hit_eq
  exact ⟨hp, hproper, hactive, hfull, ⟨q, hon, hq⟩, ⟨r, hr, hdispatch [⟨60, 23⟩]⟩,
    hnothing full hfull rfl [⟨60, 23⟩]⟩

end Screen

end SplitScreen
