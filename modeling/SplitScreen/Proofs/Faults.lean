import SplitScreen.Proofs.Faithful
import SplitScreen.Proofs.Screen.Views
import SplitScreen.Proofs.Title

namespace SplitScreen

theorem Layout.views_of_check {l : Layout Value} {l' : Layout Ratio} (h : l.check = .ok l') :
    l'.views = l.views := by
  induction l generalizing l' with
  | pane view focused =>
      obtain rfl := Except.ok.inj h
      rfl
  | split direction ratio first second ih₁ ih₂ =>
      obtain ⟨r, first', second', -, hfirst, hsecond, rfl⟩ := Layout.check_split_eq_ok_iff.mp h
      rw [Layout.views, ih₁ hfirst, ih₂ hsecond, Layout.views]

namespace Profile

variable {p : Profile} {t : IndexedTree}

theorem mem_panes_of_pane (ht : p.arena.Holds [] t) {id : PaneId} {pane : Pane}
    (h : p.pane id = .ok pane) : pane ∈ p.panes := by
  cases hl : p.arena.leaf? id with
  | none => simp [Profile.pane, Arena.leaf, hl, bind, Except.bind] at h
  | some l =>
      obtain rfl : l.content = pane := by
        simpa [Profile.pane, Arena.leaf, hl, bind, Except.bind, pure, Except.pure] using h
      exact (mem_panes_of_leaf? ht hl).1

end Profile

namespace Screen

variable {s t : Screen} {literals : Assoc Text (Layout Value)} {name : Text}

/-- No name of a profile or of a view on the screen opens a tag. -/
structure IsPlain (s : Screen) : Prop where
  names {name : Text} (h : s.profiles.contains name = true) : name.IsPlain
  views : s.AllViews View.IsPlain

theorem exists_of_checkLiterals {profiles : Assoc Text (Layout Ratio)}
    (h : checkLiterals literals = .ok profiles) {entry : Text × Layout Ratio}
    (hentry : entry ∈ profiles) :
    ∃ written ∈ literals, entry.1 = written.1 ∧ entry.2.views = written.2.views := by
  induction literals generalizing profiles with
  | nil =>
      obtain rfl := Except.ok.inj h
      cases hentry
  | cons written literals ih =>
      obtain ⟨other, l⟩ := written
      unfold checkLiterals at h
      cases hl : l.check with
      | error ratio => simp [hl] at h
      | ok l' =>
          cases hrest : checkLiterals literals with
          | error r => simp [hl, hrest, bind, Except.bind] at h
          | ok rest =>
              simp only [hl, hrest, bind, Except.bind, pure, Except.pure, Except.ok.injEq] at h
              rw [← h] at hentry
              rcases List.mem_cons.mp hentry with rfl | hentry
              · exact ⟨(other, l), List.mem_cons_self, rfl, Layout.views_of_check hl⟩
              · obtain ⟨written, hwritten, hsame⟩ := ih hrest hentry
                exact ⟨written, List.mem_cons_of_mem _ hwritten, hsame⟩

theorem mem_names_of_ofProfiles {profiles : Assoc Text (Layout Ratio)}
    (h : ofProfiles profiles name = .ok s) {other : Text}
    (hother : s.profiles.contains other = true) :
    other ∈ builtin ∨ ∃ entry ∈ profiles, entry.1 = other := by
  revert other
  apply ofProfiles_induction h (P := fun u => ∀ {other : Text}, u.profiles.contains other = true →
    other ∈ builtin ∨ ∃ entry ∈ profiles, entry.1 = other)
  · intro other hother
    rw [Assoc.contains, ← Assoc.mem_keys_iff_find?] at hother
    exact Or.inl hother
  · intro u entry hentry hu other hother
    rw [Assoc.contains, addProfile, Assoc.find?_insert] at hother
    split at hother
    · next hname => exact Or.inr ⟨entry, hentry, hname⟩
    · exact hu hother
  · intro u hu hshowing
    rw [(eq_of_showing hshowing).2]
    exact hu

theorem isPlain_ofLiterals (h : ofLiterals literals name = .ok s)
    (hplain : ∀ entry ∈ literals, entry.1.IsPlain ∧ ∀ v ∈ entry.2.views, v.IsPlain) :
    s.IsPlain := by
  obtain ⟨profiles, hprofiles, h⟩ := exists_checked h
  constructor
  · intro other hother
    rcases mem_names_of_ofProfiles h hother with hbuiltin | ⟨entry, hentry, rfl⟩
    · have hnames : ∀ name ∈ builtin, name.IsPlain := by
        simp [builtin, smallName, largeName, Text.isPlain_ofString_iff]
      exact hnames other hbuiltin
    · obtain ⟨written, hwritten, hsame, -⟩ := exists_of_checkLiterals hprofiles hentry
      rw [hsame]
      exact (hplain written hwritten).1
  · apply allViews_ofProfiles h View.isPlain_kind
    intro entry hentry v hv
    obtain ⟨written, hwritten, -, hsame⟩ := exists_of_checkLiterals hprofiles hentry
    exact (hplain written hwritten).2 v (hsame ▸ hv)

theorem Becomes.isPlain (h : s.Becomes t) (hvalid : s.Valid) (hs : s.IsPlain) : t.IsPlain := by
  refine ⟨fun {name} hname => ?_, h.allViews hvalid View.isPlain_kind hs.views⟩
  obtain ⟨calls, -, hfind⟩ := h.exists_calls name
  rw [Assoc.contains, hfind, Option.isSome_map] at hname
  exact hs.names hname

theorem exists_pane_of_mem_flatten
    (hs : ∀ {name : Text} {p : Profile}, s.profiles.find? name = some p →
      ∃ tree, p.arena.Holds [] tree)
    {area : Rect} {tiles : List Tile} (h : s.flatten area = .ok tiles) {tile : Tile}
    (htile : tile ∈ tiles) :
    ∃ p, s.profiles.find? s.current = some p ∧ ∃ pane ∈ p.panes, pane.view = tile.view := by
  cases hactive : s.active with
  | error r =>
      unfold flatten at h
      split at h <;> simp [focusedPane, hactive, bind, Except.bind] at h
  | ok p =>
      have hp := find?_of_active hactive
      obtain ⟨tree, htree⟩ := hs hp
      refine ⟨p, hp, ?_⟩
      unfold flatten at h
      split at h
      · cases hpane : p.pane p.focused with
        | error r =>
            simp [focusedPane, hactive, Profile.focusedPane, hpane, bind, Except.bind] at h
        | ok pane =>
            simp only [focusedPane, hactive, Profile.focusedPane, hpane, bind, Except.bind, pure,
              Except.pure, Except.ok.injEq] at h
            rw [← h, List.mem_singleton] at htile
            rw [htile]
            exact ⟨pane, Profile.mem_panes_of_pane htree hpane, rfl⟩
      · simp only [hactive, bind, Except.bind, pure, Except.pure, Except.ok.injEq] at h
        rw [← h] at htile
        have hpane := (Profile.tile_eq htree htile).1
        exact ⟨_, Profile.mem_panes_of_pane htree hpane, rfl⟩

end Screen

def Fault.isBadMarkup : Fault → Bool
  | badMarkup => true
  | _ => false

theorem Fault.eq_badMarkup_of_any {fault : Option Fault} (h : fault.any isBadMarkup = true) :
    fault = some .badMarkup := by
  obtain ⟨f, rfl, hf⟩ := (Option.any_eq_true isBadMarkup fault).mp h
  cases f with
  | badMarkup => rfl
  | refused | overflow | longInteger | focusLost => cases hf

theorem FrontEnd.not_untitled {f : FrontEnd}
    (hf : ∀ {name : Text} {p : Profile}, f.screen.profiles.find? name = some p →
      ∃ tree, p.arena.Holds [] tree)
    (hplain : f.screen.IsPlain) : ¬ f.Untitled := by
  rintro ⟨tiles, htiles, tile, htile, htitle⟩
  obtain ⟨p, hp, pane, hpane, hview⟩ := Screen.exists_pane_of_mem_flatten hf htiles htile
  have hname : tile.view.IsPlain := hview ▸ hplain.views _ p hp pane hpane
  have hsome := FrontEnd.isSome_title? hname
  rw [htitle] at hsome
  cases hsome

theorem FrontEnd.not_unbarred {f : FrontEnd} (hf : f.screen.Registered)
    (hplain : f.screen.IsPlain) : ¬ f.Unbarred := by
  intro hbar
  have hsome := FrontEnd.isSome_barText (hplain.names hf)
  rw [hbar] at hsome
  cases hsome

/-- Everything that is looked up on the screen is there: the current profile under its name, and in
every profile the node that each link leads to, the focused pane, and the place of each pane. -/
structure Screen.Complete (s : Screen) : Prop where
  registered : s.Registered
  wellFormed (name : Text) (p : Profile) (h : s.profiles.find? name = some p) : p.WellFormed
  links (name : Text) (p : Profile) (h : s.profiles.find? name = some p) :
    p.arena.tree?.isSome = true
  placed (name : Text) (p : Profile) (h : s.profiles.find? name = some p) (area : Rect) :
    Assoc.keys (p.arena.place area) = p.paneIds

theorem Screen.Valid.complete {s : Screen} (h : s.Valid) : s.Complete := by
  refine ⟨h.registered, fun name p hp => Profile.wellFormed_iff_valid.mpr (h.profile hp), ?_, ?_⟩
  · intro name p hp
    obtain ⟨tree, htree⟩ := (h.profile hp).exists_holds
    rw [htree.tree?_eq]
    rfl
  · intro name p hp area
    obtain ⟨tree, htree⟩ := (h.profile hp).exists_holds
    rw [htree.keys_place, Profile.paneIds_eq htree]

namespace Session

theorem ends_of_fault_proceed {f : FrontEnd} (hf : f.Faithful) (hs : f.screen.Valid)
    {inputs : List Input} {fault : Fault} (h : (proceed f inputs).fault = some fault) :
    FrontEnd.EndsFaithful (0, 0) (.error fault, (proceed f inputs).last) := by
  induction inputs generalizing f with
  | nil => cases h
  | cons input inputs ih =>
      cases input with
      | interrupt => cases h
      | event e =>
          have hend := f.handle_faithful hf hs e
          unfold proceed at h ⊢
          rcases hhandle : f.handle e with ⟨other | report, g⟩
          · rw [hhandle] at hend
            simp only [hhandle, Option.some.injEq] at h ⊢
            obtain rfl := h
            cases other <;> exact hend
          · rw [hhandle] at hend
            simp only [hhandle] at h ⊢
            split at h
            · cases h
            · next hquit =>
                simp only [if_neg hquit] at h ⊢
                exact ih hend.1 hend.2.1 h

theorem ends_of_fault_start {literals : Assoc Text (Layout Value)} {name : Text} {s : Screen}
    (h : Screen.ofLiterals literals name = .ok s) {origin : Point} {width height : Int}
    {inputs : List Input} {fault : Fault}
    (hfault : (start s origin width height inputs).fault = some fault) :
    FrontEnd.EndsFaithful (0, 0) (.error fault, (start s origin width height inputs).last) := by
  have hend := FrontEnd.mount_faithful (f := FrontEnd.ofScreen s origin width height)
    (Screen.valid_ofLiterals h) (Screen.pending_ofLiterals h)
  unfold start at hfault ⊢
  rcases hmount : (FrontEnd.ofScreen s origin width height).mount with ⟨other | report, f⟩
  · rw [hmount] at hend
    simp only [hmount, Option.some.injEq] at hfault ⊢
    obtain rfl := hfault
    cases other <;> exact hend
  · rw [hmount] at hend
    simp only [hmount] at hfault ⊢
    exact ends_of_fault_proceed hend.1 hend.2.1 hfault

theorem valid_of_mem_frames {literals : Assoc Text (Layout Value)} {name : Text} {s : Screen}
    (h : Screen.ofLiterals literals name = .ok s) {origin : Point} {width height : Int}
    {inputs : List Input} {frame : Frame}
    (hframe : frame ∈ (start s origin width height inputs).frames) :
    frame.shown.screen.Valid := by
  obtain ⟨k, hk⟩ := List.getElem?_of_mem hframe
  have hfaithful := faithful_of_valid (Screen.valid_ofLiterals h) (Screen.pending_ofLiterals h)
    origin width height inputs
  exact (hfaithful.frame hk).2.1

theorem fault_cases {literals : Assoc Text (Layout Value)} {name : Text} {s : Screen}
    (h : Screen.ofLiterals literals name = .ok s) (origin : Point) (width height : Int)
    (inputs : List Input) :
    let session := start s origin width height inputs
    session.fault = none ∨ session.fault = some .overflow ∨
      session.fault = some .badMarkup ∧ (session.last.Untitled ∨ session.last.Unbarred) := by
  intro session
  cases hfault : session.fault with
  | none => exact Or.inl rfl
  | some fault =>
      have hend := ends_of_fault_start h hfault
      cases fault with
      | overflow => exact Or.inr (Or.inl rfl)
      | badMarkup => exact Or.inr (Or.inr ⟨rfl, hend⟩)
      | refused | longInteger | focusLost => exact hend.elim

/-- If no name that is given opens a tag, all can be read. -/
theorem fault_of_isPlain {literals : Assoc Text (Layout Value)} {name : Text} {s : Screen}
    (h : Screen.ofLiterals literals name = .ok s)
    (hplain : ∀ entry ∈ literals, entry.1.IsPlain ∧ ∀ v ∈ entry.2.views, v.IsPlain)
    (origin : Point) (width height : Int) (inputs : List Input) :
    (start s origin width height inputs).fault = none ∨
      (start s origin width height inputs).fault = some .overflow := by
  have hvalid := Screen.valid_ofLiterals h
  have hlast := becomes_last s origin width height inputs
  have hlastPlain := hlast.isPlain hvalid (Screen.isPlain_ofLiterals h hplain)
  rcases fault_cases h origin width height inputs with
    hnone | hoverflow | ⟨-, huntitled | hunbarred⟩
  · exact Or.inl hnone
  · exact Or.inr hoverflow
  · have huntitled' := FrontEnd.not_untitled (fun hp => hlast.exists_holds hvalid hp) hlastPlain
    exact absurd huntitled huntitled'
  · exact absurd hunbarred (FrontEnd.not_unbarred (hlast.registered hvalid.registered) hlastPlain)

/-- In every session over a new screen, whatever comes in, what is shown after the start and after
every event is what the screen holds, in the area of the size it then has. The session goes on to its
end unless a coordinate overflows, or one of the names that are given opens a tag and a title or the
status bar cannot be read. -/
theorem start_faithful {literals : Assoc Text (Layout Value)} {name : Text} {s : Screen}
    (h : Screen.ofLiterals literals name = .ok s) (origin : Point) (width height : Int)
    (inputs : List Input) :
    let session := start s origin width height inputs
    (session.Faithful fun k => Input.sizeAfter (width, height) (inputs.take k)) ∧
    ((∀ entry ∈ literals, entry.1.IsPlain ∧ ∀ v ∈ entry.2.views, v.IsPlain) →
      session.fault = none ∨ session.fault = some .overflow) := by
  intro session
  have hvalid := Screen.valid_ofLiterals h
  have hpending := Screen.pending_ofLiterals h
  exact ⟨faithful_of_valid hvalid hpending origin width height inputs,
    fun hplain => fault_of_isPlain h hplain origin width height inputs⟩

/-- A large screen is shown, split, hit by the pointer, and made small. -/
theorem start_faithful_large :
    Screen.ofLiterals [] Screen.largeName =
        .ok { Screen.initial with current := Screen.largeName } ∧
      (start { Screen.initial with current := Screen.largeName } ⟨0, 1⟩ 80 22
        [.event (.key "|"), .event (.pointer ⟨70, 3⟩), .event (.resize 3 1)]).frames.length = 4 ∧
      (start { Screen.initial with current := Screen.largeName } ⟨0, 1⟩ 80 22
        [.event (.key "|"), .event (.pointer ⟨70, 3⟩), .event (.resize 3 1)]).last.Faithful := by
  have h : Screen.ofLiterals [] Screen.largeName =
    .ok { Screen.initial with current := Screen.largeName } := rfl
  have hsession := start_faithful h ⟨0, 1⟩ 80 22
    [.event (.key "|"), .event (.pointer ⟨70, 3⟩), .event (.resize 3 1)]
  refine ⟨h, by decide, (hsession.1.last ?_).1⟩
  exact Option.isNone_iff_eq_none.mp (by decide)

/-- The name of a view may be no title, so that the panes are not drawn. -/
theorem badTitle_session :
    ∃ s, Screen.ofLiterals [(Screen.largeName, .pane (.custom "[/x]") false)]
        Screen.smallName = .ok s ∧
      ¬ (start s ⟨0, 0⟩ 80 22 [.event (.key "2")]).last.Faithful := by
  refine ⟨_, rfl, fun h => ?_⟩
  have hdrawn := congrArg Except.toOption h.drawn
  revert hdrawn
  decide

/-- Whatever comes in, a session over a new screen fails only by an overflow or at a title or a status
bar that cannot be read, and until then nothing that is looked up is missing. If no name of a profile
or a view that is given opens a tag, it fails only by an overflow. -/
theorem start_faults {literals : Assoc Text (Layout Value)} {name : Text} {s : Screen}
    (h : Screen.ofLiterals literals name = .ok s) (origin : Point) (width height : Int)
    (inputs : List Input) :
    let session := start s origin width height inputs
    (session.fault = none ∨ session.fault = some .overflow ∨
      session.fault = some .badMarkup ∧ (session.last.Untitled ∨ session.last.Unbarred)) ∧
    (∀ frame ∈ session.frames, frame.shown.screen.Complete) ∧
    ((∀ entry ∈ literals, entry.1.IsPlain ∧ ∀ v ∈ entry.2.views, v.IsPlain) →
      session.fault = none ∨ session.fault = some .overflow) := by
  intro session
  refine ⟨fault_cases h origin width height inputs, ?_, ?_⟩
  · exact fun frame hframe => (valid_of_mem_frames h hframe).complete
  · exact fun hplain => fault_of_isPlain h hplain origin width height inputs

/-- A view and a profile whose names have a closing bracket are drawn, split and closed. -/
theorem start_faults_notes :
    let literals := [(("b]" : Text), Layout.pane (.custom "a]") false)]
    ∃ s, Screen.ofLiterals literals "b]" = .ok s ∧
      ((start s ⟨0, 1⟩ 80 22 [.event (.key "|"), .event (.key "x")]).fault = none ∨
        (start s ⟨0, 1⟩ 80 22 [.event (.key "|"), .event (.key "x")]).fault = some .overflow) ∧
      ∀ frame ∈ (start s ⟨0, 1⟩ 80 22 [.event (.key "|"), .event (.key "x")]).frames,
        frame.shown.screen.Complete := by
  intro literals
  obtain ⟨s, hs⟩ : ∃ s, Screen.ofLiterals literals "b]" = .ok s := ⟨_, rfl⟩
  obtain ⟨-, hframes, hplain⟩ :=
    start_faults hs ⟨0, 1⟩ 80 22 [.event (.key "|"), .event (.key "x")]
  refine ⟨s, hs, hplain ?_, hframes⟩
  simp [literals, Layout.views, View.IsPlain, View.name, Text.isPlain_ofString_iff]

theorem badTitle_fault :
    ∃ s, Screen.ofLiterals [(Screen.largeName, .pane (.custom "[/x]") false)]
        Screen.smallName = .ok s ∧
      (start s ⟨0, 0⟩ 80 22 [.event (.key "2")]).fault = some .badMarkup := by
  refine ⟨_, rfl, Fault.eq_badMarkup_of_any ?_⟩
  decide

end Session

end SplitScreen
