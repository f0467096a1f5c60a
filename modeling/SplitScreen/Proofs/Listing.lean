import SplitScreen.Proofs.Faithful
import SplitScreen.Proofs.ListingText
import SplitScreen.Proofs.Precedence
import SplitScreen.Proofs.Table

namespace SplitScreen

/-- The text is a string without tags. -/
def Text.IsUntagged (t : Text) : Prop := ∃ r : String, t = r ∧ Markup.IsUntagged r.toList

theorem Text.isUntagged_of_isLiteral {r : String} (h : r.toList.all Markup.isLiteral = true) :
    (r : Text).IsUntagged := ⟨r, rfl, (Markup.isUntagged_of_isLiteral h).1⟩

theorem Text.shown_ofString (r : String) : (r : Text).shown = r := by
  rw [Text.shown, Text.ofString, Text.ofList, List.map_map]
  exact (congrArg String.ofList (List.map_id _)).trans String.ofList_toList

/-- A text cannot be shown: its markup is not in order, or it has no UTF-8. -/
def Ending.IsUnshowable : Ending → Prop
  | .crashed (.markup _) | .crashed (.file .unencodable) => True
  | _ => False

/-- What is listed. -/
inductive Listing
  | layout (profile : Option Text) (width height : Int) (fullScreen : Bool)
  | profiles

namespace Listing

def request : Listing → Request
  | layout profile width height fullScreen => .layout profile width height fullScreen
  | profiles => .profiles

def profile : Listing → Option Text
  | layout profile .. => profile
  | profiles => none

end Listing

namespace Program

variable {α β : Type} {sur : Surroundings} {c : Config Ratio} {s : Screen} {l : Listing}

/-- The run ends badly only at a text that cannot be shown. -/
def OnlyShows (x : Program α) : Prop := ∀ t e, (x.on t).1 = .error e → e.IsUnshowable

theorem onlyShows_pure (a : α) : (pure a : Program α).OnlyShows := nofun

theorem OnlyShows.bind {x : Program α} {f : α → Program β} (hx : x.OnlyShows)
    (hf : ∀ a, (f a).OnlyShows) : (x >>= f).OnlyShows := by
  intro t e he
  cases hon : (x.on t).1 with
  | ok a =>
      rw [on_bind_of_ok hon] at he
      exact hf a _ e he
  | error e' =>
      rw [on_bind_of_error hon] at he
      cases he
      exact hx t e hon

theorem onlyShows_rendered (r : Except Markup.Fault α) : (rendered r).OnlyShows := by
  intro t e he
  cases r with
  | ok a => cases he
  | error f =>
      cases he
      trivial

theorem onlyShows_printLines (lines : List Text) : (printLines lines).OnlyShows := by
  intro t e he
  unfold printLines at he
  split at he
  · cases he
  · cases he
    trivial

theorem onlyShows_say (sur : Surroundings) (markup : Text) : (say sur markup).OnlyShows :=
  (onlyShows_rendered _).bind fun _ => onlyShows_printLines _

theorem onlyShows_mapM {f : α → Program β} (h : ∀ a, (f a).OnlyShows) (items : List α) :
    (items.mapM f).OnlyShows := by
  induction items with
  | nil => exact onlyShows_pure _
  | cons a rest ih =>
      rw [List.mapM_cons]
      exact (h a).bind fun _ => ih.bind fun _ => onlyShows_pure _

/-- Between two traces no file has changed and nothing was printed. -/
def Quiet (t u : Trace) : Prop := u.files = t.files ∧ u.printed = t.printed

theorem on_access_of_ok {a : Access α} {result : α} (h : a.outcome = .ok result) (t : Trace) :
    (access a).on t = (.ok result, t.warn a.warnings) := by
  rw [access, on_bind, on_modify, h]
  rfl

theorem on_loadConfig {t : Trace} (h : (Config.load t.files.config sur.env).outcome = .ok c) :
    ∃ u, Quiet t u ∧ (loadConfig sur).on t = (.ok c, u) := by
  refine ⟨t.warn (Config.load t.files.config sur.env).warnings, ⟨rfl, rfl⟩, ?_⟩
  rw [loadConfig, on_bind, on_get]
  exact on_access_of_ok h t

variable {t : Trace} {profile : Option Text} {layouts : Assoc Text (Layout Ratio)}

theorem on_openScreen (hsaved : (Startup.saved c (some t.files.store)).outcome = .ok layouts) :
    ∃ u, Quiet t u ∧ (openScreen sur c profile).on t =
      match Startup.screen c layouts profile with
      | .ok s => (.ok s, u.note (if Startup.chosen c profile = Screen.smallName then []
          else [.switched (Startup.chosen c profile)]))
      | .error r => (say sur ("[red]Error:[/red] " ++ r.message : String) >>= fun _ =>
          throw .failed).on u := by
  refine ⟨(t.warn (Startup.saved c (some t.files.store)).warnings).note
    (if layouts.isEmpty then [] else [.loaded layouts.length]), ⟨rfl, rfl⟩, ?_⟩
  rw [openScreen, on_bind, on_get]
  simp only
  rw [on_bind, on_access_of_ok hsaved]
  simp only
  rw [on_bind, on_modify]
  cases Startup.screen c layouts profile with
  | ok s => rfl
  | error r => rfl

/-- The table of tiles under a title, with the names of their views as they are shown. -/
def tableOf (title : Styled) (views : List Styled) (tiles : List Tile) : Table :=
  let number (heading : String) (value : Tile → Int) : Column :=
    ⟨heading, .right, tiles.map fun t => Styled.ofString (toString (value t))⟩
  ⟨title,
    [number "Id" Tile.id, ⟨"View", .left, views⟩, number "X" (·.rect.x), number "Y" (·.rect.y),
      number "Width" (·.rect.width), number "Height" (·.rect.height),
      ⟨"Focused", .left, tiles.map fun t => Styled.ofString (if t.focused then "*" else "")⟩]⟩

theorem layoutTable_eq (block : Nat) (title : Text) (tiles : List Tile) :
    layoutTable block title tiles = (do
      let styled (t : Text) :=
        rendered (Markup.styled (StandIn.isIn block) (String.ofList (StandIn.veil block t)))
      let views ← tiles.mapM fun t => styled t.view.name
      return tableOf (← styled title) views tiles) := rfl

/-- The screen in the mode that is asked for. -/
def viewed (s : Screen) (fullScreen : Bool) : Screen :=
  if fullScreen then s.toggleFullScreen else s

def paneCount (s : Screen) (name : Text) : Nat :=
  ((s.profiles.find? name).map fun p => p.paneIds.length).getD 0

def profileEntry (c : Config Ratio) (s : Screen) (name : Text) : Text :=
  let closing := "[/cyan]" ++ counted (paneCount s name)
  "  [cyan]" ++ padded 12 name ++
    ((closing ++ defaultMark (decide (name = c.defaultProfile)) : String) : Text)

def sayAll (sur : Surroundings) : List Text → Program Unit
  | [] => return ()
  | markup :: rest => do
    say sur markup
    sayAll sur rest

def printTiles (sur : Surroundings) (title : Text) (tiles : List Tile) : Program Unit := do
  let block := StandIn.block (title :: tiles.map fun t => t.view.name)
  let lines ← rendered ((← layoutTable block title tiles).draw sur.terminal)
  printLines (lines.map (StandIn.unveil block))

def list (sur : Surroundings) (c : Config Ratio) (s : Screen) : Listing → Program Unit
  | .layout _ width height fullScreen =>
    match (viewed s fullScreen).flatten ⟨0, 0, width, height⟩ with
    | .error r => throw (.crashed (.event (.refused r)))
    | .ok tiles => printTiles sur (s.current ++ s!" ({width}x{height})") tiles
  | .profiles => sayAll sur (s.profileNames.map (profileEntry c s))

theorem forIn_eq_sayAll (f : Text → Text) (names : List Text) :
    (forIn names PUnit.unit fun name _ => do
      say sur (f name)
      return .yield PUnit.unit : Program PUnit) = sayAll sur (names.map f) := by
  induction names with
  | nil => rfl
  | cons name rest ih =>
      rw [List.forIn_cons, bind_assoc]
      simp only [pure_bind, ih]
      rfl

theorem printProfiles_eq (sur : Surroundings) :
    printProfiles sur = (do
      let c ← loadConfig sur
      let s ← openScreen sur c none
      sayAll sur (s.profileNames.map (profileEntry c s))) := by
  have hsplit (count plural mark : String) : s!"[/cyan] {count} pane{plural}{mark}" =
      "[/cyan]" ++ s!" {count} pane{plural}" ++ mark := by
    have hclosing : "[/cyan] " = "[/cyan]" ++ " " := rfl
    simp only [toString, hclosing, String.append_assoc]
  have hentry (count : Nat) (isDefault : Prop) [Decidable isDefault] :
      "[/cyan]" ++ counted count ++ defaultMark (decide isDefault) =
        (let plural := if count = 1 then "" else "s"
         let mark := if isDefault then " [dim](default)[/dim]" else ""
         s!"[/cyan] {count} pane{plural}{mark}") := by
    simp only [defaultMark, decide_eq_true_eq]
    exact (hsplit _ _ _).symm
  unfold printProfiles
  refine bind_congr fun c => bind_congr fun s => ?_
  rw [← forIn_eq_sayAll]
  simp only [profileEntry, paneCount, hentry]
  exact bind_pure_unit

theorem run_request (sur : Surroundings) (l : Listing) :
    run sur l.request = (do
      let c ← loadConfig sur
      let s ← openScreen sur c l.profile
      list sur c s l) := by
  cases l with
  | layout profile width height fullScreen =>
      cases fullScreen <;> rfl
  | profiles => exact printProfiles_eq sur

theorem exists_list_layout (hs : s.Valid) (sur : Surroundings) (c : Config Ratio)
    (profile : Option Text) (width height : Int) (fullScreen : Bool) :
    ∃ tiles, (viewed s fullScreen).flatten ⟨0, 0, width, height⟩ = .ok tiles ∧
      list sur c s (.layout profile width height fullScreen) =
        printTiles sur (s.current ++ s!" ({width}x{height})") tiles := by
  have hviewed : (viewed s fullScreen).Valid := by
    cases fullScreen with
    | false => exact hs
    | true => exact ⟨hs.registered, hs.nodup, hs.profile⟩
  obtain ⟨tiles, htiles⟩ := FrontEnd.exists_flatten hviewed ⟨0, 0, width, height⟩
  refine ⟨tiles, htiles, ?_⟩
  rw [list, htiles]

theorem leavesFiles_mapM {f : α → Program β} (h : ∀ a, (f a).LeavesFiles) (items : List α) :
    (items.mapM f).LeavesFiles := by
  induction items with
  | nil => exact leavesFiles_pure _
  | cons a rest ih =>
      rw [List.mapM_cons]
      exact (h a).bind fun _ => ih.bind fun _ => leavesFiles_pure _

theorem harmless_sayAll (sur : Surroundings) (markups : List Text) :
    (sayAll sur markups).LeavesFiles ∧ (sayAll sur markups).OnlyShows := by
  induction markups with
  | nil => exact ⟨leavesFiles_pure _, onlyShows_pure _⟩
  | cons markup rest ih =>
      exact ⟨(leavesFiles_say sur markup).bind fun _ => ih.1,
        (onlyShows_say sur markup).bind fun _ => ih.2⟩

theorem harmless_printTiles (sur : Surroundings) (title : Text) (tiles : List Tile) :
    (printTiles sur title tiles).LeavesFiles ∧ (printTiles sur title tiles).OnlyShows := by
  unfold printTiles
  simp only [layoutTable_eq]
  constructor
  · exact ((leavesFiles_mapM (fun _ => leavesFiles_rendered _) _).bind fun _ =>
      (leavesFiles_rendered _).bind fun _ => leavesFiles_pure _).bind fun _ =>
        (leavesFiles_rendered _).bind fun _ => leavesFiles_printLines _
  · exact ((onlyShows_mapM (fun _ => onlyShows_rendered _) _).bind fun _ =>
      (onlyShows_rendered _).bind fun _ => onlyShows_pure _).bind fun _ =>
        (onlyShows_rendered _).bind fun _ => onlyShows_printLines _

theorem leavesFiles_list (sur : Surroundings) (c : Config Ratio) (s : Screen) (l : Listing) :
    (list sur c s l).LeavesFiles := by
  cases l with
  | profiles => exact (harmless_sayAll sur _).1
  | layout profile width height fullScreen =>
      rw [list]
      split
      · exact leavesFiles_throw _
      · exact (harmless_printTiles sur _ _).1

theorem onlyShows_list (hs : s.Valid) (sur : Surroundings) (c : Config Ratio) (l : Listing) :
    (list sur c s l).OnlyShows := by
  cases l with
  | profiles => exact (harmless_sayAll sur _).2
  | layout profile width height fullScreen =>
      obtain ⟨tiles, -, hlist⟩ := exists_list_layout hs sur c profile width height fullScreen
      rw [hlist]
      exact (harmless_printTiles sur _ tiles).2

def plain (t : Text) : Styled := ⟨Markup.shown t.shown.toList, []⟩

theorem isDrawable_plain {name : Text} (h : name.IsUntagged) : (plain name).IsDrawable := by
  obtain ⟨r, rfl, hr⟩ := h
  rw [plain, Text.shown_ofString]
  exact ⟨hr.noStandIn, nofun⟩

theorem rendered_of_untagged {name : Text} (h : name.IsUntagged) (block : Nat) :
    rendered (Markup.styled (StandIn.isIn block) (String.ofList (StandIn.veil block name))) =
      pure (plain name) := by
  obtain ⟨r, rfl, hr⟩ := h
  rw [StandIn.veil_ofString, Markup.styled_of_untagged hr.noTag, plain, Text.shown_ofString]
  rfl

theorem exists_draw_tableOf {title : Styled} {views : List Styled} (htitle : title.IsDrawable)
    (hviews : ∀ view ∈ views, view.IsDrawable) (tiles : List Tile) (terminal : Nat) :
    ∃ lines, (tableOf title views tiles).draw terminal = .ok lines ∧
      ∀ line ∈ lines, Table.Own line := by
  have hnumber (value : Tile → Int) :
      ∀ entry ∈ tiles.map fun t => Styled.ofString (toString (value t)), entry.IsDrawable := by
    intro entry hentry
    obtain ⟨tile, -, rfl⟩ := List.mem_map.mp hentry
    have hliteral := List.all_eq_true.mp (Markup.isLiteral_toString (value tile))
    exact Table.isDrawable_ofString fun c hc => (Markup.isLiteral_iff.mp (hliteral c hc)).2.2
  have hfocused : ∀ entry ∈ tiles.map fun t => Styled.ofString (if t.focused then "*" else ""),
      entry.IsDrawable := by
    intro entry hentry
    obtain ⟨tile, -, rfl⟩ := List.mem_map.mp hentry
    apply Table.isDrawable_ofString
    cases tile.focused <;> exact List.all_iff_forall_prop.mp (by decide)
  apply Table.exists_draw htitle
  · simp only [tableOf, List.forall_mem_cons]
    unfold Table.Own
    refine ⟨?_, ?_, ?_, ?_, ?_, ?_, ?_, nofun⟩ <;> exact List.all_iff_forall_prop.mp (by decide)
  · simp only [tableOf, List.forall_mem_cons]
    exact ⟨hnumber _, hviews, hnumber _, hnumber _, hnumber _, hnumber _, hfocused, nofun⟩

/-- The table of tiles whose views have names without tags. -/
theorem on_printTiles {title : Text} {tiles : List Tile} (htitle : title.IsUntagged)
    (htiles : ∀ t ∈ tiles, t.view.name.IsUntagged) (t : Trace) :
    ∃ lines, (tableOf (plain title) (tiles.map fun t => plain t.view.name) tiles).draw
        sur.terminal = .ok lines ∧
      (printTiles sur title tiles).on t =
        (.ok (), { t with printed := t.printed ++ lines.map String.ofList }) := by
  have hviews : ∀ view ∈ tiles.map fun t => plain t.view.name, view.IsDrawable := by
    intro view hview
    obtain ⟨tile, htile, rfl⟩ := List.mem_map.mp hview
    exact isDrawable_plain (htiles tile htile)
  obtain ⟨lines, hlines, hown⟩ :=
    exists_draw_tableOf (isDrawable_plain htitle) hviews tiles sur.terminal
  refine ⟨lines, hlines, ?_⟩
  have htable (block : Nat) : layoutTable block title tiles =
      pure (tableOf (plain title) (tiles.map fun t => plain t.view.name) tiles) := by
    rw [layoutTable_eq]
    simp only
    rw [mapM_eq_pure fun tile htile => rendered_of_untagged (htiles tile htile) block, pure_bind,
      rendered_of_untagged htitle, pure_bind]
  rw [printTiles, htable, pure_bind, hlines]
  exact on_printLines (StandIn.block_mem_blocks _) hown t

/-- The entry of a profile shows its name, unless that is long and ends in a backslash. -/
def IsEntry (c : Config Ratio) (s : Screen) (name : Text) (text : Styled) : Prop :=
  (padded 12 name).symbols.getLast? ≠ some (.char '\\') →
    text.chars = entryShown (padded 12 name).shown (paneCount s name)
      (decide (name = c.defaultProfile))

theorem isUntagged_padded {name : Text} (h : name.IsUntagged) (length : Nat) :
    (padded length name).IsUntagged := by
  obtain ⟨r, rfl, hr⟩ := h
  have hblanks (count : Nat) : (Wrap.blanks count).all Markup.isLiteral = true :=
    List.all_eq_true.mpr fun d hd => by rw [List.eq_of_mem_replicate hd]; decide
  refine ⟨r ++ String.ofList (Wrap.blanks (length - (r : Text).symbols.length)),
    Text.ofString_append _ _, ?_⟩
  rw [String.toList_append, String.toList_ofList]
  exact (hr.append_right (hblanks _)).1

theorem exists_on_say_entry {name : Text} (h : name.IsUntagged) (sur : Surroundings)
    (c : Config Ratio) (s : Screen) :
    ∃ text, IsEntry c s name text ∧ ∀ t, (say sur (profileEntry c s name)).on t =
      (.ok (), { t with
        printed := t.printed ++ (drawnLines sur.terminal text).map String.ofList }) := by
  obtain ⟨p, hp, hpadded⟩ := isUntagged_padded h 12
  have hentry : profileEntry c s name =
      ((entry p (paneCount s name) (decide (name = c.defaultProfile)) : String) : Text) := by
    rw [profileEntry, hp, Text.ofString_append, Text.ofString_append]
    rfl
  obtain ⟨text, hstyled, hdrawable, hchars⟩ := exists_styled_entry hpadded (paneCount s name)
    (decide (name = c.defaultProfile)) (StandIn.isIn (StandIn.block [profileEntry c s name]))
  refine ⟨text, fun hlast => ?_, fun t => ?_⟩
  · rw [hp] at hlast ⊢
    rw [Text.shown_ofString]
    apply hchars
    intro hend
    apply hlast
    rw [Text.ofString, Text.ofList, List.getLast?_map, hend]
    rfl
  · rw [hentry] at hstyled ⊢
    exact on_say hstyled hdrawable t

theorem exists_on_sayAll {names : List Text} (h : ∀ name ∈ names, name.IsUntagged)
    (sur : Surroundings) (c : Config Ratio) (s : Screen) (t : Trace) :
    ∃ texts, List.Forall₂ (IsEntry c s) names texts ∧
      (sayAll sur (names.map (profileEntry c s))).on t = (.ok (), { t with
        printed := t.printed ++ (texts.flatMap (drawnLines sur.terminal)).map String.ofList }) := by
  induction names generalizing t with
  | nil =>
      refine ⟨[], .nil, ?_⟩
      rw [List.flatMap_nil, List.map_nil, List.map_nil, List.append_nil]
      rfl
  | cons name rest ih =>
      obtain ⟨hname, hrest⟩ := List.forall_mem_cons.mp h
      obtain ⟨text, hentry, hsay⟩ := exists_on_say_entry hname sur c s
      obtain ⟨texts, hentries, hall⟩ := ih hrest { t with
        printed := t.printed ++ (drawnLines sur.terminal text).map String.ofList }
      refine ⟨text :: texts, .cons hentry hentries, ?_⟩
      rw [List.map_cons, sayAll, on_bind, hsay]
      simp only
      rw [hall, List.flatMap_cons, List.map_append, List.append_assoc]

/-- A name or a tag that is listed. -/
def Names (s : Screen) : Listing → Text → Prop
  | .layout _ width height fullScreen, name => name = s.current ∨
      ∃ tiles, (viewed s fullScreen).flatten ⟨0, 0, width, height⟩ = .ok tiles ∧
        ∃ tile ∈ tiles, name = tile.view.name
  | .profiles, name => name ∈ s.profileNames

/-- The lines of a listing: a table of the tiles, or an entry for each profile. -/
def Lists (terminal : Nat) (c : Config Ratio) (s : Screen) : Listing → List (List Char) → Prop
  | .layout _ width height fullScreen, lines =>
      ∃ tiles, (viewed s fullScreen).flatten ⟨0, 0, width, height⟩ = .ok tiles ∧
        (tableOf (plain (s.current ++ s!" ({width}x{height})"))
          (tiles.map fun tile => plain tile.view.name) tiles).draw terminal = .ok lines
  | .profiles, lines => ∃ texts, List.Forall₂ (IsEntry c s) s.profileNames texts ∧
      lines = texts.flatMap (drawnLines terminal)

theorem isUntagged_title {name : Text} (h : name.IsUntagged) (width height : Int) :
    (name ++ (s!" ({width}x{height})" : String) : Text).IsUntagged := by
  obtain ⟨r, rfl, hr⟩ := h
  refine ⟨r ++ s!" ({width}x{height})", Text.ofString_append _ _, ?_⟩
  rw [String.toList_append]
  refine (hr.append_right ?_).1
  have htext : s!" ({width}x{height})" =
      " (" ++ toString width ++ "x" ++ toString height ++ ")" := rfl
  simp only [htext, String.toList_append, List.all_append, Markup.isLiteral_toString]
  decide

/-- What is listed of a screen is printed when no name or tag of it has tags. -/
theorem exists_on_list (hs : s.Valid) (h : ∀ name, Names s l name → name.IsUntagged)
    (sur : Surroundings) (c : Config Ratio) (t : Trace) :
    ∃ lines, Lists sur.terminal c s l lines ∧ (list sur c s l).on t =
      (.ok (), { t with printed := t.printed ++ lines.map String.ofList }) := by
  cases l with
  | profiles =>
      obtain ⟨texts, hentries, hall⟩ := exists_on_sayAll h sur c s t
      exact ⟨_, ⟨texts, hentries, rfl⟩, hall⟩
  | layout profile width height fullScreen =>
      obtain ⟨tiles, htiles, hlist⟩ := exists_list_layout hs sur c profile width height fullScreen
      have htitle := isUntagged_title (h _ (Or.inl rfl)) width height
      obtain ⟨lines, hlines, hprinted⟩ := @on_printTiles sur _ tiles htitle
        (fun tile htile => h _ (Or.inr ⟨tiles, htiles, tile, htile, rfl⟩)) t
      exact ⟨lines, ⟨tiles, htiles, hlines⟩, hlist ▸ hprinted⟩

end Program

end SplitScreen
