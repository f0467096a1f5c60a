import SplitScreen.Proofs.Config
import SplitScreen.Proofs.Markup
import SplitScreen.Proofs.Program

namespace SplitScreen

theorem mapM_eq_pure {m : Type → Type} [Monad m] [LawfulMonad m] {α β : Type} {f : α → m β}
    {g : α → β} {items : List α} (h : ∀ a ∈ items, f a = pure (g a)) :
    items.mapM f = pure (items.map g) := by
  induction items with
  | nil => rfl
  | cons a rest ih =>
      obtain ⟨ha, hrest⟩ := List.forall_mem_cons.mp h
      rw [List.mapM_cons, ha, ih hrest, pure_bind, pure_bind, List.map_cons]

theorem Text.ofString_append (r s : String) :
    ((r : Text) ++ (s : Text)) = ((r ++ s : String) : Text) := by
  change Text.mk (r.toList.map .char ++ s.toList.map .char) = Text.mk ((r ++ s).toList.map .char)
  rw [String.toList_append, List.map_append]

namespace StandIn

variable {block : Nat} {c : Char}

theorem isIn_eq_false (hblock : block ∈ blocks) (hc : c.toNat < 0xf0000) :
    isIn block c = false := by
  obtain ⟨hlow, -⟩ := mem_blocks_iff.mp hblock
  simp only [isIn, size, beq_eq_false_iff_ne, ne_eq]
  omega

theorem unveil_eq {cs : List Char} (h : ∀ c ∈ cs, isIn block c = false) :
    unveil block cs = (String.ofList cs : Text) := by
  rw [unveil, Text.ofString, Text.ofList, String.toList_ofList]
  congr 1
  apply List.map_congr_left
  intro c hc
  rw [unveilChar, if_neg (by simp [h c hc])]

theorem veil_ofString (block : Nat) (s : String) : veil block (s : Text) = s.toList := by
  rw [veil, Text.ofString, Text.ofList, List.map_map]
  exact List.map_id _

end StandIn

namespace Program

variable {sur : Surroundings} {text : Styled}

/-- The run goes to its end, whatever was done before it. -/
def Succeeds (x : Program Unit) : Prop := ∀ t, (x.on t).1 = .ok ()

theorem Succeeds.bind {x : Program Unit} {f : Unit → Program Unit} (hx : x.Succeeds)
    (hf : (f ()).Succeeds) : (x >>= f).Succeeds := by
  intro t
  rw [on_bind_of_ok (hx t)]
  exact hf _

/-- The lines of a text with styles in a width, as they are drawn. -/
def drawnLines (terminal : Nat) (text : Styled) : List (List Char) :=
  (Wrap.lines terminal .fold .natural false (Markup.highlight text)).map fun line =>
    (Columns.cropSegments terminal line.segments).flatten

theorem wrapped_eq {P : Char → Prop} {isStandIn : Char → Bool} {markup : String}
    (hstyled : Markup.styled isStandIn markup = .ok text) (hblank : P ' ')
    (h : text.Within P (fun style => Style.isDrawable style = true)) (terminal : Nat) :
    wrapped terminal isStandIn markup = .ok (drawnLines terminal text) ∧
      ∀ line ∈ drawnLines terminal text, ∀ c ∈ line, P c := by
  have hfold : Wrap.Allows P .fold := nofun
  have hlines :=
    Wrap.within_lines hblank hfold (by rfl) (Markup.within_highlight (by rfl) h) terminal .natural
      false
  constructor
  · rw [wrapped, hstyled]
    apply mapM_eq_pure
    intro line hline
    rw [Markup.segments, if_pos (List.all_eq_true.mpr (hlines line hline).style)]
    rfl
  · intro line hline
    obtain ⟨drawn, hdrawn, rfl⟩ := List.mem_map.mp hline
    apply Columns.forall_cropSegments hblank
    rw [Styled.flatten_segments]
    exact (hlines drawn hdrawn).char

theorem on_printLines {block : Nat} (hblock : block ∈ StandIn.blocks) {lines : List (List Char)}
    (h : ∀ line ∈ lines, ∀ c ∈ line, c.toNat < 0xf0000) (t : Trace) :
    (printLines (lines.map (StandIn.unveil block))).on t =
      (.ok (), { t with printed := t.printed ++ lines.map String.ofList }) := by
  have hshown : (lines.map (StandIn.unveil block)).mapM Text.toString? =
      some (lines.map String.ofList) := by
    rw [List.mapM_map]
    apply mapM_eq_pure
    intro line hline
    rw [Function.comp_apply,
      StandIn.unveil_eq fun c hc => StandIn.isIn_eq_false hblock (h line hline c hc)]
    exact Text.toString?_ofString _
  rw [printLines, hshown]
  rfl

/-- A text is printed if it can be rendered, its styles can be drawn and what it shows are
characters that stand for themselves. -/
theorem on_say {markup : String}
    (hstyled : Markup.styled (StandIn.isIn (StandIn.block [(markup : Text)])) markup = .ok text)
    (h : text.IsDrawable) (t : Trace) :
    (say sur markup).on t =
      (.ok (), { t with
        printed := t.printed ++ (drawnLines sur.terminal text).map String.ofList }) := by
  obtain ⟨hwrapped, hchars⟩ := wrapped_eq hstyled (by decide) h sur.terminal
  unfold say
  simp only [StandIn.veil_ofString, String.ofList_toList, hwrapped]
  rw [rendered, on_bind, on_pure]
  exact on_printLines (StandIn.block_mem_blocks _) hchars t

theorem succeeds_say {markup : String}
    (hstyled : Markup.styled (StandIn.isIn (StandIn.block [(markup : Text)])) markup = .ok text)
    (h : text.IsDrawable) : (say sur markup).Succeeds := by
  intro t
  rw [on_say hstyled h]

/-- A text that cannot be rendered ends the run. -/
theorem on_say_of_error {markup : String} {f : Markup.Fault}
    (hstyled : Markup.styled (StandIn.isIn (StandIn.block [(markup : Text)])) markup = .error f)
    (t : Trace) : (say sur markup).on t = (.error (.crashed (.markup f)), t) := by
  have hwrapped : wrapped sur.terminal (StandIn.isIn (StandIn.block [(markup : Text)])) markup =
      .error f := by
    rw [wrapped, hstyled]
    rfl
  unfold say
  simp only [StandIn.veil_ofString, String.ofList_toList, hwrapped]
  rfl

variable {name before marked : String}

theorem succeeds_say_around (opening closing : String) (h : Markup.IsStyleTag name)
    (hbefore : Markup.IsPlain before) (hmarked : Markup.IsPlain marked)
    (hopening : opening = before ++ "[" ++ name ++ "]") (hclosing : closing = "[/" ++ name ++ "]") :
    (say sur (opening ++ marked ++ closing : String)).Succeeds := by
  have hmarkup : opening ++ marked ++ closing = Markup.withTag before name marked := by
    simp only [hopening, hclosing, Markup.withTag, String.append_assoc]
  rw [hmarkup]
  exact succeeds_say (h.styled_withTag _ hbefore hmarked) (h.within_tagged hbefore hmarked)

theorem isPlain_flagText (b : Bool) : Markup.IsPlain (flagText b) := by
  cases b with
  | false => exact Markup.isPlain_ofList (by decide) (by decide)
  | true => exact Markup.isPlain_ofList (by decide) (by decide)

variable {c : Config Ratio}

/-- The name of a profile is printed as that of the default one. -/
def ShowsDefault (sur : Surroundings) (name : Text) : Prop :=
  (say sur ("  Default Profile: [cyan]" ++ name ++ "[/cyan]")).Succeeds

def ShowsPath (sur : Surroundings) : Prop :=
  (say sur s!"\nSaved to: [dim]{sur.configPath}[/dim]").Succeeds

theorem succeeds_say_cyan (opening : String) {before marked : String}
    (hbefore : Markup.IsPlain before) (hmarked : Markup.IsPlain marked)
    (hopening : opening = before ++ "[" ++ "cyan" ++ "]") :
    (say sur (opening ++ marked ++ "[/cyan]" : String)).Succeeds :=
  succeeds_say_around opening "[/cyan]" Markup.isStyleTag_cyan hbefore hmarked hopening rfl

theorem showsDefault_of_isPlain (hplain : Markup.IsPlain name) : ShowsDefault sur (name : Text) := by
  have hbefore : Markup.IsPlain "  Default Profile: " :=
    Markup.isPlain_ofList (by decide) (by decide)
  rw [ShowsDefault, Text.ofString_append, Text.ofString_append]
  exact succeeds_say_cyan "  Default Profile: [cyan]" hbefore hplain rfl

theorem showsPath_of_isPlain (hpath : Markup.IsPlain sur.configPath) : ShowsPath sur := by
  have hbefore : Markup.IsPlain "\nSaved to: " :=
    Markup.isPlain_ofList (by decide) (by decide)
  exact succeeds_say_around "\nSaved to: [dim]" "[/dim]" Markup.isStyleTag_dim hbefore hpath rfl rfl

theorem succeeds_saySettings (hname : ShowsDefault sur c.defaultProfile) :
    (saySettings sur c).Succeeds := by
  have hlogging : Markup.IsPlain "  Debug Logging:   " :=
    Markup.isPlain_ofList (by decide) (by decide)
  have hlayouts : Markup.IsPlain "  Restore Layouts: " :=
    Markup.isPlain_ofList (by decide) (by decide)
  unfold saySettings
  refine Succeeds.bind hname ?_
  refine (succeeds_say_cyan "  Debug Logging:   [cyan]" hlogging
    (isPlain_flagText c.debugLogging) rfl).bind ?_
  exact succeeds_say_cyan "  Restore Layouts: [cyan]" hlayouts
    (isPlain_flagText c.restoreLayouts) rfl

variable {new : Config Ratio} {t : Trace}

theorem succeeds_saySaved (sur : Surroundings) :
    (say sur "\n[green]Configuration saved![/green]").Succeeds := by
  have hbefore : Markup.IsPlain "\n" :=
    Markup.isPlain_ofList (by decide) (by decide)
  have hmarked : Markup.IsPlain "Configuration saved!" :=
    Markup.isPlain_ofList (by decide) (by decide)
  have hmarkup : "\n[green]Configuration saved![/green]" =
      "\n[green]" ++ "Configuration saved!" ++ "[/green]" := rfl
  rw [hmarkup]
  exact succeeds_say_around _ _ Markup.isStyleTag_green hbefore hmarked rfl rfl

theorem exists_on_saveSettings (sur : Surroundings)
    (hsave : (new.literal.save t.files.config).1 = .ok ()) :
    ∃ u, (saveSettings sur new).on t =
      (saySettings sur new >>= fun _ => say sur s!"\nSaved to: [dim]{sur.configPath}[/dim]").on u := by
  have haccess (u : Trace) :
      ((access (Access.ofExcept (new.literal.save t.files.config).1)).on u).1 = .ok () := by
    rw [fst_access]
    exact mapError_eq_ok_iff.mpr hsave
  unfold saveSettings
  rw [on_bind, on_get]
  simp only
  rw [on_bind, on_modify]
  simp only
  rw [on_bind_of_ok (haccess _), on_bind_of_ok (succeeds_saySaved sur _)]
  exact ⟨_, rfl⟩

theorem fst_saveSettings (hsave : (new.literal.save t.files.config).1 = .ok ())
    (hname : ShowsDefault sur new.defaultProfile) (hpath : ShowsPath sur) :
    ((saveSettings sur new).on t).1 = .ok () := by
  obtain ⟨u, hon⟩ := exists_on_saveSettings sur hsave
  rw [hon]
  unfold ShowsPath at hpath
  exact Succeeds.bind (succeeds_saySettings hname) hpath u

/-- Settings are saved and then cannot be said when the name of the default profile closes a style that
is not open. -/
theorem fst_saveSettings_of_unopened {other after : String}
    (hsave : (new.literal.save t.files.config).1 = .ok ())
    (hother : Markup.IsStyleTag other) (hne : "cyan" ≠ other)
    (hname : new.defaultProfile = (("[/" ++ other ++ "]" ++ after : String) : Text)) :
    ((saveSettings sur new).on t).1 = .error (.crashed (.markup .unopened)) := by
  have hbefore : Markup.IsPlain "  Default Profile: " :=
    Markup.isPlain_ofList (by decide) (by decide)
  have hmarkup : "  Default Profile: [cyan]" ++ ("[/" ++ other ++ "]" ++ after) ++ "[/cyan]" =
      "  Default Profile: " ++ "[" ++ "cyan" ++ "]" ++ ("[/" ++ other ++ "]") ++
        (after ++ "[/cyan]") := by
    simp only [String.append_assoc]
    rfl
  have hsay (u : Trace) :
      ((say sur ("  Default Profile: [cyan]" ++ new.defaultProfile ++ "[/cyan]")).on u).1 =
        .error (.crashed (.markup .unopened)) := by
    rw [hname, Text.ofString_append, Text.ofString_append, hmarkup]
    rw [on_say_of_error (Markup.isStyleTag_cyan.styled_unopened _ hbefore hother hne _)]
  have hsettings (u : Trace) :
      ((saySettings sur new).on u).1 = .error (.crashed (.markup .unopened)) := by
    unfold saySettings
    rw [on_bind_of_error (hsay u)]
  obtain ⟨u, hon⟩ := exists_on_saveSettings sur hsave
  rw [hon, on_bind_of_error (hsettings u)]

/-- A change of the settings goes through, with a default profile that is known and a file that can
be written; only markup in the texts that are shown afterwards could still stop it. -/
theorem fst_execute_changes {files : Files} {args : List Text} {g : General} {changes : Changes}
    (hargs : AsksForChanges args g changes) (hversion : g.version = false)
    (hload : (Config.load files.config sur.env).outcome = .ok c) (hchanges : changes ≠ .unset)
    (hknown : KnowsDefault c changes) (hdoc : files.config ≠ .directory)
    (hwrite : (Toml.write (changed c changes).literal.toTable).fault = none)
    (hname : (changed c changes).defaultProfile = (name : Text))
    (hplain : Markup.IsPlain name) (hpath : Markup.IsPlain sur.configPath) :
    (execute sur files args).1 = .ok () := by
  have hfiles : ((loadConfig sur).on (Trace.start files)).2.files = files :=
    leavesFiles_loadConfig sur (Trace.start files)
  have hsave : ((changed c changes).literal.save files.config).1 = .ok () := by
    rw [Config.save_eq hdoc, Written.outcome, hwrite]
  rw [execute_changes hargs hversion, on_changeSettings_of_known hload hchanges hknown]
  exact fst_saveSettings (hfiles.symm ▸ hsave) (hname ▸ showsDefault_of_isPlain hplain)
    (showsPath_of_isPlain hpath)

end Program

end SplitScreen
