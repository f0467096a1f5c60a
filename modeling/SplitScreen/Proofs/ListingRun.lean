import SplitScreen.Proofs.Listing
import SplitScreen.Proofs.Settings

namespace SplitScreen

namespace Program

variable {sur : Surroundings} {files : Files} {args : List Text} {g : General} {l : Listing}
  {c : Config Ratio} {s : Screen} {t : Trace} {layouts : Assoc Text (Layout Ratio)}

def AsksForListing (args : List Text) (g : General) (l : Listing) : Prop :=
  ∃ name rest, Line.ofArguments args = .ok ⟨g, some (name, rest), false⟩ ∧
    Request.ofArguments rest name = .ok l.request

def saidBefore (terminal : Nat) (g : General) : List String :=
  if g.version then (drawnLines terminal ⟨s!"panekit v{version}".toList, []⟩).map String.ofList
  else []

/-- The lines about an error: its message after a word, with line feeds where a line is full. -/
structure TellsError (terminal : Nat) (message : String) (lines : List (List Char)) : Prop where
  drawn : ∃ spans, lines = drawnLines terminal
    ⟨"Error: ".toList ++ Markup.shown message.toList, spans⟩
  wraps : OneColumn (Markup.shown message.toList) → 1 ≤ terminal →
    Wraps ("Error: ".toList ++ Markup.shown message.toList) lines
  starts : OneColumn (Markup.shown message.toList) → 6 ≤ terminal →
    ∃ more rest, lines = ("Error:".toList ++ more) :: rest

theorem isUntagged_message {name : Text} (h : Markup.IsUntagged (quoted name).toList) :
    Markup.IsUntagged (Refusal.noProfile name).message.toList ∧
      Markup.shown (Refusal.noProfile name).message.toList =
        "No profile named ".toList ++ Markup.shown (quoted name).toList := by
  have htext : (Refusal.noProfile name).message = "No profile named " ++ quoted name := rfl
  rw [htext, String.toList_append]
  exact h.append_left (by decide)

theorem drawnLines_eq {terminal : Nat} (hterminal : 1 ≤ terminal) {text : Styled}
    (h : OneColumn text.chars) :
    drawnLines terminal text = (Wrap.cut terminal .fold text.chars).map (List.take terminal) :=
  Wrap.drawn_eq hterminal h _

theorem wraps_drawnLines {terminal : Nat} (hterminal : 1 ≤ terminal) {text : Styled}
    (h : OneColumn text.chars) : Wraps text.chars (drawnLines terminal text) :=
  (Wrap.wraps_lines hterminal h _).1

theorem exists_drawnLines_of_word {terminal : Nat} {text : Styled} {word rest : List Char}
    {d : Char} (h : OneColumn text.chars) (htext : text.chars = word ++ ' ' :: d :: rest)
    (hword : word ≠ []) (hblank : ∀ e ∈ word, isBlank e = false) (hd : isBlank d = false)
    (hterminal : word.length ≤ terminal) :
    ∃ more others, drawnLines terminal text = (word ++ more) :: others := by
  obtain ⟨chars, spans⟩ := text
  subst htext
  exact Wrap.exists_lines_of_word h hword hblank hd hterminal _

theorem tellsError_of_chars {name : Text} (h : Markup.IsUntagged (quoted name).toList)
    (terminal : Nat) {text : Styled}
    (htext : text.chars = "Error: ".toList ++
      Markup.shown (Refusal.noProfile name).message.toList) :
    TellsError terminal (Refusal.noProfile name).message (drawnLines terminal text) := by
  have hcolumns (hmessage : OneColumn (Markup.shown (Refusal.noProfile name).message.toList)) :
      OneColumn text.chars := by
    have hword : OneColumn "Error: ".toList := List.all_iff_forall_prop.mp (by decide +kernel)
    rw [htext]
    exact hword.append hmessage
  have hsplit : text.chars = "Error:".toList ++ ' ' :: 'N' ::
      ("o profile named ".toList ++ Markup.shown (quoted name).toList) := by
    rw [htext, (isUntagged_message h).2]
    rfl
  refine ⟨⟨text.spans, by rw [← htext]⟩, fun hmessage hterminal => ?_,
    fun hmessage hterminal => ?_⟩
  · rw [← htext]
    exact wraps_drawnLines hterminal (hcolumns hmessage)
  · have hblank : ∀ e ∈ "Error:".toList, isBlank e = false :=
      List.all_iff_forall_prop.mp (by decide)
    have hlength : "Error:".toList.length ≤ terminal := hterminal
    exact exists_drawnLines_of_word (hcolumns hmessage) hsplit nofun hblank (by decide) hlength

theorem on_say_version (sur : Surroundings) (t : Trace) :
    (say sur s!"panekit v{version}").on t = (.ok (), { t with
      printed := t.printed ++
        (drawnLines sur.terminal ⟨s!"panekit v{version}".toList, []⟩).map String.ofList }) := by
  have hliteral : (s!"panekit v{version}").toList.all Markup.isLiteral = true := by decide
  obtain ⟨huntagged, hshown⟩ := Markup.isUntagged_of_isLiteral hliteral
  generalize s!"panekit v{version}" = said at huntagged hshown ⊢
  have hstyled := Markup.styled_of_untagged huntagged.noTag
    (StandIn.isIn (StandIn.block [(said : Text)]))
  rw [String.ofList_toList, hshown] at hstyled
  exact on_say hstyled ⟨hshown ▸ huntagged.noStandIn, nofun⟩ t

theorem execute_listing (hargs : AsksForListing args g l) :
    execute sur files args = (run sur l.request).on
      { Trace.start files with printed := saidBefore sur.terminal g } := by
  obtain ⟨name, rest, hline, hrequest⟩ := hargs
  change (perform sur args).on (Trace.start files) = _
  unfold perform
  rw [hline, understand, on_bind, on_pure]
  simp only [Bool.false_eq_true, if_false, hrequest]
  cases hversion : g.version with
  | false =>
      rw [saidBefore, hversion]
      rfl
  | true =>
      have hsaid : saidBefore sur.terminal g =
          (drawnLines sur.terminal ⟨s!"panekit v{version}".toList, []⟩).map String.ofList := by
        rw [saidBefore, hversion, if_pos rfl]
      rw [if_pos rfl, on_bind, on_say_version, hsaid]
      generalize List.map String.ofList _ = said
      rfl

theorem fst_run_of_unreadable (h : ∀ c, (Config.load t.files.config sur.env).outcome = .ok c →
      (Startup.consulted c (some t.files.store)).Unreadable Json.read) (l : Listing) :
    ∃ f, ((run sur l.request).on t).1 = .error (.crashed (.file f)) := by
  have hconfig := fst_loadConfig sur t
  rw [run_request]
  cases hload : (Config.load t.files.config sur.env).outcome with
  | error f =>
      rw [hload] at hconfig
      rw [on_bind_of_error hconfig]
      exact ⟨f, rfl⟩
  | ok c =>
      obtain ⟨u, ⟨hfiles, -⟩, hon⟩ := @on_loadConfig sur c t hload
      have hstore : ¬ ∃ layouts, (Startup.saved c (some u.files.store)).outcome = .ok layouts := by
        rw [Startup.exists_saved_iff, hfiles]
        exact not_not.mpr (h c hload)
      rw [on_bind, hon]
      simp only
      cases hsaved : (Startup.saved c (some u.files.store)).outcome with
      | ok layouts => exact absurd ⟨layouts, hsaved⟩ hstore
      | error f =>
          have haccess := fst_access (Startup.saved c (some u.files.store)) u
          rw [hsaved] at haccess
          have hopen : ((openScreen sur c l.profile).on u).1 = .error (.crashed (.file f)) := by
            rw [openScreen, on_bind, on_get]
            simp only
            rw [on_bind_of_error haccess]
          rw [on_bind_of_error hopen]
          exact ⟨f, rfl⟩

theorem on_say_failed {α : Type} (sur : Surroundings) (markup : Text) (t : Trace) :
    (say sur markup >>= fun _ => (throw .failed : Program α)).on t =
      (.error (match ((say sur markup).on t).1 with | .ok _ => .failed | .error e => e),
        ((say sur markup).on t).2) := by
  rw [on_bind]
  rcases (say sur markup).on t with ⟨e | u, v⟩ <;> rfl

/-- A run lists what it was asked for, or says why not, once the settings and the store are
loaded. -/
theorem on_run_of_loaded (hload : (Config.load t.files.config sur.env).outcome = .ok c)
    (hsaved : (Startup.saved c (some t.files.store)).outcome = .ok layouts) (l : Listing) :
    ∃ u, Quiet t u ∧ (run sur l.request).on t =
      match Startup.screen c layouts l.profile with
      | .ok s => (list sur c s l).on u
      | .error r => (say sur ("[red]Error:[/red] " ++ r.message : String) >>= fun _ =>
          throw .failed).on u := by
  obtain ⟨u, ⟨hfiles, hprinted⟩, hconfig⟩ := on_loadConfig hload
  obtain ⟨v, ⟨hfiles', hprinted'⟩, hopen⟩ :=
    @on_openScreen sur c u l.profile layouts (hfiles.symm ▸ hsaved)
  rw [run_request, on_bind, hconfig]
  simp only
  rw [on_bind, hopen]
  cases Startup.screen c layouts l.profile with
  | ok s => exact ⟨v.note _, ⟨hfiles'.trans hfiles, hprinted'.trans hprinted⟩, rfl⟩
  | error r =>
      refine ⟨v, ⟨hfiles'.trans hfiles, hprinted'.trans hprinted⟩, ?_⟩
      simp only [on_say_failed]

/-- A run that cannot open a screen does not succeed, and tells the error if it can be shown. -/
theorem on_run_of_refused {name : Text}
    (hload : (Config.load t.files.config sur.env).outcome = .ok c)
    (hsaved : (Startup.saved c (some t.files.store)).outcome = .ok layouts)
    (hr : Startup.screen c layouts l.profile = .error (.noProfile name)) :
    let run := (run sur l.request).on t
    (∃ e, run.1 = .error e ∧ (e = .failed ∨ e.IsUnshowable)) ∧
      (Markup.IsUntagged (quoted name).toList → run.1 = .error .failed ∧
        ∃ lines, run.2.printed = t.printed ++ lines.map String.ofList ∧
          TellsError sur.terminal (Refusal.noProfile name).message lines) := by
  obtain ⟨u, ⟨-, hprinted⟩, hrun⟩ := on_run_of_loaded hload hsaved l
  rw [hr] at hrun
  simp only at hrun
  rw [on_say_failed] at hrun
  simp only [hrun]
  constructor
  · refine ⟨_, rfl, ?_⟩
    split
    · exact Or.inl rfl
    · next e he => exact Or.inr (onlyShows_say sur _ u e he)
  · intro hname
    obtain ⟨text, hstyled, hdrawable, hchars⟩ := exists_styled_error (isUntagged_message hname).1
      (StandIn.isIn (StandIn.block
        [(("[red]Error:[/red] " ++ (Refusal.noProfile name).message : String) : Text)]))
    rw [on_say hstyled hdrawable, hprinted]
    exact ⟨rfl, _, rfl, tellsError_of_chars hname sur.terminal hchars⟩

/-- The error about a name that closes a style cannot be told. -/
theorem on_run_of_closing {name : Text} {before other after : String}
    (hload : (Config.load t.files.config sur.env).outcome = .ok c)
    (hsaved : (Startup.saved c (some t.files.store)).outcome = .ok layouts)
    (hr : Startup.screen c layouts l.profile = .error (.noProfile name))
    (hbefore : Markup.IsPlain before) (hother : Markup.IsStyleTag other)
    (hmessage : (Refusal.noProfile name).message = before ++ ("[/" ++ other ++ "]") ++ after) :
    let run := (run sur l.request).on t
    run.1 = .error (.crashed (.markup .unopened)) ∧ run.2.printed = t.printed := by
  obtain ⟨u, ⟨-, hprinted⟩, hrun⟩ := on_run_of_loaded hload hsaved l
  rw [hr] at hrun
  simp only at hrun
  rw [on_say_failed, hmessage,
    on_say_of_error (styled_error_unopened hbefore hother after _)] at hrun
  intro run
  rw [show run = _ from hrun]
  exact ⟨rfl, hprinted⟩

/-- A run that opens a screen does not fail with an error for the user, and lists what it was asked
for if it can be shown. -/
theorem on_run_of_opened (hload : (Config.load t.files.config sur.env).outcome = .ok c)
    (hsaved : (Startup.saved c (some t.files.store)).outcome = .ok layouts)
    (hs : Startup.screen c layouts l.profile = .ok s) :
    let run := (run sur l.request).on t
    (∀ e, run.1 = .error e → e.IsUnshowable) ∧
      ((∀ name, Names s l name → name.IsUntagged) → run.1 = .ok () ∧
        ∃ lines, run.2.printed = t.printed ++ lines.map String.ofList ∧
          Lists sur.terminal c s l lines) := by
  obtain ⟨u, ⟨-, hprinted⟩, hrun⟩ := on_run_of_loaded hload hsaved l
  have hvalid : s.Valid := Screen.valid_ofProfiles hs
  rw [hs] at hrun
  simp only [hrun]
  refine ⟨onlyShows_list hvalid sur c l u, fun hnames => ?_⟩
  obtain ⟨lines, hlines, hlist⟩ := exists_on_list hvalid hnames sur c u
  rw [hlist, hprinted]
  exact ⟨rfl, lines, rfl, hlines⟩

theorem leavesFiles_run (sur : Surroundings) (l : Listing) : (run sur l.request).LeavesFiles := by
  rw [run_request]
  exact (leavesFiles_loadConfig sur).bind fun c =>
    (leavesFiles_openScreen sur c l.profile).bind fun s => leavesFiles_list sur c s l

/-- A listing changes no files. It breaks off if a file cannot be read. Otherwise it fails, with a
line about the error, if no place has a layout under the name to start with, and else prints what
was asked for; a text that cannot be shown stops either of them, and no text without tags does. -/
theorem listings_end (hargs : AsksForListing args g l) :
    let run := execute sur files args
    run.2.files = files ∧
      ((∀ c, (Config.load files.config sur.env).outcome = .ok c →
          (Startup.consulted c (some files.store)).Unreadable Json.read) →
        ∃ f, run.1 = .error (.crashed (.file f))) ∧
      ∀ c, (Config.load files.config sur.env).outcome = .ok c →
        ¬ (Startup.consulted c (some files.store)).Unreadable Json.read →
        let name := Startup.chosen c l.profile
        (Startup.layoutFor c (some files.store) name = none →
          (∃ e, run.1 = .error e ∧ (e = .failed ∨ e.IsUnshowable)) ∧
          (Markup.IsUntagged (quoted name).toList → run.1 = .error .failed ∧
            ∃ lines, run.2.printed = saidBefore sur.terminal g ++ lines.map String.ofList ∧
              TellsError sur.terminal (Refusal.noProfile name).message lines)) ∧
        (Startup.layoutFor c (some files.store) name ≠ none →
          ∃ s, Startup.Opens c files.store l.profile s ∧ s.current = name ∧
            (∀ e, run.1 = .error e → e.IsUnshowable) ∧
            ((∀ listed, Names s l listed → listed.IsUntagged) → run.1 = .ok () ∧
              ∃ lines, run.2.printed = saidBefore sur.terminal g ++ lines.map String.ofList ∧
                Lists sur.terminal c s l lines)) := by
  intro run
  have hrun : run = _ := execute_listing hargs
  rw [hrun]
  refine ⟨leavesFiles_run sur l _, fun hunreadable => fst_run_of_unreadable hunreadable l,
    fun c hload hreadable => ?_⟩
  intro name
  obtain ⟨layouts, hsaved⟩ := Startup.exists_saved_iff.mpr hreadable
  have hc := (Config.sound_of_load hload).nodup
  constructor
  · intro hnone
    have hr : Startup.screen c layouts l.profile = .error (.noProfile name) :=
      (Startup.screen_eq_error_iff hc hsaved).mpr ⟨rfl, hnone⟩
    exact on_run_of_refused hload hsaved hr
  · intro hthere
    cases hs : Startup.screen c layouts l.profile with
    | error r => exact absurd ((Startup.screen_eq_error_iff hc hsaved).mp hs).2 hthere
    | ok s => exact ⟨s, ⟨layouts, hsaved, hs⟩, Screen.current_ofProfiles hs,
        on_run_of_opened hload hsaved hs⟩

theorem asksForListing_profile (name : Text) :
    AsksForListing ["layout", "-p", name] .unset (.layout (some name) 80 24 false) := by
  refine ⟨.layout, ["-p", name], Line.ofArguments_command _ (by decide) rfl, ?_⟩
  rw [Request.ofArguments, Request.ofOptions,
    Switches.scan_option (by decide) (by decide) rfl, Switches.scan_nil]
  rfl

/-- Without files the profiles are listed, and a name that is not there is an error. -/
theorem listings_end_missing :
    (let run := execute ordinary ⟨.missing, .missing⟩ ["profiles"]
     run.1 = .ok () ∧ ∃ lines, run.2.printed = lines.map String.ofList ∧
       ∃ s, s.profiles.keys = [Screen.smallName, Screen.largeName] ∧
         Lists 80 .default s .profiles lines) ∧
    (let run := execute ordinary ⟨.missing, .missing⟩ ["layout", "-p", "nope"]
     run.1 = .error .failed ∧ run.2.printed = ["Error: No profile named 'nope'"]) := by
  have hload : (Config.load .missing ordinary.env).outcome = .ok .default := rfl
  have hreadable : ¬ (Startup.consulted .default (some .missing)).Unreadable Json.read :=
    Document.not_unreadable_iff.mpr ⟨.absent, rfl⟩
  constructor
  · have hargs : AsksForListing ["profiles"] .unset .profiles := by
      refine ⟨.profiles, [], Line.ofArguments_command [] (by decide) rfl, ?_⟩
      rw [Request.ofArguments, Request.ofOptions, Switches.scan_nil]
      rfl
    obtain ⟨-, -, hend⟩ := @listings_end ordinary ⟨.missing, .missing⟩ _ _ _ hargs
    generalize execute ordinary ⟨.missing, .missing⟩ ["profiles"] = run at hend ⊢
    obtain ⟨-, hopens⟩ := hend .default hload hreadable
    obtain ⟨s, ⟨layouts, hsaved, hs⟩, -, -, hlist⟩ := hopens (by decide)
    have hnames : s.profiles.keys = [Screen.smallName, Screen.largeName] := by
      have hmap : (Startup.screen .default [] none).toOption.map (fun s => s.profiles.keys) =
          some [Screen.smallName, Screen.largeName] := by decide
      obtain rfl : [] = layouts := Except.ok.inj hsaved
      rw [show Startup.screen .default [] none = .ok s from hs] at hmap
      exact Option.some.inj hmap
    have huntagged : ∀ name, Names s .profiles name → name.IsUntagged := by
      intro name hname
      rw [Names, Screen.profileNames, List.mem_mergeSort, hnames] at hname
      rcases List.mem_pair.mp hname with rfl | rfl
      · exact Text.isUntagged_of_isLiteral (r := "small") (by decide)
      · exact Text.isUntagged_of_isLiteral (r := "large") (by decide)
    obtain ⟨hok, lines, hlines, hlists⟩ := hlist huntagged
    exact ⟨hok, lines, hlines, s, hnames, hlists⟩
  · obtain ⟨-, -, hend⟩ := @listings_end ordinary ⟨.missing, .missing⟩ _ _ _
      (asksForListing_profile "nope")
    generalize execute ordinary ⟨.missing, .missing⟩ ["layout", "-p", "nope"] = run at hend ⊢
    obtain ⟨hnone, -⟩ := hend .default hload hreadable
    obtain ⟨-, htell⟩ := hnone (by decide)
    have hname : Startup.chosen .default (Listing.layout (some "nope") 80 24 false).profile =
        ("nope" : Text) := rfl
    rw [hname] at htell
    have hquoted : (quoted ("nope" : Text)).toList.all Markup.isLiteral = true := by decide
    obtain ⟨huntagged, hshown⟩ := Markup.isUntagged_of_isLiteral hquoted
    obtain ⟨hfailed, lines, hlines, ⟨spans, hdrawn⟩, -, -⟩ := htell huntagged
    have hchars : "Error: ".toList ++
        Markup.shown (Refusal.noProfile ("nope" : Text)).message.toList =
          "Error: No profile named 'nope'".toList := by
      rw [(isUntagged_message huntagged).2, hshown]
      decide +kernel
    have hcolumns : OneColumn "Error: No profile named 'nope'".toList :=
      List.all_iff_forall_prop.mp (by decide +kernel)
    have hcut : (Wrap.cut 80 .fold "Error: No profile named 'nope'".toList).map (List.take 80) =
        ["Error: No profile named 'nope'".toList] := by decide +kernel
    have hterminal : ordinary.terminal = 80 := rfl
    refine ⟨hfailed, ?_⟩
    rw [hlines, hdrawn, hchars, hterminal, drawnLines_eq (by decide) hcolumns, hcut,
      List.map_singleton, String.ofList_toList]
    rfl

/-- A name that closes a style is not there, and no error says so. -/
theorem closing_name_untold :
    let run := execute ordinary ⟨.missing, .missing⟩ ["layout", "-p", "[/dim]"]
    Startup.layoutFor .default (some .missing) "[/dim]" = none ∧
      run.1 = .error (.crashed (.markup .unopened)) ∧ run.2.printed = [] := by
  have hload : (Config.load .missing ordinary.env).outcome = .ok .default := rfl
  have hsaved : (Startup.saved .default (some .missing)).outcome = .ok [] := rfl
  have hnone : Startup.layoutFor .default (some .missing) "[/dim]" = none := by decide
  have hr : Startup.screen .default [] (some "[/dim]") = .error (.noProfile "[/dim]") :=
    (Startup.screen_eq_error_iff (by decide) hsaved).mpr ⟨rfl, hnone⟩
  have hbefore : Markup.IsPlain "No profile named '" :=
    Markup.isPlain_ofList (by decide) (by decide)
  have hmessage : (Refusal.noProfile ("[/dim]" : Text)).message =
      "No profile named '" ++ ("[/" ++ "dim" ++ "]") ++ "'" := by decide
  obtain ⟨hcrash, hprinted⟩ := @on_run_of_closing ordinary
    (.layout (some "[/dim]") 80 24 false) _ { Trace.start ⟨.missing, .missing⟩ with
      printed := saidBefore ordinary.terminal .unset } _ _ _ _ _ hload hsaved hr
    hbefore Markup.isStyleTag_dim hmessage
  intro run
  have hrun : run = _ := execute_listing (asksForListing_profile "[/dim]")
  rw [hrun]
  exact ⟨hnone, hcrash, hprinted⟩

end Program

end SplitScreen
