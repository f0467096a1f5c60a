import SplitScreen.Proofs.Config
import SplitScreen.Value

namespace SplitScreen

namespace Config

variable {c d : Config Ratio} {doc : Document}

/-- The configurations say the same, in whatever order their profiles stand. -/
structure Agrees (c d : Config Ratio) : Prop where
  defaultProfile : c.defaultProfile = d.defaultProfile
  debugLogging : c.debugLogging = d.debugLogging
  restoreLayouts : c.restoreLayouts = d.restoreLayouts
  profiles (name : Text) : c.profiles.find? name = d.profiles.find? name

theorem nodup_keys_of_readsBack (h : Toml.ReadsBack c.literal.toTable) :
    c.profiles.keys.Nodup := by
  have hnodup := nodup_keys_profileEntries (Toml.keyed_of_read h.2)
  rw [profileEntries_toTable, Assoc.keys, List.map_map] at hnodup
  exact hnodup

/-- What is looked up in vain after a configuration came back was lost, and what has changed had
another view. -/
theorem storable_of_agrees (hnodup : c.profiles.keys.Nodup) (h : c.reloaded.Agrees c)
    {entry : Text × Layout Ratio} (hentry : entry ∈ c.profiles) :
    entry.1 ∉ Screen.builtin ∧ ∀ v ∈ entry.2.views, v.Storable := by
  have hfind : c.reloaded.profiles.find? entry.1 = some entry.2 :=
    (h.profiles entry.1).trans (Assoc.find?_of_mem hnodup hentry)
  obtain ⟨kept, hkept, hsame⟩ := List.mem_map.mp (Assoc.mem_of_find? hfind)
  obtain ⟨hmem, hreturns⟩ := List.mem_filter.mp hkept
  obtain ⟨hname, hlayout⟩ := Prod.mk.inj hsame
  -- The entry that came back under this name was the entry of this name.
  have hlook := Assoc.find?_of_mem hnodup hmem
  rw [hname, Assoc.find?_of_mem hnodup hentry] at hlook
  rw [← Option.some.inj hlook] at hlayout
  have hback : Returns entry := by
    have hkeeps := of_decide_eq_true hreturns
    rwa [Returns, hname, ← Option.some.inj hlook] at hkeeps
  refine ⟨hback.1, fun v hv => View.storable_iff.mpr ⟨?_, ?_⟩⟩
  · rintro rfl
    exact hback.2 hv
  · exact Layout.mapView_eq_self_iff.mp hlayout v hv

theorem agrees_reloaded_iff (hnodup : c.profiles.keys.Nodup) :
    c.reloaded.Agrees c ↔
      ∀ entry ∈ c.profiles, entry.1 ∉ Screen.builtin ∧ ∀ v ∈ entry.2.views, v.Storable := by
  constructor
  · exact fun h entry hentry => storable_of_agrees hnodup h hentry
  · intro h
    rw [reloaded_eq_self (fun entry hentry => (h entry hentry).1) fun entry hentry =>
      (h entry hentry).2]
    exact ⟨rfl, rfl, rfl, fun _ => rfl⟩

/-- Saving a configuration and loading it again, with no settings from the environment, gives the
settings and the profiles that come back, with one warning for each of the others. That is the same
configuration if and only if no profile has the name of a built-in one, and no view is without a
name or, not being of a known kind, has the name of one; then not even the order has changed. -/
theorem load_save (hdoc : doc ≠ .directory) (hwrite : Toml.ReadsBack c.literal.toTable) :
    (c.literal.save doc).1 = .ok () ∧
      load (c.literal.save doc).2 .empty = ⟨.ok c.reloaded, c.losses⟩ ∧
      (c.reloaded.Agrees c ↔ ∀ entry ∈ c.profiles, entry.1 ∉ Screen.builtin ∧
        ∀ v ∈ entry.2.views, v ≠ .custom "" ∧ ∀ k : ContentKind, v ≠ .custom k.name) ∧
      (c.reloaded.Agrees c ↔ c.reloaded = c) := by
  have hagrees := agrees_reloaded_iff (nodup_keys_of_readsBack hwrite)
  rw [save_eq hdoc, Written.outcome, hwrite.1]
  refine ⟨rfl, ?_, ?_, ?_⟩
  · exact load_reloaded hwrite .empty
  · rw [hagrees]
    simp only [View.storable_iff_ne_custom]
  · constructor
    · intro h
      exact reloaded_eq_self (fun _ hentry => (hagrees.mp h _ hentry).1) fun _ hentry =>
        (hagrees.mp h _ hentry).2
    · intro h
      rw [h]
      exact ⟨rfl, rfl, rfl, fun _ => rfl⟩

/-- A configuration of which something comes back otherwise: a profile with the name of a built-in
one, one with a view without a name, and one with a view of its own that is named like a kind. -/
def mixedConfig : Config Ratio :=
  ⟨"\"a\"\n", true, false,
    [("small", .pane (.custom "b") false), ("a.b", .pane (.custom "") true),
      ("", .split .vertical ⟨1, 4, Int.zero_lt_one, by decide⟩ (.pane (.custom "stack") true)
        (.pane (.custom "b") false))]⟩

def mixedText : String :=
  "default_profile = \"\\\"a\\\"\\n\"\ndebug_logging = true\nrestore_layouts = false\n\n" ++
    "[profiles.small]\nview = \"b\"\n\n[profiles.\"a.b\"]\nview = \"\"\nfocused = true\n\n" ++
    "[profiles.\"\"]\nsplit = \"vertical\"\nratio = [\n    1,\n    4,\n]\n\n" ++
    "[profiles.\"\".first]\nview = \"stack\"\nfocused = true\n\n" ++
    "[profiles.\"\".second]\nview = \"b\"\n"

theorem readsBack_mixedConfig : Toml.ReadsBack mixedConfig.literal.toTable := by
  have hwrite : Toml.write mixedConfig.literal.toTable = mixedText := by decide +kernel
  have htext : mixedText = _ := Toml.append_eq_ofList (Toml.append_eq_ofList
    (Toml.append_eq_ofList (Toml.append_eq_ofList rfl rfl) rfl) rfl) rfl
  rw [Toml.ReadsBack, hwrite]
  refine ⟨rfl, ?_⟩
  rw [htext, Toml.read_ofList]
  decide +kernel

theorem load_save_mixed :
    (mixedConfig.literal.save .missing).1 = .ok () ∧
      load (mixedConfig.literal.save .missing).2 .empty =
        ⟨.ok { mixedConfig with profiles :=
            [("", .split .vertical ⟨1, 4, Int.zero_lt_one, by decide⟩ (.pane (.kind .stack) true)
              (.pane (.custom "b") false))] },
          [.profileReserved "small", .profileIgnored "a.b" (.invalidView (.text ""))]⟩ ∧
      ¬ mixedConfig.reloaded.Agrees mixedConfig := by
  obtain ⟨hsaved, hload, hagrees, -⟩ :=
    load_save (nofun : Document.missing ≠ .directory) readsBack_mixedConfig
  refine ⟨hsaved, hload.trans rfl, fun h => ?_⟩
  exact (hagrees.mp h _ List.mem_cons_self).1 (by decide)

end Config

end SplitScreen
