import SplitScreen.Edit

/-!
How edits of one kind are put together. An edit is checked when a refusal leaves the state as it
was, however much of the edit lies before it. Reading before a checked edit is checked, and so is a
checked edit before one that is never refused. Similar rules show that an edit loses no refusal
(`Says`), that a property of the state is kept unless the edit overflows, with nothing missing that it
needs (`Safe`), and that an edit does not depend on a part of the state (`Respects`).
-/

namespace SplitScreen

namespace Edit

variable {σ α β : Type}

/-- A refusal leaves the state as it was. -/
def Checked (x : Edit σ α) : Prop :=
  ∀ ⦃s t : σ⦄ ⦃r : Refusal⦄, x.on s = (.error (.refused r), t) → t = s

/-- The edit is never refused. -/
def Accepts (x : Edit σ α) : Prop :=
  ∀ ⦃s t : σ⦄ ⦃r : Refusal⦄, x.on s ≠ (.error (.refused r), t)

/-- The edit never writes. -/
def Reads (x : Edit σ α) : Prop := ∀ s, (x.on s).2 = s

variable {P : σ → Prop} {x : Edit σ α} {f : α → Edit σ β}

theorem accepts_pure (a : α) : (pure a : Edit σ α).Accepts := by
  intro s t r h
  cases h

theorem accepts_set (t : σ) : (set t : Edit σ Unit).Accepts := by
  intro s t' r h
  cases h

theorem accepts_modify (g : σ → σ) : (modify g : Edit σ Unit).Accepts := by
  intro s t r h
  cases h

theorem reads_get : (get : Edit σ σ).Reads := fun _ => rfl

theorem reads_refuse (r : Refusal) : (refuse r : Edit σ α).Reads := fun _ => rfl

theorem reads_read (g : σ → Except Refusal α) : (read g).Reads := by
  intro s
  rw [on_read]

theorem reads_ofOutcome (r : Except Fault α) : (ofOutcome r : Edit σ α).Reads := by
  intro s
  rw [on_ofOutcome]

theorem Accepts.checked (h : x.Accepts) : x.Checked := by
  intro s t r hon
  exact absurd hon (@h s t r)

theorem Reads.checked (h : x.Reads) : x.Checked := by
  intro s t r hon
  rw [← h s, hon]

theorem Reads.bind (hx : x.Reads) (hf : ∀ a, (f a).Checked) : (x >>= f).Checked := by
  intro s t r hon
  rw [on_bind] at hon
  have hs := hx s
  rcases hxs : x.on s with ⟨a | fault, u⟩
  · rw [hxs] at hs hon
    obtain rfl : u = s := hs
    cases hon
    rfl
  · rw [hxs] at hs hon
    obtain rfl : u = s := hs
    exact hf _ hon

theorem Checked.bind (hx : x.Checked) (hf : ∀ a, (f a).Accepts) : (x >>= f).Checked := by
  intro s t r hon
  rw [on_bind] at hon
  rcases hxs : x.on s with ⟨fault | a, u⟩
  · rw [hxs] at hon
    cases hon
    exact hx hxs
  · rw [hxs] at hon
    exact absurd hon (@hf a u t r)

theorem Checked.map (hx : x.Checked) (g : α → β) : (g <$> x).Checked := by
  rw [map_eq_pure_bind]
  exact hx.bind fun a => accepts_pure (g a)

/-- An answer in another form does not hide what was written. -/
theorem Checked.of_map {g : α → β} (h : (g <$> x).Checked) : x.Checked := by
  intro s t r hon
  have hmap : (g <$> x).on s = (.error (.refused r), t) := by
    rw [on_map, hon]
    rfl
  exact h hmap

/-- No refusal of the edit is lost over an integer that is too long to be named. -/
def Says (x : Edit σ α) : Prop := ∀ ⦃s t : σ⦄, x.on s ≠ (.error .longInteger, t)

theorem says_pure (a : α) : (pure a : Edit σ α).Says := by
  intro s t h
  cases h

theorem says_get : (get : Edit σ σ).Says := by
  intro s t h
  cases h

theorem says_set (t : σ) : (set t : Edit σ Unit).Says := by
  intro s t' h
  cases h

theorem says_modify (g : σ → σ) : (modify g : Edit σ Unit).Says := by
  intro s t h
  cases h

theorem says_refuse (r : Refusal) : (refuse r : Edit σ α).Says := by
  intro s t h
  cases h

theorem says_read (g : σ → Except Refusal α) : (read g).Says := by
  intro s t h
  rw [on_read] at h
  cases hg : g s <;> rw [hg] at h <;> cases h

theorem Says.bind (hx : x.Says) (hf : ∀ a, (f a).Says) : (x >>= f).Says := by
  intro s t hon
  rw [on_bind] at hon
  rcases hxs : x.on s with ⟨fault | a, u⟩
  · rw [hxs] at hon
    cases hon
    exact hx hxs
  · rw [hxs] at hon
    exact hf a hon

theorem Says.of_map {g : α → β} (h : (g <$> x).Says) : x.Says := by
  intro s t hon
  have hmap : (g <$> x).on s = (.error .longInteger, t) := by
    rw [on_map, hon]
    rfl
  exact h hmap

/-- An edit ends with a property of the state, unless it overflows. -/
def Ends (P : σ → Prop) : Except Fault α × σ → Prop
  | (.ok _, s) | (.error (.refused _), s) | (.error .longInteger, s) => P s
  | (.error .overflow, _) => True
  | (.error .focusLost, _) | (.error .badMarkup, _) => False

/-- From a state with the property, the edit ends with the property or overflows. -/
def Safe (P : σ → Prop) (x : Edit σ α) : Prop := ∀ s, P s → Ends P (x.on s)

theorem ends_invalidRatio (ratio : Value) {s : σ} (hs : P s) :
    Ends P ((.error (.invalidRatio ratio), s) : Except Fault α × σ) := by
  rcases Fault.invalidRatio_cases ratio with h | h
  · rw [h]
    exact hs
  · rw [h]
    exact hs

theorem safe_pure (a : α) : Safe P (pure a : Edit σ α) := fun _ hs => hs

theorem safe_get : Safe P (get : Edit σ σ) := fun _ hs => hs

theorem safe_refuse (r : Refusal) : Safe P (refuse r : Edit σ α) := fun _ hs => hs

theorem safe_read (g : σ → Except Refusal α) : Safe P (read g) := by
  intro s hs
  rw [on_read]
  cases g s <;> exact hs

theorem safe_modify {g : σ → σ} (h : ∀ s, P s → P (g s)) : Safe P (modify g : Edit σ Unit) :=
  h

theorem Safe.bind (hx : Safe P x) (hf : ∀ a, Safe P (f a)) : Safe P (x >>= f) := by
  intro s hs
  have hxs := hx s hs
  rw [on_bind]
  rcases hon : x.on s with ⟨fault | a, u⟩
  · rw [hon] at hxs
    cases fault <;> exact hxs
  · rw [hon] at hxs
    exact hf a u hxs

theorem ends_map_iff (g : α → β) (r : Except Fault α) (s : σ) :
    Ends P (r.map g, s) ↔ Ends P (r, s) := by
  rcases r with fault | a
  · cases fault <;> rfl
  · rfl

theorem Safe.map (hx : Safe P x) (g : α → β) : Safe P (g <$> x) := by
  intro s hs
  rw [on_map, ends_map_iff]
  exact hx s hs

theorem Safe.of_map {g : α → β} (h : Safe P (g <$> x)) : Safe P x := by
  intro s hs
  have hmap := h s hs
  rw [on_map, ends_map_iff] at hmap
  exact hmap

variable {ω : Type} {view : σ → ω}

/-- From two states with the same view, the edit ends in the same way, in states with the same
view. -/
def Respects (view : σ → ω) (x : Edit σ α) : Prop :=
  ∀ ⦃s t : σ⦄, view s = view t → (x.on s).1 = (x.on t).1 ∧ view (x.on s).2 = view (x.on t).2

theorem respects_pure (a : α) : Respects view (pure a : Edit σ α) := fun _ _ h => ⟨rfl, h⟩

theorem respects_ofOutcome (r : Except Fault α) : Respects view (ofOutcome r : Edit σ α) := by
  intro s t h
  rw [on_ofOutcome, on_ofOutcome]
  exact ⟨rfl, h⟩

theorem respects_modify {g : σ → σ} (hg : ∀ s t, view s = view t → view (g s) = view (g t)) :
    Respects view (modify g : Edit σ Unit) :=
  fun s t h => ⟨rfl, hg s t h⟩

theorem respects_read {g : σ → Except Refusal α} (hg : ∀ s t, view s = view t → g s = g t) :
    Respects view (read g) := by
  intro s t h
  rw [on_read, on_read, hg s t h]
  exact ⟨rfl, h⟩

theorem Respects.bind (hx : Respects view x) (hf : ∀ a, Respects view (f a)) :
    Respects view (x >>= f) := by
  intro s t h
  obtain ⟨houtcome, hview⟩ := hx h
  rw [on_bind, on_bind]
  rcases hs : x.on s with ⟨r, u⟩
  rcases ht : x.on t with ⟨r', v⟩
  rw [hs, ht] at houtcome hview
  obtain rfl : r = r' := houtcome
  cases r with
  | error fault => exact ⟨rfl, hview⟩
  | ok a => exact hf a hview

theorem Respects.map (hx : Respects view x) (g : α → β) : Respects view (g <$> x) := by
  rw [map_eq_pure_bind]
  exact hx.bind fun a => respects_pure (g a)

end Edit

end SplitScreen
