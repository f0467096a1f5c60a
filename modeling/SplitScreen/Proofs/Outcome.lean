namespace SplitScreen

variable {ε α β : Type} {x : Except ε α} {b : β}

theorem exists_of_bind {f : α → Except ε β} (h : x >>= f = .ok b) :
    ∃ a, x = .ok a ∧ f a = .ok b := by
  cases x with
  | error e => cases h
  | ok a => exact ⟨a, rfl, h⟩

/-- What fails in the end has failed at once, or after it has succeeded on the way. -/
theorem error_or_exists_of_bind {f : α → Except ε β} {e : ε} (h : x >>= f = .error e) :
    x = .error e ∨ ∃ a, x = .ok a ∧ f a = .error e := by
  cases x with
  | error e' => exact Or.inl (congrArg Except.error (Except.error.inj h))
  | ok a => exact Or.inr ⟨a, rfl, h⟩

theorem exists_of_map {f : α → β} (h : x.map f = .ok b) : ∃ a, x = .ok a ∧ f a = b := by
  cases x with
  | error e => cases h
  | ok a => exact ⟨a, rfl, Except.ok.inj h⟩

theorem eq_ok_of_toOption {a : α} (h : x.toOption = some a) : x = .ok a := by
  cases x with
  | error e => cases h
  | ok a' => rw [Option.some.inj h]

section MapError

variable {ε' : Type} {f : ε → ε'} {a : α}

theorem mapError_ok : (.ok a : Except ε α).mapError f = .ok a :=
  rfl

theorem mapError_error {e : ε} : (.error e : Except ε α).mapError f = .error (f e) :=
  rfl

theorem mapError_eq_ok_iff : x.mapError f = .ok a ↔ x = .ok a := by
  cases x with
  | error e =>
      constructor
      · nofun
      · nofun
  | ok b => rw [mapError_ok, Except.ok.injEq, Except.ok.injEq]

end MapError

section FilterM

variable {q : α → Except ε Bool} {xs ys acc : List α} {e : ε}

theorem filterAuxM_eq_filter (h : xs.filterAuxM q acc = .ok ys) :
    ys = (xs.filter fun x => (q x).toOption.getD false).reverse ++ acc := by
  induction xs generalizing acc with
  | nil => exact (Except.ok.inj h).symm
  | cons x xs ih =>
      rw [List.filterAuxM] at h
      obtain ⟨kept, hkept, h⟩ := exists_of_bind h
      rw [ih h, List.filter_cons, hkept]
      cases kept with
      | false => rfl
      | true => simp [Except.toOption]

theorem filterM_eq_filter (h : xs.filterM q = .ok ys) :
    ys = xs.filter fun x => (q x).toOption.getD false := by
  obtain ⟨zs, haux, hzs⟩ := exists_of_bind h
  obtain rfl := Except.ok.inj hzs
  rw [filterAuxM_eq_filter haux, List.append_nil, List.reverse_reverse]

theorem filterAuxM_eq_error (h : xs.filterAuxM q acc = .error e) : ∃ x ∈ xs, q x = .error e := by
  induction xs generalizing acc with
  | nil => cases h
  | cons x xs ih =>
      rw [List.filterAuxM] at h
      rcases error_or_exists_of_bind h with hx | ⟨kept, -, h⟩
      · exact ⟨x, List.mem_cons_self, hx⟩
      · obtain ⟨y, hy, herror⟩ := ih h
        exact ⟨y, List.mem_cons_of_mem _ hy, herror⟩

theorem filterM_eq_error (h : xs.filterM q = .error e) : ∃ x ∈ xs, q x = .error e := by
  rcases error_or_exists_of_bind h with haux | ⟨zs, -, h⟩
  · exact filterAuxM_eq_error haux
  · cases h

end FilterM

end SplitScreen
