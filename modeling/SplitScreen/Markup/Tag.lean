namespace SplitScreen

namespace Markup

def inside? : List Char → Option (List Char × List Char)
  | [] => none
  | c :: rest =>
    if c = ']' then some ([], rest)
    else if c = '[' then none
    else (inside? rest).map fun found => (c :: found.1, found.2)

theorem length_lt_of_inside? {cs body rest : List Char} (h : inside? cs = some (body, rest)) :
    rest.length < cs.length := by
  induction cs generalizing body with
  | nil => simp [inside?] at h
  | cons c more ih =>
    unfold inside? at h
    split at h
    · cases h; simp
    · split at h
      · simp at h
      · obtain ⟨⟨a, b⟩, hab, heq⟩ := Option.map_eq_some_iff.1 h
        obtain ⟨-, rfl⟩ := Prod.mk.inj heq
        exact Nat.lt_succ_of_lt (ih hab)

def startsTag (c : Char) : Bool := ('a' ≤ c && c ≤ 'z') || c == '#' || c == '/' || c == '@'

def tag? : List Char → Option (Nat × List Char × List Char)
  | '\\' :: rest => (tag? rest).map fun found => (found.1 + 1, found.2)
  | '[' :: c :: rest =>
    if startsTag c then (inside? rest).map fun found => (0, c :: found.1, found.2) else none
  | _ => none

theorem length_lt_of_tag? {cs body rest : List Char} {n : Nat}
    (h : tag? cs = some (n, body, rest)) :
    rest.length < cs.length := by
  fun_induction tag? cs generalizing n with
  | case1 more ih =>
    obtain ⟨⟨m, found⟩, hm, heq⟩ := Option.map_eq_some_iff.1 h
    obtain ⟨-, rfl⟩ := Prod.mk.inj heq
    exact Nat.lt_succ_of_lt (ih hm)
  | case2 c more hc =>
    obtain ⟨⟨a, b⟩, hab, heq⟩ := Option.map_eq_some_iff.1 h
    obtain ⟨-, h₂⟩ := Prod.mk.inj heq
    obtain ⟨-, rfl⟩ := Prod.mk.inj h₂
    have := length_lt_of_inside? hab
    simp only [List.length_cons]; omega
  | case3 => simp at h
  | case4 => simp at h

end Markup

end SplitScreen
