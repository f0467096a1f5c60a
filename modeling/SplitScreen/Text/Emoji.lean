import SplitScreen.Text.Characters
import SplitScreen.Text.EmojiTable
import SplitScreen.Text.Lower

namespace SplitScreen

namespace Emoji

def lookUp (name : List Char) : List (List Char) → Option (List Char)
  | key :: emoji :: rest => if key = name then some emoji else lookUp name rest
  | _ => none

def named? (name : List Char) : Option (List Char) :=
  lookUp (name.map Lower.ofChar) (splitAt isBlank table.toList |>.filter (!·.isEmpty))

/-- The form that is asked for at the end of a name, as the character that asks for it. -/
def forms : List (List Char × Char) :=
  [("-emoji".toList, '\ufe0f'), ("-text".toList, '\ufe0e')]

/-- The emoji of what stands between two colons. A form can only be asked for after a name. -/
def ofCode? (code : List Char) : Option (List Char) :=
  match forms.find? fun form => form.1.isSuffixOf code with
  | some (suffix, mark) =>
    (named? (code.take (code.length - suffix.length))).map (· ++ [mark])
  | none => named? code

/-- The text up to the next colon and the text after it, unless a blank comes first. -/
def upToColon? : List Char → Option (List Char × List Char)
  | [] => none
  | c :: rest =>
    if c = ':' then some ([], rest)
    else if isBlank c then none
    else (upToColon? rest).map fun found => (c :: found.1, found.2)

theorem length_lt_of_upToColon? {cs code rest : List Char} (h : upToColon? cs = some (code, rest)) :
    rest.length < cs.length := by
  induction cs generalizing code with
  | nil => simp [upToColon?] at h
  | cons c more ih =>
    unfold upToColon? at h
    split at h
    · cases h; simp
    · split at h
      · simp at h
      · obtain ⟨⟨a, b⟩, hab, heq⟩ := Option.map_eq_some_iff.1 h
        obtain ⟨-, rfl⟩ := Prod.mk.inj heq
        exact Nat.lt_succ_of_lt (ih hab)

/-- Puts emoji in the place of their names. What stands between two colons and is no name stays as
it is, with its colons. -/
def replace : List Char → List Char
  | [] => []
  | c :: rest =>
    if c = ':' then
      match h : upToColon? rest with
      | none => c :: replace rest
      | some (code, after) =>
        have := length_lt_of_upToColon? h
        ((ofCode? code).getD (':' :: code ++ [':'])) ++ replace after
    else c :: replace rest
termination_by cs => cs.length

end Emoji

end SplitScreen
