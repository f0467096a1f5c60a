import SplitScreen.Proofs.Json.Scalar

/-!
JSON that is written and read again. A plain value, which is made of what JSON has, comes back from
its text (`Value.Plain.readsBack`): by induction on the value, for every level of indentation and
whatever comes after it, as long as a number cannot go on there. The text of a value is as long as
the steps that reading it takes.
-/

namespace SplitScreen

namespace Json

theorem word_append (text : String) (v : Value) (rest : List Char) :
    word text v (text.toList ++ rest) = .ok (v, rest) := by
  rw [word, if_pos (by simp), ← String.length_toList, List.drop_left]

theorem exists_toDigits (n : Nat) :
    ∃ c cs, Nat.toDigits 10 n = c :: cs ∧ c.isDigit = true := by
  cases hdigits : Nat.toDigits 10 n with
  | nil => exact absurd hdigits Nat.toDigits_ne_nil
  | cons c cs => exact ⟨c, cs, rfl, isDigit_of_mem (hdigits ▸ List.mem_cons_self)⟩

theorem value_toDigits (steps n : Nat) (rest : List Char) :
    value (steps + 1) (Nat.toDigits 10 n ++ rest) = number false (Nat.toDigits 10 n ++ rest) := by
  obtain ⟨c, cs, hdigits, hc⟩ := exists_toDigits n
  rw [hdigits, List.cons_append]
  unfold value
  split
  all_goals first | exact absurd hc (by decide) | rfl

theorem value_minus (steps n : Nat) (rest : List Char) :
    value (steps + 1) ('-' :: (Nat.toDigits 10 n ++ rest)) =
      number true (Nat.toDigits 10 n ++ rest) := by
  obtain ⟨c, cs, hdigits, hc⟩ := exists_toDigits n
  rw [hdigits, List.cons_append]
  unfold value
  simp only
  split
  · next hcons =>
      obtain ⟨rfl, -⟩ := List.cons.inj hcons
      exact absurd hc (by decide)
  · rfl

/-- What a value starts with is no blank, and does not close a list. -/
theorem head_of_value {steps : Nat} {cs rest : List Char} {v : Value}
    (h : value steps cs = .ok (v, rest)) :
    ∃ c more, cs = c :: more ∧ isBlank c = false ∧ c ≠ ']' := by
  cases steps with
  | zero => simp [value] at h
  | succ steps =>
      cases cs with
      | nil => simp [value] at h
      | cons c more =>
          refine ⟨c, more, rfl, ?_, ?_⟩
          · by_contra hblank
            have hc : c = ' ' ∨ c = '\t' ∨ c = '\n' ∨ c = '\r' := by
              simp only [isBlank, Bool.or_eq_false_iff, decide_eq_false_iff_not] at hblank
              tauto
            rcases hc with rfl | rfl | rfl | rfl <;>
              simp [value, number, integerPart, Digits.span] at h
          · rintro rfl
            simp [value, number, integerPart, Digits.span] at h

theorem skipBlanks_cons {c : Char} (h : isBlank c = false) (cs : List Char) :
    skipBlanks (c :: cs) = c :: cs := by
  simp [skipBlanks, h]

theorem toList_lineBreak (level : Nat) :
    (lineBreak level).toList = '\n' :: List.replicate (2 * level) ' ' :=
  String.toList_ofList

theorem stops_comma (cs : List Char) : Stops (',' :: cs) := stops_cons (by decide)

theorem stops_lineBreak (level : Nat) (cs : List Char) :
    Stops ((lineBreak level).toList ++ cs) := by
  rw [toList_lineBreak]
  exact stops_cons (by decide)

theorem skipBlanks_lineBreak (level : Nat) (cs : List Char) :
    skipBlanks ((lineBreak level).toList ++ cs) = skipBlanks cs := by
  have hblank : ∀ c ∈ (lineBreak level).toList, isBlank c = true := by
    intro c hc
    rw [toList_lineBreak] at hc
    rcases List.mem_cons.mp hc with rfl | hc
    · rfl
    · rw [List.eq_of_mem_replicate hc]
      rfl
  exact List.dropWhile_append_of_pos hblank

end Json

/-- A value that is the same after it is written as JSON and read again: made of what JSON has, of
texts without lone halves and of integers that are not too long. -/
inductive Value.Plain : Value → Prop
  | null : Plain .null
  | bool (b : Bool) : Plain (.bool b)
  | int {n : Int} (h : LongInteger.isLong n = false) : Plain (.int n)
  | text (s : String) : Plain (.text s)
  | list {items : List Value} (h : ∀ v ∈ items, Plain v) : Plain (.list items)
  | table {entries : Assoc Text Value} (hnodup : entries.keys.Nodup)
    (hkeys : ∀ entry ∈ entries, ∃ s : String, entry.1 = s) (h : ∀ entry ∈ entries, Plain entry.2) :
    Plain (.table entries)

namespace Value

mutual

def isPlain : Value → Bool
  | null | bool _ => true
  | int n => !LongInteger.isLong n
  | text s => s.toString?.isSome
  | list items => arePlain items
  | table entries => decide (Assoc.keys entries).Nodup && haveEntriesPlain entries
  | _ => false

def arePlain : List Value → Bool
  | [] => true
  | item :: rest => item.isPlain && arePlain rest

def haveEntriesPlain : List (Text × Value) → Bool
  | [] => true
  | (key, item) :: rest => key.toString?.isSome && item.isPlain && haveEntriesPlain rest

end

mutual

theorem plain_of_isPlain {v : Value} (h : v.isPlain = true) : v.Plain := by
  cases v with
  | null => exact .null
  | bool b => exact .bool b
  | int n => exact .int (Bool.not_eq_true' _ ▸ h)
  | text t =>
      obtain ⟨s, hs⟩ := Option.isSome_iff_exists.mp h
      rw [Text.toString?_eq_some_iff.mp hs]
      exact .text s
  | list items => exact .list (plain_of_arePlain h)
  | table entries =>
      obtain ⟨hnodup, hentries⟩ := Bool.and_eq_true_iff.mp h
      have hplain := plain_of_haveEntriesPlain hentries
      exact .table (of_decide_eq_true hnodup) (fun e he => (hplain e he).1) fun e he =>
        (hplain e he).2
  | float | tuple | date | time | moment => cases h

theorem plain_of_arePlain {items : List Value} (h : arePlain items = true) :
    ∀ v ∈ items, v.Plain := by
  cases items with
  | nil => nofun
  | cons item rest =>
      obtain ⟨hitem, hrest⟩ := Bool.and_eq_true_iff.mp h
      exact List.forall_mem_cons.mpr ⟨plain_of_isPlain hitem, plain_of_arePlain hrest⟩

theorem plain_of_haveEntriesPlain {entries : List (Text × Value)}
    (h : haveEntriesPlain entries = true) :
    ∀ entry ∈ entries, (∃ s : String, entry.1 = s) ∧ entry.2.Plain := by
  cases entries with
  | nil => nofun
  | cons entry rest =>
      obtain ⟨key, item⟩ := entry
      obtain ⟨hentry, hrest⟩ := Bool.and_eq_true_iff.mp h
      obtain ⟨hkey, hitem⟩ := Bool.and_eq_true_iff.mp hentry
      obtain ⟨s, hs⟩ := Option.isSome_iff_exists.mp hkey
      exact List.forall_mem_cons.mpr ⟨⟨⟨s, Text.toString?_eq_some_iff.mp hs⟩,
        plain_of_isPlain hitem⟩, plain_of_haveEntriesPlain hrest⟩

end

end Value

namespace Json

/-- What is written, without a fault, is read as a value, whatever comes after it. -/
structure Reads (w : Written) (v : Value) : Prop where
  fault : w.fault = none
  value (steps : Nat) (h : w.text.toList.length ≤ steps + 1) {rest : List Char}
    (hrest : Stops rest) : value (steps + 1) (w.text.toList ++ rest) = .ok (v, rest)

theorem reads_quote (s : String) : Reads (quote s) (.text s) := by
  refine ⟨rfl, fun steps _ rest _ => ?_⟩
  rw [toList_quote, List.cons_append, List.append_assoc, List.singleton_append]
  unfold value
  simp only [string_flatMap_escape]
  rfl

theorem reads_int {n : Int} (h : LongInteger.isLong n = false) :
    Reads (toString n : String) (.int n) := by
  refine ⟨rfl, fun steps _ rest hrest => ?_⟩
  have hshort := decide_eq_false_iff_not.mp h
  cases n with
  | ofNat n =>
      have htext : (toString (Int.ofNat n)).toList = Nat.toDigits 10 n := by
        rw [show toString (Int.ofNat n) = Nat.repr n from rfl, Nat.repr_eq_ofList_toDigits,
          String.toList_ofList]
      rw [htext, value_toDigits]
      exact number_toDigits false hshort hrest
  | negSucc n =>
      have htext : (toString (Int.negSucc n)).toList = '-' :: Nat.toDigits 10 (n + 1) := by
        rw [show toString (Int.negSucc n) = "-" ++ Nat.repr (n + 1) from rfl,
          Nat.repr_eq_ofList_toDigits, String.toList_append]
        exact congrArg ('-' :: ·) String.toList_ofList
      rw [htext, List.cons_append, value_minus]
      exact number_toDigits true hshort hrest

theorem reads_scalar {v : Value} (h : v.Plain) (hscalar : isAtOnce v = true) :
    Reads (scalar v) v := by
  cases h with
  | null => exact ⟨rfl, fun steps _ rest _ => word_append "null" .null rest⟩
  | bool b =>
      cases b with
      | true => exact ⟨rfl, fun steps _ rest _ => word_append "true" (.bool true) rest⟩
      | false => exact ⟨rfl, fun steps _ rest _ => word_append "false" (.bool false) rest⟩
  | int hn =>
      rw [scalar, hn]
      exact reads_int hn
  | text s => exact reads_quote s
  | list | table => cases hscalar

theorem Reads.head {w : Written} {v : Value} (h : Reads w v) :
    ∃ c more, w.text.toList = c :: more ∧ isBlank c = false := by
  have hvalue := h.value w.text.toList.length (Nat.le_succ _) stops_nil
  rw [List.append_nil] at hvalue
  obtain ⟨c, more, hcons, hblank, -⟩ := head_of_value hvalue
  exact ⟨c, more, hcons, hblank⟩

theorem exists_head_append {s : String} (t : String)
    (h : ∃ c more, s.toList = c :: more ∧ isBlank c = false) :
    ∃ c more, (s ++ t).toList = c :: more ∧ isBlank c = false := by
  obtain ⟨c, more, hcons, hblank⟩ := h
  exact ⟨c, more ++ t.toList, by rw [String.toList_append, hcons, List.cons_append], hblank⟩

theorem append_of_fault_none {v w : Written} (h : v.fault = none) :
    v ++ w = ⟨v.text ++ w.text, w.fault⟩ := by
  change Written.append v w = _
  rw [Written.append, h]

/-- What stands between brackets, on lines of its own, is read up to the closing bracket. -/
structure Fills {α : Type} (read : Nat → List Char → Except ReadError (α × List Char))
    (close : Char) (body : String) (a : α) : Prop where
  head : ∃ c more, body.toList = c :: more ∧ isBlank c = false
  read {steps : Nat} (h : body.toList.length ≤ steps + 1) (level : Nat) (rest : List Char) :
    read (steps + 2) (body.toList ++ ((lineBreak level).toList ++ close :: rest)) = .ok (a, rest)

section Fills

variable {α : Type} {read : Nat → List Char → Except ReadError (α × List Char)} {close : Char}
  {body : String} {a : α}

theorem Fills.length_pos (h : Fills read close body a) : 0 < body.toList.length := by
  obtain ⟨c, more, hcons, -⟩ := h.head
  rw [hcons]
  exact Nat.succ_pos _

theorem Fills.skipBlanks (h : Fills read close body a) (level : Nat) (rest : List Char) :
    skipBlanks ((lineBreak level).toList ++ (body.toList ++ rest)) = body.toList ++ rest := by
  obtain ⟨c, more, hcons, hblank⟩ := h.head
  rw [skipBlanks_lineBreak, hcons, List.cons_append, skipBlanks_cons hblank]

/-- With its brackets around it, it is read after the opening one. -/
theorem Fills.read_enclosed (h : Fills read close body a) (start : Char) (level : Nat)
    {steps : Nat} {rest : List Char} {text : String}
    (htext : text = String.ofList [start] ++ (lineBreak (level + 1) ++
      (body ++ (lineBreak level ++ String.ofList [close]))))
    (hsteps : text.toList.length ≤ steps + 1) :
    ∃ cs, text.toList ++ rest = start :: cs ∧ read steps (Json.skipBlanks cs) = .ok (a, rest) := by
  have hpos := h.length_pos
  simp only [htext, String.toList_append, String.toList_ofList, List.length_append,
    toList_lineBreak, List.length_cons, List.length_nil] at hsteps
  obtain ⟨steps, rfl⟩ : ∃ k, steps = k + 2 := ⟨steps - 2, by omega⟩
  refine ⟨(lineBreak (level + 1)).toList ++
    (body.toList ++ ((lineBreak level).toList ++ close :: rest)), ?_, ?_⟩
  · simp only [htext, String.toList_append, String.toList_ofList, List.append_assoc,
      List.cons_append, List.nil_append]
  · rw [h.skipBlanks]
    exact h.read (by omega) level rest

end Fills

section Items

variable {steps : Nat} {cs rest more after : List Char} {v : Value} {elements : List Value}

theorem items_last (hvalue : value steps cs = .ok (v, rest))
    (hrest : skipBlanks rest = ']' :: more) : items (steps + 1) cs = .ok ([v], more) := by
  rw [items, hvalue]
  simp only [bind, Except.bind, hrest]
  rfl

theorem items_cons (hvalue : value steps cs = .ok (v, rest))
    (hrest : skipBlanks rest = ',' :: more)
    (hmore : items steps (skipBlanks more) = .ok (elements, after)) :
    items (steps + 1) cs = .ok (v :: elements, after) := by
  rw [items, hvalue]
  simp only [bind, Except.bind, hrest, hmore]
  rfl

theorem value_list (h : items steps (skipBlanks cs) = .ok (elements, rest)) :
    value (steps + 1) ('[' :: cs) = .ok (.list elements, rest) := by
  obtain ⟨c, more, hcons, -, hc⟩ : ∃ c more, skipBlanks cs = c :: more ∧ isBlank c = false ∧
      c ≠ ']' := by
    cases steps with
    | zero => cases h
    | succ steps =>
        unfold items at h
        cases hvalue : value steps (skipBlanks cs) with
        | error e => simp [hvalue, bind, Except.bind] at h
        | ok result => exact head_of_value hvalue
  rw [hcons] at h
  unfold value
  simp only [hcons]
  split
  · next hclose => exact absurd (List.cons.inj hclose).1 hc
  · rw [h]
    rfl

end Items

theorem exists_writeItems {level : Nat} {elements : List Value} (hne : elements ≠ [])
    (h : ∀ v ∈ elements, Reads (writeAt level v) v) :
    ∃ body : String, (∀ lead, writeItems level lead elements = ⟨lead ++ body, none⟩) ∧
      Fills items ']' body elements := by
  induction elements with
  | nil => exact absurd rfl hne
  | cons v vs ih =>
      have hv := h v List.mem_cons_self
      have hlead : ∀ lead : String, (if isAtOnce v then ((lead : Written) ++ writeAt level v).atOnce
          else (lead : Written) ++ writeAt level v) = ⟨lead ++ (writeAt level v).text, none⟩ := by
        intro lead
        rw [append_of_fault_none rfl, hv.fault]
        exact ite_self _
      -- The last element ends at the line break before the bracket, any other at its comma.
      cases vs with
      | nil =>
          refine ⟨(writeAt level v).text, fun lead => ?_, hv.head,
            fun {steps} hsteps below rest => ?_⟩
          · rw [writeItems, hlead, writeItems, append_of_fault_none rfl, String.append_empty]
          · have hvalue := hv.value steps hsteps (stops_lineBreak below (']' :: rest))
            exact items_last hvalue (skipBlanks_lineBreak below _)
      | cons w ws =>
          obtain ⟨body, hwrite, hfills⟩ :=
            ih (List.cons_ne_nil w ws) fun u hu => h u (List.mem_cons_of_mem v hu)
          refine ⟨(writeAt level v).text ++ (String.ofList [','] ++ (lineBreak level ++ body)),
            fun lead => ?_, exists_head_append _ hv.head, fun {steps} hsteps below rest => ?_⟩
          · rw [writeItems, hlead, hwrite, append_of_fault_none rfl]
            simp only [String.append_assoc]
          · -- The element takes one step, and its comma one character, so the others have enough.
            have hpos := hfills.length_pos
            simp only [String.toList_append, String.toList_ofList, List.length_append,
              List.length_singleton] at hsteps
            obtain ⟨steps, rfl⟩ : ∃ k, steps = k + 1 := ⟨steps - 1, by omega⟩
            have hmore := hfills.read (show _ ≤ steps + 1 by omega) below rest
            rw [← hfills.skipBlanks level] at hmore
            have hvalue := fun cs => hv.value (steps + 1) (by omega) (stops_comma cs)
            simp only [String.toList_append, String.toList_ofList, List.append_assoc,
              List.cons_append, List.nil_append]
            exact items_cons (hvalue _) (skipBlanks_cons rfl _) hmore

theorem reads_list {elements : List Value} (level : Nat)
    (h : ∀ v ∈ elements, Reads (writeAt (level + 1) v) v) :
    Reads (writeAt level (.list elements)) (.list elements) := by
  cases elements with
  | nil =>
      have htext : writeAt level (.list []) = ("[]" : Written) := by
        rw [writeAt]
        rfl
      rw [htext]
      refine ⟨rfl, fun steps _ rest _ => ?_⟩
      change value (steps + 1) ('[' :: ']' :: rest) = _
      unfold value
      rfl
  | cons w ws =>
      obtain ⟨body, hwrite, hfills⟩ := exists_writeItems (List.cons_ne_nil w ws) h
      have htext : writeAt level (.list (w :: ws)) =
          ⟨String.ofList ['['] ++ (lineBreak (level + 1) ++
            (body ++ (lineBreak level ++ String.ofList [']']))), none⟩ := by
        rw [writeAt, writeAt.writeList, writeAt.opening, hwrite]
        simp only [List.isEmpty_cons, Bool.false_eq_true, if_false, append_of_fault_none,
          String.append_assoc]
      rw [htext]
      refine ⟨rfl, fun steps hsteps rest _ => ?_⟩
      obtain ⟨cs, hcons, hitems⟩ := hfills.read_enclosed '[' level rfl hsteps
      rw [hcons]
      exact value_list hitems

section Members

variable {steps : Nat} {cs rest more after : List Char} {v : Value}
  {entries : List (Text × Value)}

theorem string_quote (s : String) (cs : List Char) :
    ∃ more, (quote s).toList ++ ':' :: ' ' :: cs = '"' :: more ∧
      string more = .ok (s, ':' :: ' ' :: cs) := by
  refine ⟨(Text.ofString s).symbols.flatMap escape ++ '"' :: ':' :: ' ' :: cs, ?_,
    string_flatMap_escape s _⟩
  rw [toList_quote, List.cons_append, List.append_assoc, List.singleton_append]

theorem skipBlanks_of_value (h : value steps cs = .ok (v, rest)) :
    skipBlanks (' ' :: cs) = cs := by
  obtain ⟨c, more, rfl, hblank, -⟩ := head_of_value h
  exact skipBlanks_cons hblank more

theorem members_last (s : String) (hvalue : value steps cs = .ok (v, rest))
    (hrest : skipBlanks rest = '\x7d' :: more) :
    members (steps + 1) ((quote s).toList ++ ':' :: ' ' :: cs) = .ok ([((s : Text), v)], more) := by
  obtain ⟨body, hquote, hstring⟩ := string_quote s cs
  rw [hquote, members, hstring]
  simp only [bind, Except.bind, skipBlanks_cons (show isBlank ':' = false from rfl),
    skipBlanks_of_value hvalue, hvalue, hrest]
  rfl

theorem members_cons (s : String) (hvalue : value steps cs = .ok (v, rest))
    (hrest : skipBlanks rest = ',' :: more)
    (hmore : members steps (skipBlanks more) = .ok (entries, after)) :
    members (steps + 1) ((quote s).toList ++ ':' :: ' ' :: cs) =
      .ok (((s : Text), v) :: entries, after) := by
  obtain ⟨body, hquote, hstring⟩ := string_quote s cs
  rw [hquote, members, hstring]
  simp only [bind, Except.bind, skipBlanks_cons (show isBlank ':' = false from rfl),
    skipBlanks_of_value hvalue, hvalue, hrest, hmore]
  rfl

theorem value_table (h : members steps (skipBlanks cs) = .ok (entries, rest)) :
    value (steps + 1) ('\x7b' :: cs) = .ok (.table (Assoc.ofList entries), rest) := by
  obtain ⟨more, hcons⟩ : ∃ more, skipBlanks cs = '"' :: more := by
    unfold members at h
    split at h
    · cases h
    · next hcons => exact ⟨_, hcons⟩
    · cases h
  rw [hcons] at h
  unfold value
  simp only [hcons]
  split
  · next hclose => cases hclose
  · rw [h]
    rfl

end Members

theorem exists_writeMembers {level : Nat} {entries : List (Text × Value)} (hne : entries ≠ [])
    (hkeys : ∀ entry ∈ entries, ∃ s : String, entry.1 = s)
    (h : ∀ entry ∈ entries, Reads (writeAt level entry.2) entry.2) :
    ∃ body : String, (∀ lead, writeMembers level lead entries = ⟨lead ++ body, none⟩) ∧
      Fills members '\x7d' body entries := by
  induction entries with
  | nil => exact absurd rfl hne
  | cons entry others ih =>
      obtain ⟨key, v⟩ := entry
      obtain ⟨s, rfl⟩ : ∃ s : String, key = s := hkeys _ List.mem_cons_self
      have hv : Reads (writeAt level v) v := h _ List.mem_cons_self
      have hquote : ∃ c more, (quote s).toList = c :: more ∧ isBlank c = false :=
        ⟨'"', _, toList_quote _, rfl⟩
      have hlead : ∀ lead : String,
          ((lead : Written) ++ (quote s : Written) ++ (": " : Written) ++ writeAt level v) =
            ⟨lead ++ (quote s ++ (String.ofList [':', ' '] ++ (writeAt level v).text)), none⟩ := by
        intro lead
        simp only [append_of_fault_none, hv.fault, String.append_assoc]
      cases others with
      | nil =>
          refine ⟨quote s ++ (String.ofList [':', ' '] ++ (writeAt level v).text), fun lead => ?_,
            exists_head_append _ hquote, fun {steps} hsteps below rest => ?_⟩
          · rw [writeMembers, hlead, writeMembers, append_of_fault_none rfl, String.append_empty]
          · simp only [String.toList_append, List.length_append] at hsteps
            have hvalue := hv.value steps (by omega) (stops_lineBreak below ('\x7d' :: rest))
            simp only [String.toList_append, String.toList_ofList, List.append_assoc,
              List.cons_append, List.nil_append]
            exact members_last s hvalue (skipBlanks_lineBreak below _)
      | cons other others =>
          obtain ⟨body, hwrite, hfills⟩ := ih (List.cons_ne_nil other others)
            (fun e he => hkeys e (List.mem_cons_of_mem _ he))
            fun e he => h e (List.mem_cons_of_mem _ he)
          refine ⟨quote s ++ (String.ofList [':', ' '] ++ ((writeAt level v).text ++
              (String.ofList [','] ++ (lineBreak level ++ body)))), fun lead => ?_,
            exists_head_append _ hquote, fun {steps} hsteps below rest => ?_⟩
          · rw [writeMembers, hlead, hwrite, append_of_fault_none rfl]
            simp only [String.append_assoc]
          · have hpos := hfills.length_pos
            simp only [String.toList_append, String.toList_ofList, List.length_append,
              List.length_singleton] at hsteps
            obtain ⟨steps, rfl⟩ : ∃ k, steps = k + 1 := ⟨steps - 1, by omega⟩
            have hmore := hfills.read (show _ ≤ steps + 1 by omega) below rest
            rw [← hfills.skipBlanks level] at hmore
            have hvalue := fun cs => hv.value (steps + 1) (by omega) (stops_comma cs)
            simp only [String.toList_append, String.toList_ofList, List.append_assoc,
              List.cons_append, List.nil_append]
            exact members_cons s (hvalue _) (skipBlanks_cons rfl _) hmore

theorem reads_table {entries : Assoc Text Value} (level : Nat) (hnodup : entries.keys.Nodup)
    (hkeys : ∀ entry ∈ entries, ∃ s : String, entry.1 = s)
    (h : ∀ entry ∈ entries, Reads (writeAt (level + 1) entry.2) entry.2) :
    Reads (writeAt level (.table entries)) (.table entries) := by
  cases entries with
  | nil =>
      have htext : writeAt level (.table []) = ("\x7b\x7d" : Written) := by
        rw [writeAt]
        rfl
      rw [htext]
      refine ⟨rfl, fun steps _ rest _ => ?_⟩
      change value (steps + 1) ('\x7b' :: '\x7d' :: rest) = _
      unfold value
      rfl
  | cons e others =>
      obtain ⟨body, hwrite, hfills⟩ :=
        exists_writeMembers (List.cons_ne_nil e others) hkeys h
      have htext : writeAt level (.table (e :: others)) =
          ⟨String.ofList ['\x7b'] ++ (lineBreak (level + 1) ++
            (body ++ (lineBreak level ++ String.ofList ['\x7d']))), none⟩ := by
        rw [writeAt, hwrite]
        simp only [List.isEmpty_cons, Bool.false_eq_true, if_false, append_of_fault_none,
          String.append_assoc]
      rw [htext]
      refine ⟨rfl, fun steps hsteps rest _ => ?_⟩
      obtain ⟨cs, hcons, hmembers⟩ := hfills.read_enclosed '\x7b' level rfl hsteps
      rw [hcons]
      have htable := value_table hmembers
      rw [Assoc.ofList_eq_self hnodup] at htable
      exact htable

end Json

theorem Value.Plain.reads {v : Value} (h : v.Plain) (level : Nat) :
    Json.Reads (Json.writeAt level v) v := by
  induction h generalizing level with
  | null => exact Json.reads_scalar .null rfl
  | bool b => exact Json.reads_scalar (.bool b) rfl
  | int hn =>
      rw [Json.writeAt]
      exact Json.reads_scalar (.int hn) rfl
  | text s => exact Json.reads_scalar (.text s) rfl
  | list h ih => exact Json.reads_list level fun v hv => ih v hv (level + 1)
  | table hnodup hkeys h ih =>
      exact Json.reads_table level hnodup hkeys fun entry he => ih entry he (level + 1)

namespace Json

/-- The value is written without a fault, and read again from what was written. -/
def ReadsBack (v : Value) : Prop := (write v).fault = none ∧ read (write v).text = .ok v

theorem eq_of_word {t : String} {v w : Value} {cs rest : List Char}
    (h : word t v cs = .ok (w, rest)) : w = v := by
  unfold word at h
  split at h
  · exact (Prod.mk.inj (Except.ok.inj h)).1.symm
  · cases h

theorem number_ne_table {negative : Bool} {cs rest : List Char} {entries : Assoc Text Value} :
    number negative cs ≠ .ok (.table entries, rest) := by
  intro h
  unfold number at h
  simp only at h
  split at h
  · cases h
  · split at h
    · split at h
      · cases h
      · cases h
    · cases h

theorem nodup_keys_of_value {steps : Nat} {cs rest : List Char} {entries : Assoc Text Value}
    (h : value steps cs = .ok (.table entries, rest)) : entries.keys.Nodup := by
  cases steps with
  | zero => simp [value] at h
  | succ steps =>
      cases cs with
      | nil => simp [value] at h
      | cons c more =>
          unfold value at h
          split at h
          · -- a string
            cases hstring : string more with
            | error e => simp [hstring, bind, Except.bind] at h
            | ok result => simp [hstring, bind, Except.bind, pure, Except.pure] at h
          · -- a list
            split at h
            · cases h
            · cases hitems : items steps (skipBlanks more) with
              | error e => simp [hitems, bind, Except.bind] at h
              | ok result => simp [hitems, bind, Except.bind, pure, Except.pure] at h
          · -- an object
            split at h
            · obtain ⟨hentries, -⟩ := Prod.mk.inj (Except.ok.inj h)
              obtain rfl := Value.table.inj hentries
              exact List.nodup_nil
            · cases hmembers : members steps (skipBlanks more) with
              | error e => simp [hmembers, bind, Except.bind] at h
              | ok result =>
                  simp only [hmembers, bind, Except.bind, pure, Except.pure, Except.ok.injEq,
                    Prod.mk.injEq, Value.table.injEq] at h
                  rw [← h.1]
                  exact Assoc.nodup_keys_ofList _
          · exact absurd (eq_of_word h) nofun
          · exact absurd (eq_of_word h) nofun
          · exact absurd (eq_of_word h) nofun
          · exact absurd (eq_of_word h) nofun
          · exact absurd (eq_of_word h) nofun
          · split at h
            · exact absurd (eq_of_word h) nofun
            · exact absurd h number_ne_table
          · exact absurd h number_ne_table

theorem nodup_keys_of_read {s : String} {entries : Assoc Text Value}
    (h : read s = .ok (.table entries)) : entries.keys.Nodup := by
  unfold read at h
  cases hvalue : value (2 * s.toList.length + 2) (skipBlanks s.toList) with
  | error e => simp [hvalue, bind, Except.bind] at h
  | ok result =>
      obtain ⟨v, rest⟩ := result
      simp only [hvalue, bind, Except.bind, pure, Except.pure] at h
      split at h
      · obtain rfl := Except.ok.inj h
        exact nodup_keys_of_value hvalue
      · cases h

end Json

theorem Value.Plain.readsBack {v : Value} (h : v.Plain) : Json.ReadsBack v := by
  have hreads : Json.Reads (Json.write v) v := h.reads 0
  have hlength : (Json.write v).text.toList.length ≤
      2 * (Json.write v).text.toList.length + 1 + 1 := by
    omega
  have hvalue := hreads.value _ hlength Json.stops_nil
  rw [List.append_nil] at hvalue
  obtain ⟨c, more, hcons, hblank, -⟩ := Json.head_of_value hvalue
  have hskip : Json.skipBlanks (Json.write v).text.toList = (Json.write v).text.toList := by
    rw [hcons, Json.skipBlanks_cons hblank]
  refine ⟨hreads.fault, ?_⟩
  rw [Json.read, hskip, hvalue]
  rfl

end SplitScreen
