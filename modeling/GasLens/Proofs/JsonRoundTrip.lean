/-
  GasLens/Proofs/JsonRoundTrip.lean
  =================================
  **Documents, written and read** — a document that is spread over lines is read back as it was.

  The reader follows an outline and skips what the outline leaves out, and it gives up at a
  number of levels. `Kept` says that nothing of a document is left out and that its numbers are
  read back. The induction follows the document; the reader is given three steps for every
  character, which is more than it ever takes for one value and what stands behind it.
-/
import GasLens.Proofs.JsonNumbers
import GasLens.Proofs.JsonStrings

namespace GasLens.Json

open GasLens.Text

/-! ### Documents that are kept -/

mutual

/-- Nothing of a document is left out by an outline, and its numbers are read back. -/
def Kept : Outline → Json → Prop
  | _, .number n => ReadsBack n
  | o, .array items => KeptItems o items
  | o, .object members => KeptMembers o members
  | _, _ => True

/-- The items of an array are kept, each by its part of an outline. -/
def KeptItems : Outline → List Json → Prop
  | _, [] => True
  | o, j :: r => Kept o.head j ∧ KeptItems o.tail r

/-- The members of an object are kept, and their names are plain where they have to be. -/
def KeptMembers : Outline → List (String × Json) → Prop
  | _, [] => True
  | o, (name, j) :: r =>
    (∃ part, o.member? name = some part ∧ Kept part j) ∧
      (o.hasPlainNames = true → '\\' ∉ name.toList.flatMap escapedChar) ∧ KeptMembers o r

end

/-! ### White space -/

/-- A new line at a level of indentation. -/
def gap (level : Nat) : List Char := '\n' :: (repeated level "  ").toList

theorem isJsonBlank_of_mem_gap {level : Nat} {c : Char} (h : c ∈ gap level) :
    isJsonBlank c = true := by
  rcases List.mem_cons.1 h with rfl | hmem
  · decide
  · rw [repeated, String.toList_join] at hmem
    obtain ⟨s, hs, hc⟩ := List.mem_flatMap.1 hmem
    rw [List.eq_of_mem_replicate hs] at hc
    have hspaces : "  ".toList.all isJsonBlank = true := by decide
    exact List.all_eq_true.1 hspaces c hc

theorem skipBlank_append {blanks : List Char} (h : ∀ c ∈ blanks, isJsonBlank c = true)
    (cs : List Char) : skipBlank (blanks ++ cs) = skipBlank cs :=
  List.dropWhile_append_of_pos h

theorem skipBlank_cons {c : Char} (h : isJsonBlank c = false) (cs : List Char) :
    skipBlank (c :: cs) = c :: cs :=
  List.dropWhile_cons_of_neg (by simp [h])

theorem skipBlank_gap (level : Nat) (cs : List Char) : skipBlank (gap level ++ cs) = skipBlank cs :=
  skipBlank_append (fun _ => isJsonBlank_of_mem_gap) cs

theorem readValue_blanks {blanks : List Char} (h : ∀ c ∈ blanks, isJsonBlank c = true)
    (fuel depth : Nat) (o : Outline) (cs : List Char) :
    readValue fuel depth o (blanks ++ cs) = readValue fuel depth o cs := by
  cases fuel with
  | zero => simp only [readValue]
  | succ fuel => simp only [readValue, skipBlank_append h]

/-! ### Lines between two signs -/

/-- Lines behind an opening sign, up to the closing one. -/
def listed (level : Nat) (closing : Char) : List String → List Char
  | [] => [closing]
  | [line] => line.toList ++ gap level ++ [closing]
  | line :: lines => line.toList ++ ',' :: (gap (level + 1) ++ listed level closing lines)

theorem listed_cons_cons (level : Nat) (closing : Char) (line next : String)
    (lines : List String) :
    listed level closing (line :: next :: lines) =
      line.toList ++ ',' :: (gap (level + 1) ++ listed level closing (next :: lines)) := rfl

theorem exists_cons_of_listed (level : Nat) (closing : Char) {line : String} {c : Char}
    {cs : List Char} (h : line.toList = c :: cs) (lines : List String) :
    ∃ tail, listed level closing (line :: lines) = c :: tail := by
  cases lines with
  | nil => exact ⟨_, by rw [listed, h]; rfl⟩
  | cons next lines => exact ⟨_, by rw [listed_cons_cons, h]; rfl⟩

theorem toList_gap (level : Nat) : ("\n" ++ repeated level "  ").toList = gap level := by
  rw [String.toList_append, gap]
  rfl

theorem toList_intercalate_listed (level : Nat) (closing : Char) {lines : List String}
    (h : lines ≠ []) :
    (("," ++ ("\n" ++ repeated (level + 1) "  ")).intercalate lines).toList ++
      (gap level ++ [closing]) = listed level closing lines := by
  induction lines with
  | nil => exact absurd rfl h
  | cons line lines ih =>
    cases lines with
    | nil =>
      rw [String.intercalate_singleton, listed, List.append_assoc]
    | cons next lines =>
      rw [String.intercalate_cons_cons, String.toList_append, String.toList_append,
        String.toList_append, toList_gap, List.append_assoc, ih (List.cons_ne_nil _ _),
        listed_cons_cons, List.append_assoc, List.append_assoc]
      rfl

theorem toList_block (level : Nat) (opening closing : Char) {lines : List String}
    (h : lines ≠ []) :
    (block level (String.singleton opening) (String.singleton closing) lines).toList =
      opening :: (gap (level + 1) ++ listed level closing lines) := by
  rw [block, if_neg (by simpa using h), ← toList_intercalate_listed level closing h]
  simp only [String.toList_append, String.toList_singleton, ← toList_gap, List.append_assoc]
  rfl

theorem readItems_gap (fuel depth level : Nat) (o : Outline) (cs : List Char) :
    readItems fuel depth o (gap level ++ cs) = readItems fuel depth o cs := by
  cases fuel with
  | zero => simp only [readItems]
  | succ fuel => simp only [readItems, readValue_blanks fun _ => isJsonBlank_of_mem_gap]

theorem readMembers_gap (fuel depth level : Nat) (o : Outline) (cs : List Char) :
    readMembers fuel depth o (gap level ++ cs) = readMembers fuel depth o cs := by
  cases fuel with
  | zero => simp only [readMembers]
  | succ fuel => simp only [readMembers, skipBlank_gap]

/-- What begins a number is none of the signs that begin something else. -/
theorem forall_ne_of_beginsNumber {c : Char} (hc : c = '-' ∨ isDecimalDigit c = true)
    {signs : List Char} (h : (signs.all fun d => d != '-' && !isDecimalDigit d) = true) :
    ∀ d ∈ signs, c ≠ d := by
  rintro d hd rfl
  have hsign := List.all_eq_true.1 h c hd
  rcases hc with rfl | hdigit
  · exact absurd hsign (by decide)
  · simp [hdigit] at hsign

theorem readValue_number {c : Char} (hc : c = '-' ∨ isDecimalDigit c = true) (fuel depth : Nat)
    (o : Outline) (cs : List Char) :
    readValue (fuel + 1) depth o (c :: cs) =
      (readNumber (c :: cs)).map fun (n, rest) => (.number n, rest) := by
  have hnot : ∀ d ∈ [' ', '\t', '\n', '\r', '\x7b', '[', '"', 't', 'f', 'n'], c ≠ d :=
    forall_ne_of_beginsNumber hc (by decide)
  have hblank : isJsonBlank c = false := by
    simp [isJsonBlank, hnot]
  rw [readValue.eq_def]
  simp only [skipBlank_cons hblank]
  split <;> simp_all

/-! ### Values -/

/-- A document is read back from its text, whatever stands behind it. -/
def ReadBack (j : Json) : Prop :=
  ∀ (level fuel depth : Nat) (o : Outline) (rest : List Char), Kept o j → j.depth ≤ depth →
    3 * (spread level j).toList.length ≤ fuel → EndsNumber rest →
      readValue fuel depth o ((spread level j).toList ++ rest) = some (j, rest)

/-- The items of an array are read back from their lines. -/
def ItemsReadBack (js : List Json) : Prop :=
  js ≠ [] → ∀ (level fuel depth : Nat) (o : Outline) (rest : List Char), KeptItems o js →
    depthItems js ≤ depth → 3 * (listed level ']' (spreadItems (level + 1) js)).length ≤ fuel →
      readItems fuel depth o (listed level ']' (spreadItems (level + 1) js) ++ rest) =
        some (js, rest)

/-- The members of an object are read back from their lines. -/
def MembersReadBack (ms : List (String × Json)) : Prop :=
  ms ≠ [] → ∀ (level fuel depth : Nat) (o : Outline) (rest : List Char), KeptMembers o ms →
    depthMembers ms ≤ depth →
      3 * (listed level '\x7d' (spreadMembers (level + 1) ms)).length ≤ fuel →
      readMembers fuel depth o (listed level '\x7d' (spreadMembers (level + 1) ms) ++ rest) =
        some (ms, rest)

theorem readBack_null : ReadBack .null := by
  intro level fuel depth o rest _ _ hfuel _
  have htext : (spread level .null).toList = ['n', 'u', 'l', 'l'] := by
    rw [spread]
    rfl
  rw [htext] at hfuel ⊢
  obtain ⟨fuel, rfl⟩ : ∃ f, fuel = f + 1 := ⟨fuel - 1, by simp at hfuel; omega⟩
  simp [readValue, skipBlank, isJsonBlank, readWord, skipWord]

theorem readBack_bool (b : Bool) : ReadBack (.bool b) := by
  intro level fuel depth o rest _ _ hfuel _
  have htext : (spread level (.bool b)).toList =
      if b then ['t', 'r', 'u', 'e'] else ['f', 'a', 'l', 's', 'e'] := by
    rw [spread]
    cases b <;> rfl
  rw [htext] at hfuel ⊢
  obtain ⟨fuel, rfl⟩ : ∃ f, fuel = f + 1 := ⟨fuel - 1, by cases b <;> simp at hfuel <;> omega⟩
  cases b <;> simp [readValue, skipBlank, isJsonBlank, readWord, skipWord]

theorem readBack_number (n : JsonNumber) : ReadBack (.number n) := by
  intro level fuel depth o rest hkept _ hfuel hrest
  rw [Kept] at hkept
  obtain ⟨c, cs, htext, hc⟩ := exists_cons_of_readNumber hkept
  have hread := hkept.append hrest
  have hspread : (spread level (.number n)).toList = c :: cs := by
    rw [spread]
    exact htext
  rw [hspread] at hfuel ⊢
  obtain ⟨fuel, rfl⟩ : ∃ f, fuel = f + 1 := ⟨fuel - 1, by simp at hfuel; omega⟩
  rw [htext] at hread
  rw [List.cons_append, readValue_number hc, ← List.cons_append, hread]
  rfl

/-- A string is read back with all its escapes, whatever follows its closing quote. -/
theorem readBack_string (s : String) : ReadBack (.string s) := by
  intro level fuel depth o rest _ _ hfuel _
  have hspread : (spread level (.string s)).toList =
      '"' :: (s.toList.flatMap escapedChar ++ ['"']) := by
    rw [spread]
    exact toList_stringText s
  rw [hspread] at hfuel ⊢
  have hlength := length_le_length_escaped s.toList
  simp only [List.length_cons, List.length_append, List.length_nil] at hfuel
  obtain ⟨fuel, rfl⟩ : ∃ f, fuel = f + 1 := ⟨fuel - 1, by omega⟩
  have hread := readChars_escaped [] s.toList rest (show s.toList.length < fuel by omega)
  rw [List.cons_append, List.append_assoc]
  simp only [readValue, skipBlank_cons (show isJsonBlank '"' = false by decide)]
  rw [List.singleton_append, hread]
  simp

/-! ### Arrays -/

theorem spread_array (level : Nat) (items : List Json) :
    spread level (.array items) =
      block level (String.singleton '[') (String.singleton ']')
        (spreadItems (level + 1) items) := by
  rw [spread]
  rfl

theorem spread_object (level : Nat) (members : List (String × Json)) :
    spread level (.object members) =
      block level (String.singleton '\x7b') (String.singleton '\x7d')
        (spreadMembers (level + 1) members) := by
  rw [spread]
  rfl

theorem toList_block_nil (level : Nat) (opening closing : Char) :
    (block level (String.singleton opening) (String.singleton closing) []).toList =
      [opening, closing] := by
  simp [block]

theorem exists_cons_of_block (level : Nat) (opening closing : Char) (lines : List String) :
    ∃ cs, (block level (String.singleton opening) (String.singleton closing) lines).toList =
      opening :: cs := by
  by_cases h : lines = []
  · subst h
    exact ⟨[closing], toList_block_nil level opening closing⟩
  · exact ⟨_, toList_block level opening closing h⟩

/-- A document begins with a character that is neither white space nor a closing sign. -/
theorem exists_cons_of_spread {o : Outline} {j : Json} (h : Kept o j) (level : Nat) :
    ∃ c cs, (spread level j).toList = c :: cs ∧ isJsonBlank c = false ∧ c ≠ ']' := by
  cases j with
  | null =>
    rw [spread]
    exact ⟨'n', ['u', 'l', 'l'], rfl, by decide, by decide⟩
  | bool b =>
    rw [spread]
    cases b with
    | false => exact ⟨'f', ['a', 'l', 's', 'e'], rfl, by decide, by decide⟩
    | true => exact ⟨'t', ['r', 'u', 'e'], rfl, by decide, by decide⟩
  | number n =>
    rw [Kept] at h
    obtain ⟨c, cs, htext, hc⟩ := exists_cons_of_readNumber h
    rw [spread]
    have hnot : ∀ d ∈ [' ', '\t', '\n', '\r', ']'], c ≠ d :=
      forall_ne_of_beginsNumber hc (by decide)
    exact ⟨c, cs, htext, by simp [isJsonBlank, hnot], hnot ']' (by simp)⟩
  | string s =>
    rw [spread]
    exact ⟨'"', _, toList_stringText s, by decide, by decide⟩
  | array items =>
    obtain ⟨cs, hcs⟩ := exists_cons_of_block level '[' ']' (spreadItems (level + 1) items)
    exact ⟨'[', cs, spread_array level items ▸ hcs, by decide, by decide⟩
  | object members =>
    obtain ⟨cs, hcs⟩ := exists_cons_of_block level '\x7b' '\x7d' (spreadMembers (level + 1) members)
    exact ⟨'\x7b', cs, spread_object level members ▸ hcs, by decide, by decide⟩

theorem endsNumber_gap (level : Nat) (rest : List Char) : EndsNumber (gap level ++ rest) :=
  endsNumber_cons _ (by decide)

theorem endsNumber_comma (rest : List Char) : EndsNumber (',' :: rest) :=
  endsNumber_cons rest (by decide)

theorem itemsReadBack_cons {j : Json} {js : List Json} (hj : ReadBack j)
    (hjs : ItemsReadBack js) : ItemsReadBack (j :: js) := by
  intro _ level fuel depth o rest hkept hdepth hfuel
  rw [KeptItems] at hkept
  rw [depthItems] at hdepth
  have hjdepth : j.depth ≤ depth := Nat.le_trans (Nat.le_max_left _ _) hdepth
  have hjsdepth : depthItems js ≤ depth := Nat.le_trans (Nat.le_max_right _ _) hdepth
  cases js with
  | nil =>
    have hlines : listed level ']' (spreadItems (level + 1) [j]) =
        (spread (level + 1) j).toList ++ gap level ++ [']'] := by
      rw [spreadItems, spreadItems, listed]
    rw [hlines] at hfuel ⊢
    simp only [List.length_append, List.length_singleton] at hfuel
    obtain ⟨fuel, rfl⟩ : ∃ f, fuel = f + 1 := ⟨fuel - 1, by omega⟩
    have hread := hj (level + 1) fuel depth o.head (gap level ++ (']' :: rest)) hkept.1 hjdepth
      (by omega) (endsNumber_gap level _)
    rw [List.append_assoc, List.append_assoc, List.singleton_append]
    simp only [readItems, hread, skipBlank_gap,
      skipBlank_cons (show isJsonBlank ']' = false by decide)]
  | cons k js =>
    have hlines : listed level ']' (spreadItems (level + 1) (j :: k :: js)) =
        (spread (level + 1) j).toList ++
          ',' :: (gap (level + 1) ++ listed level ']' (spreadItems (level + 1) (k :: js))) := by
      rw [spreadItems, spreadItems, listed_cons_cons]
    rw [hlines] at hfuel ⊢
    simp only [List.length_append, List.length_cons] at hfuel
    obtain ⟨fuel, rfl⟩ : ∃ f, fuel = f + 1 := ⟨fuel - 1, by omega⟩
    have hread := hj (level + 1) fuel depth o.head
      (',' :: (gap (level + 1) ++ (listed level ']' (spreadItems (level + 1) (k :: js)) ++ rest)))
      hkept.1 hjdepth (by omega) (endsNumber_comma _)
    have hreads := hjs (List.cons_ne_nil _ _) level fuel depth o.tail rest hkept.2 hjsdepth
      (by omega)
    rw [List.append_assoc, List.cons_append, List.append_assoc]
    simp only [readItems, hread, readItems_gap, hreads,
      skipBlank_cons (show isJsonBlank ',' = false by decide), Option.map_some]

theorem readValue_array {c : Char} (hblank : isJsonBlank c = false) (hclosing : c ≠ ']')
    (fuel depth level : Nat) (o : Outline) (cs : List Char) :
    readValue (fuel + 1) (depth + 1) o ('[' :: (gap level ++ c :: cs)) =
      (readItems fuel depth o (c :: cs)).map fun (js, rest) => (.array js, rest) := by
  simp only [readValue, skipBlank_cons (show isJsonBlank '[' = false by decide), skipBlank_gap,
    skipBlank_cons hblank]
  split <;> simp_all

theorem readBack_array {items : List Json} (h : ItemsReadBack items) : ReadBack (.array items) := by
  intro level fuel depth o rest hkept hdepth hfuel _
  rw [Kept] at hkept
  rw [Json.depth] at hdepth
  obtain ⟨depth, rfl⟩ : ∃ d, depth = d + 1 := ⟨depth - 1, by omega⟩
  rw [spread_array] at hfuel ⊢
  cases items with
  | nil =>
    rw [spreadItems, toList_block_nil] at hfuel ⊢
    obtain ⟨fuel, rfl⟩ : ∃ f, fuel = f + 1 := ⟨fuel - 1, by simp at hfuel; omega⟩
    simp [readValue, skipBlank, isJsonBlank]
  | cons j js =>
    have hne : spreadItems (level + 1) (j :: js) ≠ [] := by
      rw [spreadItems]
      exact List.cons_ne_nil _ _
    rw [toList_block level '[' ']' hne] at hfuel ⊢
    simp only [List.length_cons, List.length_append] at hfuel
    obtain ⟨fuel, rfl⟩ : ∃ f, fuel = f + 1 := ⟨fuel - 1, by omega⟩
    have hread := h (List.cons_ne_nil _ _) level fuel depth o rest hkept (by omega) (by omega)
    -- the first item does not close the array
    obtain ⟨c, cs, hitem, hblank, hclosing⟩ := exists_cons_of_spread hkept.1 (level + 1)
    obtain ⟨tail, htail⟩ := exists_cons_of_listed level ']' hitem (spreadItems (level + 1) js)
    have hfirst : listed level ']' (spreadItems (level + 1) (j :: js)) = c :: tail := by
      rw [spreadItems, htail]
    rw [hfirst, List.cons_append] at hread
    rw [hfirst, List.cons_append, List.append_assoc, List.cons_append,
      readValue_array hblank hclosing, hread]
    rfl

/-! ### Objects -/

theorem mem_of_mem_takeWhile {stop a : Char} {cs rest : List Char}
    (h : a ∈ (cs ++ stop :: rest).takeWhile (· != stop)) : a ∈ cs := by
  induction cs with
  | nil => simp at h
  | cons c cs ih =>
    by_cases hc : c = stop
    · simp [hc] at h
    · rw [List.cons_append, List.takeWhile_cons_of_pos (by simpa using hc)] at h
      rcases List.mem_cons.1 h with rfl | hmem
      · exact List.mem_cons_self
      · exact List.mem_cons_of_mem c (ih hmem)

/-- The name of a member is read back; where names have to be plain, it is. -/
theorem readName_escaped {plain : Bool} {fuel : Nat} {name : String} (rest : List Char)
    (hplain : plain = true → '\\' ∉ name.toList.flatMap escapedChar)
    (hfuel : name.toList.length < fuel) :
    readName plain fuel (name.toList.flatMap escapedChar ++ '"' :: rest) = some (name, rest) := by
  have hcontains : (plain && ((name.toList.flatMap escapedChar ++ '"' :: rest).takeWhile
      (· != '"')).contains '\\') = false := by
    cases plain with
    | false => rfl
    | true =>
      rw [Bool.true_and, List.contains_eq_mem, decide_eq_false_iff_not]
      exact fun hmem => hplain rfl (mem_of_mem_takeWhile hmem)
  rw [readName, hcontains, if_neg Bool.false_ne_true,
    readChars_escaped [] name.toList rest hfuel]
  simp

/-- The text of a member. -/
theorem toList_member (name : String) (level : Nat) (j : Json) :
    (stringText name ++ ": " ++ spread level j).toList =
      '"' :: (name.toList.flatMap escapedChar ++
        '"' :: ':' :: ' ' :: (spread level j).toList) := by
  rw [String.toList_append, String.toList_append, toList_stringText]
  simp

/-- One member, with the end of the object or another member behind it. -/
theorem readMembers_member {name : String} {j : Json} {level fuel depth : Nat}
    {o part : Outline} {after : List Char} (hj : ReadBack j) (hpart : o.member? name = some part)
    (hkept : Kept part j) (hplain : o.hasPlainNames = true → '\\' ∉ name.toList.flatMap escapedChar)
    (hdepth : j.depth ≤ depth) (hname : name.toList.length ≤ fuel)
    (hfuel : 3 * (spread level j).toList.length ≤ fuel) (hafter : EndsNumber after) :
    let text := (stringText name ++ ": " ++ spread level j).toList ++ after
    (∀ r, skipBlank after = '\x7d' :: r →
      readMembers (fuel + 2) depth o text = some ([(name, j)], r)) ∧
    ∀ r, skipBlank after = ',' :: r →
      readMembers (fuel + 2) depth o text =
        (readMembers (fuel + 1) depth o r).map fun (ms, rest) => ((name, j) :: ms, rest) := by
  have hread := hj level fuel depth part after hkept hdepth hfuel hafter
  have hspace : ∀ c ∈ [' '], isJsonBlank c = true := by simp [isJsonBlank]
  have hvalue : readMember (fuel + 1) depth (some part)
      (' ' :: ((spread level j).toList ++ after)) = some (j, after) := by
    rw [readMember, ← List.singleton_append, readValue_blanks hspace, hread]
  have hquote : isJsonBlank '"' = false := by decide
  have hcolon : isJsonBlank ':' = false := by decide
  intro text
  have htext : text = '"' :: (name.toList.flatMap escapedChar ++
      '"' :: ':' :: ' ' :: ((spread level j).toList ++ after)) := by
    simp only [text, toList_member, List.cons_append, List.append_assoc]
  rw [htext]
  constructor <;> intro r hr <;> rw [readMembers] <;>
    simp only [skipBlank_cons hquote, readName_escaped _ hplain (Nat.lt_succ_of_le hname),
      skipBlank_cons hcolon, hpart, hvalue, hr]

theorem membersReadBack_cons {name : String} {j : Json} {ms : List (String × Json)}
    (hj : ReadBack j) (hms : MembersReadBack ms) : MembersReadBack ((name, j) :: ms) := by
  intro _ level fuel depth o rest hkept hdepth hfuel
  rw [KeptMembers] at hkept
  obtain ⟨⟨part, hpart, hjkept⟩, hplain, hmskept⟩ := hkept
  rw [depthMembers] at hdepth
  have hjdepth : j.depth ≤ depth := Nat.le_trans (Nat.le_max_left _ _) hdepth
  have hmsdepth : depthMembers ms ≤ depth := Nat.le_trans (Nat.le_max_right _ _) hdepth
  have hlength := length_le_length_escaped name.toList
  have hmember := congrArg List.length (toList_member name (level + 1) j)
  simp only [List.length_append, List.length_cons] at hmember
  cases ms with
  | nil =>
    have hlines : listed level '\x7d' (spreadMembers (level + 1) [(name, j)]) =
        (stringText name ++ ": " ++ spread (level + 1) j).toList ++ gap level ++ ['\x7d'] := by
      rw [spreadMembers, spreadMembers, listed]
    rw [hlines] at hfuel ⊢
    simp only [List.length_append, List.length_singleton, hmember] at hfuel
    obtain ⟨fuel, rfl⟩ : ∃ f, fuel = f + 2 := ⟨fuel - 2, by omega⟩
    have hclose : skipBlank (gap level ++ '\x7d' :: rest) = '\x7d' :: rest := by
      rw [skipBlank_gap, skipBlank_cons (by decide)]
    rw [List.append_assoc, List.append_assoc, List.singleton_append]
    exact (readMembers_member hj hpart hjkept hplain hjdepth (by omega) (by omega)
      (endsNumber_gap level _)).1 rest hclose
  | cons m ms =>
    have hlines : listed level '\x7d' (spreadMembers (level + 1) ((name, j) :: m :: ms)) =
        (stringText name ++ ": " ++ spread (level + 1) j).toList ++ ',' :: (gap (level + 1) ++
          listed level '\x7d' (spreadMembers (level + 1) (m :: ms))) := by
      rw [spreadMembers, spreadMembers, listed_cons_cons]
    rw [hlines] at hfuel ⊢
    simp only [List.length_append, List.length_cons, hmember] at hfuel
    obtain ⟨fuel, rfl⟩ : ∃ f, fuel = f + 2 := ⟨fuel - 2, by omega⟩
    have hreads := hms (List.cons_ne_nil _ _) level (fuel + 1) depth o rest hmskept hmsdepth
      (by omega)
    rw [List.append_assoc, List.cons_append, List.append_assoc,
      (readMembers_member hj hpart hjkept hplain hjdepth (by omega) (by omega)
        (endsNumber_comma _)).2 _ (skipBlank_cons (by decide) _), readMembers_gap, hreads]
    rfl

theorem readValue_object {c : Char} (hblank : isJsonBlank c = false) (hclosing : c ≠ '\x7d')
    (fuel depth level : Nat) (o : Outline) (cs : List Char) :
    readValue (fuel + 1) (depth + 1) o ('\x7b' :: (gap level ++ c :: cs)) =
      (readMembers fuel depth o (c :: cs)).map fun (ms, rest) => (.object ms, rest) := by
  simp only [readValue, skipBlank_cons (show isJsonBlank '\x7b' = false by decide), skipBlank_gap,
    skipBlank_cons hblank]
  split <;> simp_all

theorem readBack_object {members : List (String × Json)} (h : MembersReadBack members) :
    ReadBack (.object members) := by
  intro level fuel depth o rest hkept hdepth hfuel _
  rw [Kept] at hkept
  rw [Json.depth] at hdepth
  obtain ⟨depth, rfl⟩ : ∃ d, depth = d + 1 := ⟨depth - 1, by omega⟩
  rw [spread_object] at hfuel ⊢
  cases members with
  | nil =>
    rw [spreadMembers, toList_block_nil] at hfuel ⊢
    obtain ⟨fuel, rfl⟩ : ∃ f, fuel = f + 1 := ⟨fuel - 1, by simp at hfuel; omega⟩
    simp [readValue, skipBlank, isJsonBlank]
  | cons m ms =>
    obtain ⟨name, j⟩ := m
    have hne : spreadMembers (level + 1) ((name, j) :: ms) ≠ [] := by
      rw [spreadMembers]
      exact List.cons_ne_nil _ _
    rw [toList_block level '\x7b' '\x7d' hne] at hfuel ⊢
    simp only [List.length_cons, List.length_append] at hfuel
    obtain ⟨fuel, rfl⟩ : ∃ f, fuel = f + 1 := ⟨fuel - 1, by omega⟩
    have hread := h (List.cons_ne_nil _ _) level fuel depth o rest hkept (by omega) (by omega)
    -- the first name does not close the object
    obtain ⟨tail, htail⟩ := exists_cons_of_listed level '\x7d' (toList_member name (level + 1) j)
      (spreadMembers (level + 1) ms)
    have hfirst :
        listed level '\x7d' (spreadMembers (level + 1) ((name, j) :: ms)) = '"' :: tail := by
      rw [spreadMembers, htail]
    rw [hfirst, List.cons_append] at hread
    rw [hfirst, List.cons_append, List.append_assoc, List.cons_append]
    rw [readValue_object (by decide) (by decide), hread]
    rfl

/-! ### Documents -/

mutual

/-- Every document is read back, by the induction that its parts give. -/
theorem readBack : ∀ j : Json, ReadBack j
  | .null => readBack_null
  | .bool b => readBack_bool b
  | .number n => readBack_number n
  | .string s => readBack_string s
  | .array items => readBack_array (itemsReadBack items)
  | .object members => readBack_object (membersReadBack members)

theorem itemsReadBack : ∀ js : List Json, ItemsReadBack js
  | [] => fun h => absurd rfl h
  | j :: js => itemsReadBack_cons (readBack j) (itemsReadBack js)

theorem membersReadBack : ∀ ms : List (String × Json), MembersReadBack ms
  | [] => fun h => absurd rfl h
  | (_, j) :: ms => membersReadBack_cons (readBack j) (membersReadBack ms)

end

/-- **A document is read back from its text** under an outline that keeps it. -/
theorem readOutline?_pretty {o : Outline} {j : Json} (hkept : Kept o j)
    (hdepth : j.depth ≤ maxDepth) : readOutline? o j.pretty = some j := by
  have hread := readBack j 0 (3 * j.pretty.toList.length + 3) maxDepth o [] hkept hdepth
    (Nat.le_add_right _ 3) endsNumber_nil
  rw [List.append_nil] at hread
  rw [readOutline?, readAll]
  simp only [pretty] at hread ⊢
  rw [hread]
  rfl

end GasLens.Json
