/-
  GasLens/Text/Search.lean
  ========================
  **Splitting and replacing** — cutting a text at a separator, looking for a text inside
  another, and replacing every occurrence of one.

  Occurrences are taken from left to right and do not overlap.
-/
namespace GasLens.Text

/-- The pieces of a text between the occurrences of a separator: one more piece than there are
separators, empty pieces included. -/
def split (sep : Char) : List Char → List (List Char)
  | [] => [[]]
  | c :: r =>
    if c = sep then [] :: split sep r
    else match split sep r with
      | [] => [[c]]
      | piece :: pieces => (c :: piece) :: pieces

def splitString (sep : Char) (s : String) : List String :=
  (split sep s.toList).map String.ofList

/-- Replacement while `skip` characters of an occurrence are still to be passed over. -/
def replaceFrom (what with' : List Char) : Nat → List Char → List Char
  | _, [] => []
  | skip + 1, _ :: r => replaceFrom what with' skip r
  | 0, c :: r =>
    if what.isPrefixOf (c :: r) then with' ++ replaceFrom what with' (what.length - 1) r
    else c :: replaceFrom what with' 0 r

def replace (what with' : List Char) (cs : List Char) : List Char :=
  replaceFrom what with' 0 cs

def replaceString (what with' s : String) : String :=
  String.ofList (replace what.toList with'.toList s.toList)

def occursIn (what : List Char) : List Char → Bool
  | [] => what.isEmpty
  | c :: r => what.isPrefixOf (c :: r) || occursIn what r

/-- What follows a leading text, if the text does lead. -/
def dropLeading? (what cs : List Char) : Option (List Char) :=
  if what.isPrefixOf cs then some (cs.drop what.length) else none

/-- What precedes a closing text, if the text does close. -/
def dropClosing? (what cs : List Char) : Option (List Char) :=
  if what.isSuffixOf cs then some (cs.take (cs.length - what.length)) else none

theorem split_ne_nil (sep : Char) (cs : List Char) : split sep cs ≠ [] := by
  cases cs with
  | nil => simp [split]
  | cons c r =>
    unfold split
    split
    · simp
    · split <;> simp

/-- There is one piece more than there are separators. -/
theorem length_split (sep : Char) (cs : List Char) :
    (split sep cs).length = cs.count sep + 1 := by
  induction cs with
  | nil => simp [split]
  | cons c r ih =>
    by_cases h : c = sep
    · subst h; simp [split, ih]
    · have : split sep r ≠ [] := split_ne_nil sep r
      cases hs : split sep r with
      | nil => exact absurd hs this
      | cons p ps => simp_all [split]

/-- The first separator ends the first piece. -/
theorem split_append_cons {sep : Char} {front : List Char} (h : sep ∉ front) (back : List Char) :
    split sep (front ++ sep :: back) = front :: split sep back := by
  induction front with
  | nil => simp [split]
  | cons c front ih =>
    have hc : c ≠ sep := fun heq => h (heq ▸ List.mem_cons_self)
    have hfront : sep ∉ front := fun hmem => h (List.mem_cons_of_mem c hmem)
    rw [List.cons_append, split, if_neg hc, ih hfront]

theorem split_of_not_mem {sep : Char} {cs : List Char} (h : sep ∉ cs) : split sep cs = [cs] := by
  induction cs with
  | nil => rfl
  | cons c cs ih =>
    have hc : c ≠ sep := fun heq => h (heq ▸ List.mem_cons_self)
    have hcs : sep ∉ cs := fun hmem => h (List.mem_cons_of_mem c hmem)
    rw [split, if_neg hc, ih hcs]

end GasLens.Text
