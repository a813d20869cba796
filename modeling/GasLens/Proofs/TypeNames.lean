/-
  GasLens/Proofs/TypeNames.lean
  =============================
  **Names of types** — declarations, signatures and the texts between them.

  A declaration puts the array marks of a type behind its base, from the inside out, and keeps the
  items of a tuple in its components. It is read as the type it declares (`type_of_declares`). In a
  signature the items stand in the text itself. There a type is found again by its end if it is an
  array, and by counting parentheses if it is a tuple, so that supported types with one text are
  one type (`canonical_injective`).

  What has no tuple at its base is read from its text alone, and then its own text says the same
  again, also where it means nothing (`typeOf_canonical_typeOf`).
-/
import Mathlib.Data.List.Forall2
import GasLens.Abi.Function
import GasLens.Proofs.Numerals

namespace GasLens.Abi

open GasLens.Text

/-! ### Supported types and their declarations -/

def ParamType.IsPlain : ParamType → Prop
  | .uint bits => 0 < bits ∧ bits ≤ 256 ∧ bits % 8 = 0
  | .int bits => 0 < bits ∧ bits ≤ 256 ∧ bits % 8 = 0
  | .fixedBytes size => 1 ≤ size ∧ size ≤ 32
  | .address => True
  | .bool => True
  | .bytes => True
  | .string => True
  | _ => False

/-- A type no part of which is unsupported. -/
inductive ParamType.Supported : ParamType → Prop where
  | plain {t : ParamType} (h : t.IsPlain) : Supported t
  | array {t : ParamType} (h : Supported t) : Supported (.array t)
  | fixedArray {t : ParamType} {n : Nat} (h : Supported t) (hn : n < 2 ^ 64) :
    Supported (.fixedArray t n)
  | tuple {ts : List ParamType} (h : ∀ t ∈ ts, Supported t) : Supported (.tuple ts)

/-- A parameter is described as one of a type, under whatever names. -/
inductive Declares : Param → ParamType → Prop where
  | plain {name kind : String} {components : List Param} {t : ParamType} (h : t.IsPlain)
    (hkind : kind.toList = t.canonical) : Declares ⟨name, kind, components⟩ t
  | array {name kind : String} {components : List Param} {t : ParamType}
    (h : Declares ⟨name, kind, components⟩ t) :
    Declares ⟨name, kind ++ "[]", components⟩ (.array t)
  | fixedArray {name kind : String} {components : List Param} {t : ParamType} {n : Nat}
    (h : Declares ⟨name, kind, components⟩ t) (hn : n < 2 ^ 64) :
    Declares ⟨name, kind ++ "[" ++ natText n ++ "]", components⟩ (.fixedArray t n)
  | tuple {name : String} {components : List Param} {ts : List ParamType}
    (hlength : components.length = ts.length)
    (h : ∀ e ∈ components.zip ts, Declares e.1 e.2) : Declares ⟨name, "tuple", components⟩ (.tuple ts)

/-! ### Array marks -/

theorem canonical_array (t : ParamType) :
    (ParamType.array t).canonical = t.canonical ++ ['[', ']'] := rfl

theorem canonical_fixedArray (t : ParamType) (n : Nat) :
    (ParamType.fixedArray t n).canonical = t.canonical ++ '[' :: decimal n ++ [']'] := rfl

theorem canonical_tuple (ts : List ParamType) :
    (ParamType.tuple ts).canonical = '(' :: canonicalList ts ++ [')'] := rfl

theorem canonical_unsupported (kind : List Char) :
    (ParamType.unsupported (String.ofList kind)).canonical = kind := String.toList_ofList

section Marks

variable {kind base digits : List Char} {items : List ParamType} {n : Nat}

theorem arrayMark?_of_not_mem (h : ']' ∉ kind) : arrayMark? kind = none := by
  unfold arrayMark?
  split
  · rename_i r hr
    have hmem : ']' ∈ kind.reverse := by
      rw [hr]
      exact List.mem_cons_self
    exact absurd (List.mem_reverse.1 hmem) h
  · rfl

theorem arrayMark?_append (hbase : '\n' ∉ base) (hdigits : ∀ c ∈ digits, isDecimalDigit c = true) :
    arrayMark? (base ++ '[' :: digits ++ [']']) = some (base, digits) := by
  have hreverse : (base ++ '[' :: digits ++ [']']).reverse =
      ']' :: (digits.reverse ++ '[' :: base.reverse) := by
    simp
  have hall : ∀ c ∈ digits.reverse, isDecimalDigit c = true :=
    fun c hc => hdigits c (List.mem_reverse.1 hc)
  have hdrop : (digits.reverse ++ '[' :: base.reverse).dropWhile isDecimalDigit =
      '[' :: base.reverse := by
    rw [List.dropWhile_append_of_pos hall]
    rfl
  have htake : (digits.reverse ++ '[' :: base.reverse).takeWhile isDecimalDigit =
      digits.reverse := by
    rw [List.takeWhile_append_of_pos hall]
    exact List.append_nil _
  have hline : base.reverse.contains '\n' = false := by
    simpa using hbase
  unfold arrayMark?
  simp only [hreverse, hdrop, htake, hline, List.reverse_reverse, Bool.false_eq_true, if_false]

theorem arrayMark?_append_brackets (hbase : '\n' ∉ base) :
    arrayMark? (base ++ ['[', ']']) = some (base, []) := by
  have hmark : arrayMark? (base ++ '[' :: [] ++ [']']) = some (base, []) :=
    arrayMark?_append hbase (List.forall_mem_nil _)
  rwa [List.append_assoc] at hmark

theorem arrayMark?_append_length (hbase : '\n' ∉ base) (n : Nat) :
    arrayMark? (base ++ '[' :: decimal n ++ [']']) = some (base, decimal n) :=
  arrayMark?_append hbase fun _ hc => isDigit_of_mem_decimal hc

/-- An array mark is where a text ends, and there is no newline in front of it. -/
theorem eq_of_arrayMark? (h : arrayMark? kind = some (base, digits)) :
    kind = base ++ '[' :: digits ++ [']'] ∧ '\n' ∉ base := by
  unfold arrayMark? at h
  split at h
  · rename_i r hr
    split at h
    · rename_i rest hrest
      split at h
      · cases h
      · rename_i hline
        cases h
        refine ⟨?_, fun hmem => hline (by simpa using hmem)⟩
        have hparts := List.takeWhile_append_dropWhile (p := isDecimalDigit) (l := r)
        rw [hrest] at hparts
        have hkind : kind = (']' :: (r.takeWhile isDecimalDigit ++ '[' :: rest)).reverse := by
          rw [hparts, ← hr, List.reverse_reverse]
        rw [hkind]
        simp
    · cases h
  · cases h

theorem typeOf_of_none (h : arrayMark? kind = none) : typeOf kind items = baseType kind items := by
  rw [typeOf]
  split
  · rename_i hsome
    rw [h] at hsome
    cases hsome
  · rfl

theorem typeOf_of_some (h : arrayMark? kind = some (base, digits)) :
    typeOf kind items =
      if digits.isEmpty then .array (typeOf base items)
      else match digitsValue? digits with
        | some n => .fixedArray (typeOf base items) n
        | none => .unsupported (String.ofList kind) := by
  rw [typeOf]
  split
  · rename_i hsome
    rw [h] at hsome
    cases hsome
    rfl
  · rename_i hnone
    rw [h] at hnone
    cases hnone

theorem digitsValue?_decimal {n : Nat} (h : n < 2 ^ 64) : digitsValue? (decimal n) = some n := by
  have hall : (decimal n).all isDecimalDigit = true :=
    List.all_eq_true.2 fun c hc => isDigit_of_mem_decimal hc
  have hle : n ≤ maxU64 := Nat.le_pred_of_lt h
  rw [digitsValue?, if_pos hall, readNat_decimal hle]
  rfl

theorem lt_of_digitsValue? (h : digitsValue? digits = some n) : n < 2 ^ 64 := by
  unfold digitsValue? at h
  split at h
  · cases hread : readNat 10 maxU64 digits with
    | error fault =>
      rw [hread] at h
      cases h
    | ok m =>
      rw [hread] at h
      cases h
      obtain ⟨_, _, _, hle⟩ := (readNat_eq_ok_iff (by decide) (by decide)).1 hread
      exact Nat.lt_of_le_pred (by decide) hle
  · cases h

theorem typeOf_append_brackets (hbase : '\n' ∉ base) :
    typeOf (base ++ ['[', ']']) items = .array (typeOf base items) :=
  typeOf_of_some (arrayMark?_append_brackets hbase)

theorem typeOf_append_length (hbase : '\n' ∉ base) (hn : n < 2 ^ 64) :
    typeOf (base ++ '[' :: decimal n ++ [']']) items = .fixedArray (typeOf base items) n := by
  have hempty : (decimal n).isEmpty = false := List.isEmpty_eq_false_iff.2 (decimal_ne_nil n)
  rw [typeOf_of_some (arrayMark?_append_length hbase n), hempty, digitsValue?_decimal hn]
  rfl

end Marks

/-! ### Plain types -/

section Plain

variable {t : ParamType}

theorem isAlphanum_of_mem_decimal {n : Nat} {c : Char} (h : c ∈ decimal n) :
    c.isAlphanum = true := by
  rw [Char.isAlphanum, isDigit_of_mem_decimal h, Bool.or_true]

theorem isAlphanum_of_mem_canonical (ht : t.IsPlain) {c : Char} (hc : c ∈ t.canonical) :
    c.isAlphanum = true := by
  have hword : ∀ word : List Char, word.all Char.isAlphanum = true → c ∈ word →
      c.isAlphanum = true :=
    fun word hall hmem => List.all_eq_true.1 hall c hmem
  have hnumber : ∀ (word : List Char) (n : Nat), word.all Char.isAlphanum = true →
      c ∈ word ++ decimal n → c.isAlphanum = true := by
    intro word n hall hmem
    rcases List.mem_append.1 hmem with h | h
    · exact hword word hall h
    · exact isAlphanum_of_mem_decimal h
  cases t with
  | uint bits => exact hnumber _ bits (by decide) hc
  | int bits => exact hnumber _ bits (by decide) hc
  | fixedBytes size => exact hnumber _ size (by decide) hc
  | address => exact hword _ (by decide) hc
  | bool => exact hword _ (by decide) hc
  | bytes => exact hword _ (by decide) hc
  | string => exact hword _ (by decide) hc
  | _ => exact ht.elim

theorem not_mem_canonical (ht : t.IsPlain) {c : Char} (hc : c.isAlphanum = false) :
    c ∉ t.canonical := by
  intro hmem
  rw [isAlphanum_of_mem_canonical ht hmem] at hc
  cases hc

theorem integerWidth?_decimal {bits : Nat} (h : 0 < bits ∧ bits ≤ 256 ∧ bits % 8 = 0) :
    integerWidth? (decimal bits) = some bits := by
  have hempty : (decimal bits).isEmpty = false :=
    List.isEmpty_eq_false_iff.2 (decimal_ne_nil bits)
  rw [integerWidth?, hempty, digitsValue?_decimal (by omega)]
  exact Option.filter_some_pos (p := fun n => decide (0 < n ∧ n ≤ 256 ∧ n % 8 = 0))
    (decide_eq_true h)

theorem bytesSize?_decimal {size : Nat} (h : 1 ≤ size ∧ size ≤ 32) :
    bytesSize? (decimal size) = some size := by
  rw [bytesSize?, digitsValue?_decimal (by omega)]
  exact Option.filter_some_pos (decide_eq_true h)

theorem baseType_canonical (ht : t.IsPlain) (items : List ParamType) :
    baseType t.canonical items = t := by
  cases t with
  | uint bits =>
    show baseType ("uint".toList ++ decimal bits) items = .uint bits
    simp [baseType, dropLeading?, integerWidth?_decimal ht]
  | int bits =>
    show baseType ("int".toList ++ decimal bits) items = .int bits
    simp [baseType, dropLeading?, integerWidth?_decimal ht]
  | fixedBytes size =>
    show baseType ("bytes".toList ++ decimal size) items = .fixedBytes size
    simp [baseType, dropLeading?, bytesSize?_decimal ht, decimal_ne_nil]
  | address => rfl
  | bool => rfl
  | bytes => rfl
  | string => rfl
  | _ => exact ht.elim

theorem typeOf_canonical (ht : t.IsPlain) (items : List ParamType) :
    typeOf t.canonical items = t := by
  rw [typeOf_of_none (arrayMark?_of_not_mem (not_mem_canonical ht rfl))]
  exact baseType_canonical ht items

end Plain

/-! ### Reading declarations -/

/-- Every supported type can be declared. -/
theorem exists_declares {t : ParamType} (h : t.Supported) : ∃ p, Declares p t := by
  induction h with
  | @plain t ht => exact ⟨⟨"", String.ofList t.canonical, []⟩, .plain ht (String.toList_ofList)⟩
  | array h ih =>
    obtain ⟨⟨name, kind, components⟩, hp⟩ := ih
    exact ⟨_, hp.array⟩
  | fixedArray h hn ih =>
    obtain ⟨⟨name, kind, components⟩, hp⟩ := ih
    exact ⟨_, hp.fixedArray hn⟩
  | @tuple ts h ih =>
    have hall : ∀ ts : List ParamType, (∀ t ∈ ts, ∃ p, Declares p t) →
        ∃ ps : List Param, ps.length = ts.length ∧ ∀ e ∈ ps.zip ts, Declares e.1 e.2 := by
      intro ts hts
      induction ts with
      | nil => exact ⟨[], rfl, List.forall_mem_nil _⟩
      | cons t ts ih =>
        rw [List.forall_mem_cons] at hts
        obtain ⟨p, hp⟩ := hts.1
        obtain ⟨ps, hlength, hps⟩ := ih hts.2
        refine ⟨p :: ps, congrArg (· + 1) hlength, ?_⟩
        rw [List.zip_cons_cons, List.forall_mem_cons]
        exact ⟨hp, hps⟩
    obtain ⟨ps, hlength, hps⟩ := hall ts ih
    exact ⟨⟨"", "tuple", ps⟩, .tuple hlength hps⟩

theorem paramTypes_eq_of_zip {components : List Param} {ts : List ParamType}
    (hlength : components.length = ts.length)
    (h : ∀ e ∈ components.zip ts, e.1.type = e.2) : paramTypes components = ts := by
  induction components generalizing ts with
  | nil => exact (List.length_eq_zero_iff.1 hlength.symm).symm
  | cons p ps ih =>
    cases ts with
    | nil => cases hlength
    | cons t ts =>
      rw [List.zip_cons_cons, List.forall_mem_cons] at h
      rw [paramTypes, h.1, ih (Nat.succ.inj hlength) h.2]

theorem newline_not_mem_decimal (n : Nat) : '\n' ∉ decimal n := by
  intro h
  exact absurd (isDigit_of_mem_decimal h) (by decide)

theorem newline_not_mem_kind {p : Param} {t : ParamType} (h : Declares p t) :
    '\n' ∉ p.kind.toList := by
  induction h with
  | plain ht hkind =>
    rw [hkind]
    exact not_mem_canonical ht rfl
  | array h ih => simpa using ih
  | fixedArray h hn ih => simpa [natText] using ⟨ih, newline_not_mem_decimal _⟩
  | tuple => simp

/-- **A declaration is read as the type it declares.** -/
theorem type_of_declares {p : Param} {t : ParamType} (h : Declares p t) : p.type = t := by
  induction h with
  | plain ht hkind =>
    rw [Param.type, hkind]
    exact typeOf_canonical ht _
  | @array name kind components t h ih =>
    have hkind : (kind ++ "[]").toList = kind.toList ++ ['[', ']'] := by simp
    rw [Param.type] at ih ⊢
    rw [hkind, typeOf_append_brackets (newline_not_mem_kind h), ih]
  | @fixedArray name kind components t n h hn ih =>
    have hkind : (kind ++ "[" ++ natText n ++ "]").toList =
        kind.toList ++ '[' :: decimal n ++ [']'] := by
      simp [natText]
    rw [Param.type] at ih ⊢
    rw [hkind, typeOf_append_length (newline_not_mem_kind h) hn, ih]
  | @tuple name components ts hlength h ih =>
    rw [Param.type, typeOf_of_none (arrayMark?_of_not_mem (by decide)),
      paramTypes_eq_of_zip hlength ih]
    rfl

/-! ### Reading names -/

/-- What is left of a text without its array marks. -/
def innermost (kind : List Char) : List Char :=
  match h : arrayMark? kind with
  | some (base, _) =>
    have := length_lt_of_arrayMark? h
    innermost base
  | none => kind
  termination_by kind.length

theorem innermost_of_some {kind base digits : List Char}
    (h : arrayMark? kind = some (base, digits)) : innermost kind = innermost base := by
  rw [innermost]
  split
  · rename_i hsome
    rw [h] at hsome
    cases hsome
    rfl
  · rename_i hnone
    rw [h] at hnone
    cases hnone

theorem innermost_of_none {kind : List Char} (h : arrayMark? kind = none) :
    innermost kind = kind := by
  rw [innermost]
  split
  · rename_i hsome
    rw [h] at hsome
    cases hsome
  · rfl

section Names

variable {kind : List Char} {items items' : List ParamType}

/-- Only a tuple has items. -/
theorem baseType_congr (h : kind ≠ "tuple".toList) : baseType kind items = baseType kind items' := by
  simp only [baseType, if_neg h]

theorem isPlain_getD {digits? : Option Nat} {f : Nat → ParamType} {unknown : ParamType}
    (h : ∀ n, digits? = some n → (f n).IsPlain) :
    ((digits?.map f).getD unknown).IsPlain ∨ (digits?.map f).getD unknown = unknown := by
  cases digits? with
  | none => exact Or.inr rfl
  | some n => exact Or.inl (h n rfl)

theorem integerWidth?_bounds {digits : List Char} {bits : Nat}
    (h : integerWidth? digits = some bits) : 0 < bits ∧ bits ≤ 256 ∧ bits % 8 = 0 := by
  unfold integerWidth? at h
  split at h
  · cases h
    decide
  · exact of_decide_eq_true (Option.filter_eq_some_iff.1 h).2

theorem bytesSize?_bounds {digits : List Char} {size : Nat} (h : bytesSize? digits = some size) :
    1 ≤ size ∧ size ≤ 32 :=
  of_decide_eq_true (Option.filter_eq_some_iff.1 h).2

theorem baseType_cases (h : kind ≠ "tuple".toList) (items : List ParamType) :
    (baseType kind items).IsPlain ∨ baseType kind items = .unsupported (String.ofList kind) := by
  simp only [baseType, if_neg h]
  split
  · exact Or.inl trivial
  split
  · exact Or.inl trivial
  split
  · exact Or.inl trivial
  split
  · exact Or.inl trivial
  split
  · exact isPlain_getD fun bits hbits => integerWidth?_bounds hbits
  split
  · exact isPlain_getD fun bits hbits => integerWidth?_bounds hbits
  split
  · exact isPlain_getD fun size hsize => bytesSize?_bounds hsize
  · exact Or.inr rfl

theorem newline_not_mem_typeOf (hline : '\n' ∉ kind) (h : innermost kind ≠ "tuple".toList)
    (items : List ParamType) :
    '\n' ∉ (typeOf kind items).canonical := by
  fun_induction typeOf kind items with
  | case1 kind base digits hmark _ _ ih =>
    rw [innermost_of_some hmark] at h
    have hbase := ih (eq_of_arrayMark? hmark).2 h
    simpa [canonical_array] using hbase
  | case2 kind base digits hmark _ _ n _ ih =>
    rw [innermost_of_some hmark] at h
    have hbase := ih (eq_of_arrayMark? hmark).2 h
    simpa [canonical_fixedArray] using ⟨hbase, newline_not_mem_decimal n⟩
  | case3 => rwa [canonical_unsupported]
  | case4 kind hmark =>
    rw [innermost_of_none hmark] at h
    rcases baseType_cases h items with hplain | hunknown
    · exact not_mem_canonical hplain rfl
    · rwa [hunknown, canonical_unsupported]

/-- **The text of a type that was read is read as the same type**, whether it means something or
not, unless the items of a tuple stand elsewhere. -/
theorem typeOf_canonical_typeOf (h : innermost kind ≠ "tuple".toList)
    (items items' : List ParamType) :
    typeOf (typeOf kind items).canonical items' = typeOf kind items := by
  fun_induction typeOf kind items with
  | case1 kind base digits hmark _ _ ih =>
    rw [innermost_of_some hmark] at h
    have hline := newline_not_mem_typeOf (eq_of_arrayMark? hmark).2 h items
    rw [canonical_array, typeOf_append_brackets hline, ih h]
  | case2 kind base digits hmark _ _ n hn ih =>
    rw [innermost_of_some hmark] at h
    have hline := newline_not_mem_typeOf (eq_of_arrayMark? hmark).2 h items
    rw [canonical_fixedArray, typeOf_append_length hline (lt_of_digitsValue? hn), ih h]
  | case3 kind base digits hmark _ hdigits hn =>
    rw [canonical_unsupported, typeOf_of_some hmark, if_neg hdigits, hn]
  | case4 kind hmark =>
    rw [innermost_of_none hmark] at h
    rcases baseType_cases h items with hplain | hunknown
    · exact typeOf_canonical hplain items'
    · rw [hunknown, canonical_unsupported, typeOf_of_none hmark, baseType_congr h, hunknown]

end Names

/-! ### Texts between commas -/

/-- How many parentheses are open after a character. -/
def depthAfter (depth : Nat) (c : Char) : Nat :=
  if c = '(' then depth + 1 else if c = ')' then depth - 1 else depth

/-- A text up to its first comma outside of all parentheses, and the rest. -/
def cut (depth : Nat) : List Char → List Char × List Char
  | [] => ([], [])
  | c :: cs =>
    if c = ',' ∧ depth = 0 then ([], c :: cs)
    else (c :: (cut (depthAfter depth c) cs).1, (cut (depthAfter depth c) cs).2)

/-- A text is passed over as a whole where so many parentheses are open. -/
def PassedAt (least : Nat) (text : List Char) : Prop :=
  ∀ depth rest, least ≤ depth →
    cut depth (text ++ rest) = (text ++ (cut depth rest).1, (cut depth rest).2)

section Cuts

variable {text text' : List Char} {least : Nat}

theorem passedAt_nil (least : Nat) : PassedAt least [] := fun _ _ _ => rfl

theorem PassedAt.append (h : PassedAt least text) (h' : PassedAt least text') :
    PassedAt least (text ++ text') := by
  intro depth rest hle
  rw [List.append_assoc, h depth _ hle, h' depth _ hle, List.append_assoc]

theorem PassedAt.mono (h : PassedAt 0 text) (least : Nat) : PassedAt least text :=
  fun depth rest _ => h depth rest (Nat.zero_le depth)

theorem passedAt_comma : PassedAt 1 [','] := by
  intro depth rest hle
  have hdepth : ¬ (',' = ',' ∧ depth = 0) := fun h => absurd h.2 (by omega)
  rw [List.singleton_append, cut, if_neg hdepth]
  rfl

theorem passedAt_of_ordinary (h : ∀ c ∈ text, c ≠ ',' ∧ c ≠ '(' ∧ c ≠ ')') : PassedAt 0 text := by
  induction text with
  | nil => exact passedAt_nil 0
  | cons c cs ih =>
    rw [List.forall_mem_cons] at h
    obtain ⟨⟨hcomma, hopen, hclose⟩, hcs⟩ := h
    intro depth rest hle
    have hdepth : depthAfter depth c = depth := by
      rw [depthAfter, if_neg hopen, if_neg hclose]
    rw [List.cons_append, cut, if_neg (fun h => hcomma h.1), hdepth, ih hcs depth rest hle]
    rfl

theorem PassedAt.parenthesized (h : PassedAt 1 text) : PassedAt 0 ('(' :: text ++ [')']) := by
  intro depth rest hle
  have hopen : ¬ ('(' = ',' ∧ depth = 0) := fun h => absurd h.1 (by decide)
  have hclose : ¬ (')' = ',' ∧ depth + 1 = 0) := fun h => absurd h.1 (by decide)
  have hopened : depthAfter depth '(' = depth + 1 := rfl
  have hclosed : depthAfter (depth + 1) ')' = depth := rfl
  rw [List.cons_append, List.cons_append, List.append_assoc, cut, if_neg hopen, hopened,
    h (depth + 1) _ (Nat.le_add_left 1 depth), List.singleton_append, cut, if_neg hclose, hclosed]
  simp

end Cuts

section Canonical

variable {t u : ParamType} {ts us : List ParamType}

theorem canonicalList_cons_cons (t u : ParamType) (us : List ParamType) :
    canonicalList (t :: u :: us) = t.canonical ++ ',' :: canonicalList (u :: us) := rfl

theorem canonicalList_singleton (t : ParamType) : canonicalList [t] = t.canonical := rfl

theorem passedAt_canonicalList (h : ∀ t ∈ ts, PassedAt 0 t.canonical) :
    PassedAt 1 (canonicalList ts) := by
  induction ts with
  | nil => exact passedAt_nil 1
  | cons t ts ih =>
    rw [List.forall_mem_cons] at h
    cases ts with
    | nil => exact h.1.mono 1
    | cons u us =>
      rw [canonicalList_cons_cons]
      exact (h.1.mono 1).append (passedAt_comma.append (ih h.2))

theorem passedAt_canonical (h : t.Supported) : PassedAt 0 t.canonical := by
  have hordinary : ∀ c : Char, c.isAlphanum = true → c ≠ ',' ∧ c ≠ '(' ∧ c ≠ ')' := by
    intro c hc
    refine ⟨?_, ?_, ?_⟩ <;> rintro rfl <;> exact absurd hc (by decide)
  induction h with
  | plain ht =>
    exact passedAt_of_ordinary fun c hc => hordinary c (isAlphanum_of_mem_canonical ht hc)
  | array h ih => exact ih.append (passedAt_of_ordinary (by simp))
  | @fixedArray t n h hn ih =>
    have hopen : PassedAt 0 ['['] := passedAt_of_ordinary (by simp)
    have hclose : PassedAt 0 [']'] := passedAt_of_ordinary (by simp)
    have hlength : PassedAt 0 (decimal n) :=
      passedAt_of_ordinary fun c hc => hordinary c (isAlphanum_of_mem_decimal hc)
    exact (ih.append (hopen.append hlength)).append hclose
  | tuple h ih => exact (passedAt_canonicalList ih).parenthesized

theorem cut_canonicalList_cons (h : PassedAt 0 t.canonical) (ts : List ParamType) :
    cut 0 (canonicalList (t :: ts)) =
      (t.canonical, if ts = [] then [] else ',' :: canonicalList ts) := by
  cases ts with
  | nil =>
    rw [canonicalList_singleton]
    simpa [cut] using h 0 [] (Nat.le_refl 0)
  | cons u us =>
    rw [canonicalList_cons_cons, h 0 _ (Nat.le_refl 0), if_neg (List.cons_ne_nil u us)]
    simp [cut]

/-! ### Signatures -/

theorem canonical_ne_nil (h : t.Supported) : t.canonical ≠ [] := by
  cases h with
  | plain ht =>
    intro hnil
    have htype := baseType_canonical ht []
    rw [hnil] at htype
    subst htype
    exact ht
  | array _ => simp [canonical_array]
  | fixedArray _ _ => simp [canonical_fixedArray]
  | tuple _ => simp [canonical_tuple]

/-- Lists of types are told apart by their texts if their items are. -/
theorem canonicalList_injective
    (hts : ∀ t ∈ ts, t.Supported ∧ ∀ u : ParamType, u.Supported → t.canonical = u.canonical → t = u)
    (hus : ∀ u ∈ us, u.Supported) (h : canonicalList ts = canonicalList us) : ts = us := by
  induction ts generalizing us with
  | nil =>
    cases us with
    | nil => rfl
    | cons u us =>
      have hcut := cut_canonicalList_cons (passedAt_canonical (hus u List.mem_cons_self)) us
      rw [← h] at hcut
      exact absurd (congrArg Prod.fst hcut).symm (canonical_ne_nil (hus u List.mem_cons_self))
  | cons t ts ih =>
    rw [List.forall_mem_cons] at hts
    obtain ⟨⟨ht, htext⟩, hts⟩ := hts
    -- both texts are cut behind their first item
    have hcut := cut_canonicalList_cons (passedAt_canonical ht) ts
    cases us with
    | nil =>
      rw [h] at hcut
      exact absurd (congrArg Prod.fst hcut).symm (canonical_ne_nil ht)
    | cons u us =>
      rw [List.forall_mem_cons] at hus
      obtain ⟨hu, hus⟩ := hus
      rw [h, cut_canonicalList_cons (passedAt_canonical hu) us, Prod.mk.injEq] at hcut
      obtain ⟨hfirst, hrest⟩ := hcut
      have hlists : ts = us := by
        by_cases hempty : ts = []
        · rw [if_pos hempty] at hrest
          split at hrest
          · rename_i hempty'
            rw [hempty, hempty']
          · cases hrest
        · rw [if_neg hempty] at hrest
          split at hrest
          · cases hrest
          · exact ih hts hus (List.cons.inj hrest).2.symm
      rw [htext u hu hfirst.symm, hlists]

theorem newline_not_mem_canonicalList (h : ∀ t ∈ ts, '\n' ∉ t.canonical) :
    '\n' ∉ canonicalList ts := by
  induction ts with
  | nil => exact List.not_mem_nil
  | cons t ts ih =>
    rw [List.forall_mem_cons] at h
    cases ts with
    | nil => exact h.1
    | cons u us =>
      rw [canonicalList_cons_cons, List.mem_append, List.mem_cons]
      rintro (hmem | hcomma | hmem)
      · exact h.1 hmem
      · exact absurd hcomma (by decide)
      · exact ih h.2 hmem

theorem newline_not_mem_canonical (h : t.Supported) : '\n' ∉ t.canonical := by
  induction h with
  | plain ht => exact not_mem_canonical ht rfl
  | array h ih => simpa [canonical_array] using ih
  | fixedArray h hn ih => simpa [canonical_fixedArray] using ⟨ih, newline_not_mem_decimal _⟩
  | tuple h ih => simpa [canonical_tuple] using newline_not_mem_canonicalList ih

theorem arrayMark?_array (h : t.Supported) :
    arrayMark? (ParamType.array t).canonical = some (t.canonical, []) :=
  arrayMark?_append_brackets (newline_not_mem_canonical h)

theorem arrayMark?_fixedArray (h : t.Supported) (n : Nat) :
    arrayMark? (ParamType.fixedArray t n).canonical = some (t.canonical, decimal n) :=
  arrayMark?_append_length (newline_not_mem_canonical h) n

theorem arrayMark?_tuple (ts : List ParamType) :
    arrayMark? (ParamType.tuple ts).canonical = none := by
  simp [arrayMark?, canonical_tuple]

theorem arrayMark?_plain (h : t.IsPlain) : arrayMark? t.canonical = none :=
  arrayMark?_of_not_mem (not_mem_canonical h rfl)

theorem canonical_plain_ne_tuple (h : t.IsPlain) (ts : List ParamType) :
    t.canonical ≠ (ParamType.tuple ts).canonical := by
  intro heq
  have hmem : '(' ∈ t.canonical := by
    rw [heq, canonical_tuple]
    exact List.mem_cons_self
  exact not_mem_canonical h rfl hmem

/-- **Supported types with one text are one type.** -/
theorem canonical_injective (ht : t.Supported) (hu : u.Supported) (h : t.canonical = u.canonical) :
    t = u := by
  -- the end of a text tells the arrays apart, its beginning the tuples from the plain types
  induction ht generalizing u with
  | @plain t ht =>
    have hmark := (arrayMark?_plain ht).symm.trans (congrArg arrayMark? h)
    cases hu with
    | plain hu => rw [← typeOf_canonical ht [], h, typeOf_canonical hu]
    | array hu => cases hmark.trans (arrayMark?_array hu)
    | fixedArray hu hn => cases hmark.trans (arrayMark?_fixedArray hu _)
    | tuple hus => exact absurd h (canonical_plain_ne_tuple ht _)
  | @array t ht ih =>
    have hmark := (arrayMark?_array ht).symm.trans (congrArg arrayMark? h)
    cases hu with
    | plain hu => cases hmark.trans (arrayMark?_plain hu)
    | array hu =>
      have hparts := Prod.mk.inj (Option.some.inj (hmark.trans (arrayMark?_array hu)))
      rw [ih hu hparts.1]
    | fixedArray hu hn =>
      have hparts := Prod.mk.inj (Option.some.inj (hmark.trans (arrayMark?_fixedArray hu _)))
      exact absurd hparts.2.symm (decimal_ne_nil _)
    | tuple hus => cases hmark.trans (arrayMark?_tuple _)
  | @fixedArray t n ht hn ih =>
    have hmark := (arrayMark?_fixedArray ht n).symm.trans (congrArg arrayMark? h)
    cases hu with
    | plain hu => cases hmark.trans (arrayMark?_plain hu)
    | array hu =>
      have hparts := Prod.mk.inj (Option.some.inj (hmark.trans (arrayMark?_array hu)))
      exact absurd hparts.2 (decimal_ne_nil n)
    | fixedArray hu hm =>
      have hparts := Prod.mk.inj (Option.some.inj (hmark.trans (arrayMark?_fixedArray hu _)))
      have hlength := congrArg digitsValue? hparts.2
      rw [digitsValue?_decimal hn, digitsValue?_decimal hm] at hlength
      rw [ih hu hparts.1, Option.some.inj hlength]
    | tuple hus => cases hmark.trans (arrayMark?_tuple _)
  | @tuple ts hts ih =>
    have hmark := (arrayMark?_tuple ts).symm.trans (congrArg arrayMark? h)
    cases hu with
    | plain hu => exact absurd h.symm (canonical_plain_ne_tuple hu ts)
    | array hu => cases hmark.trans (arrayMark?_array hu)
    | fixedArray hu hn => cases hmark.trans (arrayMark?_fixedArray hu _)
    | tuple hus =>
      have hitems := List.append_cancel_right (List.cons.inj h).2
      rw [canonicalList_injective (fun t ht => ⟨hts t ht, fun u hu => ih t ht hu⟩) hus hitems]

theorem inputTypes_eq_of_signature_eq {f g : Function} (hname : f.name = g.name)
    (hf : ∀ t ∈ f.inputTypes, t.Supported) (hg : ∀ t ∈ g.inputTypes, t.Supported)
    (h : f.signature = g.signature) : f.inputTypes = g.inputTypes := by
  have htexts : f.name.toList ++ ('(' :: canonicalList f.inputTypes ++ [')']) =
      g.name.toList ++ ('(' :: canonicalList g.inputTypes ++ [')']) := by
    simpa [Function.signature] using congrArg String.toList h
  rw [hname] at htexts
  have hitems := List.append_cancel_right (List.cons.inj (List.append_cancel_left htexts)).2
  exact canonicalList_injective
    (fun t ht => ⟨hf t ht, fun u hu htext => canonical_injective (hf t ht) hu htext⟩) hg hitems

end Canonical

/-- **Types and their texts.** A supported type has a declaration, and every declaration of it is
read as it. Its text in a signature is no other's, so functions with one name that take other
types have other signatures. A text without a tuple at its base has a type whose own text is read
as the same type again. -/
theorem types_agree_with_texts :
    (∀ t : ParamType, t.Supported → (∃ p, Declares p t) ∧ ∀ p, Declares p t → p.type = t) ∧
      (∀ t u : ParamType, t.Supported → u.Supported → t.canonical = u.canonical → t = u) ∧
      (∀ f g : Function, f.name = g.name → (∀ t ∈ f.inputTypes, t.Supported) →
        (∀ t ∈ g.inputTypes, t.Supported) → f.inputTypes ≠ g.inputTypes →
        f.signature ≠ g.signature) ∧
      ∀ kind items items', innermost kind ≠ "tuple".toList →
        typeOf (typeOf kind items).canonical items' = typeOf kind items := by
  refine ⟨?_, ?_, ?_, ?_⟩
  · intro t ht
    exact ⟨exists_declares ht, fun p hp => type_of_declares hp⟩
  · intro t u ht hu h
    exact canonical_injective ht hu h
  · intro f g hname hf hg hne h
    exact hne (inputTypes_eq_of_signature_eq hname hf hg h)
  · intro kind items items' h
    exact typeOf_canonical_typeOf h items items'

theorem types_agree_with_texts_transfers :
    let t : ParamType := .array (.fixedArray (.tuple [.address, .uint 128]) 3)
    let p : Param :=
      ⟨"transfers", "tuple[3][]", [⟨"to", "address", []⟩, ⟨"amount", "uint128", []⟩]⟩
    t.Supported ∧ Declares p t ∧ p.type = t ∧ t.name = "(address,uint128)[3][]" := by
  intro t p
  have haddress : ParamType.address.IsPlain := trivial
  have huint : (ParamType.uint 128).IsPlain := ⟨by decide, by decide, rfl⟩
  have hitems : ∀ t ∈ [ParamType.address, .uint 128], t.Supported := by
    rw [List.forall_mem_cons, List.forall_mem_singleton]
    exact ⟨.plain haddress, .plain huint⟩
  have ht : t.Supported := .array (.fixedArray (.tuple hitems) (by decide))
  have hp : Declares p t := by
    have hcomponents : ∀ e ∈ p.components.zip [ParamType.address, .uint 128],
        Declares e.1 e.2 := by
      show ∀ e ∈ [_, _], _
      rw [List.forall_mem_cons, List.forall_mem_singleton]
      exact ⟨.plain haddress rfl, .plain huint rfl⟩
    have hn : 3 < 2 ^ 64 := by decide
    exact .array (.fixedArray (.tuple rfl hcomponents) hn)
  exact ⟨ht, hp, (types_agree_with_texts.1 t ht).2 p hp, by decide⟩

end GasLens.Abi
