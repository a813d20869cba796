/-
  GasLens/Proofs/DrawnArguments.lean
  ==================================
  **Drawn arguments are values of their types** — for every type that a description can give, what
  the policy permits conforms to it.

  A described type has widths and sizes that a word can hold; nothing else can be read from the
  text of a type. Two kinds of described types have no value at all: those without a meaning, and
  fixed arrays without an item. Where neither occurs at any depth, a type is *standard*.

  The draws themselves are not looked at here: a drawn value is permitted
  (`drawCall_permitted`), and a permitted one conforms (`Permitted.conforms`).
-/
import GasLens.Proofs.ArgumentPolicy
import GasLens.Proofs.CalldataRoundTrip
import GasLens.Proofs.TypeNames

namespace GasLens.Abi

open GasLens.Text GasLens.Random

/-! ### Types -/

mutual

/-- A type has a value that can be laid out: no part of it is unsupported, and no fixed array in
it is without items. -/
def ParamType.isStandard : ParamType → Bool
  | .array t => t.isStandard
  | .fixedArray t n => decide (0 < n) && t.isStandard
  | .tuple ts => allStandard ts
  | .unsupported _ => false
  | _ => true

def allStandard : List ParamType → Bool
  | [] => true
  | t :: ts => t.isStandard && allStandard ts

end

theorem allStandard_iff {ts : List ParamType} :
    allStandard ts = true ↔ ∀ t ∈ ts, t.isStandard = true := by
  induction ts with
  | nil => exact ⟨fun _ => nofun, fun _ => rfl⟩
  | cons t ts ih => rw [allStandard, Bool.and_eq_true, ih, List.forall_mem_cons]

mutual

/-- The widths of the numbers and the sizes of the fixed byte strings in a type fit a word. -/
def ParamType.FitsWord : ParamType → Prop
  | .uint bits => 0 < bits ∧ bits ≤ 256
  | .int bits => 0 < bits ∧ bits ≤ 256
  | .fixedBytes n => 0 < n ∧ n ≤ wordLength
  | .array t => t.FitsWord
  | .fixedArray t _ => t.FitsWord
  | .tuple ts => AllFitWord ts
  | _ => True

def AllFitWord : List ParamType → Prop
  | [] => True
  | t :: ts => t.FitsWord ∧ AllFitWord ts

end

theorem ParamType.IsPlain.fitsWord {t : ParamType} (h : t.IsPlain) : t.FitsWord := by
  cases t with
  | uint bits => exact ⟨h.1, h.2.1⟩
  | int bits => exact ⟨h.1, h.2.1⟩
  | fixedBytes size => exact h
  | address => exact trivial
  | bool => exact trivial
  | bytes => exact trivial
  | string => exact trivial
  | _ => exact h.elim

theorem baseType_fitsWord (kind : List Char) {items : List ParamType} (h : AllFitWord items) :
    (baseType kind items).FitsWord := by
  by_cases htuple : kind = "tuple".toList
  · rw [htuple]
    exact h
  · rcases baseType_cases htuple items with hplain | hunknown
    · exact hplain.fitsWord
    · rw [hunknown]
      exact trivial

theorem typeOf_fitsWord (kind : List Char) {items : List ParamType} (h : AllFitWord items) :
    (typeOf kind items).FitsWord := by
  fun_induction typeOf kind items with
  | case1 _ _ _ _ _ _ ih => simpa only [ParamType.FitsWord] using ih
  | case2 _ _ _ _ _ _ _ _ ih => simpa only [ParamType.FitsWord] using ih
  | case3 => simp only [ParamType.FitsWord]
  | case4 kind => exact baseType_fitsWord kind h

mutual

/-- Every part of a described type fits a word. -/
theorem Param.fitsWord_type (p : Param) : p.type.FitsWord :=
  match p with
  | ⟨_, kind, components⟩ => by
    rw [Param.type]
    exact typeOf_fitsWord kind.toList (allFitWord_paramTypes components)

theorem allFitWord_paramTypes (ps : List Param) : AllFitWord (paramTypes ps) :=
  match ps with
  | [] => by
    rw [paramTypes, AllFitWord]
    trivial
  | p :: ps => by
    rw [paramTypes, AllFitWord]
    exact ⟨p.fitsWord_type, allFitWord_paramTypes ps⟩

end

/-! ### Parts of types -/

namespace ParamType

variable {u t : ParamType} {ts : List ParamType}

theorem fitsWord_of_mem (ht : t ∈ ts) (h : AllFitWord ts) : t.FitsWord := by
  induction ts with
  | nil => cases ht
  | cons first rest ih =>
    rw [AllFitWord] at h
    rcases List.mem_cons.1 ht with rfl | hmem
    · exact h.1
    · exact ih hmem h.2

theorem IsPartOf.fitsWord (hpart : u.IsPartOf t) (h : t.FitsWord) : u.FitsWord := by
  induction hpart with
  | refl => exact h
  | array _ ih =>
    rw [FitsWord] at h
    exact ih h
  | fixedArray _ ih =>
    rw [FitsWord] at h
    exact ih h
  | tuple ht _ ih =>
    rw [FitsWord] at h
    exact ih (fitsWord_of_mem ht h)

theorem IsPartOf.isStandard (hpart : u.IsPartOf t) (h : t.isStandard = true) :
    u.isStandard = true := by
  induction hpart with
  | refl => exact h
  | array _ ih =>
    rw [ParamType.isStandard] at h
    exact ih h
  | fixedArray _ ih =>
    rw [ParamType.isStandard, Bool.and_eq_true] at h
    exact ih h.2
  | tuple ht _ ih =>
    rw [ParamType.isStandard] at h
    exact ih (allStandard_iff.mp h _ ht)

theorem isMeaningful_of_isStandard (h : t.isStandard = true) : t.IsMeaningful := by
  intro name hpart
  have hname := hpart.isStandard h
  rw [ParamType.isStandard] at hname
  exact absurd hname Bool.false_ne_true

end ParamType

/-- A described integer has a bit at least, so a signed one has room for its sign. -/
theorem Param.width_pos (p : Param) {bits : Nat} (h : (ParamType.int bits).IsPartOf p.type) :
    0 < bits := by
  have hfits := h.fitsWord p.fitsWord_type
  rw [ParamType.FitsWord] at hfits
  exact hfits.1

/-! ### Lists of types -/

theorem conformsAll_replicate {t : ParamType} {xs : List Token} (h : ∀ x ∈ xs, Conforms t x) :
    ConformsAll (List.replicate xs.length t) xs := by
  induction xs with
  | nil => exact ConformsAll.nil
  | cons x xs ih =>
    obtain ⟨hx, hxs⟩ := List.forall_mem_cons.mp h
    exact ConformsAll.cons hx (ih hxs)

theorem conformsAll_of_zip {ts : List ParamType} {xs : List Token} (hlength : xs.length = ts.length)
    (h : ∀ e ∈ ts.zip xs, Conforms e.1 e.2) : ConformsAll ts xs := by
  induction ts generalizing xs with
  | nil =>
    rw [List.eq_nil_of_length_eq_zero hlength]
    exact .nil
  | cons t ts ih =>
    cases xs with
    | nil => cases hlength
    | cons x xs =>
      rw [List.zip_cons_cons, List.forall_mem_cons] at h
      exact .cons h.1 (ih (Nat.succ.inj hlength) h.2)

/-! ### Permitted values conform -/

theorem conforms_fixedBytes {bs : List UInt8} (hfits : (ParamType.fixedBytes bs.length).FitsWord) :
    Conforms (.fixedBytes bs.length) (.fixedBytes bs) := by
  rw [ParamType.FitsWord] at hfits
  exact .fixedBytes hfits.1 hfits.2

/-- A zero is a value of its type. -/
theorem IsZero.conforms {t : ParamType} {x : Token} (h : IsZero t x)
    (hstandard : t.isStandard = true) (hfits : t.FitsWord) : Conforms t x := by
  induction h with
  | uint bits =>
    rw [ParamType.FitsWord] at hfits
    exact .uint hfits.2 (Nat.two_pow_pos bits)
  | int bits =>
    rw [ParamType.FitsWord] at hfits
    have hpow : (0 : Int) < 2 ^ (bits - 1) := Int.pow_pos (by decide)
    exact .int hfits.1 hfits.2 (Int.neg_nonpos_of_nonneg (Int.le_of_lt hpow)) hpow
  | address => exact .address List.length_replicate
  | bool => exact .bool false
  | fixedBytes n =>
    have hbytes : (List.replicate n (0 : UInt8)).length = n := List.length_replicate
    have hconforms := conforms_fixedBytes (hbytes.symm ▸ hfits)
    rwa [hbytes] at hconforms
  | bytes => exact .bytes []
  | string => exact .string ""
  | array t => exact .array (by decide) .nil
  | fixedArray _ ih =>
    rw [ParamType.FitsWord] at hfits
    rw [ParamType.isStandard, Bool.and_eq_true, decide_eq_true_eq] at hstandard
    exact .fixedArray hstandard.1 (conformsAll_replicate fun x hx => ih x hx hstandard.2 hfits)
  | tuple hlength _ ih =>
    rw [ParamType.FitsWord] at hfits
    rw [ParamType.isStandard] at hstandard
    refine .tuple (conformsAll_of_zip hlength fun e he => ?_)
    have hmem := (List.of_mem_zip he).1
    exact ih e he (allStandard_iff.mp hstandard _ hmem) (ParamType.fitsWord_of_mem hmem hfits)

/-- **A permitted value is one of its type**, if the caller is an account. -/
theorem Permitted.conforms {caller : List UInt8} {t : ParamType} {x : Token}
    (h : Permitted caller t x) (hcaller : caller.length = 20) (hstandard : t.isStandard = true)
    (hfits : t.FitsWord) : Conforms t x := by
  induction h with
  | uint high =>
    rw [ParamType.FitsWord] at hfits
    exact .uint hfits.2 (Nat.lt_min.1 high).2
  | int low high =>
    rw [ParamType.FitsWord] at hfits
    exact .int hfits.1 hfits.2 (by omega) (Int.lt_min.1 high).2
  | address => exact .address hcaller
  | bool b => exact .bool b
  | fixedBytes _ => exact conforms_fixedBytes hfits
  | bytes _ => exact .bytes _
  | string _ _ => exact .string _
  | array count _ ih =>
    rw [ParamType.FitsWord] at hfits
    rw [ParamType.isStandard] at hstandard
    have hcount := Nat.lt_of_le_of_lt count (by decide : 1 < 2 ^ 256)
    exact .array hcount (conformsAll_replicate fun x hx => ih x hx hstandard hfits)
  | fixedArray zero => exact zero.conforms hstandard hfits
  | tuple zero => exact zero.conforms hstandard hfits

theorem conformsAll_of_permitted {caller : List UInt8} (hcaller : caller.length = 20)
    {ts : List ParamType} {as : List Argument} (h : List.Forall₂ (PermittedAs caller) ts as)
    (hstandard : ∀ t ∈ ts, t.isStandard = true) (hfits : AllFitWord ts) :
    ConformsAll ts (tokens as) := by
  induction h with
  | nil => exact .nil
  | cons hfirst _ ih =>
    rw [List.forall_mem_cons] at hstandard
    rw [AllFitWord] at hfits
    have hpermitted := hfirst (ParamType.isMeaningful_of_isStandard hstandard.1)
    exact .cons (hpermitted.conforms hcaller hstandard.1 hfits.1) (ih hstandard.2 hfits.2)

/-- The arguments of a call are values of the types that its function declares. -/
theorem drawCall_conforms (f : Function) {caller : List UInt8} (hcaller : caller.length = 20)
    (hstandard : ∀ t ∈ f.inputTypes, t.isStandard = true) :
    (drawCall f caller).Gives fun as => ConformsAll f.inputTypes (tokens as) := by
  have hfits : AllFitWord f.inputTypes := by
    rw [Function.inputTypes, ← paramTypes_eq_map]
    exact allFitWord_paramTypes f.inputs
  exact gives_imp (drawCall_permitted f caller) fun as has =>
    conformsAll_of_permitted hcaller has hstandard hfits

/-! ### What is drawn -/

/-- **Drawn values are of their types and within the policy.** Whatever the random words are, a
value that is drawn for a described type without an unsupported part is permitted for it, and
signed integers in such a type have room for their sign. Of the arguments of a call each one is
permitted for its own input, also where the first was drawn twice. -/
theorem drawn_values_are_permitted (caller : List UInt8) (source : WordSource) (position : Nat) :
    (∀ (p : Param) (a : Argument) (next : Nat), p.type.IsMeaningful →
        drawArgument caller p.type source position = some (a, next) →
        Permitted caller p.type a.token) ∧
      (∀ (p : Param) (bits : Nat), (ParamType.int bits).IsPartOf p.type → 0 < bits) ∧
      ∀ (f : Function) (as : List Argument) (next : Nat),
        drawCall f caller source position = some (as, next) →
        List.Forall₂ (fun p a => p.type.IsMeaningful → Permitted caller p.type a.token)
          f.inputs as := by
  refine ⟨?_, ?_, ?_⟩
  · intro p a next hmeaning hdraw
    exact drawArgument_permitted caller p.type hmeaning source position a next hdraw
  · intro p bits hpart
    exact p.width_pos hpart
  · intro f as next hdraw
    have hpermitted := drawCall_permitted f caller source position as next hdraw
    rwa [Function.inputTypes, List.forall₂_map_left_iff] at hpermitted

/-- A withdrawal with accounts in an array and inside tuples, and an input without a meaning. -/
def sharedWithdrawal : Function :=
  ⟨"withdrawShares", [⟨"amount", "uint16", []⟩, ⟨"to", "address[]", []⟩,
    ⟨"shares", "tuple[2]", [⟨"owner", "address", []⟩, ⟨"key", "bytes2", []⟩]⟩,
    ⟨"hook", "function", []⟩], [], .nonpayable, none⟩

theorem inputTypes_sharedWithdrawal :
    sharedWithdrawal.inputTypes = [.uint 16, .array .address,
      .fixedArray (.tuple [.address, .fixedBytes 2]) 2, .unsupported "function"] := by
  have hamount : typeOf "uint16".toList [] = .uint 16 := by rw [typeOf]; rfl
  have howner : typeOf "address".toList [] = .address := by rw [typeOf]; rfl
  have hkey : typeOf "bytes2".toList [] = .fixedBytes 2 := by rw [typeOf]; rfl
  have hhook : typeOf "function".toList [] = .unsupported "function" := by rw [typeOf]; rfl
  have hto : typeOf "address[]".toList [] = .array .address := by
    have hbase : '\n' ∉ "address".toList := by decide
    rw [← howner]
    exact typeOf_append_brackets hbase
  have hshares : typeOf "tuple[2]".toList [.address, .fixedBytes 2] =
      .fixedArray (.tuple [.address, .fixedBytes 2]) 2 := by
    have hbase : '\n' ∉ "tuple".toList := by decide
    have hn : 2 < 2 ^ 64 := by decide
    have hshare : typeOf "tuple".toList [.address, .fixedBytes 2] =
        .tuple [.address, .fixedBytes 2] := by rw [typeOf]; rfl
    rw [← hshare]
    exact typeOf_append_length hbase hn
  simp only [sharedWithdrawal, Function.inputTypes, List.map_cons, List.map_nil, Param.type,
    paramTypes, hamount, howner, hkey, hhook, hto, hshares]

set_option maxRecDepth 4000 in
/-- The amount is the one that was drawn last, below a thousand though its type has 16 bits, and
the accounts in the tuples are not the caller. -/
theorem drawn_values_are_permitted_sharedWithdrawal :
    let caller : List UInt8 := List.replicate 20 0xaa
    let shares : ParamType := .fixedArray (.tuple [.address, .fixedBytes 2]) 2
    let zero : Token := .tuple [.address (List.replicate 20 0), .fixedBytes [0, 0]]
    drawCall sharedWithdrawal caller (.ofList [7, 0x80000000, 0xff00000000000000]) 0 =
        some ([.uint 996, .array [.address caller], .zero shares, .zero (.unsupported "function")],
          3) ∧
      shares.IsMeaningful ∧ Permitted caller shares (.fixedArray [zero, zero]) ∧
      Permitted caller (.uint 16) (.uint 996) := by
  intro caller shares zero
  have hdraw : drawCall sharedWithdrawal caller (.ofList [7, 0x80000000, 0xff00000000000000]) 0 =
      some ([.uint 996, .array [.address caller], .zero shares, .zero (.unsupported "function")],
        3) := by
    have hredraw : sharedWithdrawal.looksLikeWithdrawal = true := by
      rw [Function.looksLikeWithdrawal, inputTypes_sharedWithdrawal]
      rfl
    rw [drawCall, hredraw, inputTypes_sharedWithdrawal]
    rfl
  have hwidth : (ParamType.uint 16).IsMeaningful := ParamType.isMeaningful_of_isStandard rfl
  have htuples : shares.IsMeaningful := ParamType.isMeaningful_of_isStandard rfl
  have hpermitted := (drawn_values_are_permitted caller _ 0).2.2 sharedWithdrawal _ 3 hdraw
  have htypes : List.Forall₂ (PermittedAs caller) sharedWithdrawal.inputTypes _ :=
    List.forall₂_map_left_iff.2 hpermitted
  rw [inputTypes_sharedWithdrawal] at htypes
  simp only [List.forall₂_cons] at htypes
  obtain ⟨hamount, -, hshares, -⟩ := htypes
  exact ⟨hdraw, htuples, hshares htuples, hamount hwidth⟩

end GasLens.Abi
