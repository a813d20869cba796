/-
  GasLens/Proofs/ArgumentPolicy.lean
  ==================================
  **The policy of random arguments** — which values a type may be given, said by recursion on the
  type and without the draws.

  `Permitted` is the policy: small numbers, the caller for every account, short texts and byte
  strings, at most one item in an array, and for the types that are not drawn the one value in
  which everything is zero (`IsZero`). Only the last goes into all parts of a type, so an account
  inside a tuple is the zero account and not the caller.

  A value is promised for types in which nothing is unsupported. Each argument of a call is
  promised for its own type, whatever the types of the others are.
-/
import GasLens.Abi.Draw
import GasLens.Proofs.Draws
import Mathlib.Data.List.Forall2

namespace GasLens.Abi

open GasLens.Text GasLens.Random

/-! ### Parts of types -/

/-- A type stands somewhere in another one, or is that type. -/
inductive ParamType.IsPartOf : ParamType → ParamType → Prop where
  | refl (t : ParamType) : IsPartOf t t
  | array {u t : ParamType} (h : IsPartOf u t) : IsPartOf u (.array t)
  | fixedArray {u t : ParamType} {n : Nat} (h : IsPartOf u t) : IsPartOf u (.fixedArray t n)
  | tuple {u t : ParamType} {ts : List ParamType} (ht : t ∈ ts) (h : IsPartOf u t) :
    IsPartOf u (.tuple ts)

/-- No part of a type is unsupported. -/
def ParamType.IsMeaningful (t : ParamType) : Prop := ∀ name, ¬ (unsupported name).IsPartOf t

namespace ParamType.IsMeaningful

variable {t : ParamType} {n : Nat} {ts : List ParamType}

theorem of_array (h : (array t).IsMeaningful) : t.IsMeaningful :=
  fun name hpart => h name (.array hpart)

theorem of_fixedArray (h : (fixedArray t n).IsMeaningful) : t.IsMeaningful :=
  fun name hpart => h name (.fixedArray hpart)

theorem of_tuple (h : (tuple ts).IsMeaningful) : ∀ t ∈ ts, t.IsMeaningful :=
  fun _ ht name hpart => h name (.tuple ht hpart)

end ParamType.IsMeaningful

/-! ### Zeros -/

/-- A value of a type in which everything is zero, with as many items as the type says. -/
inductive IsZero : ParamType → Token → Prop where
  | uint (bits : Nat) : IsZero (.uint bits) (.uint 0)
  | int (bits : Nat) : IsZero (.int bits) (.int 0)
  | address : IsZero .address (.address (List.replicate 20 0))
  | bool : IsZero .bool (.bool false)
  | fixedBytes (n : Nat) : IsZero (.fixedBytes n) (.fixedBytes (List.replicate n 0))
  | bytes : IsZero .bytes (.bytes [])
  | string : IsZero .string (.string "")
  | array (t : ParamType) : IsZero (.array t) (.array [])
  | fixedArray {t : ParamType} {xs : List Token} (items : ∀ x ∈ xs, IsZero t x) :
    IsZero (.fixedArray t xs.length) (.fixedArray xs)
  | tuple {ts : List ParamType} {xs : List Token} (length : xs.length = ts.length)
    (items : ∀ e ∈ ts.zip xs, IsZero e.1 e.2) : IsZero (.tuple ts) (.tuple xs)

theorem length_zeroTokens (ts : List ParamType) : (zeroTokens ts).length = ts.length := by
  induction ts with
  | nil => rfl
  | cons t ts ih => rw [zeroTokens, List.length_cons, List.length_cons, ih]

mutual

/-- The zero that is built for a type is its zero, part by part. -/
theorem isZero_zeroToken (t : ParamType) (h : t.IsMeaningful) : IsZero t (zeroToken t) :=
  match t with
  | .uint bits => .uint bits
  | .int bits => .int bits
  | .address => .address
  | .bool => .bool
  | .fixedBytes n => .fixedBytes n
  | .bytes => .bytes
  | .string => .string
  | .array t => .array t
  | .fixedArray t n => by
    have hitem := isZero_zeroToken t h.of_fixedArray
    have hitems : ∀ x ∈ List.replicate n (zeroToken t), IsZero t x := by
      intro x hx
      rw [List.eq_of_mem_replicate hx]
      exact hitem
    have hzero := IsZero.fixedArray hitems
    rwa [List.length_replicate] at hzero
  | .tuple ts => .tuple (length_zeroTokens ts) (isZero_zeroTokens ts h.of_tuple)
  | .unsupported name => absurd (.refl _) (h name)

theorem isZero_zeroTokens (ts : List ParamType) (h : ∀ t ∈ ts, t.IsMeaningful) :
    ∀ e ∈ ts.zip (zeroTokens ts), IsZero e.1 e.2 :=
  match ts with
  | [] => nofun
  | t :: ts => by
    rw [List.forall_mem_cons] at h
    rw [zeroTokens, List.zip_cons_cons, List.forall_mem_cons]
    exact ⟨isZero_zeroToken t h.1, isZero_zeroTokens ts h.2⟩

end

/-! ### The policy -/

/-- A value may be given for a type, with an account that makes the call. -/
inductive Permitted (caller : List UInt8) : ParamType → Token → Prop where
  | uint {bits n : Nat} (high : n < min 1000 (2 ^ bits)) : Permitted caller (.uint bits) (.uint n)
  | int {bits : Nat} {n : Int} (low : 0 ≤ n) (high : n < min 1000 (2 ^ (bits - 1))) :
    Permitted caller (.int bits) (.int n)
  | address : Permitted caller .address (.address caller)
  | bool (b : Bool) : Permitted caller .bool (.bool b)
  | fixedBytes {bs : List UInt8} (zeros : ∀ b ∈ bs.drop 4, b = 0) :
    Permitted caller (.fixedBytes bs.length) (.fixedBytes bs)
  | bytes {bs : List UInt8} (length : bs.length = 4) : Permitted caller .bytes (.bytes bs)
  | string {cs : List Char} (length : cs.length = 8)
    (plain : ∀ c ∈ cs, c.isDigit = true ∨ c.isLower = true) :
    Permitted caller .string (.string (String.ofList ('s' :: '_' :: cs)))
  | array {t : ParamType} {xs : List Token} (count : xs.length ≤ 1)
    (items : ∀ x ∈ xs, Permitted caller t x) : Permitted caller (.array t) (.array xs)
  | fixedArray {t : ParamType} {n : Nat} {x : Token} (zero : IsZero (.fixedArray t n) x) :
    Permitted caller (.fixedArray t n) x
  | tuple {ts : List ParamType} {x : Token} (zero : IsZero (.tuple ts) x) :
    Permitted caller (.tuple ts) x

/-! ### Draws of one value -/

theorem boundOfBits_eq (bits : Nat) : boundOfBits bits = min 1000 (2 ^ bits) := by
  rw [boundOfBits]
  split
  · rename_i hwide
    have hpow : 2 ^ 64 ≤ 2 ^ bits := Nat.pow_le_pow_right (by decide) hwide
    exact (Nat.min_eq_left (Nat.le_trans (by decide) hpow)).symm
  · rfl

theorem boundOfBits_pos (bits : Nat) : 0 < boundOfBits bits := by
  rw [boundOfBits_eq]
  exact Nat.lt_min.2 ⟨by decide, Nat.two_pow_pos bits⟩

theorem drawUnsigned_permitted (caller : List UInt8) (bits : Nat) :
    (drawUnsigned bits).Gives fun a => Permitted caller (.uint bits) a.token := by
  refine gives_map (below_lt .whole (boundOfBits_pos bits)) fun n hn => ?_
  rw [boundOfBits_eq] at hn
  exact .uint hn

theorem drawFixedBytes_gives (size : Nat) :
    (drawFixedBytes size).Gives fun bs => bs.length = size ∧ ∀ b ∈ bs.drop 4, b = 0 := by
  refine gives_map (drawMany_all (gives_any nextByte) _) fun bs hbs => ?_
  have hcount : bs.length = min 4 size := hbs.1
  constructor
  · rw [List.length_append, List.length_replicate, hbs.1]
    omega
  · intro b hb
    have hshort : bs.drop 4 = [] := List.drop_eq_nil_of_le (by omega)
    rw [List.drop_append, hshort, List.nil_append] at hb
    exact List.eq_of_mem_replicate (List.mem_of_mem_drop hb)

theorem drawChar_gives : drawChar.Gives fun c => c.isDigit = true ∨ c.isLower = true := by
  have hpos : 0 < textAlphabet.length := by decide
  have hall : (textAlphabet.all fun c => c.isDigit || c.isLower) = true := by decide +kernel
  refine gives_map (below_lt .whole hpos) fun i hi => ?_
  rw [List.getD_eq_getElem?_getD, List.getElem?_eq_getElem hi]
  exact Bool.or_eq_true_iff.1 (List.all_eq_true.1 hall _ (List.getElem_mem hi))

theorem drawText_gives : drawText.Gives fun s => ∃ cs : List Char,
    s = String.ofList ('s' :: '_' :: cs) ∧ cs.length = 8 ∧
      ∀ c ∈ cs, c.isDigit = true ∨ c.isLower = true :=
  gives_map (drawMany_all drawChar_gives _) fun cs hcs => ⟨cs, rfl, hcs⟩

theorem tokens_eq_map (as : List Argument) : tokens as = as.map Argument.token := by
  induction as with
  | nil => rfl
  | cons a as ih => rw [tokens, List.map_cons, ih]

theorem length_tokens (as : List Argument) : (tokens as).length = as.length := by
  rw [tokens_eq_map, List.length_map]

/-- **A drawn value is within the policy**, whatever the random words are. -/
theorem drawArgument_permitted (caller : List UInt8) (t : ParamType) (h : t.IsMeaningful) :
    (drawArgument caller t).Gives fun a => Permitted caller t a.token := by
  fun_induction drawArgument caller t with
  | case1 bits => exact drawUnsigned_permitted caller bits
  | case2 bits =>
    refine gives_map (below_lt .whole (boundOfBits_pos (bits - 1))) fun n hn => ?_
    rw [boundOfBits_eq, Nat.lt_min] at hn
    have hsmall : (n : Int) < 1000 := by omega
    have hbits : (n : Int) < 2 ^ (bits - 1) := by exact_mod_cast hn.2
    exact .int (Int.natCast_nonneg n) (Int.lt_min.2 ⟨hsmall, hbits⟩)
  | case3 => exact gives_pure .address
  | case4 => exact gives_map (gives_any nextBool) fun b _ => .bool b
  | case5 n =>
    refine gives_map (drawFixedBytes_gives n) fun bs hbs => ?_
    obtain ⟨rfl, hzeros⟩ := hbs
    exact .fixedBytes hzeros
  | case6 => exact gives_map (drawMany_all (gives_any nextByte) _) fun bs hbs => .bytes hbs.1
  | case7 =>
    refine gives_map drawText_gives fun s hs => ?_
    obtain ⟨cs, rfl, hlength, hplain⟩ := hs
    exact .string hlength hplain
  | case8 t ih =>
    refine gives_bind (below_lt .half (by decide : 0 < 2)) fun count hcount => ?_
    refine gives_map (drawMany_all (ih h.of_array) count) fun as has => ?_
    rw [Argument.token, tokens_eq_map]
    refine .array ?_ ?_
    · rw [List.length_map, has.1]
      exact Nat.le_of_lt_succ hcount
    · intro x hx
      obtain ⟨a, ha, rfl⟩ := List.mem_map.1 hx
      exact has.2 a ha
  | case9 t huint hint haddress hbool hfixedBytes hbytes hstring harray =>
    have hzero := isZero_zeroToken t h
    refine gives_pure ?_
    -- all types that are drawn have been dealt with
    cases t with
    | fixedArray t n => exact .fixedArray hzero
    | tuple ts => exact .tuple hzero
    | unsupported name => exact absurd (.refl _) (h name)
    | uint bits => exact (huint bits rfl).elim
    | int bits => exact (hint bits rfl).elim
    | address => exact (haddress rfl).elim
    | bool => exact (hbool rfl).elim
    | fixedBytes n => exact (hfixedBytes n rfl).elim
    | bytes => exact (hbytes rfl).elim
    | string => exact (hstring rfl).elim
    | array t => exact (harray t rfl).elim

/-! ### Draws of a call -/

/-- An argument is within the policy of its type, if that means something. -/
def PermittedAs (caller : List UInt8) (t : ParamType) (a : Argument) : Prop :=
  t.IsMeaningful → Permitted caller t a.token

theorem drawArguments_permitted (caller : List UInt8) (ts : List ParamType) :
    (drawArguments caller ts).Gives fun as => List.Forall₂ (PermittedAs caller) ts as := by
  induction ts with
  | nil => exact gives_pure .nil
  | cons t ts ih =>
    have hfirst : (drawArgument caller t).Gives (PermittedAs caller t) :=
      fun source position a next hdraw h =>
        drawArgument_permitted caller t h source position a next hdraw
    refine gives_bind hfirst fun a ha => ?_
    exact gives_map ih fun as has => .cons ha has

/-- Drawing the first argument once more stays within the policy. -/
theorem redrawFirst_permitted {caller : List UInt8} {ts : List ParamType} {as : List Argument}
    (h : List.Forall₂ (PermittedAs caller) ts as) :
    (redrawFirst ts as).Gives fun as => List.Forall₂ (PermittedAs caller) ts as := by
  fun_cases redrawFirst ts as with
  | case1 bits ts a as =>
    cases h with
    | cons _ hrest =>
      exact gives_map (drawUnsigned_permitted caller bits) fun b hb => .cons (fun _ => hb) hrest
  | case2 => exact gives_pure h

/-- **Every argument of a call is within the policy of its input.** -/
theorem drawCall_permitted (f : Function) (caller : List UInt8) :
    (drawCall f caller).Gives fun as => List.Forall₂ (PermittedAs caller) f.inputTypes as := by
  refine gives_bind (drawArguments_permitted caller f.inputTypes) fun as has => ?_
  split
  · exact redrawFirst_permitted has
  · exact gives_pure has

end GasLens.Abi
