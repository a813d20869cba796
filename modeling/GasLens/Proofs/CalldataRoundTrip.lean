/-
  GasLens/Proofs/CalldataRoundTrip.lean
  =====================================
  **Calldata is read back** — what the encoder lays out by the shapes of values, the decoder finds
  again by their declared types.

  A value and its type must agree on three things before any byte can be found: whether the value
  stands among the tails, how long its head is, and that all of it is made of whole words.
  `Conforms` says which values a type has; from it the three agreements follow, and from these
  the round trip, with whatever follows the encoded value left alone.
-/
import GasLens.Proofs.CalldataDecoder
import Mathlib.Algebra.BigOperators.Ring.List
import Mathlib.Algebra.Order.Ring.Int

namespace GasLens.Abi

open GasLens.Text

/-! ### The values of a type -/

mutual

/-- A value is one of a type. -/
inductive Conforms : ParamType → Token → Prop where
  | uint {bits n : Nat} (width : bits ≤ 256) (high : n < 2 ^ bits) :
      Conforms (.uint bits) (.uint n)
  | int {bits : Nat} {n : Int} (positive : 0 < bits) (width : bits ≤ 256)
      (low : -2 ^ (bits - 1) ≤ n) (high : n < 2 ^ (bits - 1)) : Conforms (.int bits) (.int n)
  | address {bs : List UInt8} (length : bs.length = 20) : Conforms .address (.address bs)
  | bool (b : Bool) : Conforms .bool (.bool b)
  | fixedBytes {bs : List UInt8} (positive : 0 < bs.length) (short : bs.length ≤ wordLength) :
      Conforms (.fixedBytes bs.length) (.fixedBytes bs)
  | bytes (bs : List UInt8) : Conforms .bytes (.bytes bs)
  | string (s : String) : Conforms .string (.string s)
  | array {t : ParamType} {xs : List Token} (count : xs.length < 2 ^ 256)
      (items : ConformsAll (List.replicate xs.length t) xs) : Conforms (.array t) (.array xs)
  | fixedArray {t : ParamType} {n : Nat} {xs : List Token} (positive : 0 < n)
      (items : ConformsAll (List.replicate n t) xs) : Conforms (.fixedArray t n) (.fixedArray xs)
  | tuple {ts : List ParamType} {xs : List Token} (items : ConformsAll ts xs) :
      Conforms (.tuple ts) (.tuple xs)

/-- Values are ones of types, one by one. -/
inductive ConformsAll : List ParamType → List Token → Prop where
  | nil : ConformsAll [] []
  | cons {t : ParamType} {x : Token} {ts : List ParamType} {xs : List Token}
      (head : Conforms t x) (tail : ConformsAll ts xs) : ConformsAll (t :: ts) (x :: xs)

end

theorem ConformsAll.length_eq {ts : List ParamType} {xs : List Token} (h : ConformsAll ts xs) :
    xs.length = ts.length :=
  match h with
  | .nil => rfl
  | .cons _ tail => congrArg Nat.succ tail.length_eq

/-! ### Where a value stands -/

theorem anyDynamic_replicate {n : Nat} (t : ParamType) (hpos : 0 < n) :
    anyDynamic (List.replicate n t) = t.isDynamic := by
  induction n with
  | zero => exact absurd hpos (Nat.lt_irrefl 0)
  | succ n ih =>
    rw [List.replicate_succ, anyDynamic]
    cases n with
    | zero => rw [List.replicate_zero, anyDynamic, Bool.or_false]
    | succ n => rw [ih (Nat.succ_pos n), Bool.or_self]

mutual

/-- A value stands among the tails exactly if its type says so. -/
theorem Conforms.isDynamic_part {t : ParamType} {x : Token} (h : Conforms t x) :
    x.part.isDynamic = t.isDynamic :=
  match h with
  | .uint .. | .int .. | .address .. | .bool .. | .fixedBytes .. | .bytes .. | .string ..
  | .array .. => by simp only [Token.part, ParamType.isDynamic]
  | .fixedArray positive items => by
    rw [Token.part, ParamType.isDynamic, ← anyDynamic_replicate _ positive]
    exact items.any_isDynamic_parts
  | .tuple items => by
    rw [Token.part, ParamType.isDynamic]
    exact items.any_isDynamic_parts

theorem ConformsAll.any_isDynamic_parts {ts : List ParamType} {xs : List Token}
    (h : ConformsAll ts xs) : (parts xs).any Part.isDynamic = anyDynamic ts :=
  match h with
  | .nil => rfl
  | .cons head tail => by
    rw [parts, anyDynamic, List.any_cons, head.isDynamic_part, tail.any_isDynamic_parts]

end

/-! ### Heads and tails -/

/-- What a part puts among the heads when its tail is at an offset. -/
def Part.head (p : Part) (offset : Nat) : List UInt8 :=
  if p.isDynamic then wordOf offset else p.content

/-- What a part puts among the tails. -/
def Part.tail (p : Part) : List UInt8 := if p.isDynamic then p.content else []

theorem headsFrom_cons (offset : Nat) (p : Part) (ps : List Part) :
    headsFrom offset (p :: ps) = p.head offset ++ headsFrom (offset + p.tail.length) ps := by
  rw [headsFrom, Part.head, Part.tail]
  cases p.isDynamic <;> rfl

theorem tailsOf_cons (p : Part) (ps : List Part) : tailsOf (p :: ps) = p.tail ++ tailsOf ps := by
  rw [tailsOf, List.flatMap_cons, Part.tail, tailsOf]

theorem length_head (p : Part) (offset : Nat) : (p.head offset).length = p.headLength := by
  rw [Part.head, Part.headLength]
  cases p.isDynamic with
  | false => rfl
  | true => exact length_wordOf offset

theorem length_content_le (p : Part) (offset : Nat) :
    p.content.length ≤ (p.head offset).length + p.tail.length := by
  rw [Part.head, Part.tail]
  cases p.isDynamic with
  | false => exact Nat.le_add_right _ _
  | true => exact Nat.le_add_left _ _

theorem length_headsFrom (offset : Nat) (ps : List Part) :
    (headsFrom offset ps).length = (ps.map Part.headLength).sum := by
  induction ps generalizing offset with
  | nil => rfl
  | cons p ps ih =>
    rw [headsFrom_cons, List.length_append, length_head, ih, List.map_cons, List.sum_cons]

/-- Parts of which none is dynamic are laid out within their heads. -/
theorem length_layOut_of_static {ps : List Part} (h : ps.any Part.isDynamic = false) :
    (layOut ps).length = (ps.map Part.headLength).sum := by
  have htails : tailsOf ps = [] := by
    rw [tailsOf, List.flatMap_eq_nil_iff]
    intro p hp
    exact if_neg (List.any_eq_false.mp h p hp)
  rw [layOut, htails, List.append_nil, length_headsFrom]

/-! ### How long its head is -/

theorem headLengths_replicate (n : Nat) (t : ParamType) :
    headLengths (List.replicate n t) = n * t.headLength := by
  induction n with
  | zero => rw [List.replicate_zero, headLengths, Nat.zero_mul]
  | succ n ih => rw [List.replicate_succ, headLengths, ih, Nat.succ_mul, Nat.add_comm]

theorem length_alignRight {account : List UInt8} (h : account.length = 20) :
    (alignRight account).length = wordLength := by
  rw [alignRight, List.length_append, List.length_replicate, h]
  rfl

theorem length_alignLeft {content : List UInt8} (hpos : 0 < content.length)
    (h : content.length ≤ wordLength) : (alignLeft content).length = wordLength := by
  rw [alignLeft, List.length_append, List.length_replicate]
  unfold wordLength at *
  omega

theorem headLength_static (content : List UInt8) :
    (Part.mk false content).headLength = content.length := rfl

theorem headLength_dynamic (content : List UInt8) :
    (Part.mk true content).headLength = wordLength := rfl

mutual

/-- The head of a value is as long as its type says. -/
theorem Conforms.headLength_part {t : ParamType} {x : Token} (h : Conforms t x) :
    x.part.headLength = t.headLength :=
  match h with
  | .uint .. | .int .. | .bool .. => by
    simp only [Token.part, ParamType.headLength, headLength_static, length_wordOf,
      length_signedWord]
  | .address length => by
    simp only [Token.part, ParamType.headLength, headLength_static]
    exact length_alignRight length
  | .fixedBytes positive short => by
    simp only [Token.part, ParamType.headLength, headLength_static]
    exact length_alignLeft positive short
  | .bytes .. | .string .. | .array .. => by
    simp only [Token.part, ParamType.headLength, headLength_dynamic]
  | .fixedArray positive items => by
    have hany := items.any_isDynamic_parts
    have hsum := items.sum_headLength_parts
    rw [anyDynamic_replicate _ positive] at hany
    rw [headLengths_replicate] at hsum
    rw [Token.part, ParamType.headLength, Part.headLength, hany]
    split
    · rfl
    · rename_i hstatic
      rw [length_layOut_of_static (hany.trans (Bool.eq_false_iff.mpr hstatic)), hsum]
  | .tuple items => by
    have hany := items.any_isDynamic_parts
    rw [Token.part, ParamType.headLength, Part.headLength, hany]
    split
    · rfl
    · rename_i hstatic
      rw [length_layOut_of_static (hany.trans (Bool.eq_false_iff.mpr hstatic)),
        items.sum_headLength_parts]

theorem ConformsAll.sum_headLength_parts {ts : List ParamType} {xs : List Token}
    (h : ConformsAll ts xs) : ((parts xs).map Part.headLength).sum = headLengths ts :=
  match h with
  | .nil => rfl
  | .cons head tail => by
    rw [parts, headLengths, List.map_cons, List.sum_cons, head.headLength_part,
      tail.sum_headLength_parts]

end

/-! ### Whole words -/

theorem dvd_length_alignLeft (content : List UInt8) : wordLength ∣ (alignLeft content).length := by
  rw [alignLeft, List.length_append, List.length_replicate]
  unfold wordLength
  omega

theorem dvd_length_tailsOf {ps : List Part} (h : ∀ p ∈ ps, wordLength ∣ p.content.length) :
    wordLength ∣ (tailsOf ps).length := by
  rw [tailsOf, List.length_flatMap]
  refine List.dvd_sum fun n hn => ?_
  obtain ⟨p, hp, rfl⟩ := List.mem_map.mp hn
  split
  · exact h p hp
  · exact Nat.dvd_zero _

theorem dvd_sum_headLength {ps : List Part} (h : ∀ p ∈ ps, wordLength ∣ p.content.length) :
    wordLength ∣ (ps.map Part.headLength).sum := by
  refine List.dvd_sum fun n hn => ?_
  obtain ⟨p, hp, rfl⟩ := List.mem_map.mp hn
  rw [Part.headLength]
  split
  · exact Nat.dvd_refl _
  · exact h p hp

theorem dvd_length_layOut {ps : List Part} (h : ∀ p ∈ ps, wordLength ∣ p.content.length) :
    wordLength ∣ (layOut ps).length := by
  rw [layOut, List.length_append, length_headsFrom]
  exact Nat.dvd_add (dvd_sum_headLength h) (dvd_length_tailsOf h)

mutual

/-- A value is made of whole words. -/
theorem Conforms.dvd_length_part {t : ParamType} {x : Token} (h : Conforms t x) :
    wordLength ∣ x.part.content.length :=
  match h with
  | .uint .. | .int .. | .bool .. => by
    simp only [Token.part, length_wordOf, length_signedWord, Nat.dvd_refl]
  | .address length => by
    rw [Token.part, length_alignRight length]
  | .fixedBytes .. => by
    rw [Token.part]
    exact dvd_length_alignLeft _
  | .bytes .. | .string .. => by
    rw [Token.part, List.length_append, length_wordOf]
    exact Nat.dvd_add (Nat.dvd_refl _) (dvd_length_alignLeft _)
  | .array _ items => by
    rw [Token.part, List.length_append, length_wordOf]
    exact Nat.dvd_add (Nat.dvd_refl _) (dvd_length_layOut items.dvd_length_parts)
  | .fixedArray _ items => by
    rw [Token.part]
    exact dvd_length_layOut items.dvd_length_parts
  | .tuple items => by
    rw [Token.part]
    exact dvd_length_layOut items.dvd_length_parts

theorem ConformsAll.dvd_length_parts {ts : List ParamType} {xs : List Token}
    (h : ConformsAll ts xs) : ∀ p ∈ parts xs, wordLength ∣ p.content.length :=
  match h with
  | .nil => by
    intro p hp
    rw [parts] at hp
    exact absurd hp List.not_mem_nil
  | .cons head tail => by
    intro p hp
    rw [parts, List.mem_cons] at hp
    rcases hp with rfl | hp
    · exact head.dvd_length_part
    · exact tail.dvd_length_parts p hp

end

/-! ### Reading back -/

theorem decodeAddress_alignRight {bs : List UInt8} (h : bs.length = 20) (rest : List UInt8) :
    decodeAddress (alignRight bs ++ rest) = some (.address bs) := by
  have hword : (alignRight bs).length = wordLength := length_alignRight h
  have hzeros : (List.replicate (wordLength - bs.length) (0 : UInt8)).length = 12 := by
    rw [List.length_replicate, h]
    rfl
  have htake : (alignRight bs).take 12 = List.replicate 12 0 := by
    rw [alignRight, List.take_left' hzeros, h]
    rfl
  have hdrop : (alignRight bs).drop 12 = bs := by rw [alignRight, List.drop_left' hzeros]
  rw [decodeAddress, takeWord?_append hword, Option.bind_some, if_pos htake, hdrop]

theorem decodeFixedBytes_alignLeft {bs : List UInt8} (hpos : 0 < bs.length)
    (hshort : bs.length ≤ wordLength) (rest : List UInt8) :
    decodeFixedBytes bs.length (alignLeft bs ++ rest) = some (.fixedBytes bs) := by
  have hzeros : (wordLength - bs.length % wordLength) % wordLength = wordLength - bs.length := by
    unfold wordLength at *
    omega
  rw [decodeFixedBytes, takeWord?_append (length_alignLeft hpos hshort), Option.bind_some,
    alignLeft, List.take_left, List.drop_left, hzeros, if_pos rfl]

theorem decodeContent_wordOf {bs : List UInt8} (h : bs.length < 2 ^ 256) (rest : List UInt8) :
    decodeContent (wordOf bs.length ++ alignLeft bs ++ rest) = some bs := by
  have hdrop : (wordOf bs.length ++ (alignLeft bs ++ rest)).drop wordLength =
      alignLeft bs ++ rest := List.drop_left' (length_wordOf _)
  have hle : bs.length ≤ (alignLeft bs ++ rest).length := by
    rw [alignLeft, List.append_assoc, List.length_append]
    exact Nat.le_add_right _ _
  rw [decodeContent, List.append_assoc, readWord?_wordOf h, Option.bind_some, hdrop, if_pos hle,
    alignLeft, List.append_assoc, List.take_left]

theorem length_lt_of_fits {bs : List UInt8}
    (h : (wordOf bs.length ++ alignLeft bs).length < 2 ^ 256) : bs.length < 2 ^ 256 := by
  rw [alignLeft, List.length_append, List.length_append] at h
  omega

theorem decodeBool_wordOf (b : Bool) (rest : List UInt8) :
    decodeBool (wordOf b.toNat ++ rest) = some (.bool b) := by
  have hfit : b.toNat < 2 ^ 256 := Nat.lt_of_lt_of_le b.toNat_lt (by decide)
  rw [decodeBool, readWord?_wordOf hfit, Option.bind_some]
  cases b <;> rfl

theorem decodeUnsigned_wordOf {bits n : Nat} (hwidth : bits ≤ 256) (hhigh : n < 2 ^ bits)
    (rest : List UInt8) : decodeUnsigned bits (wordOf n ++ rest) = some (.uint n) := by
  have hfit : n < 2 ^ 256 :=
    Nat.lt_of_lt_of_le hhigh (Nat.pow_le_pow_right (by decide) hwidth)
  rw [decodeUnsigned, readWord?_wordOf hfit, Option.bind_some, if_pos hhigh]

theorem decodeSigned_signedWord {bits : Nat} {n : Int} (hwidth : bits ≤ 256)
    (hlow : -2 ^ (bits - 1) ≤ n) (hhigh : n < 2 ^ (bits - 1)) (rest : List UInt8) :
    decodeSigned bits (signedWord n ++ rest) = some (.int n) := by
  have hpow : (2 : Int) ^ (bits - 1) ≤ 2 ^ 255 :=
    pow_le_pow_right₀ (by decide) (Nat.sub_le_sub_right hwidth 1)
  have hread := readWord?_signedWord (Int.le_trans (Int.neg_le_neg hpow) hlow)
    (Int.lt_of_lt_of_le hhigh hpow) rest
  obtain ⟨m, hm, hvalue⟩ := Option.map_eq_some_iff.mp hread
  rw [decodeSigned, hm, Option.bind_some, hvalue, if_pos ⟨hlow, hhigh⟩]

/-- A component is read where the content of its part stands: in place, or where the head says. -/
theorem exists_decodeComponent_eq (p : Part) (decode : List UInt8 → Option Token)
    {data pre more front rest : List UInt8} {offset : Nat} (hfit : offset < 2 ^ 256)
    (hhead : data = pre ++ (p.head offset ++ more)) (htail : data = front ++ (p.tail ++ rest))
    (hfront : front.length = offset) :
    ∃ behind, decodeComponent p.isDynamic decode data pre.length = decode (p.content ++ behind) := by
  have hatHead : data.drop pre.length = p.head offset ++ more := by rw [hhead, List.drop_left]
  have hatTail : data.drop offset = p.tail ++ rest := by rw [htail, ← hfront, List.drop_left]
  cases hdynamic : p.isDynamic with
  | false =>
    rw [Part.head, if_neg (Bool.eq_false_iff.mp hdynamic)] at hatHead
    exact ⟨more, by rw [decodeComponent, if_neg Bool.false_ne_true, hatHead]⟩
  | true =>
    rw [Part.head, if_pos hdynamic] at hatHead
    rw [Part.tail, if_pos hdynamic] at hatTail
    refine ⟨rest, ?_⟩
    rw [decodeComponent, if_pos rfl, hatHead, readWord?_wordOf hfit, Option.bind_some, hatTail]

/-- A value is read back by a type, whatever follows it. -/
def ReadBack (t : ParamType) (x : Token) : Prop :=
  ∀ rest : List UInt8, x.part.content.length < 2 ^ 256 →
    decodeValue t (x.part.content ++ rest) = some x

/-- Values are read back by types in the middle of a list. In front of the heads that are left
stand those that were read, and in front of the tails that are left the tails that were read. -/
def AllReadBack (ts : List ParamType) (xs : List Token) : Prop :=
  ∀ (pre mid rest : List UInt8) (offset : Nat),
    (pre ++ headsFrom offset (parts xs) ++ mid).length = offset →
      offset + (tailsOf (parts xs)).length < 2 ^ 256 →
        decodeMembers ts
          (pre ++ headsFrom offset (parts xs) ++ mid ++ tailsOf (parts xs) ++ rest) pre.length =
            some xs

/-- Values that are read back in the middle of a list are read back from all of it. -/
theorem AllReadBack.decodeMembers_layOut {ts : List ParamType} {xs : List Token}
    (h : AllReadBack ts xs) (hfit : (layOut (parts xs)).length < 2 ^ 256) (rest : List UInt8) :
    decodeMembers ts (layOut (parts xs) ++ rest) 0 = some xs := by
  have hheads : (headsFrom ((parts xs).map Part.headLength).sum (parts xs)).length =
      ((parts xs).map Part.headLength).sum := length_headsFrom _ _
  rw [layOut, List.length_append, hheads] at hfit
  have hread := h [] [] rest ((parts xs).map Part.headLength).sum
    (by rw [List.nil_append, List.append_nil, hheads]) hfit
  rw [List.nil_append, List.append_nil] at hread
  exact hread

theorem AllReadBack.nil : AllReadBack [] [] := by
  intro pre mid rest offset _ _
  rw [decodeMembers]

/-- One more value in front: its head is read before theirs, and its tail before all of theirs. -/
theorem AllReadBack.cons {t : ParamType} {x : Token} {ts : List ParamType} {xs : List Token}
    (hconforms : Conforms t x) (hx : ReadBack t x) (hxs : AllReadBack ts xs) :
    AllReadBack (t :: ts) (x :: xs) := by
  intro pre mid rest offset
  -- The heads that were read will end behind this head, and the tails behind this tail.
  have hrest := hxs (pre ++ x.part.head offset) (mid ++ x.part.tail) rest
    (offset + x.part.tail.length)
  rw [parts, headsFrom_cons, tailsOf_cons]
  generalize headsFrom (offset + x.part.tail.length) (parts xs) = heads at hrest ⊢
  generalize tailsOf (parts xs) = tails at hrest ⊢
  intro hoffset hfit
  have hhead : pre ++ (x.part.head offset ++ heads) ++ mid ++ (x.part.tail ++ tails) ++ rest =
      pre ++ (x.part.head offset ++ (heads ++ mid ++ x.part.tail ++ tails ++ rest)) := by
    simp only [List.append_assoc]
  have htail : pre ++ (x.part.head offset ++ heads) ++ mid ++ (x.part.tail ++ tails) ++ rest =
      (pre ++ (x.part.head offset ++ heads) ++ mid) ++ (x.part.tail ++ (tails ++ rest)) := by
    simp only [List.append_assoc]
  have hmoved : pre ++ (x.part.head offset ++ heads) ++ mid ++ (x.part.tail ++ tails) ++ rest =
      (pre ++ x.part.head offset) ++ heads ++ (mid ++ x.part.tail) ++ tails ++ rest := by
    simp only [List.append_assoc]
  have hlength : ((pre ++ x.part.head offset) ++ heads ++ (mid ++ x.part.tail)).length =
      (pre ++ (x.part.head offset ++ heads) ++ mid).length + x.part.tail.length := by
    simp only [List.length_append, Nat.add_assoc]
  have hcontent := length_content_le x.part offset
  have hbefore : (x.part.head offset).length ≤ offset := by
    simp only [List.length_append] at hoffset
    omega
  rw [List.length_append] at hfit
  rw [hoffset] at hlength
  obtain ⟨behind, hcomponent⟩ := exists_decodeComponent_eq x.part (decodeValue t)
    (by omega : offset < 2 ^ 256) hhead htail hoffset
  rw [hconforms.isDynamic_part, hx behind (by omega)] at hcomponent
  have hrest := hrest hlength (by omega)
  rw [← hmoved, List.length_append, length_head, hconforms.headLength_part] at hrest
  rw [decodeMembers, hcomponent, hrest]
  rfl

theorem readBack_array {t : ParamType} {xs : List Token} (hcount : xs.length < 2 ^ 256)
    (h : AllReadBack (List.replicate xs.length t) xs) : ReadBack (.array t) (.array xs) := by
  intro rest hfit
  have hlayOut : (layOut (parts xs)).length < 2 ^ 256 := by
    rw [Token.part, List.length_append] at hfit
    exact Nat.lt_of_le_of_lt (Nat.le_add_left _ _) hfit
  have hdrop : (wordOf xs.length ++ (layOut (parts xs) ++ rest)).drop wordLength =
      layOut (parts xs) ++ rest := List.drop_left' (length_wordOf _)
  rw [Token.part, decodeValue, List.append_assoc, readWord?_wordOf hcount, Option.bind_some, hdrop,
    decodeItems_eq_decodeMembers, h.decodeMembers_layOut hlayOut, Option.map_some]

theorem readBack_fixedArray {t : ParamType} {n : Nat} {xs : List Token}
    (h : AllReadBack (List.replicate n t) xs) : ReadBack (.fixedArray t n) (.fixedArray xs) := by
  intro rest hfit
  rw [Token.part] at hfit
  rw [Token.part, decodeValue, decodeItems_eq_decodeMembers, h.decodeMembers_layOut hfit,
    Option.map_some]

theorem readBack_tuple {ts : List ParamType} {xs : List Token} (h : AllReadBack ts xs) :
    ReadBack (.tuple ts) (.tuple xs) := by
  intro rest hfit
  rw [Token.part] at hfit
  rw [Token.part, decodeValue, h.decodeMembers_layOut hfit, Option.map_some]

mutual

/-- **A value is read back by its type.** -/
theorem Conforms.readBack {t : ParamType} {x : Token} (h : Conforms t x) : ReadBack t x :=
  match h with
  | .uint width high => by
    intro rest _
    rw [Token.part, decodeValue, decodeUnsigned_wordOf width high]
  | .int _ width low high => by
    intro rest _
    rw [Token.part, decodeValue, decodeSigned_signedWord width low high]
  | .address length => by
    intro rest _
    rw [Token.part, decodeValue, decodeAddress_alignRight length]
  | .bool b => by
    intro rest _
    rw [Token.part, decodeValue, decodeBool_wordOf]
  | .fixedBytes positive short => by
    intro rest _
    rw [Token.part, decodeValue, decodeFixedBytes_alignLeft positive short]
  | .bytes bs => by
    intro rest hfit
    have hcount : bs.length < 2 ^ 256 := length_lt_of_fits hfit
    rw [Token.part, decodeValue, decodeContent_wordOf hcount, Option.map_some]
  | .string s => by
    intro rest hfit
    have hcount : (bytesOf s).length < 2 ^ 256 := length_lt_of_fits hfit
    rw [Token.part, decodeValue, decodeContent_wordOf hcount, Option.bind_some, textOf?_bytesOf,
      Option.map_some]
  | .array count items => readBack_array count items.readBack
  | .fixedArray _ items => readBack_fixedArray items.readBack
  | .tuple items => readBack_tuple items.readBack

theorem ConformsAll.readBack {ts : List ParamType} {xs : List Token} (h : ConformsAll ts xs) :
    AllReadBack ts xs :=
  match h with
  | .nil => AllReadBack.nil
  | .cons head tail => AllReadBack.cons head head.readBack tail.readBack

end

end GasLens.Abi
