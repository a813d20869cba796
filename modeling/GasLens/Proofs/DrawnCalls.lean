/-
  GasLens/Proofs/DrawnCalls.lean
  ==============================
  **Drawn calls are understood** — the data of a call with random arguments, read by the types
  that the function declares, gives the values that were drawn.

  The data of a call is made from the values alone, and the contract reads it by the types alone.
  That both agree is the work of `Conforms`: every drawn argument is one of the values of its type,
  and every such value is read back.
-/
import GasLens.Proofs.DrawnArguments

namespace GasLens.Abi

open GasLens.Text GasLens.Random

theorem length_selector_eq (f : Function) : f.selector.length = 4 :=
  Keccak.length_selector f.signature

theorem encodeCall_eq {f : Function} {as : List Argument} (h : as.length = f.inputs.length) :
    encodeCall f as = .ok (f.selector ++ encode (tokens as)) := by
  rw [encodeCall, if_neg (not_not_intro h)]

/-- **The data of a drawn call is read back by the declared types.** Whatever the random words
are, one value is drawn for each input, the call is encoded, its data begins with the selector of
the signature and goes on with whole words, and what is read from these words by the declared
types are the values that were drawn.

An offset stands in the data as a word, so that the layout exists only for data that words can
count; the last part is stated of such data. -/
theorem drawCall_read_back (f : Function) {caller : List UInt8} {source : WordSource}
    {position next : Nat} {as : List Argument} (hcaller : caller.length = 20)
    (hstandard : ∀ t ∈ f.inputTypes, t.isStandard = true)
    (hdraw : drawCall f caller source position = some (as, next)) :
    as.length = f.inputs.length ∧
      ∃ data, encodeCall f as = .ok data ∧
        data.take 4 = (Keccak.hash (bytesOf f.signature)).take 4 ∧
        wordLength ∣ (data.drop 4).length ∧
        ((data.drop 4).length < 2 ^ 256 →
          decodeArguments f.inputTypes (data.drop 4) = some (tokens as)) := by
  have hconforms := drawCall_conforms f hcaller hstandard source position as next hdraw
  have hlength : as.length = f.inputs.length := by
    have heq := hconforms.length_eq
    rwa [length_tokens, Function.inputTypes, List.length_map] at heq
  have htake : (f.selector ++ encode (tokens as)).take 4 = f.selector :=
    List.take_left' (length_selector_eq f)
  have hdrop : (f.selector ++ encode (tokens as)).drop 4 = encode (tokens as) :=
    List.drop_left' (length_selector_eq f)
  refine ⟨hlength, f.selector ++ encode (tokens as), encodeCall_eq hlength, ?_, ?_, ?_⟩
  · rw [htake]
    rfl
  · rw [hdrop]
    exact dvd_length_layOut hconforms.dvd_length_parts
  · intro hfit
    rw [hdrop] at hfit ⊢
    have hread := hconforms.readBack.decodeMembers_layOut hfit []
    rwa [List.append_nil] at hread

/-- A function that draws its amount twice, with a dynamic tuple between two drawn inputs. -/
def noteWithdrawal : Function :=
  ⟨"Withdraw", [⟨"amount", "uint8", []⟩,
    ⟨"note", "tuple", [⟨"text", "string", []⟩, ⟨"done", "bool", []⟩]⟩, ⟨"salt", "bytes", []⟩],
    [], .nonpayable, none⟩

theorem inputTypes_noteWithdrawal :
    noteWithdrawal.inputTypes = [.uint 8, .tuple [.string, .bool], .bytes] := by
  have hamount : typeOf "uint8".toList [] = .uint 8 := by rw [typeOf]; rfl
  have htext : typeOf "string".toList [] = .string := by rw [typeOf]; rfl
  have hdone : typeOf "bool".toList [] = .bool := by rw [typeOf]; rfl
  have hsalt : typeOf "bytes".toList [] = .bytes := by rw [typeOf]; rfl
  have hnote : typeOf "tuple".toList [.string, .bool] = .tuple [.string, .bool] := by
    rw [typeOf]; rfl
  simp only [noteWithdrawal, Function.inputTypes, List.map_cons, List.map_nil, Param.type,
    paramTypes, hamount, htext, hdone, hnote, hsalt]

set_option maxRecDepth 4000 in
theorem drawCall_read_back_noteWithdrawal :
    ∃ data,
      encodeCall noteWithdrawal [.uint 255, .zero (.tuple [.string, .bool]), .bytes [1, 2, 3, 4]] =
        .ok data ∧
      decodeArguments [.uint 8, .tuple [.string, .bool], .bytes] (data.drop 4) =
        some [.uint 255, .tuple [.string "", .bool false], .bytes [1, 2, 3, 4]] := by
  have hstandard : ∀ t ∈ noteWithdrawal.inputTypes, t.isStandard = true := by
    rw [inputTypes_noteWithdrawal]
    exact allStandard_iff.mp rfl
  have hdraw : drawCall noteWithdrawal (List.replicate 20 7)
      (.ofList [0, 1, 2, 3, 4, 0xff00000000000000]) 0 =
        some ([.uint 255, .zero (.tuple [.string, .bool]), .bytes [1, 2, 3, 4]], 6) := by
    have hredraw : noteWithdrawal.looksLikeWithdrawal = true := by
      rw [Function.looksLikeWithdrawal, inputTypes_noteWithdrawal]
      rfl
    rw [drawCall, hredraw, inputTypes_noteWithdrawal]
    rfl
  obtain ⟨hlength, data, hdata, -, -, hread⟩ :=
    drawCall_read_back noteWithdrawal List.length_replicate hstandard hdraw
  have hrest : data.drop 4 =
      encode (tokens [.uint 255, .zero (.tuple [.string, .bool]), .bytes [1, 2, 3, 4]]) := by
    rw [← Except.ok.inj ((encodeCall_eq hlength).symm.trans hdata)]
    exact List.drop_left' (length_selector_eq noteWithdrawal)
  have hsize : (data.drop 4).length = 256 := by
    rw [hrest]
    decide +kernel
  rw [inputTypes_noteWithdrawal] at hread
  exact ⟨data, hdata, hread (by rw [hsize]; decide)⟩

end GasLens.Abi
