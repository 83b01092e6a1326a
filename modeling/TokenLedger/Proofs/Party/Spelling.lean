import TokenLedger.Signers
import TokenLedger.Proofs.Result

/-! # Spellings of handles

A handle is read from the digits of its text. Neither the case of their letters nor the blanks
around them count.
-/
namespace TokenLedger

namespace Hex

theorem digitAt_eq_ok_iff {position n : Nat} {byte : UInt8} :
    digitAt position byte = .ok n ↔ digit? byte = some n := by
  unfold digitAt
  cases digit? byte <;> simp

/-- Pairs of the same digits are read alike, wherever they stand. -/
theorem decodePairs_congr : ∀ {bytes bytes' : List UInt8},
    bytes.map digit? = bytes'.map digit? → ∀ (position position' : Nat) {decoded : List UInt8},
    decodePairs position bytes = .ok decoded ↔ decodePairs position' bytes' = .ok decoded
  | [], [], _, _, _, _ => Iff.rfl
  | [_], [_], _, _, _, _ => Iff.rfl
  | high :: low :: rest, high' :: low' :: rest', h, position, position', decoded => by
    simp only [List.map_cons, List.cons.injEq] at h
    obtain ⟨hhigh, hlow, hrest⟩ := h
    have htail : ∀ tail, decodePairs (position + 2) rest = .ok tail ↔
        decodePairs (position' + 2) rest' = .ok tail := fun _ =>
      decodePairs_congr hrest (position + 2) (position' + 2)
    simp only [decodePairs, bind_eq_ok_iff, digitAt_eq_ok_iff, hhigh, hlow, htail]
  | [], _ :: _, h, _, _, _ => by simp at h
  | _ :: _, [], h, _, _, _ => by simp at h
  | [_], _ :: _ :: _, h, _, _, _ => by simp at h
  | _ :: _ :: _, [_], h, _, _, _ => by simp at h

/-- The same digits are read alike. -/
theorem decode_congr {bytes bytes' : List UInt8} (h : bytes.map digit? = bytes'.map digit?)
    {decoded : List UInt8} : decode bytes = .ok decoded ↔ decode bytes' = .ok decoded := by
  have hlength : bytes.length = bytes'.length := by
    rw [← List.length_map (f := digit?), h, List.length_map]
  unfold decode
  rw [hlength]
  split
  · simp
  · exact decodePairs_congr h 0 0

/-- A letter is the same digit in lower case. -/
theorem digits_toLower (c : Char) :
    (String.utf8EncodeChar c.toLower).map digit? = (String.utf8EncodeChar c).map digit? := by
  by_cases hc : 65 ≤ c.toNat ∧ c.toNat ≤ 90
  · have key : ((List.range 26).all fun n =>
        (String.utf8EncodeChar (Char.ofNat (65 + n)).toLower).map digit? =
          (String.utf8EncodeChar (Char.ofNat (65 + n))).map digit?) = true := by decide
    have hn : 65 + (c.toNat - 65) = c.toNat := by omega
    have hall := List.all_eq_true.mp key (c.toNat - 65) (List.mem_range.mpr (by omega))
    rw [hn, Char.ofNat_toNat] at hall
    simpa using hall
  · have hsame : c.toLower = c := by
      unfold Char.toLower
      exact dif_neg hc
    rw [hsame]

theorem digits_map_toLower (s : List Char) :
    (Text.utf8 (s.map Char.toLower)).map digit? = (Text.utf8 s).map digit? := by
  induction s with
  | nil => rfl
  | cons c s ih =>
    simp only [Text.utf8, List.map_cons, List.flatMap_cons, List.map_append] at ih ⊢
    rw [digits_toLower, ih]

end Hex

namespace Party

theorem parse_eq_ok_iff {text : String} {p : Party} :
    parse text = .ok p ↔ Hex.decode (Text.utf8 (Text.trim text.toList)) = .ok p.bytes := by
  unfold parse
  cases Hex.decode (Text.utf8 (Text.trim text.toList)) with
  | error fault => simp
  | ok bytes =>
    by_cases hsize : bytes.length = 32
    · simp only [dif_pos hsize, Except.ok.injEq]
      constructor
      · rintro rfl
        rfl
      · intro h
        exact ext_bytes h
    · simp only [dif_neg hsize, Except.ok.injEq]
      refine iff_of_false (by simp) ?_
      rintro rfl
      exact hsize p.size

/-- The two texts are the same but for blanks around them and the case of the letters A to Z. -/
def Respelled (text text' : String) : Prop :=
  (Text.trim text.toList).map Char.toLower = (Text.trim text'.toList).map Char.toLower

/-- Other spellings are of the same bytes. -/
theorem Respelled.decode_iff {text text' : String} (h : Respelled text text')
    {bytes : List UInt8} : Hex.decode (Text.utf8 (Text.trim text.toList)) = .ok bytes ↔
      Hex.decode (Text.utf8 (Text.trim text'.toList)) = .ok bytes := by
  refine Hex.decode_congr ?_
  rw [← Hex.digits_map_toLower, h, Hex.digits_map_toLower]

/-- Whatever is another spelling of a handle is read as the handle. -/
theorem Respelled.parse_iff {text text' : String} (h : Respelled text text') {p : Party} :
    parse text = .ok p ↔ parse text' = .ok p := by
  rw [parse_eq_ok_iff, parse_eq_ok_iff]
  exact h.decode_iff

end Party

end TokenLedger
