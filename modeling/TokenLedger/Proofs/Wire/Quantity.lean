import TokenLedger.Proofs.Json.Gap
import TokenLedger.Proofs.Json.Literals
import TokenLedger.Proofs.Wire.OrderFree

/-! # Quantities on the wire

The quantity of a record is read as the integer that its literal is, or the record is not read.
There is no literal of which a quantity is read that is another number.
-/
namespace TokenLedger

open Json

namespace Quantity

def InRange (n : Int) : Prop := -0x8000000000000000 ≤ n ∧ n ≤ 0x7FFFFFFFFFFFFFFF

theorem inRange_toInt (q : Quantity) : InRange q.toInt := by
  have hlow := q.le_toInt
  have hhigh := q.toInt_lt
  exact ⟨by omega, by omega⟩

theorem toInt_ofInt {n : Int} (h : InRange n) : (Int64.ofInt n).toInt = n := by
  obtain ⟨hlow, hhigh⟩ := h
  exact Int64.toInt_ofInt_of_le (by omega) (by omega)

end Quantity

namespace Record

/-- But for its quantity, which is to stand in the gap, the tree is that of a record. -/
def AwaitsQuantity (gap : Gap) (issuer holder : Party) : Prop :=
  issuer ≠ .absent ∧ holder ≠ .absent ∧
    match gap with
    | .member before key after =>
      key.value = .ok "quantity" ∧ Named (before ++ after) ∧
        OccursOnce "issuer" issuer.SpelledBy (before ++ after) ∧
        OccursOnce "holder" holder.SpelledBy (before ++ after) ∧
        valuesOf "quantity" (before ++ after) = []
    | .item before after =>
      after = [] ∧ ∃ i h, before = [i, h] ∧ issuer.SpelledBy i ∧ holder.SpelledBy h

/-- A name that occurs with the handle of a party occurs with that of no other. -/
theorem occursOnce_party_iff {name : String} {members : List (StringToken × Node)} {p q : Party}
    (h : OccursOnce name p.SpelledBy members) :
    OccursOnce name q.SpelledBy members ↔ q = p := by
  obtain ⟨n, hn, hp⟩ := h
  rw [occursOnce_of_valuesOf hn]
  constructor
  · intro hq
    exact hq.unique hp
  · rintro rfl
    exact hp

section
variable {gap : Gap} {issuer holder : Party} {r : Record}

theorem spelledBy_fill_iff (hgap : AwaitsQuantity gap issuer holder) {n : Node} :
    r.SpelledBy (gap.fill n) ↔
      r.issuer = issuer ∧ r.holder = holder ∧ Quantity.SpelledBy r.quantity n := by
  obtain ⟨_, _, hgap⟩ := hgap
  cases gap with
  | member before key after =>
    obtain ⟨hkey, hnamed, hissuer, hholder, hquantity⟩ := hgap
    have hother : ∀ name, "quantity" ≠ name →
        valuesOf name ((key, n) :: (before ++ after)) = valuesOf name (before ++ after) :=
      fun _ hne => valuesOf_cons_of_ne hkey hne
    have hself : valuesOf "quantity" ((key, n) :: (before ++ after)) = [n] := by
      rw [valuesOf_cons_self hkey, hquantity]
    have hnames : Named ((key, n) :: (before ++ after)) := named_cons_iff.mpr ⟨⟨_, hkey⟩, hnamed⟩
    rw [Gap.fill, spelledBy_object_perm List.perm_middle, spelledBy_object_iff,
      and_iff_right hnames, occursOnce_of_valuesOf hself, OccursOnce, OccursOnce,
      hother "issuer" (by decide), hother "holder" (by decide)]
    exact and_congr (occursOnce_party_iff hissuer)
      (and_congr (occursOnce_party_iff hholder) Iff.rfl)
  | item before after =>
    obtain ⟨rfl, i, h, rfl, hissuer, hholder⟩ := hgap
    rw [Gap.fill, spelledBy_array_iff]
    constructor
    · rintro ⟨_, _, _, heq, hi, hh, hq⟩
      cases heq
      exact ⟨hi.unique hissuer, hh.unique hholder, hq⟩
    · rintro ⟨rfl, rfl, hq⟩
      exact ⟨i, h, n, rfl, hissuer, hholder, hq⟩

variable {t : NumberToken} {literal : List Char} {text : String}

/-- The literal of a record that is read is that of its quantity. -/
theorem ofJson_eq_ok_iff_literal (hgap : AwaitsQuantity gap issuer holder)
    (h : gap.WrittenWith t literal text) :
    ofJson text = .ok r ↔ r.issuer = issuer ∧ r.holder = holder ∧
      literal = (toString r.quantity.toInt).toList := by
  have hquantity : Quantity.SpelledBy r.quantity (.number t) ↔ t.IsInteger r.quantity.toInt := by
    simp [Quantity.SpelledBy, Node.IsInteger]
  rw [ofJson, h.writtenAs.readText_eq, ofNode_eq_ok_iff_spelledBy _ h.whole,
    spelledBy_fill_iff hgap, hquantity, NumberToken.isInteger_iff_literal_eq h.number]

theorem exists_ofJson_eq_ok (hgap : AwaitsQuantity gap issuer holder)
    (h : gap.WrittenWith t literal text) {n : Int} (hn : Quantity.InRange n)
    (hliteral : literal = (toString n).toList) :
    ∃ r, ofJson text = .ok r ∧ r.issuer = issuer ∧ r.holder = holder ∧ r.quantity.toInt = n := by
  have hquantity := Quantity.toInt_ofInt hn
  refine ⟨⟨issuer, holder, Int64.ofInt n, hgap.1, hgap.2.1⟩, ?_, rfl, rfl, hquantity⟩
  rw [ofJson_eq_ok_iff_literal hgap h, hquantity]
  exact ⟨rfl, rfl, hliteral⟩

end

theorem toList_compact_ofInt (n : Int) : (Value.ofInt n).compact.toList = (toString n).toList := by
  rw [Value.compact, String.toList_ofList]
  rfl

def partyMembers (issuer holder : Party) : List (String × Value) :=
  [("issuer", issuer.toJson), ("holder", holder.toJson)]

def quantityGap (issuer holder : Party) : Gap :=
  .member (memberNodes (partyMembers issuer holder)) (.ofString "quantity") []

theorem awaitsQuantity_quantityGap {issuer holder : Party} (hi : issuer ≠ .absent)
    (hh : holder ≠ .absent) : AwaitsQuantity (quantityGap issuer holder) issuer holder := by
  refine ⟨hi, hh, StringToken.value_ofString _, ?_⟩
  rw [List.append_nil]
  refine ⟨named_memberNodes _, ?_, ?_, valuesOf_memberNodes "quantity" _⟩
  · exact ⟨_, valuesOf_memberNodes "issuer" _, issuer.spelledBy_toJson⟩
  · exact ⟨_, valuesOf_memberNodes "holder" _, holder.spelledBy_toJson⟩

/-- A record is written with the literal of its quantity. -/
theorem writtenWith_toJson (r : Record) :
    (quantityGap r.issuer r.holder).WrittenWith (.ofInt r.quantity.toInt)
      (Value.ofInt r.quantity.toInt).compact.toList r.toJson.compact := by
  have htree : ((quantityGap r.issuer r.holder).fill (.number (.ofInt r.quantity.toInt))).WrittenAs
      r.toJson.compact :=
    Value.writtenAs_compact r.whole_toJson
  obtain ⟨literal, h⟩ := Gap.exists_writtenWith htree
  have hliteral : literal = (toString r.quantity.toInt).toList :=
    (NumberToken.isInteger_iff_literal_eq h.number).mp (NumberToken.isInteger_ofInt _)
  rw [toList_compact_ofInt, ← hliteral]
  exact h

/-- A record with the literal of an integer of 64 bits for its quantity is read, with this integer.
With any other literal it is not read, be it that of an integer beyond these, of a number with a
fraction or an exponent, or of minus zero. What is written of a quantity is read as that quantity,
and a record is written so. -/
theorem quantity_exact_or_refused :
    (∀ (gap : Gap) (issuer holder : Party) (t : NumberToken) (literal : List Char) (text : String),
      AwaitsQuantity gap issuer holder → gap.WrittenWith t literal text →
      (∀ n : Int, t.IsInteger n ↔ literal = (toString n).toList) ∧
      (∀ n : Int, Quantity.InRange n → literal = (toString n).toList →
        ∃ r, ofJson text = .ok r ∧ r.issuer = issuer ∧ r.holder = holder ∧
          r.quantity.toInt = n) ∧
      ((∀ n : Int, Quantity.InRange n → literal ≠ (toString n).toList) →
        ∀ r, ofJson text ≠ .ok r) ∧
      ∀ q : Quantity, literal = (Value.ofInt q.toInt).compact.toList →
        ∃ r, ofJson text = .ok r ∧ r.quantity = q) ∧
    ∀ r : Record, ofJson r.toJson.compact = .ok r ∧ ∃ gap, AwaitsQuantity gap r.issuer r.holder ∧
      gap.WrittenWith (.ofInt r.quantity.toInt) (Value.ofInt r.quantity.toInt).compact.toList
        r.toJson.compact := by
  refine ⟨fun gap issuer holder t literal text hgap h => ⟨fun n => ?_, fun n hn hliteral => ?_,
    fun hother r hr => ?_, fun q hliteral => ?_⟩, fun r => ⟨?_, quantityGap r.issuer r.holder,
    awaitsQuantity_quantityGap r.issuer_present r.holder_present, r.writtenWith_toJson⟩⟩
  · exact NumberToken.isInteger_iff_literal_eq h.number
  · exact exists_ofJson_eq_ok hgap h hn hliteral
  · obtain ⟨_, _, hliteral⟩ := (ofJson_eq_ok_iff_literal hgap h).mp hr
    exact hother r.quantity.toInt (Quantity.inRange_toInt r.quantity) hliteral
  · rw [toList_compact_ofInt] at hliteral
    obtain ⟨r, hr, _, _, hq⟩ := exists_ofJson_eq_ok hgap h (Quantity.inRange_toInt q) hliteral
    exact ⟨r, hr, Int64.toInt_inj.mp hq⟩
  · rw [ofJson, (Value.writtenAs_compact r.whole_toJson).readText_eq, ofNode_toJson]

def textWith (issuer holder : Party) (literal : String) : String :=
  String.ofList ('\x7b' :: (compactMembers (partyMembers issuer holder)).flatMap (· ++ [',']) ++
    (quoted "quantity" ++ [':']) ++ literal.toList ++ ['\x7d'])

theorem spelledBy_flatMap_comma {tss : List (List Token)} {texts : List (List Char)}
    (h : List.Forall₂ TokensSpelledBy tss texts) :
    TokensSpelledBy (tss.flatMap (· ++ [.comma])) (texts.flatMap (· ++ [','])) := by
  induction h with
  | nil => exact .nil
  | cons hts _ ih =>
    have hcomma := hts.append Token.SpelledBy.comma.alone (.cons (by decide) [])
    exact hcomma.append_of_last (by simp) ih

theorem writtenWith_textWith (issuer holder : Party) {t : NumberToken} {literal : String}
    (h : Token.SpelledBy (.number t) literal.toList) :
    (quantityGap issuer holder).WrittenWith t literal.toList (textWith issuer holder literal) := by
  have hparties : WholeMembers (memberNodes (partyMembers issuer holder)) :=
    ⟨rfl, issuer.whole_toJson, rfl, holder.whole_toJson, trivial⟩
  have hmembers := spelledBy_flatMap_comma (forall₂_compactMembers _ hparties)
  have hkey : TokensSpelledBy [.string (.ofString "quantity"), .colon]
      (quoted "quantity" ++ [':']) :=
    .token (Token.spelledBy_quoted "quantity") nofun Token.SpelledBy.colon.alone
  have hopen : TokensSpelledBy _ (['\x7b'] ++ _) := .token .openObject nofun hmembers
  have hfront := hopen.append_of_last (fun _ hlast => by cases hlast) hkey
  have hwhole : ((quantityGap issuer holder).fill (.number t)).Whole :=
    ⟨rfl, rfl, issuer.whole_toJson, rfl, holder.whole_toJson, rfl, trivial, trivial⟩
  exact ⟨hwhole, h, _, _, hfront, Token.SpelledBy.closeObject.alone, String.toList_ofList⟩

def depositText (literal : String) : String := textWith (.ofByte 100) (.ofByte 101) literal

/-- The least quantity is read, and neither a number beyond the greatest nor ten with a fraction of
zero nor minus zero is. -/
theorem quantity_exact_or_refused_deposit :
    (∃ r, ofJson (depositText "-9223372036854775808") = .ok r ∧
      r.quantity.toInt = -9223372036854775808) ∧
    ∀ literal ∈ ["9223372036854775808", "10.0", "-0"],
      ∀ r, ofJson (depositText literal) ≠ .ok r := by
  obtain ⟨hread, _⟩ := quantity_exact_or_refused
  have hgap : AwaitsQuantity (quantityGap (.ofByte 100) (.ofByte 101)) (.ofByte 100) (.ofByte 101) :=
    awaitsQuantity_quantityGap (by decide) (by decide)
  have hrefused : ∀ {t : NumberToken} {literal : String},
      Token.SpelledBy (.number t) literal.toList →
      (∀ n, Quantity.InRange n → ¬ t.IsInteger n) → ∀ r, ofJson (depositText literal) ≠ .ok r := by
    intro t literal h hnone
    obtain ⟨hplain, _, hother, _⟩ := hread _ _ _ _ _ _ hgap (writtenWith_textWith _ _ h)
    exact hother fun n hn heq => hnone n hn ((hplain n).mpr heq)
  have hdigits : ∀ {ds : List Char}, ds ≠ [] → ds.all Char.isDigit → IsDigits ds := fun hne hall =>
    ⟨hne, List.all_eq_true.mp hall⟩
  refine ⟨?_, ?_⟩
  · have hleast : Token.SpelledBy _ "-9223372036854775808".toList :=
      Token.spelledBy_ofInt (-9223372036854775808)
    obtain ⟨_, hexact, _⟩ := hread _ _ _ _ _ _ hgap (writtenWith_textWith _ _ hleast)
    obtain ⟨r, hr, _, _, hq⟩ := hexact (-9223372036854775808) ⟨by decide, by decide⟩ rfl
    exact ⟨r, hr, hq⟩
  · simp only [List.forall_mem_cons]
    refine ⟨?_, ?_, ?_, List.forall_mem_nil _⟩
    · have hbeyond : Token.SpelledBy _ "9223372036854775808".toList :=
        Token.spelledBy_ofInt 9223372036854775808
      refine hrefused hbeyond fun n hn h => ?_
      have heq : n = 9223372036854775808 := h.unique (NumberToken.isInteger_ofInt _)
      have hhigh := hn.2
      omega
    · have hten : Token.SpelledBy (.number ⟨false, ['1', '0'], some ['0'], none⟩) "10.0".toList :=
        .positive rfl ⟨hdigits nofun rfl, nofun, _, _, .places (hdigits nofun rfl), .absent, rfl⟩
      exact hrefused hten fun n _ h => nomatch h.fraction
    · have hzero : Token.SpelledBy (.number ⟨true, ['0'], none, none⟩) "-0".toList :=
        .negative rfl ⟨hdigits nofun rfl, by simp, _, _, .absent, .absent, rfl⟩
      exact hrefused hzero fun n _ h => h.notMinusZero rfl h.value

end Record

end TokenLedger
