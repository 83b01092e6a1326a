import TokenLedger.Proofs.Json.Compact

/-! # Gaps

A tree with a gap where one of its values is missing. In a text of the filled tree the value of the
gap stands between what is written in front of it and what is written behind, and a number there has
a literal of its own, that ends where the text behind the gap begins.
-/
namespace TokenLedger.Json

theorem Apart.of_append {s r : List Char} (h : Apart (s ++ r)) : Apart s := by
  cases s with
  | nil => exact fun _ hc => by cases hc
  | cons c s => exact h

namespace TokensSpelledBy
variable {ts us : List Token} {s r : List Char}

theorem eq_nil_of_nil (h : TokensSpelledBy ts []) : ts = [] := by
  have hscan := scan_of_tokensSpelledBy h
  exact hscan.symm

/-- Only a last number is changed by what is written behind it. -/
theorem append_of_last (h : TokensSpelledBy ts s) (hlast : ∀ n, ts.getLast? ≠ some (.number n))
    (h' : TokensSpelledBy us r) : TokensSpelledBy (ts ++ us) (s ++ r) := by
  induction h with
  | nil => exact h'
  | space hc _ ih => exact .space hc (ih hlast)
  | @token t ts w s ht hs hrest ih =>
    rw [List.append_assoc]
    by_cases hts : ts = []
    · subst hts
      refine .token ht (fun n hn => absurd ?_ (hlast n)) (ih (by simp))
      rw [hn]
      rfl
    · -- Behind a token that is not the last there is more of `s`, on which alone it depends.
      have hne : s ≠ [] := by
        rintro rfl
        exact hts hrest.eq_nil_of_nil
      obtain ⟨c, s, rfl⟩ := List.exists_cons_of_ne_nil hne
      refine .token ht hs (ih fun n => ?_)
      rw [List.getLast?_cons_of_ne_nil hts] at hlast
      exact hlast n

/-- Each of the tokens of a text is written somewhere in it. -/
theorem exists_literal {t : Token} (h : TokensSpelledBy (ts ++ t :: us) s) :
    ∃ front literal back, TokensSpelledBy ts front ∧ t.SpelledBy literal ∧
      TokensSpelledBy us back ∧ s = front ++ literal ++ back := by
  generalize hall : ts ++ t :: us = all at h
  induction h generalizing ts with
  | nil => simp at hall
  | @space c _ s hc _ ih =>
    obtain ⟨front, literal, back, hfront, hliteral, hback, rfl⟩ := ih hall
    exact ⟨c :: front, literal, back, .space hc hfront, hliteral, hback, rfl⟩
  | @token t' _ w s ht hs hrest ih =>
    cases ts with
    | nil =>
      obtain ⟨rfl, rfl⟩ := List.cons.inj hall
      exact ⟨[], w, s, .nil, ht, hrest, rfl⟩
    | cons first ts =>
      obtain ⟨rfl, hrow⟩ := List.cons.inj hall
      obtain ⟨front, literal, back, hfront, hliteral, hback, rfl⟩ := ih hrow
      have hapart : ∀ n, first = .number n → Apart front := by
        intro n hn
        have h := hs n hn
        rw [List.append_assoc] at h
        exact h.of_append
      exact ⟨w ++ front, literal, back, .token ht hapart hfront, hliteral, hback, by simp⟩

end TokensSpelledBy

/-- A gap in an object or an array, where the value of a member or an item is missing. -/
inductive Gap
  | member (before : List (StringToken × Node)) (key : StringToken)
    (after : List (StringToken × Node))
  | item (before after : List Node)

namespace Gap

def fill (gap : Gap) (n : Node) : Node :=
  match gap with
  | .member before key after => .object (before ++ (key, n) :: after) .closed
  | .item before after => .array (before ++ n :: after) .closed

def front : Gap → List Token
  | .member before key _ =>
    .openObject :: (memberTokens before).flatMap (· ++ [.comma]) ++ [.string key, .colon]
  | .item before _ => .openArray :: (itemTokens before).flatMap (· ++ [.comma])

def back : Gap → List Token
  | .member _ _ after => (memberTokens after).flatMap (.comma :: ·) ++ [.closeObject]
  | .item _ after => (itemTokens after).flatMap (.comma :: ·) ++ [.closeArray]

theorem intercalate_cons {α : Type} (sep : α) (x : List α) (ys : List (List α)) :
    [sep].intercalate (x :: ys) = x ++ ys.flatMap (sep :: ·) := by
  induction ys generalizing x with
  | nil => simp
  | cons y ys ih =>
    rw [List.intercalate_cons_cons, ih]
    simp

theorem intercalate_append_cons {α : Type} (sep : α) (xs : List (List α)) (y : List α)
    (zs : List (List α)) : [sep].intercalate (xs ++ y :: zs) =
      xs.flatMap (· ++ [sep]) ++ y ++ zs.flatMap (sep :: ·) := by
  induction xs with
  | nil => exact intercalate_cons sep y zs
  | cons x xs ih =>
    obtain ⟨first, rest, hrest⟩ := List.exists_cons_of_ne_nil
      (List.append_ne_nil_of_right_ne_nil xs (List.cons_ne_nil y zs))
    rw [List.cons_append, hrest, List.intercalate_cons_cons, ← hrest, ih]
    simp

theorem memberTokens_append (before after : List (StringToken × Node)) :
    memberTokens (before ++ after) = memberTokens before ++ memberTokens after := by
  induction before with
  | nil => rfl
  | cons m before ih => rw [List.cons_append, memberTokens, ih, memberTokens, List.cons_append]

theorem itemTokens_append (before after : List Node) :
    itemTokens (before ++ after) = itemTokens before ++ itemTokens after := by
  induction before with
  | nil => rfl
  | cons n before ih => rw [List.cons_append, itemTokens, ih, itemTokens, List.cons_append]

theorem tokens_fill (gap : Gap) (n : Node) :
    (gap.fill n).tokens = gap.front ++ n.tokens ++ gap.back := by
  cases gap with
  | member before key after =>
    simp only [fill, Node.tokens, front, back, memberTokens_append, memberTokens,
      intercalate_append_cons, List.cons_append, List.append_assoc, List.nil_append]
  | item before after =>
    simp only [fill, Node.tokens, front, back, itemTokens_append, itemTokens,
      intercalate_append_cons, List.cons_append, List.append_assoc]

theorem getLast?_front (gap : Gap) (n : NumberToken) : gap.front.getLast? ≠ some (.number n) := by
  cases gap with
  | member before key after =>
    rw [front, List.getLast?_append]
    simp
  | item before after =>
    obtain rfl | ⟨before, x, rfl⟩ := before.eq_nil_or_concat
    · simp [front, itemTokens]
    · rw [List.concat_eq_append]
      have hcomma : (Gap.item (before ++ [x]) after).front =
          (.openArray :: (itemTokens before).flatMap (· ++ [.comma]) ++ x.tokens) ++ [.comma] := by
        simp [front, itemTokens_append, itemTokens]
      rw [hcomma, List.getLast?_append]
      simp

/-- A number in the gap ends where what is behind the gap begins. -/
theorem apart_back {gap : Gap} {s : List Char} (h : TokensSpelledBy gap.back s) : Apart s := by
  obtain ⟨t, ts, hback, ht⟩ : ∃ t ts, gap.back = t :: ts ∧
      (t = .comma ∨ t = .closeObject ∨ t = .closeArray) := by
    cases gap with
    | member before key after => cases after <;> simp [back, memberTokens]
    | item before after => cases after <;> simp [back, itemTokens]
  rw [hback] at h
  cases h with
  | space hc _ =>
    refine .cons ?_ _
    simp only [isSpace, Bool.or_eq_true, beq_iff_eq] at hc
    obtain ((rfl | rfl) | rfl) | rfl := hc <;> decide
  | token first _ _ =>
    obtain rfl | rfl | rfl := ht
    all_goals
      cases first
      exact .cons (by decide) _

/-- The text of a tree with a number in the gap, for which it has this literal: the literal stands
between what is written in front of the gap and what is written behind it. -/
structure WrittenWith (gap : Gap) (t : NumberToken) (literal : List Char) (text : String) :
    Prop where
  whole : (gap.fill (.number t)).Whole
  number : Token.SpelledBy (.number t) literal
  between : ∃ front back, TokensSpelledBy gap.front front ∧ TokensSpelledBy gap.back back ∧
    text.toList = front ++ literal ++ back

variable {gap : Gap} {t : NumberToken} {literal : List Char} {text : String}

theorem WrittenWith.writtenAs (h : gap.WrittenWith t literal text) :
    (gap.fill (.number t)).WrittenAs text := by
  obtain ⟨hwhole, hnumber, front, back, hfront, hback, htext⟩ := h
  have hrest : TokensSpelledBy (.number t :: gap.back) (literal ++ back) :=
    .token hnumber (fun _ _ => apart_back hback) hback
  refine ⟨hwhole, ?_⟩
  rw [tokens_fill, htext, List.append_assoc, List.append_assoc]
  exact hfront.append_of_last gap.getLast?_front hrest

/-- No text of such a tree is without a literal there. -/
theorem exists_writtenWith (h : (gap.fill (.number t)).WrittenAs text) :
    ∃ literal, gap.WrittenWith t literal text := by
  obtain ⟨hwhole, htokens⟩ := h
  rw [tokens_fill, List.append_assoc] at htokens
  obtain ⟨front, literal, back, hfront, hliteral, hback, htext⟩ := htokens.exists_literal
  exact ⟨literal, hwhole, hliteral, front, back, hfront, hback, htext⟩

end Gap

end TokenLedger.Json
