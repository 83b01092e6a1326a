import TokenLedger.Proofs.Json.Compact
import TokenLedger.Proofs.Result

/-! # Texts of arrays

The text of an array is put together from the texts of its items, and as a list it is readable
exactly if each of them alone is.
-/
namespace TokenLedger.Json

def arrayText (texts : List String) : String :=
  String.ofList ('[' :: joined [','] (texts.map String.toList) ++ [']'])

section
variable {items : List Node} {texts : List String}

theorem wholeItems_of_writtenAs (h : List.Forall₂ Node.WrittenAs items texts) :
    WholeItems items := by
  induction h with
  | nil => trivial
  | cons hn _ ih => exact ⟨hn.1, ih⟩

theorem itemTokens_spelledBy (h : List.Forall₂ Node.WrittenAs items texts) :
    List.Forall₂ TokensSpelledBy (itemTokens items) (texts.map String.toList) := by
  induction h with
  | nil => exact .nil
  | cons hn _ ih => exact .cons hn.2 ih

theorem writtenAs_arrayText (h : List.Forall₂ Node.WrittenAs items texts) :
    (Node.array items .closed).WrittenAs (arrayText texts) := by
  refine ⟨⟨rfl, wholeItems_of_writtenAs h⟩, ?_⟩
  rw [arrayText, String.toList_ofList]
  exact (TokensSpelledBy.joined (List.forall_mem_nil _) (itemTokens_spelledBy h)).array

end

section
variable {α : Type} {read : Node → Read α}

theorem Node.readList_closed_eq_ok_iff {items : List Node} {values : List α} :
    (Node.array items .closed).readList read = .ok values ↔
      List.Forall₂ (fun n v => read n = .ok v) items values := by
  rw [← mapM_eq_ok_iff, Node.readList]
  cases items.mapM read <;> simp [bind, Except.bind, Ending.itemFault?, require]

/-- An array is readable exactly if its items are readable alone, and has their values. -/
theorem readText_arrayText_eq_ok_iff {texts : List String} (h : ∀ t ∈ texts, IsJson t)
    {values : List α} :
    readText (Node.readList read) (arrayText texts) = .ok values ↔
      List.Forall₂ (fun t v => readText read t = .ok v) texts values := by
  obtain ⟨items, htrees⟩ := exists_forall₂_iff.mpr h
  have hi : List.Forall₂ Node.WrittenAs items texts := htrees.flip
  rw [(writtenAs_arrayText hi).readText_eq, Node.readList_closed_eq_ok_iff]
  clear h htrees
  induction hi generalizing values with
  | nil => simp
  | @cons n t items texts hn _ ih =>
    cases values with
    | nil => simp
    | cons v values =>
      rw [List.forall₂_cons, List.forall₂_cons, hn.readText_eq]
      exact and_congr_right fun _ => ih

end

theorem Value.compact_array (values : List Value) :
    (Value.array values).compact = arrayText (values.map Value.compact) := by
  have hitems : compactItems values = (values.map Value.compact).map String.toList := by
    induction values with
    | nil => rfl
    | cons v rest ih => simp [compactItems, ih, Value.compact]
  rw [Value.compact, Value.compactChars, hitems, arrayText]

end TokenLedger.Json
