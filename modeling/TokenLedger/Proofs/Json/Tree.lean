import TokenLedger.Json.Reader
import TokenLedger.Proofs.Json.Scan

/-! # Building the tree of a text

The machine that builds trees goes from the place of a value to the place behind it along the tokens
of a whole tree, whatever frames are around that place. A JSON text is therefore read as its tree.
-/
namespace TokenLedger.Json

open State (step)

/-- No tree begins like the end of an array. -/
theorem Node.exists_cons_tokens {n : Node} (h : n.Whole) :
    ∃ t ts, n.tokens = t :: ts ∧ t ≠ .closeArray := by
  cases n with
  | null => exact ⟨_, _, rfl, by decide⟩
  | bool b => exact ⟨_, _, rfl, by simp⟩
  | number n => exact ⟨_, _, rfl, by simp⟩
  | string s => exact ⟨_, _, rfl, by simp⟩
  | array items ending => exact ⟨_, _, rfl, by decide⟩
  | object members ending => exact ⟨_, _, rfl, by decide⟩
  | broken why => exact absurd h id

theorem step_firstItem {t : Token} (h : t ≠ .closeArray) (frames : List Frame) :
    step (.firstItem frames) t = step (.nextItem [] frames) t := by
  cases t with
  | closeArray => exact absurd rfl h
  | _ => rfl

/-- Behind a comma an item is taken as any value is, inside the frame of its array. -/
theorem step_nextItem {t : Token} (h : t ≠ .closeArray) (done : List Node) (frames : List Frame) :
    step (.nextItem done frames) t = step (.value (.item done :: frames)) t := by
  cases t with
  | closeArray => exact absurd rfl h
  | _ => rfl

/-- The first item is taken like one behind a comma. -/
theorem foldl_firstItem {n : Node} (h : n.Whole) (rest : List Node) (frames : List Frame) :
    ([.comma].intercalate (itemTokens (n :: rest))).foldl step (.firstItem frames) =
      ([.comma].intercalate (itemTokens (n :: rest))).foldl step (.nextItem [] frames) := by
  obtain ⟨t, ts, ht, hne⟩ := n.exists_cons_tokens h
  cases rest <;> simp [itemTokens, ht, step_firstItem hne]

/-- An item leads behind itself, if its tokens lead behind it as a value. -/
theorem foldl_item {n : Node} (h : n.Whole)
    (hn : ∀ frames, n.tokens.foldl step (.value frames) = close n frames) (done : List Node)
    (frames : List Frame) :
    n.tokens.foldl step (.nextItem done frames) = .afterItem (n :: done) frames := by
  have hv := hn (.item done :: frames)
  obtain ⟨t, ts, ht, hne⟩ := n.exists_cons_tokens h
  rw [ht, List.foldl_cons] at hv ⊢
  rw [step_nextItem hne, hv]
  rfl

/-- The first key is taken like one behind a comma. -/
theorem foldl_firstKey (m : StringToken × Node) (rest : List (StringToken × Node))
    (frames : List Frame) :
    ([.comma].intercalate (memberTokens (m :: rest))).foldl step (.firstKey frames) =
      ([.comma].intercalate (memberTokens (m :: rest))).foldl step (.nextKey [] frames) := by
  cases rest <;> simp [memberTokens, step]

theorem foldl_member {key : StringToken} {n : Node} (h : key.ending = .closed)
    (hn : ∀ frames, n.tokens.foldl step (.value frames) = close n frames)
    (done : List (StringToken × Node)) (frames : List Frame) :
    (.string key :: .colon :: n.tokens).foldl step (.nextKey done frames) =
      .afterMember ((key, n) :: done) frames := by
  have hkey : step (step (.nextKey done frames) (.string key)) .colon =
      .value (.member done key :: frames) := by
    simp [step, beginMember, h]
  rw [List.foldl_cons, List.foldl_cons, hkey, hn]
  rfl

mutual

/-- The tokens of a whole tree lead from the place of a value to the place behind it. -/
theorem Node.foldl_tokens : ∀ (n : Node), n.Whole → ∀ frames : List Frame,
    n.tokens.foldl step (.value frames) = close n frames
  | .null, _, _ => rfl
  | .bool _, _, _ => rfl
  | .number _, _, _ => rfl
  | .string _, h, _ => if_pos h
  | .array [] _, h, _ => by
    obtain rfl := h.1
    rfl
  | .array (n :: rest) _, h, frames => by
    obtain ⟨rfl, hitems⟩ := h
    have key := foldl_itemTokens (n :: rest) hitems (List.cons_ne_nil n rest) [] frames
    rw [List.append_nil] at key
    rw [Node.tokens, List.foldl_append, List.foldl_cons]
    change step (List.foldl step (.firstItem frames) _) .closeArray = _
    rw [foldl_firstItem hitems.1, key]
    simp only [step, List.reverse_reverse]
  | .object [] _, h, _ => by
    obtain rfl := h.1
    rfl
  | .object (m :: rest) _, h, frames => by
    obtain ⟨rfl, hmembers⟩ := h
    have key := foldl_memberTokens (m :: rest) hmembers (List.cons_ne_nil m rest) [] frames
    rw [List.append_nil] at key
    rw [Node.tokens, List.foldl_append, List.foldl_cons]
    change step (List.foldl step (.firstKey frames) _) .closeObject = _
    rw [foldl_firstKey, key]
    simp only [step, List.reverse_reverse]
  | .broken _, h, _ => absurd h id
termination_by structural n => n

theorem foldl_itemTokens : ∀ items : List Node, WholeItems items → items ≠ [] →
    ∀ (done : List Node) (frames : List Frame),
      ([.comma].intercalate (itemTokens items)).foldl step (.nextItem done frames) =
        .afterItem (items.reverse ++ done) frames
  | [], _, h, _, _ => absurd rfl h
  | [n], h, _, done, frames => by
    rw [itemTokens, itemTokens, List.intercalate_singleton, foldl_item h.1 (n.foldl_tokens h.1)]
    rfl
  | n :: m :: rest, h, _, done, frames => by
    have ih := foldl_itemTokens (m :: rest) h.2 (List.cons_ne_nil m rest) (n :: done) frames
    rw [itemTokens, itemTokens, List.intercalate_cons_cons, List.foldl_append, List.foldl_append,
      foldl_item h.1 (n.foldl_tokens h.1), ← itemTokens]
    change List.foldl step (.nextItem (n :: done) frames) _ = _
    rw [ih]
    simp
termination_by structural items => items

theorem foldl_memberTokens : ∀ members : List (StringToken × Node), WholeMembers members →
    members ≠ [] → ∀ (done : List (StringToken × Node)) (frames : List Frame),
      ([.comma].intercalate (memberTokens members)).foldl step (.nextKey done frames) =
        .afterMember (members.reverse ++ done) frames
  | [], _, h, _, _ => absurd rfl h
  | [(key, n)], h, _, done, frames => by
    rw [memberTokens, memberTokens, List.intercalate_singleton,
      foldl_member h.1 (n.foldl_tokens h.2.1)]
    rfl
  | (key, n) :: (key', m) :: rest, h, _, done, frames => by
    have ih := foldl_memberTokens ((key', m) :: rest) h.2.2 (List.cons_ne_nil _ rest)
      ((key, n) :: done) frames
    rw [memberTokens, memberTokens, List.intercalate_cons_cons, List.foldl_append,
      List.foldl_append, foldl_member h.1 (n.foldl_tokens h.2.1), ← memberTokens]
    change List.foldl step (.nextKey ((key, n) :: done) frames) _ = _
    rw [ih]
    simp
termination_by structural members => members

end

/-- A JSON text is read as its tree, with nothing behind it. -/
theorem Node.WrittenAs.ofText_eq {n : Node} {text : String} (h : n.WrittenAs text) :
    Document.ofText text = ⟨n, false⟩ := by
  have hs : scan text.toList = n.tokens := scan_of_tokensSpelledBy h.2
  simp only [Document.ofText, Document.ofTokens, hs, n.foldl_tokens h.1]
  rfl

theorem Node.WrittenAs.readText_eq {α : Type} {n : Node} {text : String} (h : n.WrittenAs text)
    (read : Node → Read α) : readText read text = read n := by
  rw [readText, h.ofText_eq]
  cases read n <;> rfl

end TokenLedger.Json
