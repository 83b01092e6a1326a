import TokenLedger.Proofs.Json.Compact

/-! # Indented texts

The indented text of a value is JSON as well: between the tokens of its tree it has spaces and new
lines only. Its objects have their keys in ascending order, each of them once.
-/
namespace TokenLedger.Json

theorem isSpace_newLine (depth : Nat) : ∀ c ∈ newLine depth, isSpace c = true := by
  intro c hc
  rcases List.mem_cons.mp hc with rfl | hc
  · decide
  · rw [List.eq_of_mem_replicate hc]
    decide

/-- Between two brackets a block has its elements on lines of their own. -/
theorem exists_block_eq {tss : List (List Token)} {texts : List (List Char)}
    (h : List.Forall₂ TokensSpelledBy tss texts) (depth : Nat) :
    ∃ body, (∀ opening closing, block opening closing depth texts = opening :: body ++ [closing]) ∧
      TokensSpelledBy ([.comma].intercalate tss) body := by
  have hinner := isSpace_newLine (depth + 1)
  have hlast : TokensSpelledBy [] (newLine depth) := by
    have hs := TokensSpelledBy.nil.spaces (isSpace_newLine depth)
    rwa [List.append_nil] at hs
  have hjoined := TokensSpelledBy.joined hinner h
  cases h with
  | nil => exact ⟨[], fun _ _ => rfl, .nil⟩
  | @cons ts s tss texts hs h =>
    have hbody := (hjoined.spaces hinner).append hlast (.cons (by decide) _)
    rw [List.append_nil] at hbody
    refine ⟨_, fun opening closing => ?_, hbody⟩
    simp [block]

mutual

/-- The indented text of a value spells its tree, at any depth. -/
theorem Value.spelledBy_prettyChars : ∀ (v : Value) (depth : Nat), v.node.Whole →
    TokensSpelledBy v.node.tokens (v.prettyChars depth)
  | .null, _, h => Value.null.spelledBy_compactChars h
  | .bool b, _, h => (Value.bool b).spelledBy_compactChars h
  | .number n, _, h => (Value.number n).spelledBy_compactChars h
  | .string s, _, h => (Value.string s).spelledBy_compactChars h
  | .array items, depth, h => by
    obtain ⟨body, hblock, hbody⟩ :=
      exists_block_eq (forall₂_prettyItems items (depth + 1) h.2) depth
    rw [Value.prettyChars, hblock]
    exact hbody.array
  | .object members, depth, h => by
    obtain ⟨body, hblock, hbody⟩ :=
      exists_block_eq (forall₂_prettyMembers members (depth + 1) h.2) depth
    rw [Value.prettyChars, hblock]
    exact hbody.object
termination_by structural v => v

theorem forall₂_prettyItems : ∀ (items : List Value) (depth : Nat), WholeItems (itemNodes items) →
    List.Forall₂ TokensSpelledBy (itemTokens (itemNodes items)) (prettyItems depth items)
  | [], _, _ => .nil
  | v :: rest, depth, h =>
    .cons (v.spelledBy_prettyChars depth h.1) (forall₂_prettyItems rest depth h.2)
termination_by structural items => items

theorem forall₂_prettyMembers : ∀ (members : List (String × Value)) (depth : Nat),
    WholeMembers (memberNodes members) →
    List.Forall₂ TokensSpelledBy (memberTokens (memberNodes members)) (prettyMembers depth members)
  | [], _, _ => .nil
  | (key, v) :: rest, depth, h => by
    have hv := (v.spelledBy_prettyChars depth h.2.1).spaces (w := [' '])
      (List.forall_mem_singleton.mpr rfl)
    have hmember : TokensSpelledBy (.string (.ofString key) :: .colon :: v.node.tokens)
        (quoted key ++ ([':'] ++ ([' '] ++ v.prettyChars depth))) :=
      .token (Token.spelledBy_quoted key) nofun (.token .colon nofun hv)
    exact .cons hmember (forall₂_prettyMembers rest depth h.2.2)
termination_by structural members => members

end

theorem wholeMembers_placeMember {key : String} {v : Value} {members : List (String × Value)}
    (hv : v.node.Whole) (h : WholeMembers (memberNodes members)) :
    WholeMembers (memberNodes (placeMember key v members)) := by
  induction members with
  | nil => exact ⟨rfl, hv, trivial⟩
  | cons m rest ih =>
    obtain ⟨k, w⟩ := m
    unfold placeMember
    split
    · exact ⟨rfl, hv, h⟩
    · split
      · exact ⟨rfl, hv, h.2.2⟩
      · exact ⟨rfl, h.2.1, ih h.2.2⟩

mutual

theorem Value.whole_sorted : ∀ v : Value, v.node.Whole → v.sorted.node.Whole
  | .null, h => h
  | .bool _, h => h
  | .number _, h => h
  | .string _, h => h
  | .array items, h => ⟨rfl, wholeItems_sorted items h.2⟩
  | .object members, h => ⟨rfl, wholeMembers_sorted members [] trivial h.2⟩
termination_by structural v => v

theorem wholeItems_sorted : ∀ items : List Value, WholeItems (itemNodes items) →
    WholeItems (itemNodes (sortedItems items))
  | [], _ => trivial
  | v :: rest, h => ⟨v.whole_sorted h.1, wholeItems_sorted rest h.2⟩
termination_by structural items => items

theorem wholeMembers_sorted : ∀ members done : List (String × Value),
    WholeMembers (memberNodes done) → WholeMembers (memberNodes members) →
    WholeMembers (memberNodes (sortedMembers done members))
  | [], _, hdone, _ => hdone
  | (_, v) :: rest, _, hdone, h =>
    wholeMembers_sorted rest _ (wholeMembers_placeMember (v.whole_sorted h.2.1) hdone) h.2.2
termination_by structural members => members

end

/-- The indented text of a value is JSON, if no number of it is a floating-point one. -/
theorem Value.writtenAs_pretty {v : Value} (h : v.node.Whole) :
    v.sorted.node.WrittenAs v.pretty := by
  have hs := v.whole_sorted h
  refine ⟨hs, ?_⟩
  rw [Value.pretty, String.toList_ofList]
  exact v.sorted.spelledBy_prettyChars 0 hs

theorem sortedItems_eq_map (items : List Value) : sortedItems items = items.map Value.sorted := by
  induction items with
  | nil => rfl
  | cons v rest ih => rw [sortedItems, ih, List.map_cons]

mutual

/-- In every object the keys ascend, so that none occurs twice. -/
def Value.Ascending : Value → Prop
  | .array items => AscendingItems items
  | .object members => (members.map Prod.fst).Pairwise (· < ·) ∧ AscendingMembers members
  | _ => True
termination_by structural v => v

def AscendingItems : List Value → Prop
  | [] => True
  | v :: rest => v.Ascending ∧ AscendingItems rest
termination_by structural v => v

def AscendingMembers : List (String × Value) → Prop
  | [] => True
  | (_, v) :: rest => v.Ascending ∧ AscendingMembers rest
termination_by structural v => v

end

theorem mem_keys_placeMember {key k : String} {v : Value} {members : List (String × Value)} :
    k ∈ (placeMember key v members).map Prod.fst ↔ k = key ∨ k ∈ members.map Prod.fst := by
  induction members with
  | nil => simp [placeMember]
  | cons m rest ih =>
    obtain ⟨l, w⟩ := m
    unfold placeMember
    split
    · simp
    · split
      · rename_i h
        subst h
        simp
      · simp only [List.map_cons, List.mem_cons, ih]
        grind

theorem pairwise_placeMember {key : String} {v : Value} {members : List (String × Value)}
    (h : (members.map Prod.fst).Pairwise (· < ·)) :
    ((placeMember key v members).map Prod.fst).Pairwise (· < ·) := by
  induction members with
  | nil => simp [placeMember]
  | cons m rest ih =>
    obtain ⟨k, w⟩ := m
    obtain ⟨hk, hr⟩ := List.pairwise_cons.mp h
    unfold placeMember
    split
    · rename_i hlt
      refine List.pairwise_cons.mpr ⟨fun x hx => ?_, h⟩
      rcases List.mem_cons.mp hx with rfl | hx
      · exact hlt
      · exact String.lt_trans hlt (hk x hx)
    · rename_i hlt
      split
      · rename_i heq
        subst heq
        exact h
      · rename_i hne
        have hgt : k < key := by
          refine Decidable.byContradiction fun hle => hne ?_
          exact String.le_antisymm (String.not_lt.mp hle) (String.not_lt.mp hlt)
        refine List.pairwise_cons.mpr ⟨fun x hx => ?_, ih hr⟩
        rcases mem_keys_placeMember.mp hx with rfl | hx
        · exact hgt
        · exact hk x hx

theorem ascendingMembers_placeMember {key : String} {v : Value} {members : List (String × Value)}
    (hv : v.Ascending) (h : AscendingMembers members) :
    AscendingMembers (placeMember key v members) := by
  induction members with
  | nil => exact ⟨hv, trivial⟩
  | cons m rest ih =>
    obtain ⟨k, w⟩ := m
    unfold placeMember
    split
    · exact ⟨hv, h⟩
    · split
      · exact ⟨hv, h.2⟩
      · exact ⟨h.1, ih h.2⟩

mutual

theorem Value.ascending_sorted : ∀ v : Value, v.sorted.Ascending
  | .null => trivial
  | .bool _ => trivial
  | .number _ => trivial
  | .string _ => trivial
  | .array items => ascendingItems_sorted items
  | .object members => ascending_sortedMembers members [] .nil trivial
termination_by structural v => v

theorem ascendingItems_sorted : ∀ items : List Value, AscendingItems (sortedItems items)
  | [] => trivial
  | v :: rest => ⟨v.ascending_sorted, ascendingItems_sorted rest⟩
termination_by structural items => items

/-- Members are put one by one into their places among those that are done. -/
theorem ascending_sortedMembers : ∀ members done : List (String × Value),
    (done.map Prod.fst).Pairwise (· < ·) → AscendingMembers done →
    (Value.object (sortedMembers done members)).Ascending
  | [], _, hkeys, hdone => ⟨hkeys, hdone⟩
  | (_, v) :: rest, _, hkeys, hdone =>
    ascending_sortedMembers rest _ (pairwise_placeMember hkeys)
      (ascendingMembers_placeMember v.ascending_sorted hdone)
termination_by structural members => members

end

theorem placeMember_of_forall_lt {key : String} {v : Value} {members : List (String × Value)}
    (h : ∀ k ∈ members.map Prod.fst, k < key) :
    placeMember key v members = members ++ [(key, v)] := by
  induction members with
  | nil => rfl
  | cons m rest ih =>
    obtain ⟨k, w⟩ := m
    obtain ⟨hk, hrest⟩ := List.forall_mem_cons.mp h
    have hne : key ≠ k := by
      rintro rfl
      exact String.lt_irrefl key hk
    rw [placeMember, if_neg (String.lt_asymm hk), if_neg hne, ih hrest, List.cons_append]

mutual

/-- What is in order stays as it is. -/
theorem Value.sorted_of_ascending : ∀ {v : Value}, v.Ascending → v.sorted = v
  | .null, _ => rfl
  | .bool _, _ => rfl
  | .number _, _ => rfl
  | .string _, _ => rfl
  | .array _, h => congrArg Value.array (sortedItems_of_ascending h)
  | .object _, h => congrArg Value.object (sortedMembers_of_ascending [] h.1 h.2)
termination_by structural v => v

theorem sortedItems_of_ascending : ∀ {items : List Value}, AscendingItems items →
    sortedItems items = items
  | [], _ => rfl
  | _ :: _, h => by rw [sortedItems, Value.sorted_of_ascending h.1, sortedItems_of_ascending h.2]
termination_by structural items => items

theorem sortedMembers_of_ascending : ∀ {members : List (String × Value)}
    (done : List (String × Value)), ((done ++ members).map Prod.fst).Pairwise (· < ·) →
    AscendingMembers members → sortedMembers done members = done ++ members
  | [], done, _, _ => (List.append_nil done).symm
  | (key, v) :: rest, done, hkeys, h => by
    have hfront : ∀ k ∈ done.map Prod.fst, k < key := by
      intro k hk
      rw [List.map_append] at hkeys
      exact (List.pairwise_append.mp hkeys).2.2 k hk key List.mem_cons_self
    have hnext : done ++ (key, v) :: rest = done ++ [(key, v)] ++ rest := by simp
    rw [hnext] at hkeys ⊢
    rw [sortedMembers, Value.sorted_of_ascending h.1, placeMember_of_forall_lt hfront]
    exact sortedMembers_of_ascending _ hkeys h.2
termination_by structural members => members

end

end TokenLedger.Json
