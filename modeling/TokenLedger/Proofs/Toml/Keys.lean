import Mathlib.Data.List.Basic
import TokenLedger.Toml.Document

/-! # Keys of a document

No table of a document has a key twice, however deep it lies. Tables grow by pairs and by headers,
and each of these looks for its key before it adds it.
-/
namespace TokenLedger.Toml

/-- No table in the value has a key twice. -/
inductive Value.Distinct : Value → Prop
  | string (s : String) : Distinct (.string s)
  | integer (n : Int) : Distinct (.integer n)
  | float (x : Float) : Distinct (.float x)
  | bool (b : Bool) : Distinct (.bool b)
  | date (spelling : List Char) : Distinct (.date spelling)
  | array {items : List Value} (h : ∀ v ∈ items, Distinct v) : Distinct (.array items)
  | tables {elements : List Value} (h : ∀ v ∈ elements, Distinct v) : Distinct (.tables elements)
  | table {entries : List (String × Value)} (keys : (entries.map Prod.fst).Nodup)
    (h : ∀ e ∈ entries, Distinct e.2) : Distinct (.table entries)

theorem entryValues_eq_map (entries : Entries) :
    entryValues entries = entries.map fun e => (e.1, e.2.toValue) := by
  induction entries with
  | nil => rfl
  | cons e rest ih => rw [entryValues, ih, List.map_cons]

theorem elementValues_eq_map (elements : List Entries) :
    elementValues elements = elements.map fun entries => .table (entryValues entries) := by
  induction elements with
  | nil => rfl
  | cons entries rest ih => rw [elementValues, ih, List.map_cons]

def DistinctKeys (entries : Entries) : Prop := (Value.table (entryValues entries)).Distinct

theorem distinctKeys_iff {entries : Entries} :
    DistinctKeys entries ↔
      (entries.map Prod.fst).Nodup ∧ ∀ e ∈ entries, e.2.toValue.Distinct := by
  have hkeys : (entryValues entries).map Prod.fst = entries.map Prod.fst := by
    rw [entryValues_eq_map, List.map_map]
    rfl
  constructor
  · intro h
    obtain ⟨hn, hv⟩ : ((entryValues entries).map Prod.fst).Nodup ∧
        ∀ e ∈ entryValues entries, e.2.Distinct := by
      cases h with
      | table keys h => exact ⟨keys, h⟩
    refine ⟨hkeys ▸ hn, fun e he => ?_⟩
    rw [entryValues_eq_map] at hv
    exact hv _ (List.mem_map_of_mem he)
  · rintro ⟨hn, hv⟩
    refine .table (hkeys.symm ▸ hn) fun e he => ?_
    rw [entryValues_eq_map] at he
    obtain ⟨i, hi, rfl⟩ := List.mem_map.mp he
    exact hv i hi

theorem distinctKeys_nil : DistinctKeys [] := .table List.nodup_nil (by simp [entryValues])

theorem distinctKeys_cons_iff {k : String} {i : Item} {rest : Entries} :
    DistinctKeys ((k, i) :: rest) ↔
      k ∉ rest.map Prod.fst ∧ i.toValue.Distinct ∧ DistinctKeys rest := by
  simp only [distinctKeys_iff, List.map_cons, List.nodup_cons, List.forall_mem_cons]
  constructor
  · rintro ⟨⟨hk, hn⟩, hi, hv⟩
    exact ⟨hk, hi, hn, hv⟩
  · rintro ⟨hk, hi, hn, hv⟩
    exact ⟨⟨hk, hn⟩, hi, hv⟩

theorem DistinctKeys.concat {k : String} {i : Item} {entries : Entries} (hd : DistinctKeys entries)
    (hk : k ∉ entries.map Prod.fst) (hi : i.toValue.Distinct) :
    DistinctKeys (entries ++ [(k, i)]) := by
  induction entries with
  | nil => exact distinctKeys_cons_iff.mpr ⟨List.not_mem_nil, hi, distinctKeys_nil⟩
  | cons e rest ih =>
    obtain ⟨hne, hk⟩ := not_or.mp (mt List.mem_cons.mpr hk)
    obtain ⟨he, hv, hrest⟩ := distinctKeys_cons_iff.mp hd
    have hfresh : e.1 ∉ (rest ++ [(k, i)]).map Prod.fst := by
      simpa using ⟨by simpa using he, Ne.symm hne⟩
    exact distinctKeys_cons_iff.mpr ⟨hfresh, hv, ih hrest hk⟩

theorem DistinctKeys.filter {entries : Entries} (hd : DistinctKeys entries)
    (keep : String × Item → Bool) : DistinctKeys (entries.filter keep) := by
  obtain ⟨hn, hv⟩ := distinctKeys_iff.mp hd
  refine distinctKeys_iff.mpr ⟨hn.sublist (List.filter_sublist.map _), fun e he => ?_⟩
  exact hv e (List.mem_of_mem_filter he)

theorem DistinctKeys.of_lookup {k : String} {i : Item} {entries : Entries}
    (hd : DistinctKeys entries) (h : entries.lookup k = some i) : i.toValue.Distinct := by
  obtain ⟨before, after, rfl, _⟩ := List.lookup_eq_some_iff.mp h
  exact (distinctKeys_iff.mp hd).2 (k, i) (by simp)

theorem distinct_tables_iff {elements : List Entries} :
    (Item.tables elements).toValue.Distinct ↔ ∀ entries ∈ elements, DistinctKeys entries := by
  rw [Item.toValue, elementValues_eq_map]
  constructor
  · intro h entries he
    cases h with
    | tables h => exact h _ (List.mem_map_of_mem he)
  · intro h
    refine .tables fun v hv => ?_
    obtain ⟨entries, he, rfl⟩ := List.mem_map.mp hv
    exact h entries he

theorem mem_keys_update {k k' : String} {f : Option Item → Option Item} {entries changed : Entries}
    (h : update k f entries = some changed) (hk : k' ∈ changed.map Prod.fst) :
    k' = k ∨ k' ∈ entries.map Prod.fst := by
  induction entries generalizing changed with
  | nil =>
    simp only [update, Option.bind_eq_bind, Option.bind_eq_some_iff, Option.some.injEq] at h
    obtain ⟨i, _, rfl⟩ := h
    exact .inl (by simpa using hk)
  | cons e rest ih =>
    rw [update] at h
    split at h
    · simp only [Option.bind_eq_bind, Option.bind_eq_some_iff, Option.some.injEq] at h
      obtain ⟨i, _, rfl⟩ := h
      rcases List.mem_cons.mp hk with rfl | hk
      · exact .inl rfl
      · exact .inr (List.mem_cons_of_mem _ hk)
    · simp only [Option.bind_eq_bind, Option.bind_eq_some_iff, Option.some.injEq] at h
      obtain ⟨rest', hrest, rfl⟩ := h
      rcases List.mem_cons.mp hk with rfl | hk
      · exact .inr List.mem_cons_self
      · exact (ih hrest hk).imp_right (List.mem_cons_of_mem _)

theorem distinctKeys_update {k : String} {f : Option Item → Option Item}
    (hf : ∀ i? i, (∀ j, i? = some j → j.toValue.Distinct) → f i? = some i → i.toValue.Distinct)
    {entries changed : Entries} (hd : DistinctKeys entries)
    (h : update k f entries = some changed) : DistinctKeys changed := by
  induction entries generalizing changed with
  | nil =>
    simp only [update, Option.bind_eq_bind, Option.bind_eq_some_iff, Option.some.injEq] at h
    obtain ⟨i, hi, rfl⟩ := h
    exact distinctKeys_nil.concat List.not_mem_nil (hf none i (by simp) hi)
  | cons e rest ih =>
    obtain ⟨k', i⟩ := e
    obtain ⟨hk', hi, hrest⟩ := distinctKeys_cons_iff.mp hd
    rw [update] at h
    split at h
    · rename_i heq
      simp only [Option.bind_eq_bind, Option.bind_eq_some_iff, Option.some.injEq] at h
      obtain ⟨j, hj, rfl⟩ := h
      exact distinctKeys_cons_iff.mpr ⟨heq ▸ hk', hf (some i) j (by simpa using hi) hj, hrest⟩
    · rename_i hne
      simp only [Option.bind_eq_bind, Option.bind_eq_some_iff, Option.some.injEq] at h
      obtain ⟨rest', hupdate, rfl⟩ := h
      have hfresh : k' ∉ rest'.map Prod.fst := by
        intro hm
        rcases mem_keys_update hupdate hm with rfl | hm
        · exact hne rfl
        · exact hk' hm
      exact distinctKeys_cons_iff.mpr ⟨hfresh, hi, ih hrest hupdate⟩

theorem distinctKeys_updateLast {f : Entries → Option Entries}
    (hf : ∀ entries changed, DistinctKeys entries → f entries = some changed → DistinctKeys changed)
    {elements changed : List Entries} (hd : ∀ entries ∈ elements, DistinctKeys entries)
    (h : updateLast f elements = some changed) : ∀ entries ∈ changed, DistinctKeys entries := by
  induction elements generalizing changed with
  | nil => cases h
  | cons entries rest ih =>
    obtain ⟨he, hrest⟩ := List.forall_mem_cons.mp hd
    cases rest with
    | nil =>
      simp only [updateLast, Option.bind_eq_bind, Option.bind_eq_some_iff, Option.some.injEq] at h
      obtain ⟨e, hfe, rfl⟩ := h
      simpa using hf _ _ he hfe
    | cons next rest =>
      simp only [updateLast, Option.bind_eq_bind, Option.bind_eq_some_iff, Option.some.injEq] at h
      obtain ⟨rest', hr, rfl⟩ := h
      exact List.forall_mem_cons.mpr ⟨he, ih hrest hr⟩

theorem distinctKeys_descend {dotted : Bool} {f : Bool → Entries → Option Entries}
    (hf : ∀ here entries changed, DistinctKeys entries → f here entries = some changed →
      DistinctKeys changed) {path : List String} {here : Bool} {entries changed : Entries}
    (hd : DistinctKeys entries) (h : descend dotted f path here entries = some changed) :
    DistinctKeys changed := by
  induction path generalizing here entries changed with
  | nil => exact hf here entries changed hd h
  | cons k path ih =>
    rw [descend] at h
    refine distinctKeys_update (fun i? i hi? hi => ?_) hd h
    match i? with
    | none =>
      obtain ⟨inner, hinner, rfl⟩ := Option.map_eq_some_iff.mp hi
      exact ih distinctKeys_nil hinner
    | some (.value _) => cases hi
    | some (.tables elements) =>
      obtain ⟨elements', helements, rfl⟩ := Option.map_eq_some_iff.mp hi
      have hall := distinct_tables_iff.mp (hi? _ rfl)
      exact distinct_tables_iff.mpr
        (distinctKeys_updateLast (fun _ _ hd h => ih hd h) hall helements)
    | some (.table isImplicit isDotted inner) =>
      simp only at hi
      split at hi
      · cases hi
      · obtain ⟨inner', hinner, rfl⟩ := Option.map_eq_some_iff.mp hi
        exact ih (hi? _ rfl) hinner

theorem distinctKeys_insertPair {k : Key} {v : Value} (hv : v.Distinct) {entries changed : Entries}
    (hd : DistinctKeys entries) (h : insertPair k v entries = some changed) :
    DistinctKeys changed := by
  refine distinctKeys_descend (fun here inner inner' hinner hadd => ?_) hd h
  split at hadd
  · cases hadd
  · refine distinctKeys_update (fun i? i _ hi => ?_) hinner hadd
    cases i? with
    | none =>
      obtain rfl := Option.some.inj hi
      exact hv
    | some j => cases hi

theorem distinctKeys_openTable {k : Key} {entries changed : Entries} (hd : DistinctKeys entries)
    (h : openTable k entries = some changed) : DistinctKeys changed := by
  refine distinctKeys_descend (fun here inner inner' hinner hadd => ?_) hd h
  split at hadd
  · rename_i hnone
    obtain rfl := Option.some.inj hadd
    have hfresh : k.last ∉ inner.map Prod.fst := by
      intro hm
      obtain ⟨e, he, heq⟩ := List.mem_map.mp hm
      simpa [heq] using List.lookup_eq_none_iff.mp hnone e he
    exact hinner.concat hfresh distinctKeys_nil
  · rename_i e hsome
    obtain rfl := Option.some.inj hadd
    have he : DistinctKeys e := hinner.of_lookup hsome
    exact (hinner.filter _).concat (by simp) he
  · cases hadd

theorem distinctKeys_openNext {k : Key} {entries changed : Entries} (hd : DistinctKeys entries)
    (h : openNext k entries = some changed) : DistinctKeys changed := by
  refine distinctKeys_descend (fun here inner inner' hinner hadd => ?_) hd h
  refine distinctKeys_update (fun i? i hi? hi => ?_) hinner hadd
  match i? with
  | none =>
    obtain rfl := Option.some.inj hi
    exact distinct_tables_iff.mpr (by simpa using distinctKeys_nil)
  | some (.tables elements) =>
    obtain rfl := Option.some.inj hi
    have hall := distinct_tables_iff.mp (hi? _ rfl)
    refine distinct_tables_iff.mpr fun e he => ?_
    rcases List.mem_append.mp he with he | he
    · exact hall e he
    · obtain rfl := List.mem_singleton.mp he
      exact distinctKeys_nil
  | some (.value _) => cases hi
  | some (.table ..) => cases hi

theorem distinct_integerToBase {base : Nat} {isDigit : Char → Bool} {s rest : List Char} {v : Value}
    (h : integerToBase base isDigit s = some (v, rest)) : v.Distinct := by
  simp only [integerToBase, Option.bind_eq_bind, Option.bind_eq_some_iff] at h
  obtain ⟨_, _, n, _, h⟩ := h
  cases h
  exact .integer n

theorem distinct_decimalNumber {s rest : List Char} {v : Value}
    (h : decimalNumber s = some (v, rest)) : v.Distinct := by
  simp only [decimalNumber, Option.bind_eq_bind, Option.bind_eq_some_iff] at h
  obtain ⟨_, _, h⟩ := h
  split at h
  all_goals
    simp only [Option.bind_eq_some_iff] at h
    obtain ⟨⟨fraction, _⟩, _, e, _, h⟩ := h
    split at h
    · obtain ⟨n, _, h⟩ := Option.bind_eq_some_iff.mp h
      cases h
      exact .integer n
    · split at h
      · cases h
      · cases h
        exact .float _

theorem distinct_number {s rest : List Char} {v : Value} (h : number s = some (v, rest)) :
    v.Distinct := by
  unfold number at h
  split at h
  · obtain ⟨_, _, h⟩ := Option.map_eq_some_iff.mp h
    cases h
    exact .date _
  · split at h
    · obtain ⟨_, _, h⟩ := Option.map_eq_some_iff.mp h
      cases h
      exact .date _
    · split at h
      · exact distinct_integerToBase h
      · exact distinct_integerToBase h
      · exact distinct_integerToBase h
      · cases h; exact .float _
      · cases h; exact .float _
      · cases h; exact .float _
      · cases h; exact .float _
      · exact distinct_decimalNumber h

theorem distinct_scalar {s rest : List Char} {v : Value} (h : scalar s = some (v, rest)) :
    v.Distinct := by
  unfold scalar at h
  split at h
  · obtain ⟨_, _, h⟩ := Option.map_eq_some_iff.mp h
    cases h
    exact .string _
  · obtain ⟨_, _, h⟩ := Option.map_eq_some_iff.mp h
    cases h
    exact .string _
  · cases h; exact .bool true
  · cases h; exact .bool false
  · cases h; exact .float _
  · cases h; exact .float _
  · split at h
    · exact distinct_number h
    · cases h
  · cases h

section
variable {read : Reader Value} (hread : ∀ s v rest, read s = some (v, rest) → v.Distinct)
include hread

theorem distinct_arrayItems {bound s rest : List Char} {vs : List Value}
    (h : arrayItems read bound s = some (vs, rest)) : ∀ v ∈ vs, v.Distinct := by
  induction bound generalizing s vs with
  | nil => cases h
  | cons _ bound ih =>
    rw [arrayItems] at h
    split at h
    · cases h
      simp
    · simp only [Option.bind_eq_bind, Option.bind_eq_some_iff] at h
      obtain ⟨⟨v, s'⟩, hv, h⟩ := h
      have hv := hread _ _ _ hv
      split at h
      · simp only [Option.bind_eq_some_iff] at h
        obtain ⟨⟨vs', s''⟩, hvs, h⟩ := h
        cases h
        exact List.forall_mem_cons.mpr ⟨hv, ih hvs⟩
      · cases h
        simpa using hv
      · cases h

theorem distinctKeys_inlinePairs {bound s rest : List Char} {entries changed : Entries}
    (hd : DistinctKeys entries) (h : inlinePairs read bound entries s = some (changed, rest)) :
    DistinctKeys changed := by
  induction bound generalizing s entries with
  | nil => cases h
  | cons _ bound ih =>
    simp only [inlinePairs, Option.bind_eq_bind, Option.bind_eq_some_iff] at h
    obtain ⟨⟨k, s'⟩, _, h⟩ := h
    split at h
    · simp only [Option.bind_eq_some_iff] at h
      obtain ⟨⟨v, s''⟩, hv, added, hadd, h⟩ := h
      have hadded := distinctKeys_insertPair (hread _ _ _ hv) hd hadd
      split at h
      · exact ih hadded h
      · cases h
        exact hadded
      · cases h
    · cases h

end

theorem distinct_value {room : Nat} {s rest : List Char} {v : Value}
    (h : value room s = some (v, rest)) : v.Distinct := by
  induction room generalizing s rest v with
  | zero => exact distinct_scalar h
  | succ room ih =>
    unfold value at h
    split at h
    · obtain ⟨_, hitems, h⟩ := Option.map_eq_some_iff.mp h
      cases h
      exact .array (distinct_arrayItems (fun _ _ _ hv => ih hv) hitems)
    · split at h
      · cases h
        exact distinctKeys_nil
      · obtain ⟨_, hpairs, h⟩ := Option.map_eq_some_iff.mp h
        cases h
        exact distinctKeys_inlinePairs (fun _ _ _ hv => ih hv) distinctKeys_nil hpairs
    · exact distinct_scalar h

/-- What an expression adds to a document has no key twice in itself. -/
theorem distinct_expression {s rest : List Char} {k : Key} {v : Value}
    (h : expression s = some (.pair k v, rest)) : v.Distinct := by
  unfold expression at h
  split at h
  · simp only [Option.bind_eq_bind, Option.bind_eq_some_iff] at h
    obtain ⟨_, _, h⟩ := h
    split at h <;> cases h
  · simp only [Option.bind_eq_bind, Option.bind_eq_some_iff] at h
    obtain ⟨_, _, h⟩ := h
    split at h <;> cases h
  · simp only [Option.bind_eq_bind, Option.bind_eq_some_iff] at h
    obtain ⟨_, _, h⟩ := h
    split at h
    · simp only [Option.bind_eq_some_iff] at h
      obtain ⟨⟨v', s'⟩, hv, h⟩ := h
      cases h
      exact distinct_value hv
    · cases h

theorem distinctKeys_add {d d' : Draft} {e : Expression} (hd : DistinctKeys d.root)
    (he : ∀ k v, e = .pair k v → v.Distinct) (h : d.add e = some d') : DistinctKeys d'.root := by
  cases e with
  | pair k v =>
    simp only [Draft.add, Option.bind_eq_bind, Option.bind_eq_some_iff, Option.some.injEq] at h
    obtain ⟨root, hroot, rfl⟩ := h
    exact distinctKeys_descend
      (fun _ _ _ hi ha => distinctKeys_insertPair (he k v rfl) hi ha) hd hroot
  | table k =>
    simp only [Draft.add, Option.bind_eq_bind, Option.bind_eq_some_iff, Option.some.injEq] at h
    obtain ⟨root, hroot, rfl⟩ := h
    exact distinctKeys_openTable hd hroot
  | tables k =>
    simp only [Draft.add, Option.bind_eq_bind, Option.bind_eq_some_iff, Option.some.injEq] at h
    obtain ⟨root, hroot, rfl⟩ := h
    exact distinctKeys_openNext hd hroot

/-- Reading further lines keeps the keys apart. -/
theorem distinctKeys_readLines {fuel : Nat} {d d' : Draft} {s : List Char}
    (hd : DistinctKeys d.root) (h : readLines fuel d s = some d') : DistinctKeys d'.root := by
  induction fuel generalizing d s with
  | zero => cases h
  | succ fuel ih =>
    rw [readLines] at h
    split at h
    · obtain rfl := Option.some.inj h
      exact hd
    · split at h
      · exact ih hd h
      · simp only [Option.bind_eq_bind, Option.bind_eq_some_iff] at h
        obtain ⟨⟨e, s'⟩, he, _, _, next, hadd, h⟩ := h
        have hv : ∀ k v, e = .pair k v → v.Distinct := by
          rintro k v rfl
          exact distinct_expression he
        exact ih (distinctKeys_add hd hv hadd) h

/-- A document has one value under each of its keys, and so has each of its tables. -/
theorem distinct_parse {text : String} {entries : List (String × Value)}
    (h : parse text = some entries) : (Value.table entries).Distinct := by
  obtain ⟨d, hd, rfl⟩ := Option.map_eq_some_iff.mp h
  exact distinctKeys_readLines distinctKeys_nil hd

end TokenLedger.Toml
