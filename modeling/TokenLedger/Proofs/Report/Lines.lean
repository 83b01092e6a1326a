import TokenLedger.Proofs.Command.Outcome

/-! # Lines of a report

The line of a proposal shows its intent as it was proposed, so it is a line only if the intent is
without breaks. For every notion of a line break, a table read by lines has exactly the lines of
its proposals before the summary if and only if no intent breaks. Otherwise an intent can pass for
the lines of other proposals.
-/
namespace TokenLedger

namespace Text

/-- The mandatory breaks of the Unicode standard: from line feed to carriage return, next line, and
the separators of lines and of paragraphs. -/
def isLineBreak (c : Char) : Bool :=
  let n := c.toNat
  (10 ≤ n && n ≤ 13) || n == 0x85 || n == 0x2028 || n == 0x2029

/-- What a reader takes for the end of a line: a line feed, and perhaps further breaks. -/
structure Breaks where
  breaks : Char → Bool
  breaks_newline : breaks '\n' = true
  isLineBreak_of_breaks : ∀ c, breaks c = true → isLineBreak c = true

namespace Breaks

def newline : Breaks := ⟨(· == '\n'), rfl, by simp [isLineBreak]⟩

def unicode : Breaks := ⟨isLineBreak, rfl, fun _ h => h⟩

variable (b : Breaks)

def Unbroken (s : String) : Prop := ∀ c ∈ s.toList, b.breaks c = false

/-- The lines of a text. What follows the last break is the last of them, even if it is empty. -/
def split (s : String) : List String := (s.toList.splitOnP b.breaks).map String.ofList

variable {b}

theorem unbroken_append {s t : String} : b.Unbroken (s ++ t) ↔ b.Unbroken s ∧ b.Unbroken t := by
  simp only [Unbroken, String.toList_append, List.forall_mem_append]

theorem unbroken_of_isLineBreak {s : String} (h : ∀ c ∈ s.toList, isLineBreak c = false) :
    b.Unbroken s := by
  intro c hc
  by_contra hb
  have hl := b.isLineBreak_of_breaks c (eq_true_of_ne_false hb)
  rw [h c hc] at hl
  cases hl

theorem unbroken_of_all {s : String} (h : s.toList.all fun c => !isLineBreak c) :
    b.Unbroken s := by
  refine unbroken_of_isLineBreak fun c hc => ?_
  simpa using List.all_eq_true.mp h c hc

theorem unbroken_spaces (n : Nat) : b.Unbroken (String.ofList (List.replicate n ' ')) := by
  refine unbroken_of_isLineBreak fun c hc => ?_
  rw [String.toList_ofList] at hc
  rw [List.eq_of_mem_replicate hc]
  decide

theorem isLineBreak_of_isDigit {c : Char} (h : c.isDigit) : isLineBreak c = false := by
  have hrange : 48 ≤ c.toNat ∧ c.toNat ≤ 57 := Char.isDigit_iff_toNat.mp h
  simp only [isLineBreak, Bool.or_eq_false_iff, Bool.and_eq_false_iff, decide_eq_false_iff_not,
    beq_eq_false_iff_ne]
  omega

theorem unbroken_repr (n : Nat) : b.Unbroken n.repr := by
  refine unbroken_of_isLineBreak fun c hc => isLineBreak_of_isDigit ?_
  rw [Nat.toList_repr] at hc
  exact Nat.isDigit_of_mem_toDigits (by decide) (by decide) hc

/-- A text without a break is the first line of what it begins, if a break follows it. -/
theorem split_newline {s : String} (h : b.Unbroken s) (rest : String) :
    b.split (s ++ "\n" ++ rest) = s :: b.split rest := by
  have hlist : (s ++ "\n" ++ rest).toList = s.toList ++ '\n' :: rest.toList := by simp
  rw [split, hlist, List.splitOnP_append_cons_of_forall_mem h '\n' b.breaks_newline, List.map_cons,
    String.ofList_toList]
  rfl

theorem forall_mem_splitOnP {α : Type} {p : α → Bool} {xs piece : List α}
    (h : piece ∈ xs.splitOnP p) : ∀ x ∈ piece, p x = false := by
  induction xs generalizing piece with
  | nil =>
    obtain rfl : piece = [] := by simpa using h
    exact List.forall_mem_nil _
  | cons y ys ih =>
    rw [List.splitOnP_cons_eq_if_modifyHead] at h
    by_cases hy : p y
    · rw [if_pos hy, List.mem_cons] at h
      obtain rfl | h := h
      · exact List.forall_mem_nil _
      · exact ih h
    · obtain ⟨first, others, hsplit⟩ := List.exists_cons_of_ne_nil (List.splitOnP_ne_nil p ys)
      rw [hsplit] at ih
      rw [if_neg hy, hsplit, List.modifyHead_cons, List.mem_cons] at h
      obtain rfl | h := h
      · exact List.forall_mem_cons.mpr ⟨eq_false_of_ne_true hy, ih List.mem_cons_self⟩
      · exact ih (List.mem_cons_of_mem first h)

/-- No line has a break in it. -/
theorem unbroken_of_mem_split {s line : String} (h : line ∈ b.split s) : b.Unbroken line := by
  obtain ⟨l, hl, rfl⟩ := List.mem_map.mp h
  rw [Unbroken, String.toList_ofList]
  exact forall_mem_splitOnP hl

end Breaks

def terminated (texts : List String) : String := String.join (texts.map (· ++ "\n"))

/-- Unbroken texts are read back as the lines that they are. -/
theorem Breaks.split_terminated_append {b : Breaks} {texts : List String}
    (h : ∀ t ∈ texts, b.Unbroken t) (rest : List String) :
    b.split (terminated (texts ++ rest)) = texts ++ b.split (terminated rest) := by
  induction texts with
  | nil => rfl
  | cons t texts ih =>
    obtain ⟨ht, htexts⟩ := List.forall_mem_cons.mp h
    have hrest := ih htexts
    rw [terminated] at hrest
    rw [terminated, List.cons_append, List.map_cons, String.join_cons, split_newline ht, hrest,
      List.cons_append]

end Text

namespace Report
open Text

section
variable {b : Breaks}

theorem unbroken_padded {width : Nat} {s : String} :
    b.Unbroken (padded width s) ↔ b.Unbroken s := by
  rw [padded, Breaks.unbroken_append, and_iff_left (Breaks.unbroken_spaces _)]

theorem unbroken_status (v : Verdict) : b.Unbroken (status v) := by
  refine Breaks.unbroken_of_all ?_
  cases v with
  | accepted => decide
  | rejected reason => cases reason <;> decide

/-- All of a line but the intent is without breaks. -/
theorem unbroken_line {i : Nat} {p : Proposal} {v : Verdict} :
    b.Unbroken (line i p v) ↔ b.Unbroken p.intent := by
  have hall : ["#", " ", " in=", " out=", " signers=", "  "].all
      (fun s => s.toList.all fun c => !isLineBreak c) := by decide
  have hlabel : ∀ s ∈ ["#", " ", " in=", " out=", " signers=", "  "], b.Unbroken s :=
    fun s hs => Breaks.unbroken_of_all (List.all_eq_true.mp hall s hs)
  simp only [List.forall_mem_cons] at hlabel
  simp [line, Breaks.unbroken_append, unbroken_padded, Breaks.unbroken_repr, unbroken_status,
    hlabel]

end

theorem spaces_append (n : Nat) (rest : String) :
    String.ofList (List.replicate n ' ') ++ (" " ++ rest) =
      " " ++ (String.ofList (List.replicate n ' ') ++ rest) := by
  have hspace : List.replicate n ' ' ++ [' '] = ' ' :: List.replicate n ' ' := by
    rw [← List.replicate_succ', List.replicate_succ]
  rw [← String.toList_inj]
  simp only [String.toList_append, String.toList_ofList]
  rw [← List.append_assoc]
  exact congrArg (· ++ rest.toList) hspace

/-- A line begins with its number, which a space ends, and ends with its verdict. -/
theorem exists_line_eq (i : Nat) (p : Proposal) (v : Verdict) :
    ∃ between, line i p v = "#" ++ toString i ++ " " ++ between ++ status v := by
  refine ⟨String.ofList (List.replicate (3 - (toString i).length) ' ') ++ padded 7 p.intent ++
    " in=" ++ toString p.inputs.length ++ " out=" ++ toString p.outputs.length ++
    " signers=" ++ toString p.signers.size ++ "  ", ?_⟩
  rw [line, padded]
  simp only [String.append_assoc]
  rw [spaces_append]

theorem status_suffix_line (i : Nat) (p : Proposal) (v : Verdict) :
    (status v).toList <:+ (line i p v).toList := by
  simp only [line, String.toList_append]
  exact List.suffix_append _ _

theorem eq_of_status_suffix {v w : Verdict} (h : (status v).toList <:+ (status w).toList) :
    v = w := by
  revert h
  obtain _ | v := v <;> obtain _ | w := w
  · decide
  · cases w <;> decide
  · cases v <;> decide
  · cases v <;> cases w <;> decide

theorem eq_of_toDigits_eq {i j : Nat} (h : Nat.toDigits 10 i = Nat.toDigits 10 j) : i = j := by
  rw [← Nat.ofDigitChars_ten_toDigits (n := i), h, Nat.ofDigitChars_ten_toDigits]

theorem eq_of_number_append {i j : Nat} {r s : List Char}
    (h : Nat.toDigits 10 i ++ ' ' :: r = Nat.toDigits 10 j ++ ' ' :: s) : i = j := by
  have hfirst : ∀ (n : Nat) (rest : List Char),
      (Nat.toDigits 10 n ++ ' ' :: rest).takeWhile Char.isDigit = Nat.toDigits 10 n := by
    intro n rest
    have hdigits : ∀ c ∈ Nat.toDigits 10 n, c.isDigit :=
      fun c hc => Nat.isDigit_of_mem_toDigits (by decide) (by decide) hc
    rw [List.takeWhile_append_of_pos hdigits, List.takeWhile_cons_of_neg (by decide),
      List.append_nil]
  have hdigits := congrArg (List.takeWhile Char.isDigit) h
  rw [hfirst, hfirst] at hdigits
  exact eq_of_toDigits_eq hdigits

theorem number_eq_of_line_eq {i j : Nat} {p q : Proposal} {v w : Verdict}
    (h : line i p v = line j q w) : i = j := by
  obtain ⟨r, hr⟩ := exists_line_eq i p v
  obtain ⟨s, hs⟩ := exists_line_eq j q w
  rw [hr, hs] at h
  have hl : Nat.toDigits 10 i ++ ' ' :: (r.toList ++ (status v).toList) =
      Nat.toDigits 10 j ++ ' ' :: (s.toList ++ (status w).toList) := by
    simpa using congrArg String.toList h
  exact eq_of_number_append hl

theorem verdict_eq_of_line_eq {i j : Nat} {p q : Proposal} {v w : Verdict}
    (h : line i p v = line j q w) : v = w := by
  have hv := status_suffix_line i p v
  have hw := status_suffix_line j q w
  rw [← h] at hw
  obtain hvw | hwv := List.suffix_or_suffix_of_suffix hv hw
  · exact eq_of_status_suffix hvw
  · exact (eq_of_status_suffix hwv).symm

/-- A table splits into the lines of its proposals and those of its summary if and only if no intent
has a break. -/
theorem split_table_iff {b : Breaks} {ps : List Proposal} :
    b.split (terminated (tableOf ps)) =
        ps.mapIdx (fun i p => line i p p.verdict) ++ b.split (terminated (summaryOf ps)) ↔
      ∀ p ∈ ps, b.Unbroken p.intent := by
  constructor
  · intro h p hp
    obtain ⟨i, hi, rfl⟩ := List.mem_iff_getElem.mp hp
    have hmem : line i ps[i] ps[i].verdict ∈ b.split (terminated (tableOf ps)) := by
      rw [h]
      exact List.mem_append_left _ (List.mem_mapIdx.mpr ⟨i, hi, rfl⟩)
    exact unbroken_line.mp (Breaks.unbroken_of_mem_split hmem)
  · intro h
    refine Breaks.split_terminated_append (fun t ht => ?_) _
    obtain ⟨i, hi, rfl⟩ := List.mem_mapIdx.mp ht
    exact unbroken_line.mpr (h _ (List.getElem_mem hi))

/-- A line breaks exactly where its intent does; it tells its number and its verdict, whatever the
intent. A table read by lines has one line for each proposal before the summary if and only if no
intent has a break. -/
theorem table_read_by_lines (b : Breaks) :
    (∀ i p v, b.Unbroken (line i p v) ↔ b.Unbroken p.intent) ∧
    (∀ i p v, ∃ rest, line i p v = "#" ++ toString i ++ " " ++ rest) ∧
    (∀ i j p q v w, line i p v = line j q w → i = j ∧ v = w) ∧
    ∀ {command : Command} {path : String} {decode : String → Json.Read (List Proposal)},
      command.Judges path decode → ∀ (files : Files) (settings : Settings) text ps,
        settings.format = .table → files.read path = .ok text → decode text = .ok ps →
        (b.split (command.run files settings).output =
            ps.mapIdx (fun i p => line i p p.verdict) ++ b.split (terminated (summaryOf ps)) ↔
          ∀ p ∈ ps, b.Unbroken p.intent) := by
  refine ⟨fun _ _ _ => unbroken_line, fun i p v => ?_,
    fun _ _ _ _ _ _ h => ⟨number_eq_of_line_eq h, verdict_eq_of_line_eq h⟩,
    fun {command _ _} h files settings text ps hf hr hd => ?_⟩
  · obtain ⟨between, hline⟩ := exists_line_eq i p v
    exact ⟨between ++ status v, by rw [hline, String.append_assoc]⟩
  · obtain ⟨verified, hrun⟩ := h.exists_run_eq hr hd
    have hprinted : (command.run files settings).printed = tableOf ps := by
      rw [hrun, (reportOn_reports settings ps verified).1, hf]
    rw [Outcome.output, hprinted]
    exact split_table_iff

/-- An unknown intent is shown in one line, also to a reader that knows every break of the Unicode
standard. -/
theorem table_read_by_lines_burn :
    Breaks.unicode.split ((Command.verify "burn").run
        (.ofList [("burn", .ok "\x7b\"intent\":\"Burn\"\x7d")]) .builtIn).output =
      [line 0 ⟨[], [], "Burn", .empty⟩ (.rejected .unknownIntentOrInvalidQuantity), ""] := by
  obtain ⟨_, _, _, hlines⟩ := table_read_by_lines Breaks.unicode
  have hsplit := hlines (.verify "burn") (.ofList [("burn", .ok "\x7b\"intent\":\"Burn\"\x7d")])
    .builtIn "\x7b\"intent\":\"Burn\"\x7d" [⟨[], [], "Burn", .empty⟩] rfl rfl (by decide +kernel)
  refine (hsplit.mpr ?_).trans (by decide +kernel)
  simp only [List.forall_mem_singleton]
  exact Breaks.unbroken_of_all (by decide)

def lawful : Proposal where
  inputs := []
  outputs := [⟨.ofByte 40, .ofByte 41, 5, by decide, by decide⟩]
  intent := "Issue"
  signers := .ofList [.ofByte 40]

def forgery : String :=
  "\x7b\"intent\":\"Issue   in=0 out=1 signers=1  ACCEPTED\\n#1   Mint   \"\x7d"

/-- One proposal that is rejected is reported with the lines of two, the first of them accepted. -/
theorem forgery_report :
    Proposal.ofJson forgery =
        .ok ⟨[], [], "Issue   in=0 out=1 signers=1  ACCEPTED\n#1   Mint   ", .empty⟩ ∧
      Breaks.newline.split
          ((Command.verify "forgery").run (.ofList [("forgery", .ok forgery)]) .builtIn).output =
        [line 0 lawful lawful.verdict,
          line 1 ⟨[], [], "Mint", .empty⟩ (.rejected .unknownIntentOrInvalidQuantity), ""] ∧
      lawful.verdict = .accepted ∧
      ((Command.verify "forgery").run (.ofList [("forgery", .ok forgery)]) .builtIn).result =
        .error (.rejected 1 1) := by
  decide +kernel

end Report

end TokenLedger
