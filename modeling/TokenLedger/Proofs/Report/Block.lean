import TokenLedger.Proofs.Report.Fields
import TokenLedger.Proofs.Summary.Listed

/-! # The block of a summary

The block has a first line with the totals and a line for each reason that is listed, for every
notion of a line break. Each line tells its numbers, the rows tell their reasons, and so the block
tells the summary.
-/
namespace TokenLedger

namespace Text.Breaks
variable {b : Breaks}

theorem split_of_unbroken {s : String} (h : b.Unbroken s) : b.split s = [s] := by
  rw [split, List.splitOnP_eq_singleton h, List.map_singleton, String.ofList_toList]

/-- Unbroken texts, each behind a line feed, are the lines that follow. -/
theorem split_append_rows {s : String} {rows : List String} (hs : b.Unbroken s)
    (h : ∀ r ∈ rows, b.Unbroken r) :
    b.split (s ++ String.join (rows.map ("\n" ++ ·))) = s :: rows := by
  induction rows generalizing s with
  | nil => simpa using split_of_unbroken hs
  | cons r rows ih =>
    obtain ⟨hr, hrows⟩ := List.forall_mem_cons.mp h
    have hfirst : s ++ String.join ((r :: rows).map ("\n" ++ ·)) =
        s ++ "\n" ++ (r ++ String.join (rows.map ("\n" ++ ·))) := by
      rw [List.map_cons, String.join_cons]
      simp only [String.append_assoc]
    rw [hfirst, split_newline hs, ih hr hrows]

end Text.Breaks

namespace Report
open Text

def headline (total accepted rejected : Nat) : String :=
  "total: " ++ toString total ++ "  accepted: " ++ toString accepted ++ "  rejected: " ++
    toString rejected

def row (entry : Rejection × Nat) : String := "  " ++ entry.1.name ++ ": " ++ toString entry.2

/-- Behind the first line, every row begins with a line feed. -/
theorem summary_eq (s : Summary) :
    summary s = headline s.total s.accepted s.rejectedCount ++
      String.join ((s.rejected.toList.map row).map ("\n" ++ ·)) := by
  have hrow : ∀ (text : String) (entry : Rejection × Nat),
      text ++ "\n  " ++ entry.1.name ++ ": " ++ toString entry.2 = text ++ ("\n" ++ row entry) := by
    intro text entry
    have hindent : "\n  " = "\n" ++ "  " := rfl
    rw [row, hindent]
    simp only [String.append_assoc]
  rw [summary]
  simp only [hrow]
  rw [← headline]
  generalize headline s.total s.accepted s.rejectedCount = text
  induction s.rejected.toList generalizing text with
  | nil => simp
  | cons entry entries ih =>
    rw [List.foldl_cons, ih, List.map_cons, List.map_cons, String.join_cons, String.append_assoc]

section
variable {b : Breaks}

theorem unbroken_headline (total accepted rejected : Nat) :
    b.Unbroken (headline total accepted rejected) := by
  have hall : ["total: ", "  accepted: ", "  rejected: "].all
      (fun s => s.toList.all fun c => !isLineBreak c) := by decide
  have hlabel : ∀ s ∈ ["total: ", "  accepted: ", "  rejected: "], b.Unbroken s :=
    fun s hs => Breaks.unbroken_of_all (List.all_eq_true.mp hall s hs)
  simp only [List.forall_mem_cons] at hlabel
  simp [headline, Breaks.unbroken_append, Breaks.unbroken_repr, hlabel]

theorem unbroken_row (entry : Rejection × Nat) : b.Unbroken (row entry) := by
  have hindent : b.Unbroken "  " := Breaks.unbroken_of_all (by decide)
  have hcolon : b.Unbroken ": " := Breaks.unbroken_of_all (by decide)
  have hname : b.Unbroken entry.1.name := by
    refine Breaks.unbroken_of_all ?_
    cases entry.1 <;> decide
  simp [row, Breaks.unbroken_append, Breaks.unbroken_repr, hindent, hcolon, hname]

theorem split_summary (s : Summary) :
    b.split (summary s) =
      headline s.total s.accepted s.rejectedCount :: s.rejected.toList.map row := by
  rw [summary_eq]
  refine Breaks.split_append_rows (unbroken_headline _ _ _) fun r hr => ?_
  obtain ⟨entry, _, rfl⟩ := List.mem_map.mp hr
  exact unbroken_row entry

end

theorem headline_inj {t a r t' a' r' : Nat} (h : headline t a r = headline t' a' r') :
    t = t' ∧ a = a' ∧ r = r' := by
  obtain ⟨h, hr⟩ := labelled_inj "  rejected:".toList (by decide) rfl h
  obtain ⟨h, ha⟩ := labelled_inj "  accepted:".toList (by decide) rfl h
  have htotal := congrArg String.toList ((String.append_right_inj "total: ").mp h)
  exact ⟨eq_of_toDigits_eq (by simpa using htotal), ha, hr⟩

theorem row_injective : Function.Injective row := by
  rintro ⟨r, m⟩ ⟨s, n⟩ h
  obtain ⟨h, hn⟩ := labelled_inj ":".toList (by decide) rfl h
  have hname : r = s := Rejection.name_injective ((String.append_right_inj "  ").mp h)
  rw [hname]
  exact congrArg (s, ·) hn

/-- The block tells the summary: its lines do. -/
theorem summary_injective : Function.Injective summary := by
  intro s t h
  have hlines : headline s.total s.accepted s.rejectedCount :: s.rejected.toList.map row =
      headline t.total t.accepted t.rejectedCount :: t.rejected.toList.map row := by
    rw [← split_summary (b := .newline) s, h, split_summary]
  obtain ⟨hhead, hrows⟩ := List.cons.inj hlines
  obtain ⟨htotal, haccepted, _⟩ := headline_inj hhead
  have hrejected : s.rejected = t.rejected :=
    ReasonCounts.toList_injective (row_injective.list_map hrows)
  cases s
  cases t
  simp only at htotal haccepted hrejected
  rw [htotal, haccepted, hrejected]

/-- Two summaries with one block are one summary. The first line of a block shows its totals, the
rejected among them as the sum of the counts below, and then there is a line for each reason that is
listed with its count, also with a count of zero, in the order in which reasons are declared and no
reason twice. The block of verdicts shows as many as are accepted and as many as are rejected, and
together all of them, and it lists the reasons that occur. -/
theorem summary_faithful :
    (∀ s t, summary s = summary t ↔ s = t) ∧
    (∀ (b : Breaks) (s : Summary),
      b.split (summary s) =
        headline s.total s.accepted (s.rejected.toList.map Prod.snd).sum ::
          s.rejected.toList.map row ∧
      (b.split (summary s)).length =
        1 + Rejection.all.countP (fun r => (s.rejected.get? r).isSome) ∧
      (∀ r n, (r, n) ∈ s.rejected.toList ↔ s.rejected.get? r = some n) ∧
      (s.rejected.toList.map Prod.fst).Pairwise fun r r' => r.ctorIdx < r'.ctorIdx) ∧
    ∀ (b : Breaks) (vs : List Verdict),
      b.split (summary (.ofVerdicts vs)) =
        headline vs.length (vs.count .accepted) (vs.countP (!·.isAccepted)) ::
          (Rejection.all.filter fun r => decide (.rejected r ∈ vs)).map
            (fun r => row (r, vs.count (.rejected r))) ∧
      vs.length = vs.count .accepted + vs.countP (!·.isAccepted) := by
  refine ⟨fun s t => summary_injective.eq_iff, fun b s => ⟨?lines, ?number,
    fun _ _ => ReasonCounts.mem_toList, s.rejected.pairwise_toList⟩, fun b vs => ⟨?verdicts, ?sum⟩⟩
  case lines => rw [split_summary, ReasonCounts.sum_toList, Summary.rejectedCount]
  case number =>
    rw [split_summary, List.length_cons, List.length_map, ReasonCounts.toList_eq_map,
      List.length_map, ← List.countP_eq_length_filter, Nat.add_comm]
  case verdicts =>
    rw [split_summary, Summary.total_ofVerdicts, Summary.accepted_ofVerdicts,
      Summary.rejectedCount_ofVerdicts, Summary.countP_isAccepted, Summary.toList_ofVerdicts,
      List.map_map]
    rfl
  case sum =>
    have hzero := Summary.discrepancy_ofVerdicts vs
    rw [Summary.discrepancy, Summary.total_ofVerdicts, Summary.accepted_ofVerdicts,
      Summary.rejectedCount_ofVerdicts, Summary.countP_isAccepted] at hzero
    omega

/-- A count of zero has its line. -/
example : summary ⟨3, 1, ⟨none, some 0, none, some 2⟩⟩ =
    "total: 3  accepted: 1  rejected: 2\n  MoveMalformed: 0\n" ++
      "  UnknownIntentOrInvalidQuantity: 2" := by
  decide +kernel

end Report

end TokenLedger
