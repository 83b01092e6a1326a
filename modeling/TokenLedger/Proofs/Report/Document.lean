import TokenLedger.Proofs.Wire.Summary
import TokenLedger.Report

/-! # Reports as documents

The document of a report is JSON with its keys in order. Its verdicts and its summary are read back
as what was reported, and counting the verdicts that were read gives the summary that was read.
-/
namespace TokenLedger.Report

open Json

theorem sorted_toJson (vs : List Verdict) (s : Summary) :
    (toJson vs s).sorted = .object [("summary", s.toJson.sorted),
      ("verdicts", .array (vs.map fun v => v.toJson.sorted))] := by
  have h : (toJson vs s).sorted = .object [("summary", s.toJson.sorted),
    ("verdicts", .array (sortedItems (vs.map Verdict.toJson)))] := rfl
  rw [h, sortedItems_eq_map, List.map_map]
  rfl

theorem whole_toJson (vs : List Verdict) (s : Summary) : (toJson vs s).node.Whole :=
  ⟨rfl, rfl, ⟨rfl, wholeItems_map Verdict.whole_toJson vs⟩, rfl, s.whole_toJson, trivial⟩

theorem fitsIn_sorted_toJson (vs : List Verdict) {s : Summary} (h : s.FitsCounters) :
    (toJson vs s).sorted.FitsIn depthLimit := by
  have hitems : ItemsFitIn (depthLimit - 2) (vs.map fun v => v.toJson.sorted) := by
    induction vs with
    | nil => trivial
    | cons v rest ih => exact ⟨v.fitsIn_sorted_toJson _, ih⟩
  rw [sorted_toJson]
  exact ⟨Summary.fitsIn_sorted_toJson h _, hitems, trivial⟩

/-- A member of the document is read as its value alone. -/
theorem readMember_pretty {α : Type} {vs : List Verdict} {s : Summary} {name : String} {v : Value}
    {read : Node → Read α} {x : α}
    (hm : (name, v) ∈ [("summary", s.toJson.sorted),
      ("verdicts", .array (vs.map fun v => v.toJson.sorted))]) (hr : read v.node = .ok x) :
    readText (Node.readMember name read) (toJson vs s).pretty = .ok x := by
  have hw := Value.writtenAs_pretty (whole_toJson vs s)
  have hkeys : ["summary", "verdicts"].Nodup := by decide
  rw [hw.readText_eq]
  have hwhole := hw.1
  rw [sorted_toJson] at hwhole ⊢
  exact Node.readMember_of_mem hwhole hkeys hm hr

/-- The document of verdicts is JSON with its keys in order, so that a rejection has its reason in
front of its status. It is read back as the verdicts in their order and, if a counter can hold their
number, as the summary that counts them. -/
theorem document_read_back (vs : List Verdict) :
    let s := Summary.ofVerdicts vs
    let text := (toJson vs s).pretty
    let readVerdicts := readText (Node.readMember "verdicts" (Node.readList Verdict.ofNode))
    let readSummary := readText (Node.readMember "summary" Summary.ofNode)
    (toJson vs s).sorted.node.WrittenAs text ∧
    (toJson vs s).sorted.Ascending ∧
    (∀ reason, (Verdict.rejected reason).toJson.sorted =
      .object [("reason", reason.toJson), ("status", .string "rejected")]) ∧
    readVerdicts text = .ok vs ∧
    (FitsCounter vs.length →
      readText (Node.readValue depthLimit) text = .ok (toJson vs s).sorted ∧
      readSummary text = .ok s ∧
      ∀ vs' s', readVerdicts text = .ok vs' → readSummary text = .ok s' →
        Summary.ofVerdicts vs' = s') := by
  intro s text readVerdicts readSummary
  have hw : (toJson vs s).sorted.node.WrittenAs text := Value.writtenAs_pretty (whole_toJson vs s)
  have hverdicts : readVerdicts text = .ok vs :=
    readMember_pretty (by simp) (readList_map Verdict.ofNode_sorted_toJson vs)
  refine ⟨hw, Value.ascending_sorted _, Verdict.sorted_toJson_rejected, hverdicts, fun hcount => ?_⟩
  have hs : s.FitsCounters := Summary.fitsCounters_ofVerdicts hcount
  have hsummary : readSummary text = .ok s :=
    readMember_pretty (by simp) (Summary.ofNode_sorted_toJson hs)
  refine ⟨?memory, hsummary, fun vs' s' hvs hs' => ?counted⟩
  case memory =>
    rw [hw.readText_eq]
    exact (fitsIn_sorted_toJson vs hs).readValue_eq
  case counted =>
    obtain rfl : vs = vs' := Except.ok.inj (hverdicts.symm.trans hvs)
    exact Except.ok.inj (hsummary.symm.trans hs')

def mixed : List Verdict :=
  [.rejected .redeemMalformed, .accepted, .rejected .issueMalformed, .rejected .redeemMalformed]

/-- Reasons that occur are read back with their counts, and no others. -/
theorem mixed_read_back :
    FitsCounter mixed.length ∧
      readText (Node.readMember "verdicts" (Node.readList Verdict.ofNode))
        (toJson mixed (Summary.ofVerdicts mixed)).pretty = .ok mixed ∧
      readText (Node.readMember "summary" Summary.ofNode)
        (toJson mixed (Summary.ofVerdicts mixed)).pretty =
          .ok ⟨4, 1, ⟨some 1, none, some 2, none⟩⟩ := by
  have hcount : FitsCounter mixed.length := by
    have hlen : mixed.length = 4 := rfl
    rw [hlen, FitsCounter]
    omega
  obtain ⟨_, _, _, hverdicts, hcounted⟩ := document_read_back mixed
  exact ⟨hcount, hverdicts, (hcounted hcount).2.1⟩

end TokenLedger.Report
