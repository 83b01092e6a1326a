import TokenLedger.Command.Run
import TokenLedger.Proofs.Summary.Counts
import TokenLedger.Proofs.Wire.RoundTrip

/-! # Outcomes of judging commands

What becomes of a run of the commands that judge proposals, by what their file holds. A file that
cannot be read or understood makes the run fail without a report. Otherwise the report is complete
and depends on the format alone, and the run fails exactly if rejections count as failures and
there is one.
-/
namespace TokenLedger

open Json

/-- The commands that judge the proposals of a file, and how each understands its text. -/
inductive Command.Judges : Command → String → (String → Read (List Proposal)) → Prop
  | verify (path : String) :
    Judges (.verify path) path fun text => List.singleton <$> Proposal.ofJson text
  | batch (path : String) : Judges (.batch path) path Proposal.batchOfJson

def summaryOf (ps : List Proposal) : List String :=
  if 1 < ps.length then
    ["\nSummary\n=======", Report.summary (Summary.ofVerdicts (ps.map Proposal.verdict))]
  else []

/-- What is printed of proposals as a table: a line for each of them, in order, then the summary. -/
def tableOf (ps : List Proposal) : List String :=
  ps.mapIdx (fun i p => Report.line i p p.verdict) ++ summaryOf ps

def documentOf (ps : List Proposal) : List String :=
  let verdicts := ps.map Proposal.verdict
  [(Report.toJson verdicts (Summary.ofVerdicts verdicts)).pretty]

def rejectedOf (ps : List Proposal) : Nat := ps.countP fun p => p.verdict ≠ .accepted

def Outcome.FailsSilently (o : Outcome) (f : Failure) : Prop := o.printed = [] ∧ o.result = .error f

/-- The report on the proposals is complete, and the rejected ones among them decide the result. -/
def Outcome.ReportsOn (o : Outcome) (settings : Settings) (ps : List Proposal) : Prop :=
  (o.printed = match settings.format with
    | .table => tableOf ps
    | .json => documentOf ps) ∧
  o.result = if settings.failOnReject ∧ 0 < rejectedOf ps then
      .error (.rejected (rejectedOf ps) ps.length)
    else .ok ()

/-- What is said of a run that fails for its file or for rejections. -/
inductive Failure.Told : Failure → String → Prop
  | unreadable (path : String) (reason : Files.Fault) :
    Told (.proposalUnreadable path reason)
      ("Failed to read proposal file '" ++ path ++ "': " ++ reason.message)
  | malformed (path : String) (error : Error) :
    Told (.proposalMalformed path error)
      ("Failed to read proposal file '" ++ path ++ "': " ++ error.message)
  | rejected (count total : Nat) :
    Told (.rejected count total)
      (toString count ++ " of " ++ toString total ++ " proposal(s) rejected")

/-- What has been printed is written before a failure, which is told once and shows in the exit
code. -/
def Outcome.SignalsFailure (o : Outcome) : Prop :=
  (o.result = .ok () ∧ o.transcript = o.printed.map .report ∧ o.errors = [] ∧
    o.complaint? = none ∧ o.exitCode = 0) ∨
  ∃ f text, o.result = .error f ∧ f.Told text ∧
    o.transcript = o.printed.map .report ++ [.complaint text] ∧ o.errors = [text] ∧
    o.complaint? = some ("❌ " ++ text) ∧ o.exitCode = 1

theorem Failure.Told.message_eq {f : Failure} {text : String} (h : f.Told text) :
    f.message = text := by
  cases h <;> rfl

theorem Outcome.signalsFailure {o : Outcome}
    (h : ∀ f, o.result = .error f → ∃ text, f.Told text) : o.SignalsFailure := by
  obtain ⟨events, printed, result⟩ := o
  cases result with
  | ok => exact .inl ⟨rfl, List.append_nil _, rfl, rfl, rfl⟩
  | error f =>
    obtain ⟨text, htold⟩ := h f rfl
    obtain rfl := htold.message_eq
    exact .inr ⟨f, f.message, rfl, htold, rfl, rfl, rfl, rfl⟩

namespace Outcome.SignalsFailure
variable {o : Outcome}

theorem of_ok (h : o.SignalsFailure) (hr : o.result = .ok ()) :
    o.transcript = o.printed.map .report ∧ o.exitCode = 0 := by
  obtain ⟨_, htranscript, _, _, hexit⟩ | ⟨f, _, hf, _⟩ := h
  · exact ⟨htranscript, hexit⟩
  · rw [hr] at hf
    cases hf

theorem of_error (h : o.SignalsFailure) {f : Failure} {text : String} (hr : o.result = .error f)
    (ht : f.Told text) :
    o.transcript = o.printed.map .report ++ [.complaint text] ∧ o.exitCode = 1 := by
  obtain ⟨hok, _⟩ | ⟨g, other, hg, hother, htranscript, _, _, hexit⟩ := h
  · rw [hr] at hok
    cases hok
  · rw [hr] at hg
    obtain rfl := Except.error.inj hg
    obtain rfl : text = other := ht.message_eq.symm.trans hother.message_eq
    exact ⟨htranscript, hexit⟩

end Outcome.SignalsFailure

theorem header_summary : Report.header "Summary" = "\nSummary\n=======" := by decide +kernel

/-- Numbering from `k` on goes from `k + 1` on behind the first element. -/
theorem mapIdx_cons_from {α β : Type} (f : Nat → α → β) (k : Nat) (x : α) (xs : List α) :
    ((x :: xs).mapIdx fun i y => f (k + i) y) =
      f k x :: xs.mapIdx fun i y => f (k + 1 + i) y := by
  have hshift : ∀ i, k + 1 + i = k + (i + 1) := fun i => by omega
  rw [List.mapIdx_cons]
  simp only [hshift]
  rfl

theorem linesFrom_eq_mapIdx (ps : List Proposal) (k : Nat) :
    Report.linesFrom k (ps.zip (ps.map Proposal.verdict)) =
      ps.mapIdx fun i p => Report.line (k + i) p p.verdict := by
  induction ps generalizing k with
  | nil => rfl
  | cons p ps ih =>
    rw [List.map_cons, List.zip_cons_cons, Report.linesFrom, ih,
      mapIdx_cons_from fun i (p : Proposal) => Report.line i p p.verdict]

theorem reportTexts_verdicts (format : Format) (ps : List Proposal) :
    reportTexts format ps (Batch.verdicts ps) = match format with
      | .table => tableOf ps
      | .json => documentOf ps := by
  cases format with
  | json => rfl
  | table =>
    have hlines := linesFrom_eq_mapIdx ps 0
    simp only [Nat.zero_add] at hlines
    simp only [reportTexts, Batch.verdicts, Summary.total_ofVerdicts, List.length_map, hlines,
      header_summary, tableOf, summaryOf]

theorem countP_verdicts {P : Verdict → Prop} [DecidablePred P] {q : Verdict → Bool}
    (h : ∀ v, q v = decide (P v)) (ps : List Proposal) :
    (ps.countP fun p => P p.verdict) = (Batch.verdicts ps).countP q := by
  obtain rfl : q = fun v => decide (P v) := funext h
  rw [Batch.verdicts, List.countP_map]
  rfl

theorem rejectedOf_eq (ps : List Proposal) :
    rejectedOf ps = (Batch.verdicts ps).countP (!·.isAccepted) :=
  countP_verdicts (P := (· ≠ .accepted)) (fun v => by cases v <;> rfl) ps

/-- The three counts agree: that of acceptances decides, that of reasons is told, and both are
those of the verdicts. -/
theorem reportResult_verdicts (failOnReject : Bool) (ps : List Proposal) :
    reportResult failOnReject (Batch.verdicts ps) =
      if failOnReject ∧ 0 < rejectedOf ps then .error (.rejected (rejectedOf ps) ps.length)
      else .ok () := by
  have hall := Summary.allAccepted_ofVerdicts (Batch.verdicts ps)
  have hlen : (Batch.verdicts ps).length = ps.length := by rw [Batch.verdicts, List.length_map]
  rw [← rejectedOf_eq] at hall
  simp only [reportResult, Summary.rejectedCount_ofVerdicts, Summary.total_ofVerdicts, hlen,
    ← rejectedOf_eq]
  by_cases hr : rejectedOf ps = 0
  · simp [hall.mpr hr, hr]
  · have hf : (Summary.ofVerdicts (Batch.verdicts ps)).allAccepted = false :=
      Bool.eq_false_iff.mpr fun h => hr (hall.mp h)
    simp [hf, Nat.pos_of_ne_zero hr]

theorem reportOn_reports (settings : Settings) (ps : List Proposal) (verified : List Event) :
    (reportOn settings ps verified).ReportsOn settings ps :=
  ⟨reportTexts_verdicts settings.format ps, reportResult_verdicts settings.failOnReject ps⟩

theorem Outcome.ReportsOn.exists_told {o : Outcome} {settings : Settings} {ps : List Proposal}
    (h : o.ReportsOn settings ps) {f : Failure} (hf : o.result = .error f) :
    ∃ text, f.Told text := by
  rw [h.2] at hf
  split at hf
  · obtain rfl := Except.error.inj hf
    exact ⟨_, .rejected _ _⟩
  · cases hf

/-- An array of JSON texts holds a batch exactly if each of them holds a proposal. -/
theorem Proposal.batchOfJson_arrayText_eq_ok_iff {texts : List String} (h : ∀ t ∈ texts, IsJson t)
    {ps : List Proposal} :
    batchOfJson (arrayText texts) = .ok ps ↔ List.Forall₂ (fun t p => ofJson t = .ok p) texts ps :=
  readText_arrayText_eq_ok_iff h

namespace Command.Judges
variable {command : Command} {path : String} {decode : String → Read (List Proposal)}
  {files : Files} {text : String}

theorem run_of_unreadable (h : command.Judges path decode) {reason : Files.Fault}
    (hr : files.read path = .error reason) (settings : Settings) :
    command.run files settings = .failure (.proposalUnreadable path reason) := by
  cases h with
  | verify => simp [Command.run, runVerify, readProposals, hr]
  | batch => simp [Command.run, runBatch, readProposals, hr]

theorem run_of_malformed (h : command.Judges path decode) (hr : files.read path = .ok text)
    {error : Error} (hd : decode text = .error error) (settings : Settings) :
    command.run files settings = .failure (.proposalMalformed path error) := by
  cases h with
  | verify =>
    cases hp : Proposal.ofJson text with
    | error e =>
      simp only [hp] at hd
      obtain rfl : e = error := Except.error.inj hd
      simp [Command.run, runVerify, readProposals, hr, hp]
    | ok p =>
      simp only [hp] at hd
      cases hd
  | batch => simp [Command.run, runBatch, readProposals, hr, hd]

theorem exists_run_eq (h : command.Judges path decode) (hr : files.read path = .ok text)
    {ps : List Proposal} (hd : decode text = .ok ps) :
    ∃ verified, ∀ settings, command.run files settings = reportOn settings ps verified := by
  cases h with
  | verify =>
    cases hp : Proposal.ofJson text with
    | error e =>
      simp only [hp] at hd
      cases hd
    | ok p =>
      simp only [hp] at hd
      obtain rfl : [p] = ps := Except.ok.inj hd
      refine ⟨[p.event], fun settings => ?_⟩
      simp [Command.run, runVerify, readProposals, hr, hp]
  | batch =>
    refine ⟨Batch.events ps, fun settings => ?_⟩
    simp [Command.run, runBatch, readProposals, hr, hd]

/-- The file alone settles whether there is a report, and on which proposals. -/
theorem run_cases (h : command.Judges path decode) (files : Files) :
    (∃ f text, f.Told text ∧ ∀ settings, command.run files settings = .failure f) ∨
    ∃ ps verified, ∀ settings, command.run files settings = reportOn settings ps verified := by
  cases hr : files.read path with
  | error reason => exact .inl ⟨_, _, .unreadable path reason, h.run_of_unreadable hr⟩
  | ok text =>
    cases hd : decode text with
    | error error => exact .inl ⟨_, _, .malformed path error, h.run_of_malformed hr hd⟩
    | ok ps => exact .inr ⟨ps, h.exists_run_eq hr hd⟩

theorem printed_congr (h : command.Judges path decode) (files : Files) {settings other : Settings}
    (hf : other.format = settings.format) :
    (command.run files other).printed = (command.run files settings).printed := by
  obtain ⟨f, _, _, hrun⟩ | ⟨ps, verified, hrun⟩ := h.run_cases files
  · rw [hrun, hrun]
  · rw [hrun, hrun, reportOn, reportOn, hf]

theorem exists_told (h : command.Judges path decode) (files : Files) (settings : Settings)
    {f : Failure} (hf : (command.run files settings).result = .error f) :
    ∃ text, f.Told text := by
  obtain ⟨g, text, htold, hrun⟩ | ⟨ps, verified, hrun⟩ := h.run_cases files
  · rw [hrun] at hf
    obtain rfl : g = f := Except.error.inj hf
    exact ⟨text, htold⟩
  · rw [hrun] at hf
    exact (reportOn_reports settings ps verified).exists_told hf

/-- A proposal that is bad makes the whole array fail, however late it comes. -/
theorem fails_of_bad_member {texts : List String} (hj : ∀ t ∈ texts, IsJson t) {bad : String}
    (hm : bad ∈ texts) (hb : ∀ p, Proposal.ofJson bad ≠ .ok p)
    (hr : files.read path = .ok (arrayText texts)) :
    ∃ error, ∀ settings, (Command.batch path).run files settings =
      .failure (.proposalMalformed path error) := by
  cases hd : Proposal.batchOfJson (arrayText texts) with
  | error error => exact ⟨error, (Judges.batch path).run_of_malformed hr hd⟩
  | ok ps =>
    have hall := (Proposal.batchOfJson_arrayText_eq_ok_iff hj).mp hd
    obtain ⟨p, hp⟩ := exists_forall₂_iff.mp ⟨ps, hall⟩ bad hm
    exact absurd hp (hb p)

/-- A run fails without a report if its file cannot be read or holds no proposals, also if a late
one of them is bad. Otherwise it reports on all of them, whatever the level of the log and what
counts as a failure. A failure is told once, after the report, and by the exit code. -/
theorem run_outcome (h : command.Judges path decode) (files : Files) (settings : Settings) :
    (∀ reason, files.read path = .error reason →
      (command.run files settings).FailsSilently (.proposalUnreadable path reason)) ∧
    (∀ text error, files.read path = .ok text → decode text = .error error →
      (command.run files settings).FailsSilently (.proposalMalformed path error)) ∧
    (∀ texts, (∀ t ∈ texts, IsJson t) → ∀ bad ∈ texts, (∀ p, Proposal.ofJson bad ≠ .ok p) →
      files.read path = .ok (arrayText texts) → ∃ error,
        ((Command.batch path).run files settings).FailsSilently (.proposalMalformed path error)) ∧
    (∀ text ps, files.read path = .ok text → decode text = .ok ps →
      (command.run files settings).ReportsOn settings ps) ∧
    (∀ other : Settings, other.format = settings.format →
      (command.run files other).printed = (command.run files settings).printed) ∧
    (command.run files settings).SignalsFailure := by
  refine ⟨fun reason hr => ?unreadable, fun text error hr hd => ?malformed,
    fun texts hj bad hm hb hr => ?late, fun text ps hr hd => ?reported,
    fun other hf => h.printed_congr files hf,
    Outcome.signalsFailure fun _ hf => h.exists_told files settings hf⟩
  case unreadable =>
    rw [h.run_of_unreadable hr]
    exact ⟨rfl, rfl⟩
  case malformed =>
    rw [h.run_of_malformed hr hd]
    exact ⟨rfl, rfl⟩
  case late =>
    obtain ⟨error, hrun⟩ := fails_of_bad_member hj hm hb hr
    refine ⟨error, ?_⟩
    rw [hrun]
    exact ⟨rfl, rfl⟩
  case reported =>
    obtain ⟨verified, hrun⟩ := h.exists_run_eq hr hd
    rw [hrun]
    exact reportOn_reports settings ps verified

def twoUnlawful : String := "[\x7b\"intent\":\"Burn\"\x7d, \x7b\"intent\":\"Move\"\x7d]"

def brokenOff : String := "[\x7b\"intent\":\"Burn\"\x7d,"

def twoBatches : Files :=
  .ofList [("whole", .ok twoUnlawful), ("broken", .ok brokenOff),
    ("single", .ok "\x7b\"intent\":\"Burn\"\x7d")]

/-- Two rejections are reported, with a summary, then the run fails. A single proposal has no
summary and does not fail where rejections are allowed. A batch that is broken off, or is not
there, makes the run fail without a report. -/
theorem twoBatches_run_outcome :
    ((Command.batch "whole").run twoBatches .builtIn).transcript =
      [.report ("#0   Burn    in=0 out=0 signers=0  REJECTED (UnknownIntentOrInvalidQuantity: " ++
          "Unknown intent or invalid output quantity)"),
        .report ("#1   Move    in=0 out=0 signers=0  REJECTED (MoveMalformed: " ++
          "Malformed move transaction)"),
        .report "\nSummary\n=======",
        .report ("total: 2  accepted: 0  rejected: 2\n  MoveMalformed: 1\n" ++
          "  UnknownIntentOrInvalidQuantity: 1"),
        .complaint "2 of 2 proposal(s) rejected"] ∧
    ((Command.batch "whole").run twoBatches .builtIn).exitCode = 1 ∧
    ((Command.verify "single").run twoBatches ⟨.table, "warn", false⟩).transcript =
      [.report ("#0   Burn    in=0 out=0 signers=0  REJECTED (UnknownIntentOrInvalidQuantity: " ++
        "Unknown intent or invalid output quantity)")] ∧
    ((Command.verify "single").run twoBatches ⟨.table, "warn", false⟩).exitCode = 0 ∧
    ((Command.verify "single").run twoBatches ⟨.json, "warn", false⟩).printed =
      ["\x7b\n  \"summary\": \x7b\n    \"accepted\": 0,\n    \"rejected\": \x7b\n" ++
        "      \"UnknownIntentOrInvalidQuantity\": 1\n    \x7d,\n    \"total\": 1\n  \x7d,\n" ++
        "  \"verdicts\": [\n    \x7b\n      \"reason\": \"UnknownIntentOrInvalidQuantity\",\n" ++
        "      \"status\": \"rejected\"\n    \x7d\n  ]\n\x7d"] ∧
    ((Command.batch "broken").run twoBatches .builtIn).transcript =
      [.complaint
        ("Failed to read proposal file 'broken': " ++ (Error.text .endInValue).message)] ∧
    ((Command.batch "absent").run twoBatches .builtIn).transcript =
      [.complaint
        "Failed to read proposal file 'absent': No such file or directory (os error 2)"] := by
  have hwhole : Proposal.batchOfJson twoUnlawful =
      .ok [⟨[], [], "Burn", .empty⟩, ⟨[], [], "Move", .empty⟩] := by decide +kernel
  have hsingle : List.singleton <$> Proposal.ofJson "\x7b\"intent\":\"Burn\"\x7d" =
      .ok [⟨[], [], "Burn", .empty⟩] := by decide +kernel
  have hbroken : Proposal.batchOfJson brokenOff = .error (.text .endInValue) := by decide +kernel
  obtain ⟨_, _, _, hreports, _, hsignals⟩ := run_outcome (.batch "whole") twoBatches .builtIn
  obtain ⟨hprinted, hresult⟩ := hreports _ _ rfl hwhole
  obtain ⟨htold, hexit⟩ := hsignals.of_error (hresult.trans (by decide)) (.rejected 2 2)
  obtain ⟨_, _, _, hreports, _, hsignals⟩ :=
    run_outcome (.verify "single") twoBatches ⟨.table, "warn", false⟩
  obtain ⟨hline, hresult⟩ := hreports _ _ rfl hsingle
  obtain ⟨hlenient, hsuccess⟩ := hsignals.of_ok hresult
  obtain ⟨_, _, _, hreports, _⟩ := run_outcome (.verify "single") twoBatches ⟨.json, "warn", false⟩
  obtain ⟨hdocument, _⟩ := hreports _ _ rfl hsingle
  obtain ⟨_, hfails, _, _, _, hsignals⟩ := run_outcome (.batch "broken") twoBatches .builtIn
  obtain ⟨hnothing, hfault⟩ := hfails _ _ rfl hbroken
  obtain ⟨hbad, _⟩ := hsignals.of_error hfault (.malformed _ _)
  obtain ⟨hmissing, _, _, _, _, hsignals⟩ := run_outcome (.batch "absent") twoBatches .builtIn
  obtain ⟨hnone, hreason⟩ := hmissing _ rfl
  obtain ⟨habsent, _⟩ := hsignals.of_error hreason (.unreadable _ _)
  rw [hprinted] at htold
  rw [hline] at hlenient
  rw [hnothing] at hbad
  rw [hnone] at habsent
  refine ⟨htold.trans ?_, hexit, hlenient.trans ?_, hsuccess, hdocument.trans ?_, hbad, habsent⟩
  · decide +kernel
  · decide +kernel
  · decide +kernel

end Command.Judges

end TokenLedger
