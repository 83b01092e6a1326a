import Mathlib.Data.Finset.Card
import TokenLedger.Proofs.Command.Log
import TokenLedger.Proofs.Json.Gap
import TokenLedger.Proofs.Party.Spelling
import TokenLedger.Proofs.Wire.OrderFree

/-! # Lists of signers

A list of signers stands for the set of the handles that are written in it. Whoever reads a proposal
cannot tell two lists of the same set apart, be it by the verdict, the log or the report, and one
text that is no handle spoils the whole proposal.
-/
namespace TokenLedger

open Json

namespace Signers
variable {s : Signers} {parties parties' : List Party} {items : List Node}

/-- Order and repetition in a list make no difference. -/
theorem ofList_eq_of_mem_iff (h : ∀ x, x ∈ parties ↔ x ∈ parties') :
    ofList parties = ofList parties' :=
  ext_mem fun x => by rw [mem_ofList, mem_ofList, h x]

/-- The size of a set is the number of different elements of a list of it. -/
theorem size_ofList (parties : List Party) : (ofList parties).size = parties.toFinset.card := by
  have hnodup : (ofList parties).toList.Nodup := (ofList parties).ascending.imp fun hlt heq => by
    subst heq
    exact Party.lt_irrefl _ hlt
  have hset : (ofList parties).toList.toFinset = parties.toFinset := by
    ext x
    rw [List.mem_toFinset, List.mem_toFinset]
    exact mem_ofList
  rw [size, ← hset, List.toFinset_card_of_nodup hnodup]

/-- A list of handles spells no other set than theirs. -/
theorem spelledBy_array_iff (h : List.Forall₂ Party.SpelledBy parties items) :
    s.SpelledBy (.array items .closed) ↔ ofList parties = s := by
  constructor
  · rintro ⟨others, ⟨_, heq, hothers⟩, hs⟩
    cases heq
    have hsame : others = parties :=
      List.left_unique_forall₂' (fun _ _ _ hp hq => hp.unique hq) hothers h
    rwa [← hsame]
  · intro hs
    exact ⟨parties, ⟨items, rfl, h⟩, hs⟩

end Signers

namespace Proposal

/-- The gap is where the signers of a proposal stand: in the member of that name, or behind three
items of a row. -/
def AwaitsSigners : Gap → Prop
  | .member _ key _ => key.value = .ok "signers"
  | .item before _ => before.length = 3

/-- What the tree around the gap says of a proposal, whoever its signers are. -/
def AllowedBy (p : Proposal) : Gap → Prop
  | .member before _ after =>
    Named (before ++ after) ∧
      MayOccur "inputs" (·.IsListOf Record.SpelledBy p.inputs) (p.inputs = []) (before ++ after) ∧
      MayOccur "outputs" (·.IsListOf Record.SpelledBy p.outputs) (p.outputs = [])
        (before ++ after) ∧
      OccursOnce "intent" (·.IsString p.intent) (before ++ after) ∧
      valuesOf "signers" (before ++ after) = []
  | .item before after =>
    ∃ inputs outputs intent, before = [inputs, outputs, intent] ∧
      inputs.IsListOf Record.SpelledBy p.inputs ∧ outputs.IsListOf Record.SpelledBy p.outputs ∧
      intent.IsString p.intent ∧ after = []

theorem spelledBy_fill_iff {gap : Gap} (hgap : AwaitsSigners gap) {n : Node} {p : Proposal} :
    p.SpelledBy (gap.fill n) ↔ p.AllowedBy gap ∧ p.signers.SpelledBy n := by
  cases gap with
  | member before key after =>
    have hnames : Named ((key, n) :: (before ++ after)) ↔ Named (before ++ after) :=
      named_cons_iff.trans (and_iff_right ⟨_, hgap⟩)
    rw [Gap.fill, spelledBy_object_perm List.perm_middle, spelledBy_object_iff,
      hnames, mayOccur_of_valuesOf (valuesOf_cons_of_ne hgap (by decide)),
      mayOccur_of_valuesOf (valuesOf_cons_of_ne hgap (by decide)), OccursOnce,
      valuesOf_cons_of_ne hgap (by decide), mayOccur_of_valuesOf (valuesOf_cons_self hgap)]
    constructor
    · rintro ⟨hnamed, hi, ho, ht, ⟨m, heq, hs⟩ | ⟨heq, _⟩⟩
      · obtain ⟨rfl, hnone⟩ := List.cons.inj heq
        exact ⟨⟨hnamed, hi, ho, ht, hnone⟩, hs⟩
      · cases heq
    · rintro ⟨⟨hnamed, hi, ho, ht, hnone⟩, hs⟩
      exact ⟨hnamed, hi, ho, ht, Or.inl ⟨n, by rw [hnone], hs⟩⟩
  | item before after =>
    obtain ⟨inputs, outputs, intent, rfl⟩ := List.length_eq_three.mp hgap
    rw [Gap.fill, spelledBy_array_iff]
    constructor
    · rintro ⟨_, _, _, _, heq, hi, ho, ht, hs⟩
      cases heq
      obtain ⟨_, heq, hs⟩ | ⟨heq, _⟩ := hs
      · cases heq
        exact ⟨⟨_, _, _, rfl, hi, ho, ht, rfl⟩, hs⟩
      · cases heq
    · rintro ⟨⟨_, _, _, heq, hi, ho, ht, rfl⟩, hs⟩
      cases heq
      exact ⟨_, _, _, _, rfl, hi, ho, ht, Or.inl ⟨n, rfl, hs⟩⟩

/-- A list of signers on the wire is the set of the handles in it, whatever their order, repetition
and spelling: proposals that differ in nothing else are read alike and leave the same log and the
same report, in which the number of signers is that of different handles. One item that is no handle
makes the reading fail. -/
theorem signer_list_is_set :
    (∀ (gap : Gap) (items items' : List Node) (parties parties' : List Party)
      (text text' : String), AwaitsSigners gap →
      (gap.fill (.array items .closed)).WrittenAs text →
      (gap.fill (.array items' .closed)).WrittenAs text' →
      List.Forall₂ Party.SpelledBy parties items → List.Forall₂ Party.SpelledBy parties' items' →
      (∀ x, x ∈ parties ↔ x ∈ parties') →
      ReadAlike ofJson text text' ∧
      ∀ p, ofJson text = .ok p →
        (∀ x, x ∈ p.signers ↔ x ∈ parties) ∧
        (∀ index verdict, Report.line index p verdict =
          "#" ++ Report.padded 3 (toString index) ++ " " ++ Report.padded 7 p.intent ++
            " in=" ++ toString p.inputs.length ++ " out=" ++ toString p.outputs.length ++
            " signers=" ++ toString parties.toFinset.card ++ "  " ++ Report.status verdict) ∧
        ∀ (files files' : Files) (settings : Settings) (path path' : String),
          files.read path = .ok text → files'.read path' = .ok text' →
          (Command.verify path).run files settings = reportOn settings [p] [p.event] ∧
            (Command.verify path').run files' settings = reportOn settings [p] [p.event]) ∧
    (∀ (gap : Gap) (items : List Node) (text : String), AwaitsSigners gap →
      (gap.fill (.array items .closed)).WrittenAs text →
      (∃ n ∈ items, ∀ p : Party, ¬ p.SpelledBy n) → ∀ p, ofJson text ≠ .ok p) ∧
    ∀ text text' : String, Party.Respelled text text' →
      ∀ p, Party.parse text = .ok p ↔ Party.parse text' = .ok p := by
  refine ⟨?_, ?_, fun text text' h p => h.parse_iff⟩
  · intro gap items items' parties parties' text text' hgap ht ht' hparties hparties' hsame
    have hread : ∀ {p}, ofJson text = .ok p ↔
        p.AllowedBy gap ∧ Signers.ofList parties = p.signers := by
      intro p
      rw [ofJson, ht.readText_eq, ofNode_eq_ok_iff_spelledBy ht.1, spelledBy_fill_iff hgap,
        Signers.spelledBy_array_iff hparties]
    have hread' : ∀ {p}, ofJson text' = .ok p ↔
        p.AllowedBy gap ∧ Signers.ofList parties' = p.signers := by
      intro p
      rw [ofJson, ht'.readText_eq, ofNode_eq_ok_iff_spelledBy ht'.1, spelledBy_fill_iff hgap,
        Signers.spelledBy_array_iff hparties']
    have halike : ReadAlike ofJson text text' := fun p => by
      rw [hread, hread', Signers.ofList_eq_of_mem_iff hsame]
    refine ⟨halike, fun p hp => ?_⟩
    obtain ⟨_, hsigners⟩ := hread.mp hp
    refine ⟨fun x => ?_, fun index verdict => ?_, fun files files' settings path path' hr hr' => ?_⟩
    · rw [← hsigners, Signers.mem_ofList]
    · rw [← Signers.size_ofList, hsigners]
      rfl
    · exact ⟨Command.run_verify_eq hr hp settings,
        Command.run_verify_eq hr' ((halike p).mp hp) settings⟩
  · rintro gap items text hgap ht ⟨n, hn, hbad⟩ p hp
    rw [ofJson, ht.readText_eq, ofNode_eq_ok_iff_spelledBy ht.1, spelledBy_fill_iff hgap] at hp
    obtain ⟨_, parties, ⟨_, heq, hparties⟩, _⟩ := hp
    cases heq
    obtain ⟨q, hq⟩ := exists_forall₂_iff.mp ⟨parties, hparties.flip⟩ n hn
    exact hbad q hq

def shouted : String := "  " ++ String.ofList (List.replicate 32 ['A', 'B']).flatten ++ "\t\n"

def repeatedly : List Value :=
  [.string shouted, (Party.ofByte 0x66).toJson, (Party.ofByte 0xAB).toJson]

def plainly : List Value := [(Party.ofByte 0x66).toJson, (Party.ofByte 0xAB).toJson]

def moveBy (signers : List Value) : Value :=
  .object [("signers", .array signers), ("intent", .string "Move")]

def signersFirst : Gap :=
  .member [] (.ofString "signers") (memberNodes [("intent", .string "Move")])

theorem awaitsSigners_signersFirst : AwaitsSigners signersFirst := StringToken.value_ofString _

theorem fitsIn_moveBy_repeatedly : (moveBy repeatedly).FitsIn depthLimit :=
  ⟨⟨trivial, trivial, trivial, trivial⟩, trivial, trivial⟩

theorem fitsIn_moveBy_plainly : (moveBy plainly).FitsIn depthLimit :=
  ⟨⟨trivial, trivial, trivial⟩, trivial, trivial⟩

theorem fitsIn_moveBy_typo : (moveBy [.string "6x"]).FitsIn depthLimit :=
  ⟨⟨trivial, trivial⟩, trivial, trivial⟩

theorem spelledBy_shouted : (Party.ofByte 0xAB).SpelledBy (Value.string shouted).node :=
  ⟨shouted, ⟨_, rfl, StringToken.value_ofString _⟩, by decide +kernel⟩

/-- Both lists stand for two signers, and a list with a slip in it for none. -/
theorem signer_list_is_set_repeatedly :
    ReadAlike ofJson (moveBy repeatedly).compact (moveBy plainly).compact ∧
      ∃ p, ofJson (moveBy repeatedly).compact = .ok p ∧
        Report.line 0 p .accepted = "#0   Move    in=0 out=0 signers=2  ACCEPTED" ∧
        (Command.verify "tx").run (.ofList [("tx", .ok (moveBy repeatedly).compact)]) .builtIn =
          (Command.verify "tx").run (.ofList [("tx", .ok (moveBy plainly).compact)]) .builtIn ∧
        ∀ p, ofJson (moveBy [.string "6x"]).compact ≠ .ok p := by
  have spelled : ∀ b, (Party.ofByte b).SpelledBy (Party.ofByte b).toJson.node := fun b =>
    Party.ofNode_eq_ok_iff.mp (Party.ofNode_toJson _)
  have ht := Value.writtenAs_compact fitsIn_moveBy_repeatedly.whole
  have ht' := Value.writtenAs_compact fitsIn_moveBy_plainly.whole
  have htypo : ∀ p : Party, ¬ p.SpelledBy (Value.string "6x").node := by
    rintro p ⟨text, htext, hparse⟩
    obtain rfl := htext.unique ⟨_, rfl, StringToken.value_ofString "6x"⟩
    have hfault : Party.parse "6x" = .error (.hex (.badDigit 0x78 1)) := by decide +kernel
    rw [hfault] at hparse
    cases hparse
  obtain ⟨hset, hbad, _⟩ := signer_list_is_set
  obtain ⟨halike, hreport⟩ := hset signersFirst (itemNodes repeatedly) (itemNodes plainly)
    [.ofByte 0xAB, .ofByte 0x66, .ofByte 0xAB] [.ofByte 0x66, .ofByte 0xAB] _ _
    awaitsSigners_signersFirst ht ht'
    (.cons spelledBy_shouted (.cons (spelled _) (.cons (spelled _) .nil)))
    (.cons (spelled _) (.cons (spelled _) .nil)) (by simp)
  have hp : ofJson (moveBy repeatedly).compact =
      .ok ⟨[], [], "Move", .ofList [.ofByte 0xAB, .ofByte 0x66, .ofByte 0xAB]⟩ := by
    rw [ofJson, ht.readText_eq, ofNode_eq_ok_iff_spelledBy ht.1]
    refine .object (named_memberNodes _) (.inr ⟨rfl, rfl⟩) (.inr ⟨rfl, rfl⟩)
      ⟨_, rfl, _, rfl, StringToken.value_ofString _⟩ (.inl ⟨_, rfl, ?_⟩)
    exact ⟨_, ⟨_, rfl, .cons spelledBy_shouted (.cons (spelled _) (.cons (spelled _) .nil))⟩, rfl⟩
  obtain ⟨_, hline, hrun⟩ := hreport _ hp
  refine ⟨halike, _, hp, ?_, ?_, ?_⟩
  · rw [hline]
    decide +kernel
  · obtain ⟨hleft, hright⟩ := hrun (.ofList [("tx", .ok (moveBy repeatedly).compact)])
      (.ofList [("tx", .ok (moveBy plainly).compact)]) .builtIn "tx" "tx" rfl rfl
    rw [hleft, hright]
  · exact hbad signersFirst (itemNodes [.string "6x"]) _ awaitsSigners_signersFirst
      (Value.writtenAs_compact fitsIn_moveBy_typo.whole) ⟨_, List.mem_cons_self, htypo⟩

end Proposal

end TokenLedger
