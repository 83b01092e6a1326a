import TokenLedger.Files.Tree
import TokenLedger.Main
import TokenLedger.Proofs.Intent.Spelling
import TokenLedger.Proofs.Judgement.Legal
import TokenLedger.Proofs.Judgement.Ruling
import TokenLedger.Proofs.Proposal.Constructed
import TokenLedger.Proofs.Ledger.Supply
import TokenLedger.Proofs.Ledger.History
import TokenLedger.Proofs.Json.Grammar
import TokenLedger.Proofs.Json.Scan
import TokenLedger.Proofs.Json.Tree
import TokenLedger.Proofs.Json.Compact
import TokenLedger.Proofs.Json.Sequence
import TokenLedger.Proofs.Wire.RoundTrip
import TokenLedger.Proofs.Command.Outcome
import TokenLedger.Proofs.Command.Members
import TokenLedger.Proofs.Report.Lines
import TokenLedger.Proofs.Json.Pretty
import TokenLedger.Proofs.Json.Member
import TokenLedger.Proofs.Wire.Summary
import TokenLedger.Proofs.Judgement.Order
import TokenLedger.Proofs.Report.Document
import TokenLedger.Proofs.Command.Log
import TokenLedger.Proofs.Settings.Layers
import TokenLedger.Proofs.Judgement.Signers
import TokenLedger.Proofs.Wire.Checked
import TokenLedger.Proofs.Proposal.Obtained
import TokenLedger.Proofs.Judgement.Signatures
import TokenLedger.Proofs.Proposal.Refused
import TokenLedger.Proofs.Proposal.Renaming
import TokenLedger.Proofs.Ledger.Custody
import TokenLedger.Proofs.Summary.Recording
import TokenLedger.Proofs.Json.Readers
import TokenLedger.Proofs.Json.Fields
import TokenLedger.Proofs.Wire.Grammar
import TokenLedger.Proofs.Json.Limits
import TokenLedger.Proofs.Wire.OrderFree
import TokenLedger.Proofs.Wire.Verdict
import TokenLedger.Proofs.Party.Spelling
import TokenLedger.Proofs.Wire.SignerList
import TokenLedger.Proofs.Wire.Reason
import TokenLedger.Proofs.Text.Hex
import TokenLedger.Proofs.Text.LetterCase
import TokenLedger.Proofs.Party.Reading
import TokenLedger.Proofs.Intent.Tag
import TokenLedger.Proofs.Report.Fields
import TokenLedger.Proofs.Json.Literals
import TokenLedger.Proofs.Json.Gap
import TokenLedger.Proofs.Wire.Quantity
import TokenLedger.Proofs.Text.Lowered
import TokenLedger.Proofs.Settings.Level
import TokenLedger.Proofs.Party.PublicKey
import TokenLedger.Proofs.Report.Block
import TokenLedger.Proofs.Party.Order
