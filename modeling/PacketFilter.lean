import PacketFilter.Command.Run
import PacketFilter.Document
import PacketFilter.Main
import PacketFilter.Proofs.Comparison.FullMatch
import PacketFilter.Proofs.Expression.RoundTrip
import PacketFilter.Proofs.Program.Dump
import PacketFilter.Proofs.Run.FailFast
import PacketFilter.Proofs.Builder.History
import PacketFilter.Proofs.Comparison.SameCode
import PacketFilter.Proofs.Comparison.Stages
import PacketFilter.Proofs.Command.Ending
import PacketFilter.Proofs.Comparison.Order
import PacketFilter.Proofs.Compile.Total
import PacketFilter.Proofs.Meaning
import PacketFilter.Proofs.Comparison.Rating
import PacketFilter.Proofs.Program.Grammar
import PacketFilter.Proofs.Filter.Validation
import PacketFilter.Proofs.Expression.Spelling
import PacketFilter.Proofs.Expression.Refusal
import PacketFilter.Proofs.Expression.FirstFault
import PacketFilter.Proofs.Builder.Drafts
import PacketFilter.Proofs.Report.Box
import PacketFilter.Proofs.Program.Bytecode
import PacketFilter.Proofs.Program.Listing
