import TemplateFill.Json.Parser
import TemplateFill.Json.Printer
import TemplateFill.Path.Parser
import TemplateFill.Path.Lookup
import TemplateFill.Random.Scripted
import TemplateFill.Random.Text
import TemplateFill.Placeholder.Substitute
import TemplateFill.Fill.Run
import TemplateFill.CommandLine.Program
import TemplateFill.Main
import TemplateFill.Proofs.Placeholder.Cutting
import TemplateFill.Proofs.Placeholder.Substitution
import TemplateFill.Proofs.Fill.Sweeping
import TemplateFill.Proofs.Fill.Failures
import TemplateFill.Proofs.Fill.Warnings
import TemplateFill.Proofs.Fill.Merging
import TemplateFill.Proofs.Fill.Structure
import TemplateFill.Proofs.Fill.Expansion
import TemplateFill.Proofs.Json.Parsed
import TemplateFill.Proofs.Json.Reordering
import TemplateFill.Proofs.Fill.Drawing
import TemplateFill.Proofs.Random.Rejection
import TemplateFill.Proofs.Fill.MemberOrder
import TemplateFill.Proofs.Path.Written
import TemplateFill.Proofs.Path.Faults
import TemplateFill.Proofs.Path.Walking
import TemplateFill.Proofs.Placeholder.Referencing
import TemplateFill.Proofs.Placeholder.Reporting
import TemplateFill.Proofs.Placeholder.Lengths
import TemplateFill.Proofs.Json.Quoting
import TemplateFill.Proofs.Fill.ReadBack
import TemplateFill.Proofs.Fill.Generation
import TemplateFill.Proofs.Fill.Persistence
import TemplateFill.Proofs.CommandLine.Delivery
