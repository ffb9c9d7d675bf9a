import RuleTree.Context.Annotation
import RuleTree.Context.Basic
import RuleTree.Declaration.Basic
import RuleTree.Declaration.Bridge
import RuleTree.Declaration.Document
import RuleTree.Declaration.Run
import RuleTree.Erased
import RuleTree.Failure.Message
import RuleTree.Failure.Path
import RuleTree.Journal.Memory
import RuleTree.Json.Printer
import RuleTree.Json.Reader
import RuleTree.Leaf.Basic
import RuleTree.Leaf.Format
import RuleTree.Leaf.Library
import RuleTree.Leaf.Support
import RuleTree.Number.Layout
import RuleTree.Number.Numeral
import RuleTree.Options
import RuleTree.Pattern.Limits
import RuleTree.Proofs.Annotation.Coverage
import RuleTree.Proofs.Annotation.Faults
import RuleTree.Proofs.Annotation.Merging
import RuleTree.Proofs.Annotation.Silence
import RuleTree.Proofs.Annotation.Supersession
import RuleTree.Proofs.Annotation.Suppression
import RuleTree.Proofs.Declaration.Attachment
import RuleTree.Proofs.Declaration.Binding
import RuleTree.Proofs.Declaration.Building
import RuleTree.Proofs.Declaration.Collections
import RuleTree.Proofs.Declaration.DefaultMessages
import RuleTree.Proofs.Declaration.Including
import RuleTree.Proofs.Declaration.Inheritance
import RuleTree.Proofs.Declaration.Messages
import RuleTree.Proofs.Declaration.Ordering
import RuleTree.Proofs.Declaration.Program
import RuleTree.Proofs.Declaration.Scope
import RuleTree.Proofs.Declaration.Segments
import RuleTree.Proofs.Failure.Path
import RuleTree.Proofs.Failure.Position
import RuleTree.Proofs.Failure.Rendering
import RuleTree.Proofs.Failure.Repair
import RuleTree.Proofs.Journal.Remarks
import RuleTree.Proofs.Leaf.Format
import RuleTree.Proofs.Leaf.Presence
import RuleTree.Proofs.Proxy.Session
import RuleTree.Proofs.RuleSet.Emptiness
import RuleTree.Proofs.Step.Adds
import RuleTree.Proofs.Step.Appends
import RuleTree.Proofs.Step.Cutting
import RuleTree.Proofs.Tree.Appending
import RuleTree.Proofs.Tree.Binding
import RuleTree.Proofs.Tree.Containers
import RuleTree.Proofs.Tree.Cutting
import RuleTree.Proofs.Tree.DefaultMessages
import RuleTree.Proofs.Tree.Elements
import RuleTree.Proofs.Tree.FailFast
import RuleTree.Proofs.Tree.Findings
import RuleTree.Proofs.Tree.FirstFailure
import RuleTree.Proofs.Tree.Handing
import RuleTree.Proofs.Tree.Induction
import RuleTree.Proofs.Tree.Inheriting
import RuleTree.Proofs.Tree.Passage
import RuleTree.Proofs.Tree.Pruned
import RuleTree.Proofs.Tree.Pruning
import RuleTree.Proofs.Tree.Report
import RuleTree.Proofs.Tree.Resolvers
import RuleTree.Proofs.Tree.Shortcut
import RuleTree.Proofs.Tree.Widening
import RuleTree.Proofs.Tree.Wording
import RuleTree.RuleSet.Basic
import RuleTree.RuleSet.Scope
import RuleTree.Step.Basic
import RuleTree.Step.Mode
import RuleTree.Step.Reject
import RuleTree.Text.Alphanumeric
import RuleTree.Text.Blank
import RuleTree.Text.CaseFold
import RuleTree.Text.Quoted
import RuleTree.Tree.Basic
import RuleTree.Tree.Bind
import RuleTree.Tree.Build
import RuleTree.Tree.Describe
import RuleTree.Tree.Evaluate
import RuleTree.Tree.Verdict
import RuleTree.Value.Basic
import RuleTree.Value.Reader
import RuleTree.Value.Type
